import Responsive.Proofs.Binary64.Integer
import Responsive.Proofs.Breakpoints.Document
import Responsive.Proofs.Frontend.Setup
import Responsive.Proofs.Resolution

/-!
# Integers stored as widths

A record may hold a number for a tier. An integer below `2 ^ 63` is decoded to its digits. From
there on integers are read as floats, and the width is the shortest decimal of the float: the digits
are kept by those integers that are this decimal themselves, and lost by all others.

Whatever the width is, it is not empty, so the resolution takes it, and it does not change when the
decoded pair is saved and read again.

* `Breakpoints.numberText_int_eq_iff`: which integers keep their digits.
* `Frontend.stored_integer_kept_iff`: the same for records, documents and the resolution.
-/

set_option autoImplicit false
set_option relaxedAutoImplicit false

namespace Responsive

open Json Text

/-- The integers that are read with all their digits: those below `2 ^ 63`, and from there on those
that are the shortest decimal of their float. -/
def KeepsDigits (n : Int) : Prop :=
  n < Nat.pow 2 63 ∨ Binary64.IsShortest n.toNat n.toNat

namespace Breakpoints

variable {n : Int}

theorem numberText_of_lt (hlow : -Nat.pow 2 63 ≤ n) (hsmall : n < Nat.pow 2 63) :
    numberText (.int n) = .ofList (decimal n) := by
  rw [numberText, integerLimit, if_pos ⟨hlow, hsmall⟩]

theorem numberText_of_le {n : Nat} (hlarge : Nat.pow 2 63 ≤ n) :
    numberText (.int n) = .ofList (Binary64.ofNat n).plainText := by
  have hbeyond : ¬ (-(Nat.pow 2 63 : Int) ≤ n ∧ (n : Int) < Nat.pow 2 63) := by omega
  rw [numberText, integerLimit, if_neg hbeyond]
  rfl

/-- The text of a stored integer is its decimal text just if its digits are kept. -/
theorem numberText_int_eq_iff (hlow : -Nat.pow 2 63 ≤ n) (hhigh : n < Nat.pow 2 64) :
    numberText (.int n) = .ofList (decimal n) ↔ KeepsDigits n := by
  by_cases hsmall : n < Nat.pow 2 63
  · exact iff_of_true (numberText_of_lt hlow hsmall) (.inl hsmall)
  · obtain ⟨k, rfl⟩ := Int.eq_ofNat_of_zero_le (show 0 ≤ n by omega)
    rw [numberText_of_le (by omega), String.ofList_inj, KeepsDigits, or_iff_right hsmall]
    exact Binary64.plainText_ofNat_eq_iff (by omega) (by omega)

theorem numberText_int_ne_empty (hlow : -Nat.pow 2 63 ≤ n) (hhigh : n < Nat.pow 2 64) :
    numberText (.int n) ≠ "" := by
  have hne {s : List Char} (hs : s ≠ []) : String.ofList s ≠ "" := fun h ↦
    hs (by simpa using congrArg String.toList h)
  by_cases hsmall : n < Nat.pow 2 63
  · rw [numberText_of_lt hlow hsmall]
    cases n with
    | ofNat k => exact hne (decimalNat_ne_nil k)
    | negSucc k => exact hne (List.cons_ne_nil _ _)
  · obtain ⟨k, rfl⟩ := Int.eq_ofNat_of_zero_le (show 0 ≤ n by omega)
    obtain ⟨k', htext, -⟩ := Binary64.exists_plainText_ofNat_eq (show Nat.pow 2 63 ≤ k by omega)
      (show k < Nat.pow 2 64 by omega)
    rw [numberText_of_le (by omega), htext]
    exact hne (decimalNat_ne_nil k')

/-- A record with an integer for a tier is a pair, whatever widths the other tiers have. -/
theorem exists_ofJson_eq {record : Json} (hordered : record.Ordered) (hrecord : IsRecord record)
    {t : Tier} (hn : stored? record t = some (.number (.int n)))
    (hothers : ∀ u, u ≠ t → storedText? record u ≠ none) :
    ∃ b, ofJson record = .ok b ∧ b.get t = numberText (.int n) ∧
      ∀ u, storedText? record u = some (b.get u) := by
  have ht : storedText? record t = some (numberText (.int n)) := by
    rw [storedText?, hn]
    rfl
  have hall (u : Tier) : storedText? record u = some ((storedText? record u).getD "") := by
    by_cases hu : u = t
    · rw [hu, ht]
      rfl
    · obtain ⟨text, htext⟩ := Option.ne_none_iff_exists'.mp (hothers u hu)
      rw [htext]
      rfl
  have hget (u : Tier) : (ofFn fun u ↦ (storedText? record u).getD "").get u =
      (storedText? record u).getD "" := get_ofFn _ u
  refine ⟨ofFn fun u ↦ (storedText? record u).getD "",
    (ofJson_eq_ok_iff hordered).mpr ⟨hrecord, fun u ↦ ?_⟩, ?_, fun u ↦ ?_⟩
  · rw [hget]
    exact hall u
  · rw [hget, ht]
    rfl
  · rw [hget]
    exact hall u

end Breakpoints

/-! ### Stores -/

/-- A store gives a pair to those who read it, and its width of a tier to the resolution. -/
def Store.Gives (store : Store) (b : Breakpoints) (t : Tier) : Prop :=
  store.overrides? = .ok (some b) ∧
    ∀ hooks : DefaultHooks, (hooks.resolve store.stored).get t = b.get t

/-- What the record of a store is decoded to is given, unless the tier is left without a width. -/
theorem Store.gives_of_overridesIn {store : Store} {b : Breakpoints} {t : Tier}
    (h : overridesIn store.records = .ok b) (ht : b.get t ≠ "") : store.Gives b t := by
  have hoverrides : store.overrides? = .ok (some b) := by
    unfold overridesIn at h
    unfold overrides? get? record?
    cases hget : Entries.get? store.records overridesName with
    | none =>
      rw [hget] at h
      obtain rfl := Except.ok.inj h
      cases t <;> exact absurd rfl ht
    | some record =>
      rw [hget] at h
      dsimp only
      rw [show decodeValue Breakpoints.decoder record = .ok b from h]
  refine ⟨hoverrides, fun hooks ↦ ?_⟩
  rw [DefaultHooks.get_resolve, stored, hoverrides]
  exact if_pos (Breakpoints.isSet_iff.mpr ht)

open Store in
/-- An integer of 64 bits, signed or not, that a record holds for a tier is decoded to a width,
which is its decimal text just if its digits are kept. A store that was opened over a document with
the record gives this width. Saving the decoded pair fails only if a step of writing the document
does; else the store still gives it, and so does every store that is opened over the document
then. -/
theorem Frontend.stored_integer_kept_iff {σ : Type} {fs : FileSystem (StateM σ)} {view : σ → Disk}
    (hfs : fs.OnDisk view) (process path : String) (hprocess : '/' ∉ process.toList)
    (config : Config) (delivery : Delivery) (t : Tier) (n : Int) (hlow : -Nat.pow 2 63 ≤ n)
    (hhigh : n < Nat.pow 2 64) {record : Json} (hordered : record.Ordered)
    (hrecord : Breakpoints.IsRecord record)
    (hn : Breakpoints.stored? record t = some (.number (.int n)))
    (hothers : ∀ u, u ≠ t → Breakpoints.storedText? record u ≠ none) :
    ∃ b, Breakpoints.ofJson record = .ok b ∧
      (b.get t = .ofList (decimal n) ↔ KeepsDigits n) ∧
      (∀ u, u ≠ t → Breakpoints.storedText? record u = some (b.get u)) ∧
      ∀ (create : Bool) (records : Entries Json) (s : σ), (view s).Proper →
        Finds path create (view s) records → Entries.get? records overridesName = some record →
        (opened process path records).Gives b t ∧
          ∃ s', (∃ (e : SettingsError) (frontend : Frontend),
            ((saveBreakpoints fs b).run.run
              (ofStore config delivery (.opened process path records))).run s =
                ((.error (unsaved e), frontend), s') ∧
                  Unwritten fs (opened process path records) s e) ∨
            ∃ store, ((saveBreakpoints fs b).run.run
              (ofStore config delivery (.opened process path records))).run s =
                ((.ok (), ofStore config delivery store), s') ∧ store.Gives b t ∧
              (OthersLegible records → ∀ create', ∃ found, Finds path create' (view s') found) ∧
              ∀ process' create' found, Finds path create' (view s') found →
                (opened process' path found).Gives b t := by
  obtain ⟨b, hdecode, hget, hall⟩ := Breakpoints.exists_ofJson_eq hordered hrecord hn hothers
  have hset : b.get t ≠ "" := hget ▸ Breakpoints.numberText_int_ne_empty hlow hhigh
  refine ⟨b, hdecode, hget ▸ Breakpoints.numberText_int_eq_iff hlow hhigh, fun u _ ↦ hall u,
    fun create records s hproper hfinds hmember ↦ ⟨gives_of_overridesIn ?_ hset, ?_⟩⟩
  · change overridesIn records = .ok b
    rw [overridesIn, hmember]
    exact hdecode
  · obtain ⟨s', -, ⟨store, hrun, hrecords, -, hread⟩ | ⟨e, frontend, hrun, hunwritten⟩⟩ :=
      run_saveBreakpoints_ofStore hfs hprocess config delivery records b hproper
    · refine ⟨s', .inr ⟨store, hrun, gives_of_overridesIn ?_ hset,
        fun hlegible create' ↦ ?_,
        fun process' create' found hfound ↦ gives_of_overridesIn ?_ hset⟩⟩
      · rw [hrecords]
        exact overridesIn_insert b records
      · exact ⟨_, hfinds.insert_overrides hlegible b hread⟩
      · exact (hfinds.of_insert_overrides b hread hfound).1
    · exact ⟨s', .inl ⟨e, frontend, hrun, hunwritten⟩⟩

/-- A record with a number for the tablets. -/
def numericRecord (n : Int) : Json :=
  .object [("mobile", .text "600"), ("tablet", .number (.int n))]

theorem ordered_numericRecord (n : Int) : (numericRecord n).Ordered := by
  refine ⟨Entries.ordered_cons.mpr ⟨?_, List.pairwise_singleton _ _⟩, trivial, trivial, trivial⟩
  simp only [List.mem_singleton, forall_eq]
  decide

theorem storedText?_numericRecord {n : Int} (u : Tier) (hu : u ≠ .tablet) :
    Breakpoints.storedText? (numericRecord n) u = some "600" := by
  cases u with
  | tablet => exact absurd rfl hu
  | mobile => rfl

/-- The records of a document with a round number beyond the signed integers. -/
def roundRecords : Entries Json :=
  [(overridesName, numericRecord 10000000000000000000)]

/-- A disk with the document, on which no change fails. -/
def roundFiles : FlakyDisk where
  disk := ({} : Disk).holding "settings.json" (Store.documentText roundRecords) 0

theorem proper_roundFiles : roundFiles.disk.Proper := by
  dsimp only [roundFiles]
  exact Disk.proper_empty.of_reaches (Disk.reaches_holding _ _ _ _)

theorem finds_roundRecords : Store.Finds "settings.json" true roundFiles.disk roundRecords := by
  have hordered : (Json.object roundRecords).Ordered :=
    ⟨List.pairwise_singleton _ _, ordered_numericRecord _, trivial⟩
  dsimp only [roundFiles]
  rw [Store.finds_iff_of_read (Disk.read_holding (by decide +kernel) (by decide +kernel)),
    Store.contains_documentText_iff hordered]
  exact ⟨by decide, ⟨trivial, readsBack_int (by decide) (by decide), trivial⟩, trivial⟩

/-- The pair that the record is decoded to. -/
def roundPair : Breakpoints where
  tablet := "10000000000000000000"
  mobile := "600"

/-- What saving the pair answers, and the files after that. -/
def roundSave : (Except FrontendError Unit × Frontend) × FlakyDisk :=
  ((Frontend.saveBreakpoints FlakyDisk.fileSystem roundPair).run.run
    (.ofStore {} {} (.opened "1" "settings.json" roundRecords))).run roundFiles

/-- The round number is decoded to its digits, and a store that is opened over the document gives
them. Saving the pair succeeds, and a store that is opened over the document then gives them too. -/
theorem Frontend.stored_integer_kept_of_round :
    Breakpoints.ofJson (numericRecord 10000000000000000000) = .ok roundPair ∧
      (Store.opened "1" "settings.json" roundRecords).Gives roundPair .tablet ∧
      roundSave.1.1 = .ok () ∧
      ∃ found, Store.Finds "settings.json" false roundSave.2.disk found ∧
        (Store.opened "2" "settings.json" found).Gives roundPair .tablet := by
  have hkeeps : KeepsDigits 10000000000000000000 :=
    .inr ⟨rfl, by decide +kernel, .inl (by decide +kernel)⟩
  have hlegible : Store.OthersLegible roundRecords := by
    intro name record hname hrecord
    rw [roundRecords, Entries.get?_cons, if_neg hname] at hrecord
    contradiction
  have hsaved : roundSave.1.1.isOk = true := by decide +kernel
  obtain ⟨b, hdecode, htablet, hothers, hgives⟩ := stored_integer_kept_iff FlakyDisk.onDisk "1"
    "settings.json" (by decide) {} {} .tablet 10000000000000000000 (by decide) (by decide)
    (ordered_numericRecord _) trivial rfl
    fun u hu ↦ by rw [storedText?_numericRecord u hu]; exact Option.some_ne_none _
  obtain rfl : b = roundPair := by
    refine Breakpoints.ext_get fun u ↦ ?_
    cases u with
    | tablet => exact (htablet.mpr hkeeps).trans (by decide +kernel)
    | mobile => exact Option.some.inj ((hothers .mobile (by decide)).symm.trans rfl)
  obtain ⟨hopened, s', hsave⟩ := hgives true _ roundFiles proper_roundFiles finds_roundRecords rfl
  change (∃ e frontend, roundSave = _ ∧ _) ∨ ∃ store, roundSave = _ ∧ _ at hsave
  rcases hsave with ⟨e, frontend, hfailed, -⟩ | ⟨store, hok, -, hfound, hagain⟩
  · rw [hfailed] at hsaved
    contradiction
  · obtain ⟨found, hfound⟩ := hfound hlegible false
    rw [hok]
    exact ⟨hdecode, hopened, rfl, found, hfound, hagain "2" false found hfound⟩

/-- The number after the least one beyond the signed integers is decoded to another number. -/
theorem Frontend.not_forall_stored_integer_kept :
    ¬ ∀ n : Int, -Nat.pow 2 63 ≤ n → n < Nat.pow 2 64 → ∀ b,
      Breakpoints.ofJson (numericRecord n) = .ok b → b.get .tablet = .ofList (decimal n) := by
  intro hall
  have hlow : -Nat.pow 2 63 ≤ (9223372036854775809 : Int) := by decide
  have hhigh : (9223372036854775809 : Int) < Nat.pow 2 64 := by decide
  have hlost : ¬ KeepsDigits 9223372036854775809 := by
    rintro (hsmall | hshortest)
    · exact absurd hsmall (by decide)
    · exact absurd hshortest.dvd (by decide +kernel)
  have hn : Breakpoints.stored? (numericRecord 9223372036854775809) .tablet =
      some (.number (.int 9223372036854775809)) := rfl
  obtain ⟨b, hdecode, hget, -⟩ := Breakpoints.exists_ofJson_eq (ordered_numericRecord _) trivial hn
    fun u hu ↦ by rw [storedText?_numericRecord u hu]; exact Option.some_ne_none _
  have hkept := hall _ hlow hhigh b hdecode
  rw [hget] at hkept
  exact hlost ((Breakpoints.numberText_int_eq_iff hlow hhigh).mp hkept)

end Responsive
