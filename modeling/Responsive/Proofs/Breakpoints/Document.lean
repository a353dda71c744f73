import Responsive.Breakpoints.Document
import Responsive.Proofs.Json.RoundTrip

/-!
# Decoded pairs

What a stored record is decoded to. A record is an object with a member for each tier, or an array
with the widths in the order of the tiers. Either may leave a tier out, which then has no width, and
so has a tier whose width is `null`; a number stands for its text. Nothing else is a record.

* `ofJson_eq_ok_iff`: which values are decoded, and to which pair.
-/

set_option autoImplicit false
set_option relaxedAutoImplicit false

namespace Responsive

open Json

/-! ### Outlines of values -/

mutual

theorem Json.Outline.isWhole_ofJson : (v : Json) → (Outline.ofJson v).isWhole = true
  | .array items => areWhole_ofItems items
  | .object members => membersWhole_ofMembers members
  | .null => rfl
  | .bool _ => rfl
  | .number _ => rfl
  | .text _ => rfl

theorem Json.Outline.areWhole_ofItems :
    (items : List Json) → Outline.areWhole (Outline.ofItems items) = true
  | [] => rfl
  | item :: items => by
    rw [ofItems, areWhole, isWhole_ofJson item, areWhole_ofItems items]
    rfl

theorem Json.Outline.membersWhole_ofMembers :
    (members : List (String × Json)) → Outline.membersWhole (Outline.ofMembers members) = true
  | [] => rfl
  | (name, value) :: members => by
    rw [ofMembers, membersWhole, isWhole_ofJson value, membersWhole_ofMembers members]
    rfl

end

theorem Json.Outline.length_ofItems (items : List Json) :
    (Outline.ofItems items).length = items.length := by
  induction items with
  | nil => rfl
  | cons item items ih => rw [ofItems, List.length_cons, List.length_cons, ih]

namespace Breakpoints

/-! ### Widths -/

/-- What has a value that is no width is not decoded. -/
theorem toOption_widthDecoder_eq_none {place : Place} {outline : Outline}
    (h : ∀ value, outline.value? place.depth = some value → widthText? value = none) :
    (widthDecoder place outline).toOption = none := by
  unfold widthDecoder Decoder.any
  cases hvalue : outline.value? place.depth with
  | none => rfl
  | some value =>
    have hwidth := h value hvalue
    dsimp only [bind, Except.bind]
    rw [hwidth]
    rfl

/-- A value is decoded to the text that it stands for as a width. -/
theorem toOption_widthDecoder (place : Place) (value : Json) :
    (widthDecoder place (.ofJson value)).toOption = widthText? value := by
  cases value with
  | null => rfl
  | bool b => rfl
  | number n => rfl
  | text s => rfl
  | array parts | object parts =>
    refine toOption_widthDecoder_eq_none fun value hvalue ↦ ?_
    rw [Outline.ofJson, Outline.value?] at hvalue
    split at hvalue
    · obtain ⟨_, -, rfl⟩ := Option.map_eq_some_iff.mp hvalue
      rfl
    · contradiction

/-- The field of a tier takes the text of its value, if that stands for a width. -/
theorem decode_field_cases (t : Tier) (place : Place) (value : Json) :
    (∃ e, (field t).decode place (.ofJson value) = .error e ∧ widthText? value = none) ∨
      ∃ s, (field t).decode place (.ofJson value) = .ok (fun b ↦ b.set t s) ∧
        widthText? value = some s := by
  have hwidth := toOption_widthDecoder place value
  have hfield : (field t).decode place (.ofJson value) =
      (widthDecoder place (.ofJson value)).map fun s b ↦ b.set t s := rfl
  rw [hfield, ← hwidth]
  cases widthDecoder place (.ofJson value) with
  | error e => exact .inl ⟨e, rfl, rfl⟩
  | ok s => exact .inr ⟨s, rfl, rfl⟩

/-! ### Records -/

theorem find?_field (name : String) :
    (Tier.all.map field).find? (·.name == name) = (Tier.ofName? name).map field :=
  List.find?_map

/-- The members of an object are taken one after the other. A tier without a member keeps the value
that it has. -/
theorem recordMembers_eq_ok_iff {place : Place} {members : Entries Json} (h : members.Ordered)
    {seen : List String} (hseen : ∀ member ∈ members, member.1 ∉ seen) {b b' : Breakpoints} :
    Decoder.recordMembers (Tier.all.map field) place true seen b (Outline.ofMembers members) =
        .ok b' ↔
      ∀ t, (Entries.get? members t.name).elim (some (b.get t)) widthText? = some (b'.get t) := by
  -- No name comes twice, since they are in order; the pair is general, since every member may
  -- change it.
  induction members generalizing seen b with
  | nil =>
    refine ⟨fun hok t ↦ ?_, fun hget ↦ ?_⟩
    · obtain rfl := Except.ok.inj hok
      rfl
    · exact congrArg Except.ok (ext_get fun t ↦ Option.some.inj (hget t))
  | cons member members ih =>
    obtain ⟨name, value⟩ := member
    obtain ⟨hbound, hrest⟩ := Entries.ordered_cons.mp h
    obtain ⟨hnew, hnews⟩ := List.forall_mem_cons.mp hseen
    rw [Outline.ofMembers, Decoder.recordMembers]
    dsimp only [Outline.name?]
    rw [find?_field]
    cases htier : Tier.ofName? name with
    | none =>
      have hname (t : Tier) : t.name ≠ name := by
        rintro rfl
        rw [Tier.ofName?_name] at htier
        contradiction
      dsimp only [Option.map_none]
      rw [if_pos (Outline.isWhole_ofJson value), ih hrest hnews]
      simp only [Entries.get?_cons, if_neg (hname _)]
    | some t =>
      obtain rfl : t.name = name := by simpa using List.find?_some htier
      dsimp only [Option.map_some]
      rw [if_neg (by simpa using hnew)]
      have hget : Entries.get? ((t.name, value) :: members) t.name = some value := by simp
      rcases decode_field_cases t place value with ⟨e, hdecode, hwidth⟩ | ⟨s, hdecode, hwidth⟩
      · rw [hdecode]
        refine ⟨nofun, fun hall ↦ ?_⟩
        have ht := hall t
        rw [hget, Option.elim_some, hwidth] at ht
        contradiction
      · have hnews' : ∀ member ∈ members, member.1 ∉ t.name :: seen := by
          intro member hmember hmem
          rcases List.mem_cons.mp hmem with heq | hold
          · exact String.lt_irrefl t.name (heq ▸ hbound member hmember)
          · exact hnews member hmember hold
        rw [hdecode]
        refine (ih hrest hnews').trans (forall_congr' fun u ↦ ?_)
        by_cases hu : u = t
        · subst hu
          rw [hget, Entries.get?_eq_none_of_forall_lt hbound, Option.elim_none, Option.elim_some,
            hwidth, get_set, if_pos rfl]
        · have hname : u.name ≠ t.name := fun heq ↦ hu (Tier.eq_of_name_eq heq)
          rw [Entries.get?_cons, if_neg hname, get_set, if_neg hu]

/-- The items of an array are taken in the order of the tiers. A tier without an item keeps the
value that it has, and items without a tier are left over. -/
theorem toOption_recordItems_eq_some_iff {place : Place} {tiers : List Tier} (h : tiers.Nodup)
    {items : List Json} {b b' : Breakpoints} {rest : List Outline} :
    (Decoder.recordItems place true (tiers.map field) b (Outline.ofItems items)).toOption =
        some (b', rest) ↔
      rest = Outline.ofItems (items.drop tiers.length) ∧
        ∀ t, (if t ∈ tiers then items[tiers.idxOf t]? else none).elim (some (b.get t)) widthText? =
          some (b'.get t) := by
  have hsame {b b' : Breakpoints} : b = b' ↔ ∀ t, some (b.get t) = some (b'.get t) :=
    ⟨fun heq _ ↦ heq ▸ rfl, fun hget ↦ ext_get fun t ↦ Option.some.inj (hget t)⟩
  induction tiers generalizing items b with
  | nil =>
    change some (b, Outline.ofItems items) = _ ↔ _
    simp [hsame, eq_comm, and_comm]
  | cons tier tiers ih =>
    obtain ⟨hnew, htiers⟩ := List.nodup_cons.mp h
    cases items with
    | nil =>
      change some (b, Outline.ofItems []) = _ ↔ _
      simp [hsame, eq_comm, and_comm]
    | cons item items =>
      rw [List.map_cons, Outline.ofItems, Decoder.recordItems]
      have hitem : (tier :: tiers).idxOf tier = 0 := by simp
      rcases decode_field_cases tier place item with ⟨e, hdecode, hwidth⟩ | ⟨s, hdecode, hwidth⟩
      · rw [hdecode]
        refine ⟨nofun, fun ⟨_, hall⟩ ↦ ?_⟩
        have ht := hall tier
        rw [if_pos List.mem_cons_self, hitem, List.getElem?_cons_zero, Option.elim_some,
          hwidth] at ht
        contradiction
      · rw [hdecode]
        refine (ih htiers).trans (and_congr Iff.rfl (forall_congr' fun t ↦ ?_))
        by_cases ht : t = tier
        · subst ht
          rw [if_pos List.mem_cons_self, if_neg hnew, hitem, List.getElem?_cons_zero,
            Option.elim_none, Option.elim_some, hwidth, get_set, if_pos rfl]
        · have hindex : (tier :: tiers).idxOf t = tiers.idxOf t + 1 := by
            simp [Ne.symm ht]
          rw [hindex, List.getElem?_cons_succ, get_set, if_neg ht]
          simp only [List.mem_cons, ht, false_or]

/-- What a record holds for a tier: the member of its name, or the item in its place. -/
def stored? (record : Json) (t : Tier) : Option Json :=
  match record with
  | .object fields => Entries.get? fields t.name
  | .array items => items[Tier.all.idxOf t]?
  | _ => none

/-- The width that a record gives to a tier, if it gives any: empty if the record leaves the tier
out. -/
def storedText? (record : Json) (t : Tier) : Option String :=
  (stored? record t).elim (some "") widthText?

/-- An object, or an array that is not longer than the list of tiers. -/
def IsRecord : Json → Prop
  | .object _ => True
  | .array items => items.length ≤ Tier.all.length
  | _ => False

theorem ofJson_array_eq_ok_iff {items : List Json} {b : Breakpoints} :
    ofJson (.array items) = .ok b ↔
      IsRecord (.array items) ∧ ∀ t, storedText? (.array items) t = some (b.get t) := by
  have hall : Tier.all.Nodup := by decide
  have hempty (t : Tier) : ({} : Breakpoints).get t = "" := by cases t <;> rfl
  have hitems := @toOption_recordItems_eq_some_iff
    (Place.inner ⟨.value, (Json.array items).depth + 2⟩) Tier.all hall items {} b
  simp only [Tier.mem_all, if_true, hempty] at hitems
  change (Decoder.recordItems _ true (Tier.all.map field) {} (Outline.ofItems items) >>= _) = _ ↔ _
  revert hitems
  rcases Decoder.recordItems _ true (Tier.all.map field) {} (Outline.ofItems items) with
    e | ⟨b', rest⟩
  · refine fun hitems ↦ ⟨nofun, fun ⟨_, hwidths⟩ ↦ ?_⟩
    exact nomatch hitems.mpr ⟨rfl, hwidths⟩
  · intro hitems
    have hleft : (Outline.ofItems (items.drop Tier.all.length)).isEmpty = true ↔
        IsRecord (.array items) := by
      rw [List.isEmpty_iff_length_eq_zero, Outline.length_ofItems, List.length_drop,
        Nat.sub_eq_zero_iff_le]
      rfl
    change (if rest.isEmpty then _ else _) = _ ↔ _
    constructor
    · intro hok
      split at hok
      next hrest =>
        obtain rfl := Except.ok.inj hok
        obtain ⟨rfl, hwidths⟩ := hitems.mp rfl
        exact ⟨hleft.mp hrest, hwidths⟩
      next => contradiction
    · rintro ⟨hrecord, hwidths⟩
      obtain ⟨rfl, rfl⟩ := Prod.mk.inj (Option.some.inj (hitems.mpr ⟨rfl, hwidths⟩))
      rw [if_pos (hleft.mpr hrecord)]
      rfl

/-- Records are decoded to the pair of the widths that they give to the tiers, and to nothing if
they hold anything else for a tier. -/
theorem ofJson_eq_ok_iff {record : Json} (h : record.Ordered) {b : Breakpoints} :
    ofJson record = .ok b ↔
      IsRecord record ∧ ∀ t, storedText? record t = some (b.get t) := by
  cases record with
  | object fields =>
    rw [IsRecord, true_and]
    change Decoder.recordMembers _ _ true [] {} (Outline.ofMembers fields) = .ok b ↔ _
    rw [recordMembers_eq_ok_iff h.1 fun _ _ ↦ List.not_mem_nil]
    refine forall_congr' fun t ↦ ?_
    have hempty : ({} : Breakpoints).get t = "" := by cases t <;> rfl
    rw [hempty, storedText?, stored?]
  | array items => exact ofJson_array_eq_ok_iff
  | null => exact ⟨nofun, fun h ↦ h.1.elim⟩
  | bool _ => exact ⟨nofun, fun h ↦ h.1.elim⟩
  | number _ => exact ⟨nofun, fun h ↦ h.1.elim⟩
  | text _ => exact ⟨nofun, fun h ↦ h.1.elim⟩

end Breakpoints

end Responsive
