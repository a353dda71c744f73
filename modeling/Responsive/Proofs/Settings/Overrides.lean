import Responsive.Frontend.Basic
import Responsive.Proofs.Settings.Definition
import Responsive.Proofs.Settings.Update

/-!
# Saved overrides

What a store gives as overrides after a pair was saved. The definition of the record decides which
tiers are taken over: those that it declares, or both if it declares no property. The definition
that the library brings along declares both, so a saved pair is read back as it is.

* `sanitize_toJson`: the record that a definition lets in of a pair.
* `stored_of_outcome_set`: the overrides after a pair was stored.
-/

set_option autoImplicit false
set_option relaxedAutoImplicit false

namespace Responsive

/-- The tiers of a pair that have a property, as the fields of a record. -/
def Breakpoints.entries (b : Breakpoints) (keep : Tier → Bool) : Entries Json :=
  .ofPairs ((Tier.all.filter keep).map fun t ↦ (t.name, .text (b.get t)))

/-- The pair with the values of some tiers only. -/
def Breakpoints.only (b : Breakpoints) (keep : Tier → Bool) : Breakpoints :=
  .ofFn fun t ↦ if keep t then b.get t else ""

namespace Breakpoints

variable {b : Breakpoints} {keep : Tier → Bool}

/-- The fields in the order of their names. -/
theorem entries_eq : b.entries keep =
    (if keep .mobile then [("mobile", .text (b.get .mobile))] else []) ++
      (if keep .tablet then [("tablet", .text (b.get .tablet))] else []) := by
  have hlt : "mobile" < "tablet" := by decide
  cases htablet : keep .tablet <;> cases hmobile : keep .mobile <;>
    simp [entries, Entries.ofPairs, Entries.insert, Tier.all, Tier.name, htablet, hmobile, hlt]

theorem mem_entries_iff {pair : String × Json} :
    pair ∈ b.entries keep ↔ ∃ t : Tier, keep t = true ∧ pair = (t.name, .text (b.get t)) := by
  rw [entries_eq]
  constructor
  · intro h
    rcases List.mem_append.mp h with hmobile | htablet
    · exact ⟨.mobile, by simpa [Tier.name] using hmobile⟩
    · exact ⟨.tablet, by simpa [Tier.name] using htablet⟩
  · rintro ⟨t, hkeep, rfl⟩
    cases t <;> simp [hkeep, Tier.name]

theorem ordered_entries : (b.entries keep).Ordered := Entries.ordered_ofPairs _

theorem ofJson_entries : ofJson (.object (b.entries keep)) = .ok (b.only keep) := by
  rw [entries_eq, only]
  cases htablet : keep .tablet <;> cases hmobile : keep .mobile <;>
    simp only [ofFn, htablet, hmobile] <;> rfl

theorem toJson_eq : b.toJson = .object (b.entries fun _ ↦ true) := rfl

/-- The record of a pair. -/
theorem toJson_eq_object (b : Breakpoints) :
    b.toJson = .object [("mobile", .text b.mobile), ("tablet", .text b.tablet)] := by
  rw [toJson_eq, entries_eq]
  rfl

end Breakpoints

/-- Whether a property is declared. -/
def Definition.declares (d : Definition) (t : Tier) : Bool :=
  d.properties.any (·.1 == t.name)

/-- Which tiers of a pair a definition lets in: those that it declares, or all if it declares
nothing. -/
def Definition.admits (d : Definition) (t : Tier) : Bool :=
  d.properties.isEmpty || d.declares t

theorem Definition.admits_iff {d : Definition} (h : d.properties ≠ []) {t : Tier} :
    d.admits t = true ↔ (d.properties.lookup t.name).isSome = true := by
  have hclosed : d.properties.isEmpty = false := by simpa using h
  rw [admits, hclosed, Bool.false_or, declares, List.any_eq_true, List.lookup_isSome_iff]
  exact exists_congr fun _ ↦ and_congr Iff.rfl (by rw [beq_iff_eq, beq_iff_eq, eq_comm])

/-- The record that a definition lets in of a pair. -/
theorem Definition.sanitize_toJson {d : Definition} {b : Breakpoints} {clean : Json}
    (h : d.sanitize b.toJson = .ok clean) : clean = .object (b.entries d.admits) := by
  obtain ⟨fields, record, hfields, rfl, hlets⟩ := sanitize_eq_ok_iff.mp h
  rw [Breakpoints.toJson_eq] at hfields
  obtain rfl := Json.object.inj hfields
  congr 1
  cases hlets with
  | all free =>
    have hadmits : d.admits = fun _ ↦ true := by
      funext t
      simp [admits, free]
    rw [hadmits]
  | declared closed ordered mem_iff =>
    refine Entries.eq_of_mem_iff ordered Breakpoints.ordered_entries fun ⟨name, field⟩ ↦ ?_
    rw [mem_iff, ← Entries.mem_iff_get?_eq_some Breakpoints.ordered_entries,
      Breakpoints.mem_entries_iff, Breakpoints.mem_entries_iff]
    constructor
    · rintro ⟨hdeclared, ⟨t, -, hpair⟩, -⟩
      obtain ⟨rfl, rfl⟩ := Prod.mk.inj hpair
      exact ⟨t, (admits_iff closed).mpr hdeclared, rfl⟩
    · rintro ⟨t, hadmits, hpair⟩
      obtain ⟨rfl, rfl⟩ := Prod.mk.inj hpair
      exact ⟨(admits_iff closed).mp hadmits, ⟨t, rfl, rfl⟩, nofun⟩

/-- The definition that the library brings along admits every pair as it is. -/
theorem Breakpoints.only_admits_overridesDefinition (b : Breakpoints) :
    b.only overridesDefinition.admits = b := by
  have hadmits (t : Tier) : overridesDefinition.admits t = true := by cases t <;> decide
  simp only [only, hadmits, if_true]
  exact ext_get fun t ↦ get_ofFn _ t

/-- The definition that the library brings along lets in all of a pair. -/
theorem sanitize_overridesDefinition (b : Breakpoints) :
    overridesDefinition.sanitize b.toJson = .ok b.toJson := by
  have hlt : "mobile" < "tablet" := by decide
  rw [Breakpoints.toJson_eq_object]
  simp [overridesDefinition, Definition.sanitize, Definition.takeProperties, Tier.all, Tier.name,
    Entries.erase, Entries.insert, PropertyType.accepts, Except.map, hlt]

/-- The overrides depend on nothing but the records. -/
theorem Store.stored_congr {store store' : Store} (h : store.records = store'.records) :
    store.stored = store'.stored := by
  simp only [stored, overrides?, get?, record?, h]

/-- The overrides after a pair was stored as their record: what the definition admits of it. -/
theorem Store.stored_of_outcome_set {σ : Type} (fs : FileSystem (StateM σ)) (b : Breakpoints)
    (store : Store) (disk : σ)
    (h : (outcome (set fs overridesName b.toJson) store disk).1.1 = .ok ()) :
    ∃ d, store.describe? overridesName = some d ∧
      (outcome (set fs overridesName b.toJson) store disk).1.2.stored =
        .pair (b.only d.admits) := by
  have hset := (outcome_set fs overridesName b.toJson store disk).2
  rw [h] at hset
  obtain ⟨d, clean, hd, hclean, hrecords⟩ := hset
  refine ⟨d, hd, ?_⟩
  have hrecord : (outcome (set fs overridesName b.toJson) store disk).1.2.record? overridesName =
      some clean := by
    unfold record?
    rw [hrecords, Entries.get?_insert, if_pos rfl]
  have hdecode : Json.decodeValue Breakpoints.decoder (.object (b.entries d.admits)) =
      .ok (b.only d.admits) := Breakpoints.ofJson_entries
  rw [Definition.sanitize_toJson hclean] at hrecord
  simp only [stored, overrides?, get?, hrecord, hdecode]

/-- Saving a pair is storing its record; the frontend changes in nothing but its store. -/
theorem Frontend.run_saveBreakpoints {σ : Type} (fs : FileSystem (StateM σ)) (b : Breakpoints)
    (frontend : Frontend) (disk : σ) :
    ((Frontend.saveBreakpoints fs b).run.run frontend).run disk =
      match Store.outcome (Store.set fs overridesName b.toJson) frontend.store disk with
      | ((result, store), disk) =>
        ((result.mapError fun e ↦
            { cause := .breakpoints
                { cause := .settings e, context := some "Failed to save breakpoints" } },
          { frontend with store }), disk) := by
  have hsave : ((Store.saveOverrides fs b).run.run frontend.store).run disk =
      match Store.outcome (Store.set fs overridesName b.toJson) frontend.store disk with
      | ((result, store), disk) =>
        ((result.mapError fun e ↦
          { cause := .settings e, context := some "Failed to save breakpoints" }, store), disk) :=
    rfl
  have hstart : ((Frontend.saveBreakpoints fs b).run.run frontend).run disk =
      match ((Store.saveOverrides fs b).run.run frontend.store).run disk with
      | ((result, store), disk) =>
        ((result.mapError fun e ↦ { cause := .breakpoints e }, { frontend with store }), disk) :=
    rfl
  rw [hstart, hsave]
  rcases Store.outcome (Store.set fs overridesName b.toJson) frontend.store disk with
    ⟨⟨e | _, store⟩, disk'⟩
  · rfl
  · rfl

end Responsive
