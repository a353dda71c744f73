import Responsive.Proofs.Entries
import Responsive.Settings.Definition

/-!
# What definitions let in

A definition that declares properties takes from an object the fields of the declared names that are
not `null`, and it takes the object only if each of them has the type that was declared first for
its name. What it takes it takes again as it is.

* `takeProperties_eq_ok_iff`: what is taken, and when.
* `sanitize_eq_ok_iff`: what a definition makes of a value.
* `sanitize_of_sanitize_eq_ok`: what was let in is let in unchanged.
-/

set_option autoImplicit false
set_option relaxedAutoImplicit false

namespace Responsive

namespace Definition

/-- The field of a name, where `null` counts as no field. -/
def givenField (fields : Entries Json) (name : String) : Option Json :=
  match Entries.get? fields name with
  | none | some .null => none
  | some field => some field

theorem givenField_eq_some_iff {fields : Entries Json} {name : String} {field : Json} :
    givenField fields name = some field ↔
      Entries.get? fields name = some field ∧ field ≠ .null := by
  unfold givenField
  split
  next h => simp [h]
  next h =>
    rw [h]
    refine ⟨nofun, ?_⟩
    rintro ⟨hnull, hne⟩
    exact absurd (Option.some.inj hnull).symm hne
  next found hnot h =>
    rw [h]
    refine ⟨fun hfield ↦ ⟨hfield, ?_⟩, And.left⟩
    rintro rfl
    exact hnot (Option.some.inj hfield)

theorem givenField_erase (fields : Entries Json) (name other : String) :
    givenField (Entries.erase name fields) other =
      if other = name then none else givenField fields other := by
  unfold givenField
  rw [Entries.get?_erase]
  by_cases h : other = name
  · rw [if_pos h, if_pos h]
  · rw [if_neg h, if_neg h]

/-- Every field that is given for one of the properties has the type that is declared first for its
name. -/
def Fits (properties : List (String × PropertyType)) (fields : Entries Json) : Prop :=
  ∀ name kind field, properties.lookup name = some kind → givenField fields name = some field →
    kind.accepts field = true

variable {d : Definition} {name : String} {kind : PropertyType} {fields taken result : Entries Json}
  {properties : List (String × PropertyType)}

theorem takeProperties_cons_of_none (h : givenField fields name = none) :
    d.takeProperties fields ((name, kind) :: properties) taken =
      d.takeProperties (Entries.erase name fields) properties taken := by
  unfold givenField at h
  cases hget : Entries.get? fields name with
  | none => simp only [takeProperties, hget]
  | some found =>
    rw [hget] at h
    cases found with
    | null => simp only [takeProperties, hget]
    | bool _ | number _ | text _ | array _ | object _ => contradiction

theorem takeProperties_cons_of_some {field : Json} (h : givenField fields name = some field) :
    d.takeProperties fields ((name, kind) :: properties) taken =
      if kind.accepts field then
        d.takeProperties (Entries.erase name fields) properties (Entries.insert name field taken)
      else
        .error (d.refusal s!"property '{name}' must be {kind.name}, got {field.kindName}") := by
  obtain ⟨hget, hnull⟩ := givenField_eq_some_iff.mp h
  rw [takeProperties, hget]
  split
  · contradiction
  next hfield => exact absurd (Option.some.inj hfield) hnull
  next found _ hfield =>
    obtain rfl := Option.some.inj hfield
    rfl

/-- Behind the first property the others have the fields of all other names to choose from. -/
theorem fits_cons_iff : Fits ((name, kind) :: properties) fields ↔
    (∀ field, givenField fields name = some field → kind.accepts field = true) ∧
      Fits properties (Entries.erase name fields) := by
  constructor
  · refine fun h ↦ ⟨fun field ↦ h name kind field (by simp),
      fun other kind' field hkind hfield ↦ ?_⟩
    rw [givenField_erase] at hfield
    split at hfield
    · contradiction
    next hne => exact h other kind' field (by simpa [List.lookup_cons, beq_false_of_ne hne]) hfield
  · rintro ⟨hfirst, hrest⟩ other kind' field hkind hfield
    rw [List.lookup_cons] at hkind
    by_cases hne : other = name
    · subst hne
      rw [beq_self_eq_true] at hkind
      obtain rfl := Option.some.inj hkind
      exact hfirst field hfield
    · rw [beq_false_of_ne hne] at hkind
      exact hrest other kind' field hkind (by rwa [givenField_erase, if_neg hne])

/-- The fields of the declared names, where one is given, and the fields that were taken before. -/
def Collects (properties : List (String × PropertyType)) (fields taken result : Entries Json) :
    Prop :=
  result.Ordered ∧ ∀ name, Entries.get? result name =
    if (properties.lookup name).isSome then (givenField fields name).or (Entries.get? taken name)
    else Entries.get? taken name

theorem collects_cons_iff {taken' : Entries Json}
    (htaken : ∀ other, Entries.get? taken' other =
      if other = name then (givenField fields name).or (Entries.get? taken name)
      else Entries.get? taken other) :
    Collects ((name, kind) :: properties) fields taken result ↔
      Collects properties (Entries.erase name fields) taken' result := by
  refine and_congr_right' (forall_congr' fun other ↦ ?_)
  rw [List.lookup_cons, givenField_erase, htaken]
  by_cases hname : other = name
  · subst hname
    simp
  · rw [beq_false_of_ne hname, if_neg hname, if_neg hname]

/-- What is taken from the fields, and when nothing is refused. -/
theorem takeProperties_eq_ok_iff (htaken : taken.Ordered) :
    d.takeProperties fields properties taken = .ok result ↔
      Fits properties fields ∧ Collects properties fields taken result := by
  -- Every property takes its name out of the fields and may add to what was taken before.
  induction properties generalizing fields taken with
  | nil =>
    rw [takeProperties, Except.ok.injEq]
    constructor
    · rintro rfl
      exact ⟨nofun, htaken, fun _ ↦ rfl⟩
    · rintro ⟨-, hresult, hget⟩
      exact (Entries.ext_get? hresult htaken hget).symm
  | cons property properties ih =>
    obtain ⟨name, kind⟩ := property
    rw [fits_cons_iff]
    cases hfield : givenField fields name with
    | none =>
      have hsame (other : String) : Entries.get? taken other =
          if other = name then (givenField fields name).or (Entries.get? taken name)
          else Entries.get? taken other := by
        rw [hfield]
        split
        next hname => rw [hname, Option.none_or]
        · rfl
      rw [takeProperties_cons_of_none hfield, ih htaken, collects_cons_iff hsame]
      simp
    | some field =>
      have hinsert (other : String) : Entries.get? (Entries.insert name field taken) other =
          if other = name then (givenField fields name).or (Entries.get? taken name)
          else Entries.get? taken other := by
        rw [Entries.get?_insert, hfield, Option.some_or]
      rw [takeProperties_cons_of_some hfield, collects_cons_iff hinsert]
      split
      next haccepts =>
        rw [ih (Entries.ordered_insert name field htaken)]
        simp [haccepts]
      next haccepts =>
        refine iff_of_false nofun ?_
        rintro ⟨⟨hfirst, -⟩, -⟩
        exact haccepts (hfirst field rfl)

/-- Nothing is refused if the fields fit. -/
theorem exists_takeProperties_eq_ok (h : Fits properties fields) (taken : Entries Json) :
    ∃ result, d.takeProperties fields properties taken = .ok result := by
  induction properties generalizing fields taken with
  | nil => exact ⟨taken, rfl⟩
  | cons property properties ih =>
    obtain ⟨name, kind⟩ := property
    obtain ⟨hfirst, hrest⟩ := fits_cons_iff.mp h
    cases hfield : givenField fields name with
    | none =>
      rw [takeProperties_cons_of_none hfield]
      exact ih hrest taken
    | some field =>
      rw [takeProperties_cons_of_some hfield, if_pos (hfirst field hfield)]
      exact ih hrest _

/-- The only error is a complaint about the value. -/
theorem exists_of_takeProperties_eq_error {e : SettingsError}
    (h : d.takeProperties fields properties taken = .error e) : ∃ reason, e = d.refusal reason := by
  induction properties generalizing fields taken with
  | nil => contradiction
  | cons property properties ih =>
    obtain ⟨name, kind⟩ := property
    cases hfield : givenField fields name with
    | none =>
      rw [takeProperties_cons_of_none hfield] at h
      exact ih h
    | some field =>
      rw [takeProperties_cons_of_some hfield] at h
      split at h
      · exact ih h
      · exact ⟨_, (Except.error.inj h).symm⟩

/-- What a definition lets in of an object: all of it if no property is declared, and else the
fields of the declared names that are not `null`, each of the type that is declared first for its
name. -/
inductive LetsIn (d : Definition) (fields : Entries Json) : Entries Json → Prop
  | all (free : d.properties = []) : LetsIn d fields fields
  | declared {record : Entries Json} (closed : d.properties ≠ []) (ordered : record.Ordered)
      (mem_iff : ∀ name field, (name, field) ∈ record ↔
        (d.properties.lookup name).isSome = true ∧ Entries.get? fields name = some field ∧
          field ≠ .null)
      (accepts : ∀ name field, (name, field) ∈ record →
        ∃ kind, d.properties.lookup name = some kind ∧ kind.accepts field = true) :
      LetsIn d fields record

theorem letsIn_iff (h : d.properties ≠ []) : d.LetsIn fields result ↔
    Fits d.properties fields ∧ Collects d.properties fields [] result := by
  constructor
  · intro hlets
    cases hlets with
    | all free => exact absurd free h
    | declared _ ordered mem_iff accepts =>
      refine ⟨fun name kind field hkind hfield ↦ ?_, ordered, fun name ↦ ?_⟩
      · have hmem := (mem_iff name field).mpr
          ⟨by rw [hkind]; rfl, givenField_eq_some_iff.mp hfield⟩
        obtain ⟨kind', hkind', haccepts⟩ := accepts name field hmem
        obtain rfl := Option.some.inj (hkind.symm.trans hkind')
        exact haccepts
      · refine Option.ext fun field ↦ ?_
        rw [← Entries.mem_iff_get?_eq_some ordered, mem_iff, ← givenField_eq_some_iff,
          Entries.get?_nil, Option.or_none]
        split <;> simp_all
  · rintro ⟨hfits, hordered, hget⟩
    have hmem (name : String) (field : Json) : (name, field) ∈ result ↔
        (d.properties.lookup name).isSome = true ∧ givenField fields name = some field := by
      rw [Entries.mem_iff_get?_eq_some hordered, hget, Entries.get?_nil, Option.or_none]
      split <;> simp_all
    refine .declared h hordered (fun name field ↦ by rw [hmem, givenField_eq_some_iff])
      fun name field hfield ↦ ?_
    obtain ⟨hdeclared, hgiven⟩ := (hmem name field).mp hfield
    obtain ⟨kind, hkind⟩ := Option.isSome_iff_exists.mp hdeclared
    exact ⟨kind, hkind, hfits name kind field hkind hgiven⟩

/-- A definition takes objects only, and of an object it takes what it lets in. -/
theorem sanitize_eq_ok_iff {value clean : Json} : d.sanitize value = .ok clean ↔
    ∃ fields record, value = .object fields ∧ clean = .object record ∧ d.LetsIn fields record := by
  cases value with
  | object fields =>
    rw [sanitize]
    by_cases hopen : d.properties = []
    · rw [hopen, List.isEmpty_nil, if_pos rfl, Except.ok.injEq]
      constructor
      · rintro rfl
        exact ⟨fields, fields, rfl, rfl, .all hopen⟩
      · rintro ⟨_, record, hfields, rfl, hlets⟩
        obtain rfl := Json.object.inj hfields
        cases hlets with
        | all => rfl
        | declared closed => exact absurd hopen closed
    · rw [if_neg (by simpa using hopen)]
      constructor
      · intro h
        cases hresult : d.takeProperties fields d.properties [] with
        | error e =>
          rw [hresult] at h
          contradiction
        | ok record =>
          rw [hresult] at h
          obtain rfl := Except.ok.inj h
          exact ⟨fields, record, rfl, rfl,
            (letsIn_iff hopen).mpr ((takeProperties_eq_ok_iff Entries.ordered_nil).mp hresult)⟩
      · rintro ⟨_, record, hfields, rfl, hlets⟩
        obtain rfl := Json.object.inj hfields
        rw [(takeProperties_eq_ok_iff Entries.ordered_nil).mpr ((letsIn_iff hopen).mp hlets)]
        rfl
  | _ => exact iff_of_false nofun fun ⟨_, _, hfields, _⟩ ↦ absurd hfields nofun

theorem exists_of_sanitize_eq_error {value : Json} {e : SettingsError}
    (h : d.sanitize value = .error e) : ∃ reason, e = d.refusal reason := by
  cases value with
  | object fields =>
    rw [sanitize] at h
    split at h
    · contradiction
    · cases htaken : d.takeProperties fields d.properties [] with
      | ok record =>
        rw [htaken] at h
        contradiction
      | error e' =>
        rw [htaken] at h
        obtain rfl := Except.error.inj h
        exact exists_of_takeProperties_eq_error htaken
  | _ => exact ⟨_, (Except.error.inj h).symm⟩

/-- What is let in is let in again as it is. -/
theorem LetsIn.self (h : d.LetsIn fields result) : d.LetsIn result result := by
  cases h with
  | all free => exact .all free
  | declared closed ordered mem_iff accepts =>
    refine .declared closed ordered
      (fun name field ↦ ⟨fun hmem ↦ ?_, fun ⟨_, hget, _⟩ ↦ ?_⟩) accepts
    · obtain ⟨hdeclared, -, hnull⟩ := (mem_iff name field).mp hmem
      exact ⟨hdeclared, (Entries.mem_iff_get?_eq_some ordered).mp hmem, hnull⟩
    · exact (Entries.mem_iff_get?_eq_some ordered).mpr hget

/-- What a definition made of a value it takes as it is. -/
theorem sanitize_of_sanitize_eq_ok {value clean : Json} (h : d.sanitize value = .ok clean) :
    d.sanitize clean = .ok clean := by
  obtain ⟨fields, record, -, rfl, hlets⟩ := sanitize_eq_ok_iff.mp h
  exact sanitize_eq_ok_iff.mpr ⟨record, record, rfl, rfl, hlets.self⟩

end Definition

end Responsive
