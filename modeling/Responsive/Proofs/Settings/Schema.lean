import Responsive.Files.Disk
import Responsive.Proofs.Settings.Definition
import Responsive.Proofs.Settings.Steps

/-!
# Published schemas

A definition is published as a schema document, and values that are stored are checked against the
definition. The document is a map by names, so of a property that was declared more than once it
states the type that was declared last, while the check takes the first declaration to find the
field and lets the later ones find none. So the published schema is the enforced one just if no
property is declared again with another type. The names that the document lists are those of the
stored fields in any case.

* `Json.Conforms`: what a schema document says of a value, read off the document.
* `Definition.conforms_schema_iff`, `Store.accepted_iff`: the declarations that the document and
  the check go by.
* `Store.set_enforces_schema_iff`: when the two agree, and what is stored.
-/

set_option autoImplicit false
set_option relaxedAutoImplicit false

namespace Responsive

/-! ### Schema documents -/

namespace Json

/-- The names by which a schema document may call the type of a value. -/
def typeNames : Json → List String
  | null => ["null"]
  | bool _ => ["boolean"]
  | number (.int _) => ["integer", "number"]
  | number (.float _) => ["number"]
  | text _ => ["string"]
  | array _ => ["array"]
  | object _ => ["object"]

/-- What a schema document states of a property, if it lists it. -/
def listed? (schema : Json) (property : String) : Option Json :=
  (schema.member? "properties").bind fun properties ↦ properties.member? property

/-- The value is an object, in which each property that the schema document lists is absent, `null`
or of the type that the document states. -/
def Conforms (schema value : Json) : Prop :=
  ∃ fields, value = .object fields ∧ ∀ property stated field,
    schema.listed? property = some stated → Entries.get? fields property = some field →
      field = .null ∨ ∃ type, stated.member? "type" = some (.text type) ∧ type ∈ field.typeNames

end Json

namespace PropertyType

theorem name_mem_typeNames_iff {kind : PropertyType} {value : Json} :
    kind.name ∈ value.typeNames ↔ kind.accepts value = true := by
  cases value with
  | number n => cases n <;> cases kind <;> simp [name, Json.typeNames, accepts]
  | _ => cases kind <;> simp [name, Json.typeNames, accepts]

/-- A value of the type that is of no other, as far as there is one: integers are numbers too. The
number is one half. -/
def sample : PropertyType → Json
  | string => .text ""
  | integer => .int 0
  | number => .number (.float (.finite false 4503599627370496 (-53)))
  | boolean => .bool false
  | array => .array []
  | object => .object []

/-- A type is known by the values that it accepts. -/
theorem eq_of_accepts_iff {kind kind' : PropertyType}
    (h : ∀ value, value ≠ .null → (kind.accepts value = true ↔ kind'.accepts value = true)) :
    kind = kind' := by
  have hsample (k : PropertyType) : k.sample ≠ .null ∧ k.accepts k.sample = true := by
    cases k <;> exact ⟨nofun, rfl⟩
  have hkind := (h kind.sample (hsample kind).1).mp (hsample kind).2
  have hkind' := (h kind'.sample (hsample kind').1).mpr (hsample kind').2
  revert hkind hkind'
  cases kind <;> cases kind' <;> simp [accepts, sample, Json.int]

end PropertyType

namespace Definition

variable {d : Definition} {value : Json} {properties : List (String × PropertyType)}

theorem isSome_lookup_reverse (properties : List (String × PropertyType)) (property : String) :
    (properties.reverse.lookup property).isSome = (properties.lookup property).isSome := by
  have hnone :
      (properties.reverse.lookup property).isNone = (properties.lookup property).isNone := by
    rw [Bool.eq_iff_iff]
    simp only [Option.isNone_iff_eq_none, List.lookup_eq_none_iff, List.mem_reverse]
  rw [← Option.not_isNone, ← Option.not_isNone, hnone]

/-- The document states the type that was declared last. -/
theorem listed?_schema (d : Definition) (property : String) :
    d.schema.listed? property =
      (d.properties.reverse.lookup property).map fun kind ↦
        .ofPairs [("type", .text kind.name)] := by
  have hproperties : d.schema.member? "properties" =
      some (.ofPairs (d.properties.map fun p ↦ (p.1, .ofPairs [("type", .text p.2.name)]))) := by
    rw [schema, Json.ofPairs, Json.member?, Entries.get?_ofPairs]
    rfl
  have hlookup (l : List (String × PropertyType)) :
      (l.map fun p ↦ (p.1, Json.ofPairs [("type", .text p.2.name)])).lookup property =
        (l.lookup property).map fun kind ↦ .ofPairs [("type", .text kind.name)] := by
    induction l with
    | nil => rfl
    | cons p l ih =>
      rw [List.map_cons, List.lookup_cons, List.lookup_cons, ih]
      cases property == p.1 <;> rfl
  rw [Json.listed?, hproperties, Option.bind_some, Json.ofPairs, Json.member?,
    Entries.get?_ofPairs, ← List.map_reverse, hlookup]

/-- A value conforms to the document if each given field has the type that was declared last. -/
theorem conforms_schema_iff : Json.Conforms d.schema value ↔
    ∃ fields, value = .object fields ∧ Fits d.properties.reverse fields := by
  refine exists_congr fun fields ↦ and_congr_right fun _ ↦ ?_
  have htype (kind : PropertyType) (type : String) :
      (Json.ofPairs [("type", .text kind.name)]).member? "type" = some (.text type) ↔
        kind.name = type := by
    change some (Json.text kind.name) = some (.text type) ↔ _
    rw [Option.some.injEq, Json.text.injEq]
  constructor
  · intro h property kind field hkind hfield
    obtain ⟨hget, hnull⟩ := givenField_eq_some_iff.mp hfield
    have hlisted := listed?_schema d property
    rw [hkind] at hlisted
    rcases h property _ field hlisted hget with rfl | ⟨type, hstated, hmem⟩
    · exact absurd rfl hnull
    · obtain rfl := (htype kind type).mp hstated
      exact PropertyType.name_mem_typeNames_iff.mp hmem
  · intro h property stated field hlisted hget
    rw [listed?_schema] at hlisted
    obtain ⟨kind, hkind, rfl⟩ := Option.map_eq_some_iff.mp hlisted
    by_cases hnull : field = .null
    · exact .inl hnull
    · have haccepts := h property kind field hkind (givenField_eq_some_iff.mpr ⟨hget, hnull⟩)
      exact .inr ⟨kind.name, (htype kind _).mpr rfl,
        PropertyType.name_mem_typeNames_iff.mpr haccepts⟩

/-- A definition takes a value if each given field has the type that was declared first. -/
theorem exists_sanitize_eq_ok_iff (hclosed : d.properties ≠ []) :
    (∃ clean, d.sanitize value = .ok clean) ↔
      ∃ fields, value = .object fields ∧ Fits d.properties fields := by
  constructor
  · rintro ⟨clean, hclean⟩
    obtain ⟨fields, record, rfl, -, hlets⟩ := sanitize_eq_ok_iff.mp hclean
    exact ⟨fields, rfl, ((letsIn_iff hclosed).mp hlets).1⟩
  · rintro ⟨fields, rfl, hfits⟩
    obtain ⟨record, htaken⟩ := exists_takeProperties_eq_ok (d := d) hfits []
    have hlets :=
      (letsIn_iff hclosed).mpr ((takeProperties_eq_ok_iff Entries.ordered_nil).mp htaken)
    exact ⟨.object record, sanitize_eq_ok_iff.mpr ⟨fields, record, rfl, rfl, hlets⟩⟩

/-- A field that stands alone fits just if it has the type of its property. -/
theorem fits_singleton_iff {property : String} {kind : PropertyType} {field : Json}
    (hkind : properties.lookup property = some kind) (hnull : field ≠ .null) :
    Fits properties [(property, field)] ↔ kind.accepts field = true := by
  have hgiven (other : String) (given : Json) :
      givenField [(property, field)] other = some given ↔ other = property ∧ field = given := by
    rw [givenField_eq_some_iff, Entries.get?_cons]
    by_cases hname : other = property
    · rw [if_pos hname, Option.some.injEq]
      constructor
      · exact fun h ↦ ⟨hname, h.1⟩
      · exact fun h ↦ ⟨h.2, h.2 ▸ hnull⟩
    · rw [if_neg hname]
      exact iff_of_false (fun h ↦ absurd h.1 nofun) fun h ↦ hname h.1
  constructor
  · intro h
    exact h property kind field hkind ((hgiven property field).mpr ⟨rfl, rfl⟩)
  · intro haccepts other kind' given hother hfield
    obtain ⟨rfl, rfl⟩ := (hgiven other given).mp hfield
    obtain rfl := Option.some.inj (hkind.symm.trans hother)
    exact haccepts

/-- The fields that fit the first declarations are those that fit the last ones just if no property
is declared again with another type: a field of a type tells that type from the others. -/
theorem fits_iff_fits_reverse :
    (∀ fields, Fits properties fields ↔ Fits properties.reverse fields) ↔
      ∀ property, properties.lookup property = properties.reverse.lookup property := by
  constructor
  · intro h property
    have hsome := isSome_lookup_reverse properties property
    cases hfirst : properties.lookup property with
    | none =>
      rw [hfirst] at hsome
      exact (Option.isNone_iff_eq_none.mp (Option.isSome_eq_false_iff.mp hsome)).symm
    | some kind =>
      rw [hfirst] at hsome
      obtain ⟨kind', hlast⟩ := Option.isSome_iff_exists.mp hsome
      have hsame : kind = kind' := by
        apply PropertyType.eq_of_accepts_iff
        intro field hnull
        rw [← fits_singleton_iff hfirst hnull, ← fits_singleton_iff hlast hnull]
        exact h _
      rw [hsame, hlast]
  · intro h fields
    simp only [Fits, h]

/-- The names of the properties that are listed are those that are declared. -/
theorem isSome_listed?_schema (d : Definition) (property : String) :
    (d.schema.listed? property).isSome = (d.properties.lookup property).isSome := by
  rw [listed?_schema, Option.isSome_map, isSome_lookup_reverse]

end Definition

/-! ### Stored values -/

namespace Store

variable {σ : Type}

/-- The value is not refused: it is stored, or a step of writing the document fails. -/
def Accepted (fs : FileSystem (StateM σ)) (store : Store) (s : σ) (name : String) (value : Json) :
    Prop :=
  (outcome (set fs name value) store s).1.1 = .ok () ∨
    ∃ e, (outcome (set fs name value) store s).1.1 = .error e ∧ Unwritten fs store s e

/-- A value is accepted if its definition takes it. -/
theorem accepted_iff (fs : FileSystem (StateM σ)) {store : Store} {name : String}
    {d : Definition} (hd : store.describe? name = some d) (value : Json) (s : σ) :
    Accepted fs store s name value ↔ ∃ clean, d.sanitize value = .ok clean := by
  unfold Accepted set
  rw [outcome_get_bind, hd]
  dsimp only
  cases hclean : d.sanitize value with
  | ok clean =>
    refine iff_of_true ?_ ⟨clean, rfl⟩
    dsimp only
    cases hanswer : (outcome (commit fs (Entries.insert name clean store.records)) store s).1.1 with
    | ok _ => exact .inl rfl
    | error e => exact .inr ⟨e, rfl, unwritten_of_commit hanswer⟩
  | error e =>
    refine iff_of_false ?_ nofun
    rintro (hok | ⟨e', herror, -, -, -, step, cause, -, -, rfl⟩)
    · contradiction
    · obtain ⟨reason, rfl⟩ := Definition.exists_of_sanitize_eq_error hclean
      exact absurd (Except.error.inj herror) nofun

/-- Storing values under a definition with properties. The values that are accepted are the objects
in which every field that is given for a property has the type that was declared first for it. They
are the values that conform to the published schema just if no property is declared again with
another type. A record that was stored consists of the fields that are not `null` and whose names
the schema lists. -/
theorem set_enforces_schema_iff (fs : FileSystem (StateM σ)) (store : Store) (s : σ) (name : String)
    (d : Definition) (hd : store.describe? name = some d) (hclosed : d.properties ≠ []) :
    (∀ value, Accepted fs store s name value ↔
      ∃ fields, value = .object fields ∧ Definition.Fits d.properties fields) ∧
    ((∀ value, Accepted fs store s name value ↔ d.schema.Conforms value) ↔
      ∀ property, d.properties.lookup property = d.properties.reverse.lookup property) ∧
    ∀ value, (outcome (set fs name value) store s).1.1 = .ok () →
      ∃ (fields record : Entries Json), value = .object fields ∧ record.Ordered ∧
        (outcome (set fs name value) store s).1.2.record? name = some (.object record) ∧
        ∀ property field, (property, field) ∈ record ↔
          (d.schema.listed? property).isSome = true ∧ Entries.get? fields property = some field ∧
            field ≠ .null := by
  have haccepted (value : Json) : Accepted fs store s name value ↔
      ∃ fields, value = .object fields ∧ Definition.Fits d.properties fields := by
    rw [accepted_iff fs hd, Definition.exists_sanitize_eq_ok_iff hclosed]
  refine ⟨haccepted, ?_, ?_⟩
  · rw [← Definition.fits_iff_fits_reverse]
    simp only [haccepted, Definition.conforms_schema_iff]
    constructor
    · intro h fields
      simpa using h (.object fields)
    · intro h value
      simp only [h]
  · intro value hok
    have hset := (outcome_set fs name value store s).2
    rw [hok] at hset
    obtain ⟨d', clean, hd', hclean, hrecords⟩ := hset
    obtain rfl := Option.some.inj (hd.symm.trans hd')
    obtain ⟨fields, record, rfl, rfl, hlets⟩ := Definition.sanitize_eq_ok_iff.mp hclean
    cases hlets with
    | all free => exact absurd free hclosed
    | declared _ ordered mem_iff _ =>
      refine ⟨fields, record, rfl, ordered, ?_, ?_⟩
      · rw [record?, hrecords, Entries.get?_insert, if_pos rfl]
      · intro property field
        rw [mem_iff, Definition.isSome_listed?_schema]

/-- A setting with a text and a number. -/
def labelled : Definition where
  name := "label"
  description := ""
  properties := [("text", .string), ("size", .number)]

/-- A store in memory with one definition. -/
def only (d : Definition) : Store where
  definitions := [(d.name, d)]

/-- The schema of a definition without repeated properties is enforced, and of a value the fields
that it lists are stored. -/
theorem set_enforces_schema_of_labelled :
    (only labelled).describe? labelled.name = some labelled ∧ labelled.properties ≠ [] ∧
    (∀ value, Accepted Disk.fileSystem (only labelled) {} labelled.name value ↔
      labelled.schema.Conforms value) ∧
    ∃ (fields record : Entries Json),
      Json.object [("more", .bool true), ("size", .null), ("text", .text "A")] = .object fields ∧
      record.Ordered ∧
      (outcome (set Disk.fileSystem labelled.name
        (.object [("more", .bool true), ("size", .null), ("text", .text "A")])) (only labelled)
        {}).1.2.record? labelled.name = some (.object record) ∧
      ∀ property field, (property, field) ∈ record ↔
        (labelled.schema.listed? property).isSome = true ∧
          Entries.get? fields property = some field ∧ field ≠ .null := by
  have hd : (only labelled).describe? labelled.name = some labelled := rfl
  have hclosed : labelled.properties ≠ [] := List.cons_ne_nil _ _
  obtain ⟨-, hiff, hrecord⟩ :=
    set_enforces_schema_iff Disk.fileSystem (only labelled) {} labelled.name labelled hd hclosed
  refine ⟨hd, hclosed, hiff.mpr ?_, hrecord _ rfl⟩
  intro property
  simp only [labelled, List.reverse_cons, List.reverse_nil, List.nil_append, List.singleton_append,
    List.lookup_cons]
  by_cases htext : property = "text"
  · subst htext
    rfl
  · simp only [beq_false_of_ne htext]

/-- A setting whose property is declared as a text and then again as an integer. -/
def redeclared : Definition where
  name := "x"
  description := ""
  properties := [("a", .string), ("a", .integer)]

/-- The schema states the later type and the earlier one is enforced: an integer conforms and is
refused. -/
theorem not_forall_schema_enforced :
    ¬ ∀ (d : Definition) (value : Json), d.properties ≠ [] →
      (Accepted Disk.fileSystem (only d) {} d.name value ↔ d.schema.Conforms value) := by
  intro h
  have hconforms : redeclared.schema.Conforms (.object [("a", .int 5)]) := by
    rw [Definition.conforms_schema_iff]
    refine ⟨_, rfl, ?_⟩
    intro property kind field hkind hfield
    obtain ⟨hget, -⟩ := Definition.givenField_eq_some_iff.mp hfield
    rw [Entries.get?_cons] at hget
    split at hget
    next hname =>
      subst hname
      obtain rfl := Option.some.inj hkind
      obtain rfl := Option.some.inj hget
      rfl
    · contradiction
  have hrefused : redeclared.sanitize (.object [("a", .int 5)]) =
      .error (redeclared.refusal "property 'a' must be string, got number") := rfl
  have haccepted := (h redeclared (.object [("a", .int 5)]) (List.cons_ne_nil _ _)).mpr hconforms
  obtain ⟨clean, hclean⟩ := (accepted_iff Disk.fileSystem rfl _ _).mp haccepted
  rw [hrefused] at hclean
  contradiction

end Store

end Responsive
