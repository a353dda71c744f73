import Mathlib.Data.List.Forall2
import Responsive.ErrorEnum.Print

/-!
# Constructors in generated code

The code that is generated for an enumeration of errors makes its variants from their sources and
from plain texts. Whether an item is expanded is decided by a look at the fields that matter, and
the constructors name just these: the source and the context, or the message and the context. So
they name exactly the fields that a variant declares if it declares no others, and if the variant
for errors without a source declares both; neither is asked of an item.

* `expand_enumeration_eq_ok_iff`: which enumerations are expanded, and into what.
* `Construction.Fits`: a constructor names the fields of a variant, each once.
* `expand_fits_iff`: when all constructors fit, which variants have one, and which of them take a
  context.
-/

set_option autoImplicit false
set_option relaxedAutoImplicit false

namespace Responsive.ErrorEnum

/-! ### What is asked of an item -/

/-- A field holds the source if it is called so or marked so. -/
def Field.MarksSource (f : Field) : Prop :=
  f.name = "source" ∨ ∃ a ∈ f.attributes, a.name? = some "source" ∨ a.name? = some "from"

theorem Field.isSource_iff {f : Field} : f.isSource = true ↔ f.MarksSource := by
  simp [isSource, MarksSource, Attribute.isNamed]

instance (f : Field) : Decidable f.MarksSource :=
  decidable_of_iff _ Field.isSource_iff

namespace Variant

/-- The fields that a variant declares. -/
def fields (v : Variant) : List Field :=
  match v.shape with
  | .named fields => fields
  | .unnamed => []

/-- The attributes under which a variant exists. -/
def conditions (v : Variant) : List Attribute :=
  v.attributes.filter (·.isNamed "cfg")

/-- The field with the source. -/
def source? (v : Variant) : Option Field :=
  v.fields.find? (decide <| ·.MarksSource)

/-- Some field is called as the context is. -/
def HasContext (v : Variant) : Prop :=
  ∃ f ∈ v.fields, f.name = "context"

instance (v : Variant) : Decidable v.HasContext :=
  inferInstanceAs (Decidable (∃ f ∈ v.fields, f.name = "context"))

/-- What is asked of every variant: its fields have names, and a context is an optional text. -/
structure Legible (v : Variant) : Prop where
  named : v.shape ≠ .unnamed
  contextType : ∀ f ∈ v.fields, f.name = "context" → isContextType f.type = true

/-- What a look at the variant finds. -/
def inspected (v : Variant) : ErrorVariant where
  name := v.name
  fields := v.fields
  conditions := v.conditions

@[simp] theorem source?_inspected (v : Variant) : v.inspected.source? = v.source? := by
  unfold ErrorVariant.source? source?
  congr 1
  funext f
  rw [← Bool.decide_coe f.isSource, decide_eq_decide, Field.isSource_iff]

@[simp] theorem hasContext_inspected (v : Variant) :
    v.inspected.hasContext = decide v.HasContext := by
  rw [← Bool.decide_coe v.inspected.hasContext, decide_eq_decide]
  simp [ErrorVariant.hasContext, HasContext, inspected, contextName]

theorem inspect_eq_ok_iff {v : Variant} {found : ErrorVariant} :
    inspect v = .ok found ↔ v.Legible ∧ found = v.inspected := by
  cases hshape : v.shape with
  | unnamed =>
    have hinspect : inspect v = .error .unnamedFields := by rw [inspect, hshape]
    rw [hinspect]
    exact iff_of_false nofun fun h ↦ h.1.named hshape
  | named fields =>
    have hfields : v.fields = fields := by rw [Variant.fields, hshape]
    have hcontext : (fields.any fun f ↦ f.name == contextName && !isContextType f.type) = true ↔
        ¬ ∀ f ∈ v.fields, f.name = "context" → isContextType f.type = true := by
      simp [hfields, contextName]
    have hinspect : inspect v =
        if fields.any fun f ↦ f.name == contextName && !isContextType f.type then
          .error .contextType
        else .ok v.inspected := by
      rw [inspect, hshape, inspected, hfields]
      rfl
    rw [hinspect]
    split
    next hfault => exact iff_of_false nofun fun h ↦ hcontext.mp hfault h.1.contextType
    next hfault =>
      have hlegible : v.Legible := ⟨hshape ▸ nofun, not_not.mp (mt hcontext.mpr hfault)⟩
      rw [Except.ok.injEq, eq_comm, and_iff_right hlegible]

/-- The look at all variants succeeds if each of them is as it should be. -/
theorem mapM_inspect_eq_ok_iff {variants : List Variant} {found : List ErrorVariant} :
    variants.mapM inspect = .ok found ↔
      (∀ v ∈ variants, v.Legible) ∧ found = variants.map inspected := by
  induction variants generalizing found with
  | nil =>
    rw [List.mapM_nil]
    simp [pure, Except.pure, eq_comm]
  | cons v variants ih =>
    rw [List.mapM_cons, List.forall_mem_cons, List.map_cons]
    cases hv : inspect v with
    | error r =>
      refine iff_of_false nofun fun h ↦ ?_
      rw [inspect_eq_ok_iff.mpr ⟨h.1.1, rfl⟩] at hv
      contradiction
    | ok first =>
      obtain ⟨hlegible, rfl⟩ := inspect_eq_ok_iff.mp hv
      rw [and_iff_right hlegible]
      cases hmore : variants.mapM inspect with
      | error r =>
        refine iff_of_false nofun fun h ↦ ?_
        rw [ih.mpr ⟨h.1, rfl⟩] at hmore
        contradiction
      | ok more =>
        obtain ⟨hall, rfl⟩ := ih.mp hmore
        rw [and_iff_right hall]
        change Except.ok (v.inspected :: variants.map inspected) = .ok found ↔ _
        rw [Except.ok.injEq, eq_comm]

end Variant

namespace Enumeration

/-- What is asked of an enumeration: variants with a source have a context, too. -/
structure Admissible (e : Enumeration) : Prop where
  legible : ∀ v ∈ e.variants, v.Legible
  sourceContext : ∀ v ∈ e.variants, v.source?.isSome → v.HasContext

/-- The variants that are made from their source, each with the field of it. -/
def sourced (e : Enumeration) : List (Variant × Field) :=
  (e.variants.filter (·.name != "Internal")).filterMap fun v ↦ v.source?.map (v, ·)

/-- The variant that is made from a text. -/
def fallback? (e : Enumeration) : Option Variant :=
  e.variants.find? (·.name == "Internal")

/-- The variants that generated code makes: each of them by two constructors. -/
def made (e : Enumeration) : List Variant :=
  e.sourced.flatMap (fun p ↦ [p.1, p.1]) ++ e.fallback?.toList.flatMap fun v ↦ [v, v]

end Enumeration

/-! ### What an item is expanded into -/

/-- An enumeration that is as it should be is expanded, and no other item is. -/
theorem expand_enumeration_eq_ok_iff {e : Enumeration} {ds : List Declaration} :
    expand (.enumeration e) = .ok ds ↔
      e.Admissible ∧ ds = declarations e (e.variants.map Variant.inspected) := by
  have horphan (found : List ErrorVariant) (hfound : found = e.variants.map Variant.inspected) :
      (found.any fun v ↦ v.source?.isSome && !v.hasContext) = true ↔
        ¬ ∀ v ∈ e.variants, v.source?.isSome → v.HasContext := by
    simp [hfound]
  cases hfound : e.variants.mapM inspect with
  | error r =>
    have hexpand : expand (.enumeration e) = .error r := by
      rw [expand, hfound]
      rfl
    rw [hexpand]
    refine iff_of_false nofun fun h ↦ ?_
    rw [Variant.mapM_inspect_eq_ok_iff.mpr ⟨h.1.legible, rfl⟩] at hfound
    contradiction
  | ok found =>
    obtain ⟨hlegible, hmap⟩ := Variant.mapM_inspect_eq_ok_iff.mp hfound
    have hexpand : expand (.enumeration e) =
        if found.any fun v ↦ v.source?.isSome && !v.hasContext then .error .missingContext
        else .ok (declarations e found) := by
      rw [expand, hfound]
      rfl
    rw [hexpand]
    split
    next h => exact iff_of_false nofun fun hok ↦ (horphan found hmap).mp h hok.1.sourceContext
    next h =>
      have hadmissible : e.Admissible := ⟨hlegible, not_not.mp (mt (horphan found hmap).mpr h)⟩
      rw [Except.ok.injEq, eq_comm, and_iff_right hadmissible, hmap]

theorem exists_expand_eq_ok_iff {item : Item} :
    (∃ ds, expand item = .ok ds) ↔ ∃ e, item = .enumeration e ∧ e.Admissible := by
  cases item with
  | other => exact iff_of_false nofun nofun
  | enumeration e =>
    constructor
    · rintro ⟨ds, hds⟩
      exact ⟨e, rfl, (expand_enumeration_eq_ok_iff.mp hds).1⟩
    · rintro ⟨e', hitem, he⟩
      obtain rfl := Item.enumeration.inj hitem
      exact ⟨_, expand_enumeration_eq_ok_iff.mpr ⟨he, rfl⟩⟩

instance (e : Enumeration) : Decidable e.Admissible :=
  decidable_of_iff ((expand (.enumeration e)).isOk = true) <| by
    cases h : expand (.enumeration e) with
    | ok ds => exact iff_of_true rfl (expand_enumeration_eq_ok_iff.mp h).1
    | error r =>
      refine iff_of_false nofun fun he ↦ ?_
      rw [expand_enumeration_eq_ok_iff.mpr ⟨he, rfl⟩] at h
      contradiction

/-- The declarations for a variant that is made from a field. -/
def conversions (name : String) (v : Variant) (f : Field) : List Declaration :=
  [.fromSource name v.conditions f ⟨v.name, [(f.name, .same), ("context", .nothing)]⟩,
    .contextOfSource name v.conditions f ⟨v.name, [(f.name, .same), ("context", .someContext)]⟩]

theorem sourceDeclarations_inspected (name : String) (v : Variant) :
    sourceDeclarations name v.inspected = v.source?.toList.flatMap (conversions name v) := by
  rw [sourceDeclarations, Variant.source?_inspected]
  cases v.source? <;> rfl

/-- The declarations by the variants that they are made for. -/
theorem declarations_eq (e : Enumeration) :
    declarations e (e.variants.map Variant.inspected) =
      [.definition (missingDerivations e) e, .contextTrait e.name,
        .contextOfError e.name
          ((e.variants.filter (decide <| ·.HasContext)).map fun v ↦ (v.conditions, v.name))] ++
      e.sourced.flatMap (fun p ↦ conversions e.name p.1 p.2) ++
      e.fallback?.toList.flatMap (fun v ↦ internalDeclarations e.name v.inspected) ++
      [.formatter] := by
  have harms : ((e.variants.map Variant.inspected).filter (·.hasContext)).map
        (fun v ↦ (v.conditions, v.name)) =
      (e.variants.filter (decide <| ·.HasContext)).map fun v ↦ (v.conditions, v.name) := by
    simp only [List.filter_map, List.map_map, Function.comp_def, Variant.hasContext_inspected]
    rfl
  have hsources : ((e.variants.map Variant.inspected).filter (!·.isInternal)).flatMap
        (sourceDeclarations e.name) =
      e.sourced.flatMap fun p ↦ conversions e.name p.1 p.2 := by
    rw [List.filter_map, List.flatMap_map, Enumeration.sourced, List.filterMap_eq_flatMap_toList,
      List.flatMap_assoc]
    refine congrArg (List.flatMap · _) (funext fun v ↦ ?_)
    rw [sourceDeclarations_inspected]
    cases v.source? <;> rfl
  have hfallback : (((e.variants.map Variant.inspected).find? (·.isInternal)).map
        (internalDeclarations e.name)).getD [] =
      e.fallback?.toList.flatMap fun v ↦ internalDeclarations e.name v.inspected := by
    rw [List.find?_map]
    change (((e.fallback?).map Variant.inspected).map (internalDeclarations e.name)).getD [] = _
    cases e.fallback? with
    | none => rfl
    | some v => exact (List.append_nil _).symm
  rw [declarations, harms, hsources, hfallback]

/-! ### What declarations mention -/

namespace Declaration

/-- The constructor that generated code applies. -/
def construction? : Declaration → Option Construction
  | fromSource _ _ _ made | contextOfSource _ _ _ made | fromMessage _ _ _ made => some made
  | _ => none

/-- The enumeration, the conditions, the source and the variant of a conversion from a source, with
a context or without. -/
def fromSource? (addsContext : Bool) :
    Declaration → Option (String × List Attribute × Field × String)
  | fromSource name conditions source made =>
    if addsContext then none else some (name, conditions, source, made.variant)
  | contextOfSource name conditions source made =>
    if addsContext then some (name, conditions, source, made.variant) else none
  | _ => none

/-- The enumeration, the conditions and the variant of a conversion from a text, borrowed or
owned. -/
def fromMessage? : Declaration → Option (String × List Attribute × Bool × String)
  | fromMessage name conditions owned made => some (name, conditions, owned, made.variant)
  | _ => none

/-- The enumeration whose errors are given another context, and the variants that take one. -/
def contextOfError? : Declaration → Option (String × List (List Attribute × String))
  | contextOfError name arms => some (name, arms)
  | _ => none

end Declaration

section Declarations

variable (e : Enumeration)

/-- What the declarations mention is what is mentioned for each variant. -/
theorem filterMap_declarations {α : Type} (f : Declaration → Option α) :
    (declarations e (e.variants.map Variant.inspected)).filterMap f =
      [.definition (missingDerivations e) e, .contextTrait e.name,
        .contextOfError e.name ((e.variants.filter (decide <| ·.HasContext)).map
          fun v ↦ (v.conditions, v.name))].filterMap f ++
      e.sourced.flatMap (fun p ↦ (conversions e.name p.1 p.2).filterMap f) ++
      e.fallback?.toList.flatMap
        (fun v ↦ (internalDeclarations e.name v.inspected).filterMap f) ++
      [Declaration.formatter].filterMap f := by
  rw [declarations_eq]
  simp only [List.filterMap_append, List.filterMap_flatMap]

theorem filterMap_contextOfError? :
    (declarations e (e.variants.map Variant.inspected)).filterMap Declaration.contextOfError? =
      [(e.name, (e.variants.filter (decide <| ·.HasContext)).map
        fun v ↦ (v.conditions, v.name))] := by
  rw [filterMap_declarations]
  simp [conversions, internalDeclarations, Declaration.contextOfError?, List.filterMap_cons]

theorem filterMap_fromSource? (addsContext : Bool) :
    (declarations e (e.variants.map Variant.inspected)).filterMap
        (Declaration.fromSource? addsContext) =
      e.sourced.map fun p ↦ (e.name, p.1.conditions, p.2, p.1.name) := by
  rw [filterMap_declarations]
  cases addsContext <;> cases e.fallback? <;>
    simp [conversions, internalDeclarations, Declaration.fromSource?, List.filterMap_cons,
      ← List.map_eq_flatMap]

theorem filterMap_fromMessage? :
    (declarations e (e.variants.map Variant.inspected)).filterMap Declaration.fromMessage? =
      e.fallback?.toList.flatMap fun v ↦
        [(e.name, v.conditions, false, "Internal"), (e.name, v.conditions, true, "Internal")] := by
  have hnone : e.sourced.flatMap (fun p ↦
      (conversions e.name p.1 p.2).filterMap Declaration.fromMessage?) = [] :=
    List.flatMap_eq_nil_iff.mpr fun _ _ ↦ rfl
  rw [filterMap_declarations, hnone]
  exact List.append_nil _

/-- The constructors with the variants that they make. -/
def makings : List (Construction × Variant) :=
  e.sourced.flatMap (fun p ↦
    ((conversions e.name p.1 p.2).filterMap Declaration.construction?).map (·, p.1)) ++
  e.fallback?.toList.flatMap fun v ↦
    ((internalDeclarations e.name v.inspected).filterMap Declaration.construction?).map (·, v)

theorem filterMap_construction? :
    (declarations e (e.variants.map Variant.inspected)).filterMap Declaration.construction? =
      (makings e).map Prod.fst := by
  have hfst {v : Variant} (l : List Construction) : (l.map (·, v)).map Prod.fst = l := by
    rw [List.map_map]
    exact List.map_id l
  rw [filterMap_declarations, makings, List.map_append, List.map_flatMap, List.map_flatMap]
  simp only [hfst]
  exact List.append_nil _

theorem made_eq : e.made = (makings e).map Prod.snd := by
  rw [Enumeration.made, makings, List.map_append, List.map_flatMap, List.map_flatMap]
  rfl

end Declarations

/-! ### Constructors that fit -/

/-- The name of a field as an identifier, for which the mark of a raw word does not matter. -/
def Field.identifier (f : Field) : String :=
  plainName f.name

namespace Variant

/-- The names are those of the fields that a variant declares, each of them once. -/
def SpelledBy (v : Variant) (names : List String) : Prop :=
  (names.map plainName).Nodup ∧
    ∀ name, name ∈ names.map plainName ↔ name ∈ v.fields.map Field.identifier

/-- Besides the field with its source, the variant declares a context and nothing else. -/
def DeclaresJust (v : Variant) (source : Field) : Prop :=
  source.identifier ≠ "context" ∧
    ∀ f ∈ v.fields, f.identifier = source.identifier ∨ f.identifier = "context"

/-- The variant declares a message and a context and nothing else. -/
def DeclaresMessage (v : Variant) : Prop :=
  "message" ∈ v.fields.map Field.identifier ∧ "context" ∈ v.fields.map Field.identifier ∧
    ∀ f ∈ v.fields, f.identifier = "message" ∨ f.identifier = "context"

instance (v : Variant) (source : Field) : Decidable (v.DeclaresJust source) :=
  inferInstanceAs (Decidable (_ ∧ _))

instance (v : Variant) : Decidable v.DeclaresMessage :=
  inferInstanceAs (Decidable (_ ∧ _ ∧ _))

/-- Two names spell a variant that declares both fields and no others. -/
theorem spelledBy_pair_iff {v : Variant} {a b : String} : v.SpelledBy [a, b] ↔
    plainName a ≠ plainName b ∧ plainName a ∈ v.fields.map Field.identifier ∧
      plainName b ∈ v.fields.map Field.identifier ∧
      ∀ f ∈ v.fields, f.identifier = plainName a ∨ f.identifier = plainName b := by
  have hnodup : ([a, b].map plainName).Nodup ↔ plainName a ≠ plainName b := by simp
  rw [SpelledBy, hnodup]
  refine and_congr_right fun _ ↦ ?_
  constructor
  · intro h
    refine ⟨(h _).mp (by simp), (h _).mp (by simp), fun f hf ↦ ?_⟩
    simpa using (h f.identifier).mpr (List.mem_map_of_mem hf)
  · rintro ⟨ha, hb, hall⟩ name
    constructor
    · intro hname
      rcases List.mem_pair.mp hname with rfl | rfl
      · exact ha
      · exact hb
    · intro hname
      obtain ⟨f, hf, rfl⟩ := List.mem_map.mp hname
      exact List.mem_pair.mpr (hall f hf)

theorem spelledBy_message_iff {v : Variant} :
    v.SpelledBy ["message", "context"] ↔ v.DeclaresMessage := by
  rw [spelledBy_pair_iff]
  exact and_iff_right (by decide)

end Variant

/-- The variants that generated code makes declare what its constructors name and nothing else. -/
structure Enumeration.Regular (e : Enumeration) : Prop where
  sourced : ∀ p ∈ e.sourced, p.1.DeclaresJust p.2
  fallback : ∀ v ∈ e.fallback?, v.DeclaresMessage

theorem Enumeration.regular_iff (e : Enumeration) : e.Regular ↔
    (∀ p ∈ e.sourced, p.1.DeclaresJust p.2) ∧ ∀ v ∈ e.fallback?, v.DeclaresMessage :=
  ⟨fun h ↦ ⟨h.sourced, h.fallback⟩, fun h ↦ ⟨h.1, h.2⟩⟩

instance (e : Enumeration) : Decidable e.Regular :=
  decidable_of_iff' _ e.regular_iff

/-- A constructor makes the variant, and names exactly the fields that it declares, each once. -/
def Construction.Fits (c : Construction) (v : Variant) : Prop :=
  c.variant = v.name ∧ v.SpelledBy (c.fields.map Prod.fst)

section Fits

variable {e : Enumeration} {p : Variant × Field} {v : Variant}

theorem mem_sourced_iff : p ∈ e.sourced ↔
    p.1 ∈ e.variants ∧ p.1.name ≠ "Internal" ∧ p.1.source? = some p.2 := by
  obtain ⟨v, f⟩ := p
  simp [Enumeration.sourced, and_assoc]

theorem forall₂_fits_iff :
    List.Forall₂ Construction.Fits
        ((declarations e (e.variants.map Variant.inspected)).filterMap Declaration.construction?)
        e.made ↔
      (∀ p ∈ e.sourced, p.1.SpelledBy [p.2.name, "context"]) ∧
        ∀ v ∈ e.fallback?, v.SpelledBy ["message", "context"] := by
  rw [filterMap_construction?, made_eq, List.forall₂_map_left_iff, List.forall₂_map_right_iff,
    List.forall₂_same, makings, List.forall_mem_append, List.forall_mem_flatMap,
    List.forall_mem_flatMap]
  refine and_congr (forall₂_congr fun p _ ↦ ?_) ?_
  · simp [conversions, Declaration.construction?, Construction.Fits]
  · simp only [Option.mem_toList]
    refine forall₂_congr fun v hv ↦ ?_
    have hname : v.name = "Internal" := by simpa using List.find?_some hv
    simp [internalDeclarations, Declaration.construction?, Construction.Fits, hname,
      internalName, contextName]

/-- An admissible variant declares its source and a context in any case. -/
theorem spelledBy_source_iff (he : e.Admissible) (hp : p ∈ e.sourced) :
    p.1.SpelledBy [p.2.name, "context"] ↔ p.1.DeclaresJust p.2 := by
  obtain ⟨hmem, -, hsource⟩ := mem_sourced_iff.mp hp
  have hfield : p.2.identifier ∈ p.1.fields.map Field.identifier :=
    List.mem_map_of_mem (List.mem_of_find?_eq_some hsource)
  have hcontext : "context" ∈ p.1.fields.map Field.identifier := by
    obtain ⟨f, hf, hname⟩ := he.sourceContext p.1 hmem (hsource ▸ rfl)
    refine List.mem_map.mpr ⟨f, hf, ?_⟩
    rw [Field.identifier, hname]
    rfl
  rw [Variant.spelledBy_pair_iff]
  exact and_congr_right fun _ ↦ (and_iff_right hfield).trans (and_iff_right hcontext)

/-- The constructors of an expansion fit the variants that they make just if these are regular. -/
theorem fits_iff_regular {ds : List Declaration} (hds : expand (.enumeration e) = .ok ds) :
    List.Forall₂ Construction.Fits (ds.filterMap Declaration.construction?) e.made ↔
      e.Regular := by
  obtain ⟨he, rfl⟩ := expand_enumeration_eq_ok_iff.mp hds
  rw [forall₂_fits_iff, e.regular_iff]
  exact and_congr (forall₂_congr fun p hp ↦ spelledBy_source_iff he hp)
    (forall₂_congr fun v _ ↦ Variant.spelledBy_message_iff)

end Fits

/-- An item is expanded just if it is an enumeration whose fields have names, whose contexts are
optional texts and whose variants with a source have a context. Of the constructors in the code, two
for each variant that is made from a source and two for the one that is made from a text, all name
exactly the fields of their variant, each once, just if the former declare their source, a context
and nothing else, and the latter a message, a context and nothing else. Another context is given to
the variants that have one. There is one conversion from the source, and one that adds a context,
for each variant with a source but those called `Internal`, in their order, and for no other
variant; and two conversions from a text for the first that is called so. -/
theorem expand_fits_iff (item : Item) :
    ((∃ ds, expand item = .ok ds) ↔ ∃ e, item = .enumeration e ∧ e.Admissible) ∧
      ∀ e ds, item = .enumeration e → expand item = .ok ds →
        (List.Forall₂ Construction.Fits (ds.filterMap Declaration.construction?) e.made ↔
          e.Regular) ∧
        ds.filterMap Declaration.contextOfError? =
          [(e.name, (e.variants.filter (decide <| ·.HasContext)).map
            fun v ↦ (v.conditions, v.name))] ∧
        (∀ addsContext, ds.filterMap (Declaration.fromSource? addsContext) =
          e.sourced.map fun p ↦ (e.name, p.1.conditions, p.2, p.1.name)) ∧
        ds.filterMap Declaration.fromMessage? =
          e.fallback?.toList.flatMap fun v ↦ [(e.name, v.conditions, false, "Internal"),
            (e.name, v.conditions, true, "Internal")] := by
  refine ⟨exists_expand_eq_ok_iff, ?_⟩
  rintro e ds rfl hds
  refine ⟨fits_iff_regular hds, ?_⟩
  obtain ⟨-, rfl⟩ := expand_enumeration_eq_ok_iff.mp hds
  exact ⟨filterMap_contextOfError? e, filterMap_fromSource? e, filterMap_fromMessage? e⟩

/-! ### Items from texts -/

/-- The enumeration that a text declares. -/
def Enumeration.ofText? (text : String) : Option Enumeration :=
  (Item.ofText? text).bind fun
    | .enumeration e => some e
    | .other => none

/-- What is computed of a declared enumeration that is expanded. -/
theorem exists_of_any_ofText? {text : String} {property : Enumeration → Bool}
    (h : (Enumeration.ofText? text).any
      (fun e ↦ decide e.Admissible && property e) = true) :
    ∃ e ds, Item.ofText? text = some (.enumeration e) ∧ expand (.enumeration e) = .ok ds ∧
      property e = true := by
  unfold Enumeration.ofText? at h
  cases hitem : Item.ofText? text with
  | none => simp [hitem] at h
  | some item =>
    cases item with
    | other => simp [hitem] at h
    | enumeration e =>
      rw [hitem, Option.bind_some, Option.any_some, Bool.and_eq_true_iff, decide_eq_true_iff] at h
      obtain ⟨ds, hds⟩ := exists_expand_eq_ok_iff.mpr ⟨e, rfl, h.1⟩
      exact ⟨e, ds, rfl, hds, h.2⟩

/-- A variant that exists under a condition and whose source is marked, one that generated code does
not make, and one for plain texts. -/
def markedText : String :=
  "enum E \x7b #[cfg(unix)] Io \x7b " ++
    "#[from] cause: Error, context: Option<Cow<'static, str>> \x7d, " ++
    "Other \x7b reason: String, code: u8 \x7d, " ++
    "Internal \x7b context: Option<Cow<'static, str>>, r#message: Cow<'static, str> \x7d \x7d"

/-- All constructors fit. -/
theorem expand_fits_of_marked :
    ∃ e ds, Item.ofText? markedText = some (.enumeration e) ∧ expand (.enumeration e) = .ok ds ∧
      e.made.map (·.name) = ["Io", "Io", "Internal", "Internal"] ∧
      List.Forall₂ Construction.Fits (ds.filterMap Declaration.construction?) e.made := by
  have hmarked : (Enumeration.ofText? markedText).any (fun e ↦ decide e.Admissible &&
      decide (e.made.map (·.name) = ["Io", "Io", "Internal", "Internal"] ∧ e.Regular)) = true := by
    decide +kernel
  obtain ⟨e, ds, hitem, hds, hproperty⟩ := exists_of_any_ofText? hmarked
  obtain ⟨hmade, hregular⟩ := of_decide_eq_true hproperty
  exact ⟨e, ds, hitem, hds, hmade,
    ((expand_fits_iff (.enumeration e)).2 e ds rfl hds).1.mpr hregular⟩

/-- A variant for plain texts without a context. -/
def loneMessageText : String :=
  "enum E \x7b Internal \x7b message: Cow<'static, str> \x7d \x7d"

/-- A variant with a source and one more field. -/
def pathText : String :=
  "enum E \x7b Io \x7b source: Error, path: PathBuf, context: Option<Cow<'static, str>> \x7d \x7d"

/-- Both are expanded, and not all constructors fit: a context is named that is not declared, and a
declared path is left out. -/
theorem not_fits_of_lone_message_or_path :
    (∃ e ds, Item.ofText? loneMessageText = some (.enumeration e) ∧
      expand (.enumeration e) = .ok ds ∧
      ¬ List.Forall₂ Construction.Fits (ds.filterMap Declaration.construction?) e.made) ∧
    ∃ e ds, Item.ofText? pathText = some (.enumeration e) ∧ expand (.enumeration e) = .ok ds ∧
      ¬ List.Forall₂ Construction.Fits (ds.filterMap Declaration.construction?) e.made := by
  have hfails {text : String} (h : (Enumeration.ofText? text).any
      (fun e ↦ decide e.Admissible && decide ¬ e.Regular) = true) :
      ∃ e ds, Item.ofText? text = some (.enumeration e) ∧ expand (.enumeration e) = .ok ds ∧
        ¬ List.Forall₂ Construction.Fits (ds.filterMap Declaration.construction?) e.made := by
    obtain ⟨e, ds, hitem, hds, hproperty⟩ := exists_of_any_ofText? h
    exact ⟨e, ds, hitem, hds, mt (fits_iff_regular hds).mp (of_decide_eq_true hproperty)⟩
  exact ⟨hfails (by decide +kernel), hfails (by decide +kernel)⟩

end Responsive.ErrorEnum
