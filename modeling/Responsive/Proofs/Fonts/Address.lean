import Responsive.Fonts.Family
import Responsive.Proofs.Text.Digit
import Responsive.Proofs.Text.Split

/-!
# What an address asks for

An address is read like this: what follows the first question mark is split at `&` into parameters,
the value of the parameter `family` is split at the separator into entries, and the name of an entry
is what stands before its first colon, with a space for every plus sign.

Names are put into an address as they are, but for their spaces. So the address asks for the names
that it was made from, and for nothing else, just if no name holds a character or a word that the
reader takes for its own: `&`, `:`, `+` or `%7C`.

* `hasShape_iff`: which names an address lets be read.
* `named_eq_of_hasShape`: an address that is read stands for one list of names.
* `stylesheetUrl?_hasShape_iff`: both, and when there is an address.
-/

set_option autoImplicit false
set_option relaxedAutoImplicit false

namespace Responsive.Fonts

open Text

/-! ### Reading an address -/

/-- The names that are requested: the trimmed ones, without those that are blank. -/
def named (families : List String) : List String :=
  (families.map trimmed).filter (· ≠ "")

/-- The parameters of an address. -/
def parameters (url : String) : List (List Char) :=
  match cutAt? ['?'] url.toList with
  | none => []
  | some (_, query) => split ['&'] query

/-- The name that an entry stands for. -/
def entryName (entry : List Char) : List Char :=
  (entry.takeWhile (· ≠ ':')).map fun c ↦ if c = '+' then ' ' else c

/-- The parameter for the subset of a locale, if it has one. -/
def subsetParameters (locale : Option String) : List (List Char) :=
  (locale.bind subset?).toList.map fun subset ↦ "subset=".toList ++ subset.toList

/-- An address has the parameters of a request and no others, and its entries stand for the
names. -/
def HasShape (families : List String) (locale : Option String) (url : String) : Prop :=
  ∃ value, parameters url =
      ("family=".toList ++ value) :: "display=swap".toList :: subsetParameters locale ∧
    (split familySeparator.toList value).map entryName = (named families).map String.toList

/-- Nothing in a name is taken for a part of the address. -/
def IsHarmless (name : String) : Prop :=
  '&' ∉ name.toList ∧ ':' ∉ name.toList ∧ '+' ∉ name.toList ∧
    ¬ familySeparator.toList <:+: name.toList

instance : DecidablePred IsHarmless := fun _ ↦ inferInstanceAs (Decidable (_ ∧ _ ∧ _ ∧ _))

/-- An address that is read stands for one list of names. -/
theorem named_eq_of_hasShape {families others : List String} {locale : Option String} {url : String}
    (h : HasShape families locale url) (h' : HasShape others locale url) :
    named families = named others := by
  obtain ⟨value, hparameters, hnames⟩ := h
  obtain ⟨value', hparameters', hnames'⟩ := h'
  have hvalue : value = value' :=
    List.append_cancel_left (List.cons.inj (hparameters.symm.trans hparameters')).1
  subst hvalue
  exact List.map_injective_iff.mpr (fun _ _ ↦ String.toList_inj.mp) (hnames.symm.trans hnames')

/-! ### Entries -/

/-- How a character of a name is written. -/
def writtenChar (c : Char) : Char :=
  if c = ' ' then '+' else c

/-- A name as it is written in an address. -/
def entry (name : String) : List Char :=
  name.toList.map writtenChar ++ ':' :: weights.toList

theorem replaceAll_space (s : List Char) : replaceAll [' '] ['+'] s = s.map writtenChar := by
  induction s with
  | nil => simp [replaceAll]
  | cons c s ih =>
    by_cases hc : c = ' '
    · subst hc
      have hword : replaceAll [' '] ['+'] (' ' :: s) = '+' :: replaceAll [' '] ['+'] s :=
        replaceAll_word_append (List.cons_ne_nil _ _) s
      rw [hword, ih]
      rfl
    · have hstrip : stripLead? [' '] (c :: s) = none := by simp [stripLead?, Ne.symm hc]
      rw [replaceAll_cons_of_stripLead? (by simp) hstrip, ih, List.map_cons, writtenChar, if_neg hc]

theorem toList_familyQuery (family : String) :
    (familyQuery family).toList = entry (trimmed family) := by
  rw [familyQuery, replaceAll_space, entry, toList_trimmed]
  simp

theorem writtenChar_eq_iff {c d : Char} (hd : d ≠ ' ') (hplus : d ≠ '+') :
    writtenChar c = d ↔ c = d := by
  unfold writtenChar
  split
  next hc =>
    subst hc
    exact ⟨fun h ↦ absurd h.symm hplus, fun h ↦ absurd h.symm hd⟩
  next => rfl

theorem mem_map_writtenChar_iff {s : List Char} {d : Char} (hd : d ≠ ' ') (hplus : d ≠ '+') :
    d ∈ s.map writtenChar ↔ d ∈ s := by
  rw [List.mem_map]
  constructor
  · rintro ⟨c, hc, hwritten⟩
    rwa [← (writtenChar_eq_iff hd hplus).mp hwritten]
  · intro h
    exact ⟨d, h, (writtenChar_eq_iff hd hplus).mpr rfl⟩

theorem map_writtenChar_eq_self {s : List Char} (h : ∀ c ∈ s, c ≠ ' ') : s.map writtenChar = s :=
  (List.map_inj_left.mpr fun c hc ↦ if_neg (h c hc)).trans (List.map_id s)

/-- The weights hold nothing that a reader takes for the end of an entry or of a parameter. -/
theorem not_mem_weights {c : Char} (hletter : c.isAlphanum = false) (hcomma : c ≠ ',')
    (hcolon : c ≠ ':') : c ∉ ':' :: weights.toList := by
  have hall : (weights.toList.all fun d ↦ d.isAlphanum || d == ',') = true := by decide +kernel
  rw [List.mem_cons, not_or]
  refine ⟨hcolon, fun hmem ↦ ?_⟩
  have hc := List.all_eq_true.mp hall c hmem
  rw [hletter, Bool.false_or, beq_iff_eq] at hc
  exact hcomma hc

/-- A written name is cut off just if it holds a colon. -/
theorem takeWhile_map_writtenChar_iff {s : List Char} :
    (s.map writtenChar).takeWhile (· ≠ ':') = s.map writtenChar ↔ ':' ∉ s := by
  rw [List.takeWhile_eq_self_iff, ← mem_map_writtenChar_iff (by decide) (by decide)]
  constructor
  · intro h hmem
    simpa using h ':' hmem
  · exact fun h c hc ↦ decide_eq_true fun hcolon ↦ h (hcolon ▸ hc)

/-- The name of an entry is read back just if it holds no colon and no plus sign. -/
theorem entryName_entry_iff {name : String} :
    entryName (entry name) = name.toList ↔ ':' ∉ name.toList ∧ '+' ∉ name.toList := by
  have hcolon : ∀ c ∈ (':' :: weights.toList).head?, (decide (c ≠ ':')) = false := by simp
  have hread (c : Char) : (if writtenChar c = '+' then ' ' else writtenChar c) = c ↔ c ≠ '+' := by
    unfold writtenChar
    by_cases hc : c = ' '
    · simp [hc]
    · by_cases hplus : c = '+' <;> simp [hc, hplus]
  rw [entryName, entry, takeWhile_append_of_head? hcolon]
  constructor
  · intro h
    -- Nothing is cut off, since the name keeps its length.
    have hlength := congrArg List.length h
    have hsame : (name.toList.map writtenChar).takeWhile (· ≠ ':') =
        name.toList.map writtenChar := by
      refine (List.takeWhile_prefix _).eq_of_length ?_
      simpa using hlength
    rw [hsame, List.map_map] at h
    have hall := List.map_inj_left.mp (h.trans (List.map_id _).symm)
    exact ⟨takeWhile_map_writtenChar_iff.mp hsame, fun hmem ↦ (hread '+').mp (hall '+' hmem) rfl⟩
  · rintro ⟨hcolon, hplus⟩
    rw [takeWhile_map_writtenChar_iff.mpr hcolon, List.map_map]
    refine Eq.trans (List.map_inj_left.mpr fun c hc ↦ (hread c).mpr ?_) (List.map_id _)
    rintro rfl
    exact hplus hc

/-- The separator occurs in an entry just if it occurs in the name. -/
theorem isInfix_entry_iff {name : String} :
    familySeparator.toList <:+: entry name ↔ familySeparator.toList <:+: name.toList := by
  have hseparates : Separates familySeparator.toList (':' :: weights.toList) := by
    rw [separates_cons]
    decide
  have hweights : ¬ familySeparator.toList <:+: ':' :: weights.toList := by
    intro hoccurs
    have hpercent : '%' ∈ familySeparator.toList := by decide
    exact not_mem_weights (by decide) (by decide) (by decide) (hoccurs.subset hpercent)
  have hword : ∀ d ∈ familySeparator.toList, d ≠ ' ' ∧ d ≠ '+' := by
    simp [familySeparator]
  rw [entry, isInfix_append_iff (by decide) hseparates, or_iff_left hweights, List.infix_map_iff]
  constructor
  · rintro ⟨s, hs, hwritten⟩
    have hsame : s.map writtenChar = s := by
      refine map_writtenChar_eq_self fun c hc ↦ ?_
      rintro rfl
      have hmem : writtenChar ' ' ∈ familySeparator.toList := hwritten ▸ List.mem_map_of_mem hc
      exact (hword _ hmem).2 rfl
    rwa [hwritten, hsame]
  · intro h
    exact ⟨_, h, (map_writtenChar_eq_self fun c hc ↦ (hword c hc).1).symm⟩

theorem mem_entry_iff {name : String} : '&' ∈ entry name ↔ '&' ∈ name.toList := by
  have hweights : '&' ∉ ':' :: weights.toList :=
    not_mem_weights (by decide) (by decide) (by decide)
  rw [entry, List.mem_append, or_iff_left hweights,
    mem_map_writtenChar_iff (by decide) (by decide)]

/-! ### Addresses -/

/-- The value of the parameter for the families. -/
def familyValue (families : List String) : List Char :=
  familySeparator.toList.intercalate ((named families).map entry)

variable {families : List String} {locale : Option String} {url : String}

theorem map_familyQuery_filter (families : List String) :
    ((families.filter fun family ↦ !(trim family.toList).isEmpty).map familyQuery).map
      String.toList = (named families).map entry := by
  have hblank (family : String) :
      (!(trim family.toList).isEmpty) = decide (trimmed family ≠ "") := by
    rw [Bool.eq_iff_iff, decide_eq_true_eq, ne_eq, ← String.toList_inj, toList_trimmed]
    simp
  simp only [named, List.filter_map, List.map_map, hblank, Function.comp_def, toList_familyQuery]

/-- There is an address unless all names are blank. -/
theorem stylesheetUrl?_eq_none_iff :
    stylesheetUrl? families locale = none ↔ named families = [] := by
  have hnamed := congrArg (·.isEmpty) (map_familyQuery_filter families)
  simp only [List.isEmpty_map] at hnamed
  rw [stylesheetUrl?, ← List.isEmpty_iff, ← hnamed]
  split <;> simp_all

theorem toList_of_stylesheetUrl?_eq_some (h : stylesheetUrl? families locale = some url) :
    url.toList = baseUrl.toList ++ '?' :: ("family=".toList ++ familyValue families ++
      '&' :: ("display=swap".toList ++ (subsetParameters locale).flatMap ('&' :: ·))) := by
  rw [stylesheetUrl?] at h
  dsimp only at h
  split at h
  · contradiction
  · obtain rfl := Option.some.inj h
    rw [familyValue, ← map_familyQuery_filter, ← String.toList_intercalate]
    cases hsubset : locale.bind subset? <;> simp [subsetParameters, hsubset]

theorem not_mem_of_subset?_eq_some {subset : String} (h : locale.bind subset? = some subset) :
    '&' ∉ subset.toList := by
  obtain ⟨locale, -, h⟩ := Option.bind_eq_some_iff.mp h
  unfold subset? at h
  repeat' split at h
  all_goals
    first
    | contradiction
    | obtain rfl := Option.some.inj h
      decide

/-- What is split off an address: the family value, which may fall apart itself, and the rest. -/
theorem parameters_of_stylesheetUrl?_eq_some (h : stylesheetUrl? families locale = some url) :
    parameters url = split ['&'] ("family=".toList ++ familyValue families) ++
      "display=swap".toList :: subsetParameters locale := by
  have hbase : cutAt? ['?'] baseUrl.toList = none := by decide +kernel
  have hself : Separates ['&'] ['&'] := by simp
  have hsplit (a b : List Char) : split ['&'] (a ++ '&' :: b) = split ['&'] a ++ split ['&'] b := by
    have := split_append_word_append (List.cons_ne_nil _ _) hself a b
    rwa [List.append_assoc, List.singleton_append] at this
  have hwhole {s : List Char} (hs : '&' ∉ s) : split ['&'] s = [s] :=
    split_of_not_isInfix fun hoccurs ↦ hs (hoccurs.subset (List.mem_singleton_self _))
  have hrest : split ['&'] ("display=swap".toList ++ (subsetParameters locale).flatMap ('&' :: ·)) =
      "display=swap".toList :: subsetParameters locale := by
    unfold subsetParameters
    cases hsubset : locale.bind subset? with
    | none => exact hwhole (by decide)
    | some subset =>
      have hname : '&' ∉ "subset=".toList ++ subset.toList := by
        rw [List.mem_append, not_or]
        exact ⟨by decide, not_mem_of_subset?_eq_some hsubset⟩
      simp only [Option.toList_some, List.map_cons, List.map_nil, List.flatMap_cons,
        List.flatMap_nil, List.append_nil]
      rw [hsplit, hwhole hname, hwhole (by decide)]
      rfl
  rw [parameters, toList_of_stylesheetUrl?_eq_some h,
    cutAt?_append (List.cons_ne_nil _ _) (by simp), hbase]
  rw [← List.singleton_append, cutAt?_word_append (List.cons_ne_nil _ _)]
  dsimp only [Option.map_some]
  rw [hsplit, hrest]

/-- The family value holds an ampersand just if one of the names does. -/
theorem isInfix_familyValue_iff : ['&'] <:+: "family=".toList ++ familyValue families ↔
    ∃ name ∈ named families, '&' ∈ name.toList := by
  rw [List.singleton_infix_iff, List.mem_append, or_iff_right (by decide), familyValue,
    mem_intercalate_iff (by decide)]
  simp [mem_entry_iff]

/-- The entries give the names back just if each of them is whole and the name of each is read. -/
theorem map_entryName_familyValue_iff (hnamed : named families ≠ []) :
    (split familySeparator.toList (familyValue families)).map entryName =
        (named families).map String.toList ↔
      ∀ name ∈ named families, ':' ∉ name.toList ∧ '+' ∉ name.toList ∧
        ¬ familySeparator.toList <:+: name.toList := by
  have hseparator : familySeparator.toList ≠ [] := by decide
  have hself : Separates familySeparator.toList familySeparator.toList := by
    have hword : familySeparator.toList = ['%', '7', 'C'] := by decide
    rw [hword, separates_cons]
    decide
  have hvalue : split familySeparator.toList (familyValue families) =
      ((named families).map entry).flatMap (split familySeparator.toList) :=
    split_intercalate hseparator hself (mt List.map_eq_nil_iff.mp hnamed)
  have hwhole : (∀ piece ∈ (named families).map entry, ¬ familySeparator.toList <:+: piece) ↔
      ∀ name ∈ named families, ¬ familySeparator.toList <:+: name.toList := by
    simp only [List.forall_mem_map, isInfix_entry_iff]
  have hread : ((named families).map entry).map entryName = (named families).map String.toList ↔
      ∀ name ∈ named families, ':' ∉ name.toList ∧ '+' ∉ name.toList := by
    rw [List.map_map, List.map_inj_left]
    exact forall₂_congr fun _ _ ↦ entryName_entry_iff
  rw [hvalue]
  constructor
  · intro h
    -- The entries are as many as the names, so none of them fell apart.
    have hentries : ∀ piece ∈ (named families).map entry, ¬ familySeparator.toList <:+: piece := by
      rw [← length_flatMap_split_eq_iff hseparator]
      simpa using congrArg List.length h
    rw [flatMap_split_eq_self hentries] at h
    intro name hname
    obtain ⟨hcolon, hplus⟩ := hread.mp h name hname
    exact ⟨hcolon, hplus, hwhole.mp hentries name hname⟩
  · intro h
    rw [flatMap_split_eq_self (hwhole.mpr fun name hname ↦ (h name hname).2.2)]
    exact hread.mpr fun name hname ↦ ⟨(h name hname).1, (h name hname).2.1⟩

/-- The names of an address are read, and nothing else is, just if no name holds anything that the
reader takes for a part of the address. -/
theorem hasShape_iff (h : stylesheetUrl? families locale = some url) :
    HasShape families locale url ↔ ∀ name ∈ named families, IsHarmless name := by
  have hnamed : named families ≠ [] := fun hnone ↦
    Option.some_ne_none url (h.symm.trans (stylesheetUrl?_eq_none_iff.mpr hnone))
  rw [HasShape, parameters_of_stylesheetUrl?_eq_some h]
  constructor
  · rintro ⟨value, hparameters, hnames⟩
    -- The parameters are as many as those of a request, so the family value is whole.
    have hone : (split ['&'] ("family=".toList ++ familyValue families)).length = 1 := by
      have hlength := congrArg List.length hparameters
      simp only [List.length_append, List.length_cons] at hlength
      omega
    have hwhole := (length_split_eq_one_iff (List.cons_ne_nil _ _)).mp hone
    rw [split_of_not_isInfix hwhole] at hparameters
    obtain rfl : familyValue families = value :=
      List.append_cancel_left (List.cons.inj hparameters).1
    intro name hname
    exact ⟨fun hampersand ↦ hwhole (isInfix_familyValue_iff.mpr ⟨name, hname, hampersand⟩),
      (map_entryName_familyValue_iff hnamed).mp hnames name hname⟩
  · intro hharmless
    have hwhole : ¬ ['&'] <:+: "family=".toList ++ familyValue families := by
      rw [isInfix_familyValue_iff]
      rintro ⟨name, hname, hampersand⟩
      exact (hharmless name hname).1 hampersand
    refine ⟨familyValue families, by rw [split_of_not_isInfix hwhole]; rfl, ?_⟩
    exact (map_entryName_familyValue_iff hnamed).mpr fun name hname ↦ (hharmless name hname).2

/-! ### Addresses of harmless names -/

/-- There is an address just if some name is not blank. It has the parameters of a request and no
others, and one entry for each name, in order, that gives back the name, just if all names are
harmless. So different lists of harmless names have different addresses. -/
theorem stylesheetUrl?_hasShape_iff (families others : List String) (locale : Option String) :
    (stylesheetUrl? families locale = none ↔ named families = []) ∧
      (∀ url, stylesheetUrl? families locale = some url →
        (HasShape families locale url ↔ ∀ name ∈ named families, IsHarmless name)) ∧
      ((∀ name ∈ named families, IsHarmless name) → (∀ name ∈ named others, IsHarmless name) →
        stylesheetUrl? families locale = stylesheetUrl? others locale →
          named families = named others) := by
  refine ⟨stylesheetUrl?_eq_none_iff, fun url h ↦ hasShape_iff h, fun hfamilies hothers heq ↦ ?_⟩
  cases h : stylesheetUrl? families locale with
  | none =>
    rw [stylesheetUrl?_eq_none_iff.mp h, stylesheetUrl?_eq_none_iff.mp (heq ▸ h)]
  | some url =>
    exact named_eq_of_hasShape ((hasShape_iff h).mpr hfamilies)
      ((hasShape_iff (heq ▸ h)).mpr hothers)

/-- Names with spaces and a locale with a subset: the address has the shape of a request. -/
theorem stylesheetUrl?_hasShape_of_greek :
    ∃ url, stylesheetUrl? [" Open Sans", "PT Serif", " "] (some "el") = some url ∧
      HasShape [" Open Sans", "PT Serif", " "] (some "el") url ∧
      named [" Open Sans", "PT Serif", " "] = ["Open Sans", "PT Serif"] := by
  have hnamed : named [" Open Sans", "PT Serif", " "] = ["Open Sans", "PT Serif"] := by
    decide +kernel
  have hharmless : ∀ name ∈ named [" Open Sans", "PT Serif", " "], IsHarmless name := by
    rw [hnamed]
    decide +kernel
  obtain ⟨hnone, hshape, -⟩ :=
    stylesheetUrl?_hasShape_iff [" Open Sans", "PT Serif", " "] [] (some "el")
  obtain ⟨url, hurl⟩ := Option.ne_none_iff_exists'.mp
    (fun h ↦ absurd (hnamed.symm.trans (hnone.mp h)) (List.cons_ne_nil _ _))
  exact ⟨url, hurl, (hshape url hurl).mpr hharmless, hnamed⟩

/-- A name with an ampersand adds a parameter to the address, and a name with a plus sign has the
address of another one. -/
theorem not_forall_hasShape :
    (¬ ∀ families locale url, stylesheetUrl? families locale = some url →
      HasShape families locale url) ∧
    ¬ ∀ families others locale, stylesheetUrl? families locale = stylesheetUrl? others locale →
      named families = named others := by
  constructor
  · intro hall
    have hnamed : named ["C&D"] = ["C&D"] := by decide +kernel
    have hsome : stylesheetUrl? ["C&D"] none ≠ none := fun h ↦
      absurd (hnamed.symm.trans (stylesheetUrl?_eq_none_iff.mp h)) (List.cons_ne_nil _ _)
    obtain ⟨url, hurl⟩ := Option.ne_none_iff_exists'.mp hsome
    have hharmless := (hasShape_iff hurl).mp (hall _ _ _ hurl) "C&D"
      (hnamed ▸ List.mem_singleton_self _)
    exact hharmless.1 (by decide)
  · intro hall
    have hfamily : familyQuery "E+F" = familyQuery "E F" := by
      rw [← String.toList_inj, toList_familyQuery, toList_familyQuery]
      decide +kernel
    have hurl : stylesheetUrl? ["E+F"] none = stylesheetUrl? ["E F"] none := by
      have hplus : (!(trim "E+F".toList).isEmpty) = true := by decide +kernel
      have hspace : (!(trim "E F".toList).isEmpty) = true := by decide +kernel
      simp only [stylesheetUrl?, List.filter_cons, List.filter_nil, hplus, hspace, if_true,
        List.map_cons, List.map_nil, hfamily]
      rfl
    exact absurd (hall _ _ _ hurl) (by decide +kernel)

end Responsive.Fonts
