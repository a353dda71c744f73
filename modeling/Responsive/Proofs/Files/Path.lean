import Mathlib.Data.List.TakeWhile
import Responsive.Files.Path
import Responsive.Proofs.Text.Occurrence

/-!
# The parts of a path

Slashes at the end of a path and lone dots there add no name to it. So the last name of a path is
read off its parts: the parts of its parent come first, then the last name, and the rest are dots. A
path whose last name is replaced has the parts of the parent and the new name.

* `parts_join`: the parts of a path inside a directory.
* `parts_trimmed`: what cutting off the tail of a path does to its parts.
* `parts_of_fileName?_eq_some`: a path and the paths beside it have the same parts in front.
* `parent?_withFileName`: a path and the paths beside it have the same parent.
-/

set_option autoImplicit false
set_option relaxedAutoImplicit false

namespace Responsive.Path

/-- A name that leads to an entry of a directory: it has no slash, and is not one of the dots. -/
structure IsName (name : String) : Prop where
  not_slash : '/' ∉ name.toList
  ne_empty : name ≠ ""
  ne_dot : name ≠ "."
  ne_dots : name ≠ ".."

/-! ### Parts -/

@[simp] theorem parts_empty : parts "" = [] := rfl

theorem parts_append_slash (a b : List Char) :
    parts (.ofList (a ++ '/' :: b)) = parts (.ofList a) ++ parts (.ofList b) := by
  simp only [parts, String.toList_ofList]
  rw [List.splitOn_append_cons_self, List.filter_append, List.map_append]

theorem parts_eq_singleton {name : List Char} (hslash : '/' ∉ name) (hname : name ≠ []) :
    parts (.ofList name) = [.ofList name] := by
  have hsplit : name.splitOn '/' = [name] := List.splitOn_eq_singleton hslash
  simp only [parts, String.toList_ofList]
  rw [hsplit]
  simp [hname]

theorem IsName.parts_eq {name : String} (h : IsName name) : parts name = [name] := by
  have hne : name.toList ≠ [] := by simpa using h.ne_empty
  simpa using parts_eq_singleton h.not_slash hne

theorem IsName.isAbsolute_eq_false {name : String} (h : IsName name) :
    isAbsolute name.toList = false := by
  have hslash := h.not_slash
  cases hname : name.toList with
  | nil => rfl
  | cons c s =>
    rw [hname] at hslash
    have hc : c ≠ '/' := fun heq ↦ hslash (heq ▸ List.mem_cons_self)
    simpa [isAbsolute] using hc

theorem not_slash_of_mem_splitOn {s part : List Char} (h : part ∈ s.splitOn '/') : '/' ∉ part := by
  induction s generalizing part with
  | nil =>
    rw [List.splitOn_nil, List.mem_singleton] at h
    exact h ▸ List.not_mem_nil
  | cons c s ih =>
    rw [List.splitOn_cons_eq_if_modifyHead] at h
    split at h
    · rcases List.mem_cons.mp h with rfl | hrest
      · exact List.not_mem_nil
      · exact ih hrest
    next hc =>
      cases hsplit : s.splitOn '/' with
      | nil => exact absurd hsplit (List.splitOn_ne_nil _ _)
      | cons first rest =>
        rw [hsplit, List.modifyHead_cons, List.mem_cons] at h
        rw [hsplit] at ih
        rcases h with rfl | hrest
        · have hne : '/' ≠ c := fun heq ↦ hc (beq_iff_eq.mpr heq.symm)
          exact fun hmem ↦ ih List.mem_cons_self (List.mem_of_ne_of_mem hne hmem)
        · exact ih (List.mem_cons_of_mem _ hrest)

/-- A part of a path is a name, unless it is one of the dots. -/
theorem isName_of_mem_parts {path name : String} (h : name ∈ parts path) (hdot : name ≠ ".")
    (hdots : name ≠ "..") : IsName name := by
  obtain ⟨part, hpart, rfl⟩ := List.mem_map.mp h
  obtain ⟨hsplit, hne⟩ := List.mem_filter.mp hpart
  refine ⟨?_, ?_, hdot, hdots⟩
  · simpa using not_slash_of_mem_splitOn hsplit
  · simpa using hne

/-- The parts of a path inside a directory. -/
theorem parts_join {dir name : String} (h : isAbsolute name.toList = false) :
    parts (join dir name) = parts dir ++ parts name := by
  rw [join, h, Bool.or_false]
  split
  next hempty =>
    obtain rfl : dir = "" := by simpa using hempty
    rfl
  next hempty =>
    split
    next hslash =>
      obtain ⟨lead, hlead⟩ := List.getLast?_eq_some_iff.mp (beq_iff_eq.mp hslash)
      have hdir : dir = .ofList (lead ++ '/' :: []) := by rw [← hlead, String.ofList_toList]
      have happend : dir ++ name = .ofList (lead ++ '/' :: name.toList) := by
        rw [hdir, String.ext_iff]
        simp
      rw [happend, hdir, parts_append_slash, parts_append_slash, String.ofList_toList]
      simp
    next hslash =>
      have happend : dir ++ "/" ++ name = .ofList (dir.toList ++ '/' :: name.toList) := by
        rw [String.ext_iff]
        simp
      rw [happend, parts_append_slash, String.ofList_toList, String.ofList_toList]

theorem IsName.parts_join {name : String} (h : IsName name) (dir : String) :
    parts (join dir name) = parts dir ++ [name] := by
  rw [Path.parts_join h.isAbsolute_eq_false, h.parts_eq]

/-! ### The tail of a path -/

/-- The tail that is cut off a path adds nothing but dots to its parts. -/
theorem parts_dropTail (s : List Char) :
    ∃ k, parts (.ofList s.reverse) =
      parts (.ofList (dropTail s).reverse) ++ List.replicate k "." := by
  fun_induction dropTail s with
  | case1 s ih =>
    obtain ⟨k, hk⟩ := ih
    refine ⟨k, ?_⟩
    rw [List.reverse_cons, parts_append_slash, hk]
    simp
  | case2 s ih =>
    obtain ⟨k, hk⟩ := ih
    refine ⟨k + 1, ?_⟩
    have hdot : parts (.ofList ['.']) = ["."] := rfl
    rw [List.reverse_cons, List.reverse_cons, List.append_assoc, List.cons_append,
      List.nil_append, parts_append_slash, hk, hdot, List.append_assoc, List.replicate_succ']
  | case3 s => exact ⟨0, by simp⟩

theorem parts_trimmed (s : List Char) :
    ∃ k, parts (.ofList s) = parts (.ofList (trimmed s)) ++ List.replicate k "." := by
  simpa [trimmed] using parts_dropTail s.reverse

theorem trimmed_isPrefix (s : List Char) : trimmed s <+: s := by
  have hsuffix : ∀ t : List Char, dropTail t <:+ t := by
    intro t
    fun_induction dropTail t with
    | case1 t ih => exact ih.trans (List.suffix_cons _ _)
    | case2 t ih => exact ih.trans ((List.suffix_cons _ _).trans (List.suffix_cons _ _))
    | case3 t => exact List.suffix_refl _
  rw [← List.reverse_suffix, trimmed, List.reverse_reverse]
  exact hsuffix _

theorem isAbsolute_eq_of_isPrefix {a b : List Char} (h : a <+: b) (hne : a ≠ []) :
    isAbsolute a = isAbsolute b := by
  obtain ⟨rest, rfl⟩ := h
  cases a with
  | nil => contradiction
  | cons c s => rfl

/-! ### The last name -/

/-- The text in front of the last part of a path. -/
def front (s : List Char) : List Char :=
  (s.reverse.dropWhile (· != '/')).reverse

theorem front_append_lastPart (s : List Char) : front s ++ lastPart s = s := by
  rw [front, lastPart, ← List.reverse_append, List.takeWhile_append_dropWhile, List.reverse_reverse]

theorem not_slash_of_mem_lastPart (s : List Char) : '/' ∉ lastPart s := by
  rw [lastPart, List.mem_reverse]
  intro h
  simpa using List.all_eq_true.mp List.all_takeWhile _ h

/-- The text in front of the last part is empty or ends in a slash. -/
theorem front_eq (s : List Char) : front s = [] ∨ ∃ lead, front s = lead ++ ['/'] := by
  cases hdrop : s.reverse.dropWhile (· != '/') with
  | nil =>
    left
    rw [front, hdrop, List.reverse_nil]
  | cons c rest =>
    right
    have hc : c = '/' := by
      have hhead := List.head?_dropWhile_not (· != '/') s.reverse
      rw [hdrop] at hhead
      simpa using hhead
    exact ⟨rest.reverse, by rw [front, hdrop, hc, List.reverse_cons]⟩

theorem parts_front_append {s name : List Char} (hslash : '/' ∉ name) (hname : name ≠ []) :
    parts (.ofList (front s ++ name)) = parts (.ofList (front s)) ++ [.ofList name] := by
  rcases front_eq s with hfront | ⟨lead, hfront⟩
  · rw [hfront, List.nil_append, parts_eq_singleton hslash hname]
    rfl
  · rw [hfront, List.append_assoc, List.singleton_append, parts_append_slash, parts_append_slash,
      parts_eq_singleton hslash hname]
    simp

/-- The last name of a path is what stands behind the last slash that counts. -/
theorem fileName?_eq_some_iff {path name : String} :
    fileName? path = some name ↔ lastPart (trimmed path.toList) = name.toList ∧ IsName name := by
  have hslash := not_slash_of_mem_lastPart (trimmed path.toList)
  rw [fileName?]
  constructor
  · intro h
    split at h
    · contradiction
    · contradiction
    · contradiction
    next hempty hdot hdots =>
      obtain rfl := Option.some.inj h
      have htoList {s : String} (heq : String.ofList (lastPart (trimmed path.toList)) = s) :
          lastPart (trimmed path.toList) = s.toList := by
        rw [← heq, String.toList_ofList]
      refine ⟨String.toList_ofList.symm, ?_, fun heq ↦ hempty (htoList heq),
        fun heq ↦ hdot (htoList heq), fun heq ↦ hdots (htoList heq)⟩
      rwa [String.toList_ofList]
  · rintro ⟨hlast, hname⟩
    have hne {s : String} (h : name ≠ s) : name.toList ≠ s.toList :=
      fun heq ↦ h (String.toList_inj.mp heq)
    rw [hlast]
    split
    next hempty => exact absurd hempty (hne hname.ne_empty)
    next hdot => exact absurd hdot (hne hname.ne_dot)
    next hdots => exact absurd hdots (hne hname.ne_dots)
    next => rw [String.ofList_toList]

/-! ### Paths beside one another -/

theorem isAbsolute_join {dir name : String} (h : isAbsolute name.toList = false) :
    isAbsolute (join dir name).toList = isAbsolute dir.toList := by
  rw [join, h, Bool.or_false]
  split
  next hempty =>
    obtain rfl : dir = "" := by simpa using hempty
    exact h
  next hempty =>
    have hne : dir.toList ≠ [] := by simpa using hempty
    have hprefix : dir.toList <+: (dir ++ name).toList ∧
        dir.toList <+: (dir ++ "/" ++ name).toList := by
      simp [List.append_assoc]
    split
    · exact (isAbsolute_eq_of_isPrefix hprefix.1 hne).symm
    · exact (isAbsolute_eq_of_isPrefix hprefix.2 hne).symm

/-- The parent of a path with a last name: its parts are those in front of the name, up to dots. -/
theorem parent?_of_fileName?_eq_some {path name : String} (h : fileName? path = some name) :
    ∃ parent, parent? path = some parent ∧
      parts parent = parts (.ofList (trimmed (front (trimmed path.toList)))) ∧
      isAbsolute parent.toList = isAbsolute path.toList := by
  obtain ⟨hlast, hname⟩ := fileName?_eq_some_iff.mp h
  have hne : trimmed path.toList ≠ [] := by
    intro hempty
    rw [hempty] at hlast
    exact hname.ne_empty (String.toList_inj.mp hlast.symm)
  have habsolute := isAbsolute_eq_of_isPrefix (trimmed_isPrefix path.toList) hne
  have hempty : (trimmed path.toList).isEmpty = false := by simpa using hne
  rw [parent?, hempty, if_neg Bool.false_ne_true]
  change ∃ parent, (if (trimmed (front (trimmed path.toList))).isEmpty &&
    isAbsolute (trimmed path.toList) then _ else _) = some parent ∧ _
  split
  next hroot =>
    obtain ⟨hlead, hstart⟩ := Bool.and_eq_true_iff.mp hroot
    refine ⟨_, rfl, ?_, ?_⟩
    · rw [List.isEmpty_iff.mp hlead]
      rfl
    · rw [← habsolute, hstart]
      rfl
  next hroot =>
    refine ⟨_, rfl, rfl, ?_⟩
    rw [String.toList_ofList]
    change isAbsolute (trimmed (front (trimmed path.toList))) = isAbsolute path.toList
    cases hlead : trimmed (front (trimmed path.toList)) with
    | nil =>
      rw [hlead] at hroot
      have hstart : isAbsolute (trimmed path.toList) = false := by simpa using hroot
      rw [← habsolute, hstart]
      rfl
    | cons c s =>
      have hfront : front (trimmed path.toList) <+: trimmed path.toList :=
        ⟨_, front_append_lastPart _⟩
      have hprefix := ((trimmed_isPrefix _).trans hfront).trans (trimmed_isPrefix path.toList)
      rw [hlead] at hprefix
      exact isAbsolute_eq_of_isPrefix hprefix (List.cons_ne_nil c s)

/-- A path that is made by replacing the last name starts where the path does. -/
theorem isAbsolute_withFileName {path new : String} (hnew : IsName new) :
    isAbsolute (withFileName path new).toList = isAbsolute path.toList := by
  rw [withFileName]
  cases h : fileName? path with
  | none => exact isAbsolute_join hnew.isAbsolute_eq_false
  | some name =>
    obtain ⟨parent, hparent, -, habsolute⟩ := parent?_of_fileName?_eq_some h
    dsimp only
    rw [hparent, Option.getD_some, isAbsolute_join hnew.isAbsolute_eq_false, habsolute]

theorem parts_withFileName_of_none {path new : String} (h : fileName? path = none)
    (hnew : IsName new) : parts (withFileName path new) = parts path ++ [new] := by
  rw [withFileName, h]
  exact hnew.parts_join path

/-- A path and the paths beside it have the same parts in front of the last name, up to dots. -/
theorem parts_of_fileName?_eq_some {path name : String} (h : fileName? path = some name) :
    ∃ parent j k, parent? path = some parent ∧
      parts path = parts parent ++ List.replicate j "." ++ name :: List.replicate k "." ∧
      ∀ new, IsName new → parts (withFileName path new) = parts parent ++ [new] := by
  obtain ⟨hlast, hname⟩ := fileName?_eq_some_iff.mp h
  obtain ⟨parent, hparent, hparts, -⟩ := parent?_of_fileName?_eq_some h
  obtain ⟨k, hk⟩ := parts_trimmed path.toList
  obtain ⟨j, hj⟩ := parts_trimmed (front (trimmed path.toList))
  have hsplit : parts (.ofList (trimmed path.toList)) =
      parts (.ofList (front (trimmed path.toList))) ++ [name] := by
    have hne : name.toList ≠ [] := by simpa using hname.ne_empty
    have happend := parts_front_append (s := trimmed path.toList) hname.not_slash hne
    rwa [← hlast, front_append_lastPart, hlast, String.ofList_toList] at happend
  refine ⟨parent, j, k, hparent, ?_, fun new hnew ↦ ?_⟩
  · rw [String.ofList_toList] at hk
    rw [hk, hsplit, hj, hparts]
    simp
  · rw [withFileName, h]
    dsimp only
    rw [hparent, Option.getD_some, hnew.parts_join]

/-! ### Paths inside a directory -/

/-- The text in front of a name in a path: none, or one that ends in a slash. -/
def IsLead (lead : List Char) : Prop :=
  lead = [] ∨ ∃ outer, lead = outer ++ ['/']

theorem trimmed_append_slash (s : List Char) : trimmed (s ++ ['/']) = trimmed s := by
  rw [trimmed, List.reverse_append, List.reverse_singleton, List.singleton_append, dropTail,
    trimmed]

theorem trimmed_trimmed (s : List Char) : trimmed (trimmed s) = trimmed s := by
  have hdrop : ∀ t, dropTail (dropTail t) = dropTail t := by
    intro t
    fun_induction dropTail t with
    | case1 t ih => exact ih
    | case2 t ih => exact ih
    | case3 t hslash hdot => rw [dropTail.eq_3 t hslash hdot]
  rw [trimmed, trimmed, List.reverse_reverse, hdrop]

/-- A path inside a directory is the name behind a text that is the directory up to its tail. -/
theorem exists_toList_join_eq (dir : String) {name : String} (h : isAbsolute name.toList = false) :
    ∃ lead, IsLead lead ∧ trimmed lead = trimmed dir.toList ∧
      (join dir name).toList = lead ++ name.toList := by
  rw [join, h, Bool.or_false]
  split
  next hempty =>
    obtain rfl : dir = "" := by simpa using hempty
    exact ⟨[], .inl rfl, rfl, rfl⟩
  next hempty =>
    split
    next hslash =>
      obtain ⟨outer, houter⟩ := List.getLast?_eq_some_iff.mp (beq_iff_eq.mp hslash)
      exact ⟨dir.toList, .inr ⟨outer, houter⟩, rfl, String.toList_append⟩
    next hslash =>
      refine ⟨dir.toList ++ ['/'], .inr ⟨_, rfl⟩, trimmed_append_slash _, ?_⟩
      rw [String.toList_append, String.toList_append]
      rfl

section IsName

variable {name : String} {lead : List Char}

/-- A name at the end of a path is no tail of it. -/
theorem IsName.trimmed_append (h : IsName name) (lead : List Char) :
    trimmed (lead ++ name.toList) = lead ++ name.toList := by
  have hne : name.toList.reverse ≠ [] := by simpa using h.ne_empty
  obtain ⟨c, s, hname⟩ := List.exists_cons_of_ne_nil hne
  have hslash : '/' ∉ c :: s := by
    rw [← hname, List.mem_reverse]
    exact h.not_slash
  have hkept : dropTail (c :: s ++ lead.reverse) = c :: s ++ lead.reverse := by
    refine dropTail.eq_3 _ (fun t heq ↦ ?_) fun t heq ↦ ?_
    · obtain ⟨rfl, -⟩ := List.cons.inj heq
      exact hslash List.mem_cons_self
    · -- The name is longer than the dot, so a slash behind the dot would be a part of it.
      obtain ⟨rfl, hrest⟩ := List.cons.inj heq
      cases s with
      | nil =>
        have hdot : name.toList = ['.'] := by rw [← List.reverse_reverse name.toList, hname]; rfl
        exact h.ne_dot (String.toList_inj.mp hdot)
      | cons d s =>
        obtain ⟨rfl, -⟩ := List.cons.inj hrest
        exact hslash (List.mem_cons_of_mem _ List.mem_cons_self)
  rw [trimmed, List.reverse_append, hname, hkept, ← hname, List.reverse_append,
    List.reverse_reverse, List.reverse_reverse]

theorem IsName.lastPart_append (h : IsName name) (hlead : IsLead lead) :
    lastPart (lead ++ name.toList) = name.toList ∧ front (lead ++ name.toList) = lead := by
  have hstop : ∀ c ∈ lead.reverse.head?, (c != '/') = false := by
    rcases hlead with rfl | ⟨outer, rfl⟩
    · exact nofun
    · simp
  have hname : ∀ c ∈ name.toList.reverse, (c != '/') = true := by
    intro c hc
    have hne : c ≠ '/' := fun heq ↦ h.not_slash (heq ▸ List.mem_reverse.mp hc)
    simpa using hne
  constructor
  · rw [lastPart, List.reverse_append, Text.takeWhile_append_of_head? hstop,
      List.takeWhile_eq_self_iff.mpr hname, List.reverse_reverse]
  · rw [front, List.reverse_append, Text.dropWhile_append_of_head? hstop,
      List.dropWhile_eq_nil_iff.mpr hname, List.nil_append, List.reverse_reverse]

theorem IsName.endsInSlash_join (h : IsName name) (dir : String) :
    endsInSlash (join dir name) = false := by
  obtain ⟨lead, -, -, hjoin⟩ := exists_toList_join_eq dir h.isAbsolute_eq_false
  have hne : name.toList ≠ [] := by simpa using h.ne_empty
  rw [endsInSlash, hjoin, List.getLast?_append_of_ne_nil _ hne, List.getLast?_eq_some_getLast hne]
  have hlast : name.toList.getLast hne ≠ '/' :=
    fun heq ↦ h.not_slash (heq ▸ List.getLast_mem hne)
  simpa using hlast

/-- A path inside a directory has the name that it was made with. -/
theorem IsName.fileName?_join (h : IsName name) (dir : String) :
    fileName? (join dir name) = some name := by
  obtain ⟨lead, hlead, -, hjoin⟩ := exists_toList_join_eq dir h.isAbsolute_eq_false
  rw [fileName?_eq_some_iff, hjoin, h.trimmed_append lead]
  exact ⟨(h.lastPart_append hlead).1, h⟩

/-- A path inside a directory has that directory as its parent, up to the tail of it. -/
theorem IsName.parent?_join (h : IsName name) (dir : String) :
    parent? (join dir name) =
      if (trimmed dir.toList).isEmpty && isAbsolute dir.toList then some "/"
      else some (.ofList (trimmed dir.toList)) := by
  obtain ⟨lead, hlead, hdir, hjoin⟩ := exists_toList_join_eq dir h.isAbsolute_eq_false
  have habsolute := @isAbsolute_join dir name h.isAbsolute_eq_false
  have hne : (lead ++ name.toList).isEmpty = false := by
    have hname : name.toList ≠ [] := by simpa using h.ne_empty
    simp [hname]
  rw [hjoin] at habsolute
  rw [parent?, hjoin, h.trimmed_append lead]
  dsimp only
  rw [hne, if_neg Bool.false_ne_true]
  change (if (trimmed (front (lead ++ name.toList))).isEmpty && _ then _
    else some (String.ofList (trimmed (front (lead ++ name.toList))))) = _
  rw [(h.lastPart_append hlead).2, hdir, habsolute]

/-- A path that is made by replacing the last name has the new name. -/
theorem IsName.fileName?_withFileName (h : IsName name) (path : String) :
    fileName? (withFileName path name) = some name := by
  rw [withFileName]
  split
  · exact h.fileName?_join _
  · exact h.fileName?_join _

end IsName

/-- The directory of a path, by a name that it can be listed under. -/
def directory (path : String) : String :=
  if ((parent? path).getD "").isEmpty then "." else (parent? path).getD ""

/-- A path and the paths beside it have the same parent. -/
theorem parent?_withFileName {path name new : String} (h : fileName? path = some name)
    (hnew : IsName new) : parent? (withFileName path new) = parent? path := by
  obtain ⟨parent, hparent, -⟩ := parent?_of_fileName?_eq_some h
  rw [withFileName, h]
  dsimp only
  rw [hparent, Option.getD_some, hnew.parent?_join]
  -- What is a parent has no tail, unless it is the root.
  rw [parent?] at hparent
  dsimp only at hparent
  split at hparent
  · exact absurd hparent.symm (Option.some_ne_none parent)
  split at hparent
  next hroot =>
    obtain rfl := Option.some.inj hparent
    rfl
  next hroot =>
    obtain rfl := Option.some.inj hparent
    rw [String.toList_ofList, trimmed_trimmed]
    split
    next hempty =>
      obtain ⟨hlead, hstart⟩ := Bool.and_eq_true_iff.mp hempty
      rw [List.isEmpty_iff.mp hlead] at hstart
      exact absurd hstart Bool.false_ne_true
    next => rfl

end Responsive.Path
