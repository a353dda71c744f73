import Responsive.Media.Pass
import Responsive.Proofs.Media.Sheet

/-!
# What a pass computes

A pass looks at every `@media` outside of the queries that it has changed, at those inside of
unchanged queries too, and takes slices between offsets that it computes on the way. It gives the
text of the sheet with all queries rewritten, and no slice is ever out of range.

The invariant of a pass: the text falls into a part that the output accounts for, a part that was
looked at and stays as it is, and a part still to be read. Two facts carry it. The `@media` inside a
changed query are passed over, as they lie before the offset that was reached; and looking again
inside an unchanged query changes nothing, because in a text that is rewritten to itself every
single condition is (`substitute_eq_self_of_append`).

* `Pass.run_eq`: the result of a pass.
* `retarget_eq_targets`: the text that a pass gives, as a list of parts.
-/

set_option autoImplicit false
set_option relaxedAutoImplicit false

namespace Responsive.Media

open Text Media.Part

/-- The text with all its queries rewritten. -/
def retargeted (boundaries : List Boundary) (s : List Char) : List Char :=
  ((Sheet.read s).mapQueries (substitute boundaries)).text

/-- Whether rewriting changes any query. -/
def changesQuery (boundaries : List Boundary) (s : List Char) : Bool :=
  (Sheet.read s).queries.any fun query ↦ substitute boundaries query != query

section Rewriting

variable {boundaries : List Boundary}

theorem retargeted_eq_targets (s : List Char) :
    retargeted boundaries s = targets (partsFrom boundaries false s) := by
  unfold retargeted partsFrom
  rw [Sheet.targets_parts]

theorem retargeted_of_cutAt?_eq_none {s : List Char} (h : cutAt? mediaWord s = none) :
    retargeted boundaries s = s := by
  rw [retargeted, Sheet.read_of_cutAt?_eq_none h, Sheet.mapQueries, Sheet.text]

theorem changesQuery_of_cutAt?_eq_none {s : List Char} (h : cutAt? mediaWord s = none) :
    changesQuery boundaries s = false := by
  unfold changesQuery
  rw [Sheet.read_of_cutAt?_eq_none h]
  rfl

theorem retargeted_of_cutAt?_eq_some {s lead rest : List Char}
    (h : cutAt? mediaWord s = some (lead, rest)) :
    retargeted boundaries s =
      lead ++ mediaWord ++ substitute boundaries (rest.takeWhile Sheet.inQuery) ++
        retargeted boundaries (rest.dropWhile Sheet.inQuery) := by
  rw [retargeted, Sheet.read_of_cutAt?_eq_some h, Sheet.mapQueries, Sheet.text, retargeted]

theorem changesQuery_of_cutAt?_eq_some {s lead rest : List Char}
    (h : cutAt? mediaWord s = some (lead, rest)) :
    changesQuery boundaries s =
      (substitute boundaries (rest.takeWhile Sheet.inQuery) != rest.takeWhile Sheet.inQuery ||
        changesQuery boundaries (rest.dropWhile Sheet.inQuery)) := by
  rw [changesQuery, Sheet.read_of_cutAt?_eq_some h, Sheet.queries, List.any_cons, changesQuery]

/-- A text in which no query changes stays as it is. -/
theorem retargeted_of_not_changesQuery {s : List Char} (h : changesQuery boundaries s = false) :
    retargeted boundaries s = s := by
  rw [retargeted, Sheet.mapQueries_eq_self, Sheet.text_read]
  simpa [changesQuery] using h

/-- If a query is rewritten to itself, so is what follows an `@media` inside it. -/
theorem substitute_eq_self_of_append {lead rest : List Char}
    (h : substitute boundaries (lead ++ mediaWord ++ rest) = lead ++ mediaWord ++ rest) :
    substitute boundaries rest = rest := by
  have hparts : queryParts boundaries (lead ++ mediaWord ++ rest) =
      queryParts boundaries lead ++ (mediaWord.map copied ++ queryParts boundaries rest) := by
    have hfenced : Fenced (mediaWord ++ rest) := fenced_cons.mpr (by decide)
    rw [List.append_assoc, queryParts_append hfenced, queryParts_append_of_not_mem (by decide)]
  have hsame := target_eq_source_of_targets_eq
    (fun p hp ↦ proper_of_mem_queryParts (s := lead ++ mediaWord ++ rest) hp)
    (by rw [targets_queryParts, sources_queryParts, h])
  rw [hparts] at hsame
  exact substitute_eq_self_of_queryParts fun p hp ↦ hsame p (by simp [hp])

/-- A beginning that would be rewritten to itself as a query may be read from outside as well. -/
theorem rewriting_append_of_substitute_eq_self {query behind : List Char}
    (hquery : ∀ c ∈ query, Sheet.inQuery c = true)
    (hbehind : ∀ c ∈ behind.head?, c = '\x7b')
    (h : substitute boundaries query = query) :
    retargeted boundaries (query ++ behind) = query ++ retargeted boundaries behind ∧
      changesQuery boundaries (query ++ behind) = changesQuery boundaries behind := by
  have hseparates : Separates mediaWord behind := by
    intro c hc
    rw [hbehind c hc]
    decide
  have hcut := cutAt?_append mediaWord_ne_nil hseparates query
  cases hquery' : cutAt? mediaWord query with
  | some cut =>
    obtain ⟨lead, rest⟩ := cut
    rw [hquery'] at hcut
    have hsplit := cutAt?_eq_some hquery'
    have hrest : ∀ c ∈ rest, Sheet.inQuery c = true := fun c hc ↦ hquery c (by simp [hsplit, hc])
    have hinside : ∀ c ∈ behind.head?, Sheet.inQuery c = false := by
      intro c hc
      rw [hbehind c hc]
      rfl
    have htake : (rest ++ behind).takeWhile Sheet.inQuery = rest := by
      rw [takeWhile_append_of_head? hinside, List.takeWhile_eq_self_iff.mpr hrest]
    have hdrop : (rest ++ behind).dropWhile Sheet.inQuery = behind := by
      rw [dropWhile_append_of_head? hinside, List.dropWhile_eq_nil_iff.mpr hrest, List.nil_append]
    have hself : substitute boundaries rest = rest := by
      rw [hsplit] at h
      exact substitute_eq_self_of_append h
    rw [retargeted_of_cutAt?_eq_some hcut, changesQuery_of_cutAt?_eq_some hcut, htake, hdrop, hself,
      hsplit]
    simp
  | none =>
    rw [hquery'] at hcut
    cases hbehind' : cutAt? mediaWord behind with
    | none =>
      rw [hbehind'] at hcut
      rw [retargeted_of_cutAt?_eq_none hcut, retargeted_of_cutAt?_eq_none hbehind',
        changesQuery_of_cutAt?_eq_none hcut, changesQuery_of_cutAt?_eq_none hbehind']
      exact ⟨rfl, rfl⟩
    | some cut =>
      rw [hbehind'] at hcut
      rw [retargeted_of_cutAt?_eq_some hcut, retargeted_of_cutAt?_eq_some hbehind',
        changesQuery_of_cutAt?_eq_some hcut, changesQuery_of_cutAt?_eq_some hbehind']
      simp

end Rewriting

/-! ### The offsets of a pass -/

theorem mediaOffsets_of_cutAt?_eq_none {base : Nat} {s : List Char}
    (h : cutAt? mediaWord s = none) : mediaOffsets base s = [] := by
  rw [mediaOffsets]
  split <;> simp_all

theorem mediaOffsets_of_cutAt?_eq_some {base : Nat} {s lead rest : List Char}
    (h : cutAt? mediaWord s = some (lead, rest)) :
    mediaOffsets base s =
      (base + byteLength lead) ::
        mediaOffsets (base + byteLength lead + byteLength mediaWord) rest := by
  rw [mediaOffsets]
  split <;> simp_all

/-- No `@media` reaches beyond the text in which it was found. -/
theorem add_le_of_mem_mediaOffsets {base : Nat} {s : List Char} {start : Nat}
    (h : start ∈ mediaOffsets base s) :
    start + byteLength mediaWord ≤ base + byteLength s := by
  fun_induction mediaOffsets base s with
  | case1 => contradiction
  | case2 base s lead rest hcut ih =>
    have hs := congrArg byteLength (cutAt?_eq_some hcut)
    simp only [byteLength_append] at hs
    rcases List.mem_cons.mp h with rfl | hmem
    · omega
    · have := ih hmem
      omega

/-- The offsets in joined texts, if no `@media` stands across the seam. -/
theorem mediaOffsets_append {s : List Char} (hs : Separates mediaWord s) (base : Nat)
    (a : List Char) :
    mediaOffsets base (a ++ s) = mediaOffsets base a ++ mediaOffsets (base + byteLength a) s := by
  fun_induction mediaOffsets base a with
  | case1 base a hcut =>
    have happend := cutAt?_append mediaWord_ne_nil hs a
    rw [hcut] at happend
    cases hcut' : cutAt? mediaWord s with
    | none =>
      rw [hcut'] at happend
      rw [mediaOffsets_of_cutAt?_eq_none happend, mediaOffsets_of_cutAt?_eq_none hcut']
      rfl
    | some cut =>
      rw [hcut'] at happend
      rw [mediaOffsets_of_cutAt?_eq_some happend, mediaOffsets_of_cutAt?_eq_some hcut']
      simp [Nat.add_assoc]
  | case2 base a lead rest hcut ih =>
    have happend := cutAt?_append mediaWord_ne_nil hs a
    rw [hcut] at happend
    rw [mediaOffsets_of_cutAt?_eq_some happend, ih, cutAt?_eq_some hcut]
    simp [Nat.add_assoc]

/-- The cut at the next opening brace ends a query. -/
theorem cutAt?_brace (s : List Char) :
    cutAt? ['\x7b'] s =
      match s.dropWhile Sheet.inQuery with
      | [] => none
      | _ :: rest => some (s.takeWhile Sheet.inQuery, rest) := by
  induction s with
  | nil => rfl
  | cons c s ih =>
    by_cases hc : c = '\x7b'
    · subst hc
      cases s <;> rfl
    · have hquery : Sheet.inQuery c = true := by simpa [Sheet.inQuery] using hc
      rw [cutAt?_cons_of_ne (by simp) (by simpa using Ne.symm hc), ih,
        List.dropWhile_cons_of_pos hquery, List.takeWhile_cons_of_pos hquery]
      cases s.dropWhile Sheet.inQuery <;> rfl

theorem queryEnd_append (before behind : List Char) :
    queryEnd (before ++ behind) behind (byteLength before) =
      byteLength (before ++ behind.takeWhile Sheet.inQuery) := by
  have hsplit : behind.takeWhile Sheet.inQuery ++ behind.dropWhile Sheet.inQuery = behind :=
    List.takeWhile_append_dropWhile
  unfold queryEnd
  rw [cutAt?_brace]
  cases hdrop : behind.dropWhile Sheet.inQuery with
  | nil =>
    rw [hdrop, List.append_nil] at hsplit
    rw [hsplit]
  | cons c rest => exact (byteLength_append _ _).symm

/-! ### The steps of a pass -/

namespace Pass

variable {boundaries : List Boundary}

/-- An `@media` that the output accounts for already is passed over. -/
theorem step_of_le {css : List Char} {pass : Pass} {start : Nat}
    (h : start + byteLength mediaWord ≤ pass.copied) :
    step boundaries css pass start = .ok pass := by
  simp only [step, if_pos h]
  rfl

theorem foldlM_step_of_forall_le {css : List Char} {pass : Pass} {starts : List Nat}
    (h : ∀ start ∈ starts, start + byteLength mediaWord ≤ pass.copied) :
    starts.foldlM (step boundaries css) pass = .ok pass := by
  induction starts with
  | nil => rfl
  | cons start starts ih =>
    rw [List.foldlM_cons, step_of_le (h start List.mem_cons_self)]
    exact ih fun start' hmem ↦ h start' (List.mem_cons_of_mem _ hmem)

/-- Any other `@media`: its slices exist, and its query is rewritten if that changes it. -/
theorem step_of_lt (boundaries : List Boundary) {done lead : List Char} (behind : List Char)
    {pass : Pass} {start : Nat}
    (hcopied : pass.copied = byteLength done)
    (hstart : start + byteLength mediaWord = byteLength (done ++ lead)) (hlead : lead ≠ []) :
    step boundaries (done ++ lead ++ behind) pass start =
      .ok (if substitute boundaries (behind.takeWhile Sheet.inQuery) =
          behind.takeWhile Sheet.inQuery then pass
        else
          { output := pass.output ++ lead ++ substitute boundaries (behind.takeWhile Sheet.inQuery)
            copied := byteLength (done ++ lead ++ behind.takeWhile Sheet.inQuery)
            changed := true }) := by
  have hlate : ¬ start + byteLength mediaWord ≤ pass.copied := by
    obtain ⟨c, lead, rfl⟩ := List.exists_cons_of_ne_nil hlead
    have hpos := c.utf8Size_pos
    rw [hcopied, hstart, byteLength_append, byteLength_cons]
    omega
  have hsplit : behind.takeWhile Sheet.inQuery ++ behind.dropWhile Sheet.inQuery = behind :=
    List.takeWhile_append_dropWhile
  have hquery : slice (done ++ lead ++ behind) (byteLength (done ++ lead))
      (byteLength (done ++ lead ++ behind.takeWhile Sheet.inQuery)) =
      .ok (behind.takeWhile Sheet.inQuery) := by
    have hslice := slice_append (done ++ lead) (behind.takeWhile Sheet.inQuery)
      (behind.dropWhile Sheet.inQuery)
    rwa [List.append_assoc _ _ (behind.dropWhile _), hsplit] at hslice
  have hcopy : slice (done ++ lead ++ behind) pass.copied (byteLength (done ++ lead)) =
      .ok lead := by
    rw [hcopied]
    exact slice_append done lead behind
  simp only [step, if_neg hlate]
  rw [hstart, sliceFrom_append]
  simp only [bind, Except.bind, queryEnd_append, hquery, hcopy]
  split <;> rfl

/-- What is left of a pass. The text falls into the part `done` that the output accounts for, the
part `passed` that stays as it is, and the part `todo` that is still to be read. The pass goes
through, and the output with what it leaves over is the old output with the rest rewritten. -/
def Completes (boundaries : List Boundary) (done passed todo : List Char) (pass : Pass) : Prop :=
  ∃ last copied rest,
    (mediaOffsets (byteLength (done ++ passed)) todo).foldlM
        (step boundaries (done ++ passed ++ todo)) pass = .ok last ∧
      last.changed = (pass.changed || changesQuery boundaries todo) ∧
      done ++ passed ++ todo = copied ++ rest ∧ last.copied = byteLength copied ∧
      last.output ++ rest = pass.output ++ passed ++ retargeted boundaries todo

section Completes

variable {done passed todo lead behind : List Char} {pass : Pass}
  (hcopied : pass.copied = byteLength done)

include hcopied

theorem completes_of_cutAt?_eq_none (hcut : cutAt? mediaWord todo = none) :
    Completes boundaries done passed todo pass := by
  refine ⟨pass, done, passed ++ todo, ?_, ?_, List.append_assoc _ _ _, hcopied, ?_⟩
  · rw [mediaOffsets_of_cutAt?_eq_none hcut]
    rfl
  · rw [changesQuery_of_cutAt?_eq_none hcut, Bool.or_false]
  · rw [retargeted_of_cutAt?_eq_none hcut, List.append_assoc]

variable (hcut : cutAt? mediaWord todo = some (lead, behind))

include hcut

/-- The first step of what is left, at the next `@media`. -/
theorem foldlM_step_of_cutAt?_eq_some :
    (mediaOffsets (byteLength (done ++ passed)) todo).foldlM
        (step boundaries (done ++ passed ++ todo)) pass =
      (mediaOffsets (byteLength (done ++ (passed ++ lead ++ mediaWord))) behind).foldlM
        (step boundaries (done ++ (passed ++ lead ++ mediaWord) ++ behind))
        (if substitute boundaries (behind.takeWhile Sheet.inQuery) =
            behind.takeWhile Sheet.inQuery then pass
          else
            { output := pass.output ++ (passed ++ lead ++ mediaWord) ++
                substitute boundaries (behind.takeWhile Sheet.inQuery)
              copied := byteLength
                (done ++ (passed ++ lead ++ mediaWord) ++ behind.takeWhile Sheet.inQuery)
              changed := true }) := by
  have hcss : done ++ passed ++ todo = done ++ (passed ++ lead ++ mediaWord) ++ behind := by
    simp [cutAt?_eq_some hcut]
  have hstart : byteLength (done ++ passed) + byteLength lead + byteLength mediaWord =
      byteLength (done ++ (passed ++ lead ++ mediaWord)) := by
    simp [Nat.add_assoc]
  rw [mediaOffsets_of_cutAt?_eq_some hcut, List.foldlM_cons, hcss,
    step_of_lt boundaries behind hcopied hstart (by simp [mediaWord]), hstart]
  rfl

/-- A query that stays: what is inside it is looked at again, and stays too. -/
theorem completes_of_substitute_eq_self
    (hsame : substitute boundaries (behind.takeWhile Sheet.inQuery) =
      behind.takeWhile Sheet.inQuery)
    (h : Completes boundaries done (passed ++ lead ++ mediaWord) behind pass) :
    Completes boundaries done passed todo pass := by
  obtain ⟨last, copied, rest, hrun, hchanged, hsides, hlast, houtput⟩ := h
  obtain ⟨hretargeted, hchanges⟩ := rewriting_append_of_substitute_eq_self
    (fun c hc ↦ List.mem_takeWhile_imp hc) (head?_dropWhile_inQuery (s := behind)) hsame
  rw [List.takeWhile_append_dropWhile] at hretargeted hchanges
  refine ⟨last, copied, rest, ?_, ?_, ?_, hlast, ?_⟩
  · rw [foldlM_step_of_cutAt?_eq_some hcopied hcut, if_pos hsame]
    exact hrun
  · simp [changesQuery_of_cutAt?_eq_some hcut, hchanged, hchanges, hsame]
  · simpa [cutAt?_eq_some hcut] using hsides
  · simp [retargeted_of_cutAt?_eq_some hcut, houtput, hretargeted, hsame]

/-- A query that changes: what is inside it lies before the offset that is reached. -/
theorem completes_of_substitute_ne
    (hdiffers : substitute boundaries (behind.takeWhile Sheet.inQuery) ≠
      behind.takeWhile Sheet.inQuery)
    (h : Completes boundaries
      (done ++ (passed ++ lead ++ mediaWord) ++ behind.takeWhile Sheet.inQuery) []
      (behind.dropWhile Sheet.inQuery)
      { output := pass.output ++ (passed ++ lead ++ mediaWord) ++
          substitute boundaries (behind.takeWhile Sheet.inQuery)
        copied := byteLength
          (done ++ (passed ++ lead ++ mediaWord) ++ behind.takeWhile Sheet.inQuery)
        changed := true }) :
    Completes boundaries done passed todo pass := by
  obtain ⟨last, copied, rest, hrun, hchanged, hsides, hlast, houtput⟩ := h
  have hsplit : behind.takeWhile Sheet.inQuery ++ behind.dropWhile Sheet.inQuery = behind :=
    List.takeWhile_append_dropWhile
  have hseparates : Separates mediaWord (behind.dropWhile Sheet.inQuery) :=
    (fenced_dropWhile_inQuery behind).separates_mediaWord
  have hoffsets := mediaOffsets_append hseparates
    (byteLength (done ++ (passed ++ lead ++ mediaWord))) (behind.takeWhile Sheet.inQuery)
  rw [hsplit, ← byteLength_append] at hoffsets
  rw [List.append_nil, List.append_assoc _ _ (behind.dropWhile _), hsplit] at hrun hsides
  refine ⟨last, copied, rest, ?_, ?_, ?_, hlast, ?_⟩
  · rw [foldlM_step_of_cutAt?_eq_some hcopied hcut, if_neg hdiffers, hoffsets, List.foldlM_append]
    refine Eq.trans (congrArg (· >>= _) (foldlM_step_of_forall_le ?_)) hrun
    intro start hmem
    have hle := add_le_of_mem_mediaOffsets hmem
    rwa [← byteLength_append] at hle
  · simp [changesQuery_of_cutAt?_eq_some hcut, hchanged, hdiffers]
  · simpa [cutAt?_eq_some hcut] using hsides
  · simp [retargeted_of_cutAt?_eq_some hcut, houtput]

end Completes

/-- A pass completes from wherever its output has come to. -/
theorem completes (boundaries : List Boundary) (todo done passed : List Char) (pass : Pass)
    (hcopied : pass.copied = byteLength done) : Completes boundaries done passed todo pass := by
  cases hcut : cutAt? mediaWord todo with
  | none => exact completes_of_cutAt?_eq_none hcopied hcut
  | some cut =>
    obtain ⟨lead, behind⟩ := cut
    have hlt := length_lt_of_cutAt?_eq_some mediaWord_ne_nil hcut
    have hshort := (List.dropWhile_suffix Sheet.inQuery (l := behind)).length_le
    by_cases hsame : substitute boundaries (behind.takeWhile Sheet.inQuery) =
        behind.takeWhile Sheet.inQuery
    · exact completes_of_substitute_eq_self hcopied hcut hsame
        (completes boundaries behind done (passed ++ lead ++ mediaWord) pass hcopied)
    · exact completes_of_substitute_ne hcopied hcut hsame (completes boundaries _ _ _ _ rfl)
termination_by todo.length

/-- A pass asks for no slice that is out of range, and gives the text with all queries rewritten,
unless none of them changes. -/
theorem run_eq (css : List Char) :
    run boundaries css =
      .ok (if changesQuery boundaries css then some (retargeted boundaries css) else none) := by
  obtain ⟨last, copied, rest, hrun, hchanged, hsides, hlast, houtput⟩ :=
    completes boundaries css [] [] {} rfl
  rw [List.append_nil, List.nil_append] at hrun hsides
  rw [byteLength_nil] at hrun
  simp only [Bool.false_or, List.nil_append] at hchanged houtput
  simp only [run, hrun, bind, Except.bind, finish?, hchanged]
  split
  · rw [hsides, hlast, sliceFrom_append, ← hsides]
    simp [pure, Except.pure, houtput]
  · rfl

end Pass

theorem retarget?_eq (boundaries : List Boundary) (css : List Char) :
    retarget? boundaries css =
      if changesQuery boundaries css then some (retargeted boundaries css) else none := by
  rw [retarget?, Pass.run_eq]

/-- The text that a pass gives is that of the sheet with all its queries rewritten. -/
theorem retarget_eq_retargeted (boundaries : List Boundary) (css : List Char) :
    retarget boundaries css = retargeted boundaries css := by
  rw [retarget, retarget?_eq]
  split
  · rfl
  next hsame => exact (retargeted_of_not_changesQuery (by simpa using hsame)).symm

theorem retarget_eq_targets (boundaries : List Boundary) (css : List Char) :
    retarget boundaries css = targets (partsFrom boundaries false css) := by
  rw [retarget_eq_retargeted, retargeted_eq_targets]

/-- Lists of boundaries that agree on the conditions in the queries of a text rewrite it alike. -/
theorem retarget_congr {boundaries boundaries' : List Boundary} {css : List Char}
    (h : ∀ before condition, Candidate css before condition → EndsInQuery before →
      condition.boundary? boundaries = condition.boundary? boundaries') :
    retarget boundaries css = retarget boundaries' css := by
  rw [retarget_eq_targets, retarget_eq_targets, partsFrom_congr h]

end Responsive.Media
