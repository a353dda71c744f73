import Responsive.Files.Disk
import Responsive.Frontend.Basic
import Responsive.Proofs.Settings.Overrides

/-!
# Requests in flight

A session is a run of one frontend: pairs are saved, requests are opened, and the open requests are
called, in any order. Every request works with one pair, that of the store at its first call that
needs a pair, and what is saved later does not reach it.

A session writes down what an onlooker sees. Each call is kept with its answer, with what the store
held at that moment and with the pair saved last; the store is read through a counter.

* `Live.Snapshot`: what the calls of one request have to do with each other.
* `Frontend.Holds`: what the store holds of the pair saved last.
* `Session.run_keeps_first_pair`: both for every request of every session.
-/

set_option autoImplicit false
set_option relaxedAutoImplicit false

namespace Responsive

/-! ### Calls -/

/-- What a request may be asked for. -/
inductive Call
  | render (block : Block) (content : Option String)
  | stylesheet
  | adjustCss (css : String)
  | breakpoints
  | hasCustom

/-- What a request answers. -/
inductive Answer
  | fragment (fragment : Option Fragment)
  | style (style : PageStyle)
  | css (css : String)
  | pair (r : Resolved)
  | custom (hasCustom : Bool)
deriving DecidableEq

namespace Call

/-- Whether a call needs the pair of its request. All do but the rendering of absent content and of
blocks whose name begins with no namespace; the empty namespace does not count. -/
def Resolves (d : Delivery) : Call → Prop
  | render block content =>
    content ≠ none ∧ ∃ name ∈ block.name, ∃ space ∈ d.namespaces,
      space ≠ "" ∧ space.toList <+: name.toList
  | _ => True

/-- Puts a call to a request. -/
def perform {m : Type → Type} [Monad m] (site : Site) (load : m Stored) :
    Call → StateT Request m Answer
  | render block content => .fragment <$> Request.render site load block content
  | stylesheet => .style <$> Request.pageStyle site load
  | adjustCss css => .css <$> Request.adjustCss site load css
  | breakpoints => .pair <$> Request.breakpoints site load
  | hasCustom => .custom <$> Request.hasCustom site load

/-- The answer that a pair makes to a call. -/
def answer (site : Site) (r : Resolved) : Call → Answer
  | render _ content =>
    .fragment <| content.map fun content ↦
      let filtered := site.delivery.filterCss r content
      { content := filtered, changed := filtered != content }
  | stylesheet => .style (site.delivery.pageStyle r)
  | adjustCss css => .css (site.delivery.filterCss r css)
  | breakpoints => .pair r
  | hasCustom => .custom r.hasCustom

/-- Content that comes back as it is. -/
def unchanged (content : Option String) : Answer :=
  .fragment (content.map fun content ↦ { content, changed := false })

/-- The request after a call has gathered its fonts. -/
def gathered (site : Site) (request : Request) : Call → Request
  | render block content =>
    { request with fonts := request.fonts.gather site.fonts block content }
  | _ => request

theorem scope_gathered (site : Site) (request : Request) (call : Call) :
    (call.gathered site request).scope = request.scope := by
  cases call <;> rfl

theorem concerns_iff {d : Delivery} {block : Block} : d.concerns block = true ↔
    ∃ name ∈ block.name, ∃ space ∈ d.namespaces, space ≠ "" ∧ space.toList <+: name.toList :=
  Block.inNamespace_iff

theorem resolves_render {d : Delivery} {block : Block} {content : Option String} :
    (render block content).Resolves d ↔ content.isSome && d.concerns block := by
  rw [Resolves, ← concerns_iff, Bool.and_eq_true, Option.isSome_iff_ne_none]

instance (d : Delivery) (call : Call) : Decidable (call.Resolves d) :=
  match call with
  | render _ _ => decidable_of_iff' _ resolves_render
  | stylesheet | adjustCss _ | breakpoints | hasCustom => isTrue trivial

variable {m : Type → Type} [Monad m] [LawfulMonad m] {site : Site} {load : m Stored}

/-- A call that needs the pair asks for it and answers with it. -/
theorem run_perform {call : Call} {request : Request} (h : call.Resolves site.delivery) :
    (call.perform site load).run request =
      (fun p ↦ (call.answer site p.1, p.2)) <$>
        (Request.breakpoints site load).run (call.gathered site request) := by
  cases call with
  | render block content =>
    obtain ⟨hcontent, hconcerns⟩ := Bool.and_eq_true_iff.mp (resolves_render.mp h)
    cases content with
    | none => contradiction
    | some content => simp [perform, Request.render, Request.adjustCss, hconcerns, answer, gathered]
  | stylesheet => simp [perform, Request.pageStyle, answer, gathered]
  | adjustCss css => simp [perform, Request.adjustCss, answer, gathered]
  | breakpoints => simp [perform, answer, gathered]
  | hasCustom => simp [perform, Request.hasCustom, answer, gathered]

/-- A call that needs no pair is the rendering of a content that comes back as it is. -/
theorem run_perform_of_not_resolves {call : Call} (load : m Stored) (request : Request)
    (h : ¬ call.Resolves site.delivery) :
    ∃ block content, call = render block content ∧
      (call.perform site load).run request =
        pure (unchanged content, call.gathered site request) := by
  cases call with
  | render block content =>
    refine ⟨block, content, rfl, ?_⟩
    cases content with
    | none => simp [perform, Request.render, unchanged, gathered]
    | some content =>
      have hconcerns : site.delivery.concerns block = false := by
        simpa using mt resolves_render.mpr h
      simp [perform, Request.render, unchanged, gathered, hconcerns]
  | stylesheet => exact absurd trivial h
  | adjustCss css => exact absurd trivial h
  | breakpoints => exact absurd trivial h
  | hasCustom => exact absurd trivial h

end Call

/-! ### Sessions -/

/-- One call of a request: what the store held and which pair was saved last at that moment, and
what was answered. -/
structure Visit where
  stored : Stored
  saved : Option Breakpoints
  call : Call
  answer : Answer

/-- A request in a session: its state, how often it read the store, and its calls so far. -/
structure Live where
  request : Request := {}
  reads : Nat := 0
  visits : List Visit := []

/-- What happens in a session. -/
inductive Event
  | save (b : Breakpoints)
  | request
  /-- The request with this number is called, if there is one. -/
  | call (number : Nat) (call : Call)

/-- A frontend with the files it works on, the pair saved last, and the requests opened so far. -/
structure Session (σ : Type) where
  frontend : Frontend
  disk : σ
  saved : Option Breakpoints := none
  requests : List Live := []

/-- The overrides as a source that counts how often it is read. -/
def Frontend.countedStored (frontend : Frontend) : StateM Nat Stored := fun reads ↦
  (frontend.stored, reads + 1)

namespace Live

/-- Calls a request. -/
def visit (frontend : Frontend) (saved : Option Breakpoints) (call : Call) (live : Live) : Live :=
  let ((answer, request), reads) :=
    ((call.perform frontend.site frontend.countedStored).run live.request).run live.reads
  { request, reads,
    visits := live.visits ++ [{ stored := frontend.stored, saved, call, answer }] }

/-- The first call that needed the pair. -/
def first? (d : Delivery) (live : Live) : Option Visit :=
  live.visits.find? fun visit ↦ visit.call.Resolves d

end Live

namespace Session

variable {σ : Type}

/-- What an event does. A pair counts as saved if the store reports no error. -/
def step (fs : FileSystem (StateM σ)) (s : Session σ) : Event → Session σ
  | .save b =>
    let ((result, frontend), disk) :=
      ((Frontend.saveBreakpoints fs b).run.run s.frontend).run s.disk
    { s with
      frontend, disk
      saved := match result with
        | .ok () => some b
        | .error _ => s.saved }
  | .request => { s with requests := s.requests ++ [{}] }
  | .call number call =>
    { s with requests := s.requests.modify number (Live.visit s.frontend s.saved call) }

/-- What a list of events does, one after the other. -/
def run (fs : FileSystem (StateM σ)) (s : Session σ) (events : List Event) : Session σ :=
  events.foldl (step fs) s

end Session

/-! ### One request -/

/-- What the calls of one request have to do with each other: the pair of the request is that of the
store at the first call that needed one. -/
structure Live.Snapshot (site : Site) (live : Live) : Prop where
  /-- The request holds that pair from that call on, and none before. -/
  resolved : live.request.scope.resolved =
    (live.first? site.delivery).map fun first ↦ site.hooks.resolve first.stored
  /-- The store is read at that call and at no other. -/
  reads : live.reads = if (live.first? site.delivery).isSome then 1 else 0
  /-- All answers are made with that pair, whatever the store held when they were given. -/
  answer : ∀ visit ∈ live.visits, visit.call.Resolves site.delivery →
    ∃ first, live.first? site.delivery = some first ∧
      visit.answer = visit.call.answer site (site.hooks.resolve first.stored)
  /-- The other calls give their content back. -/
  unchanged : ∀ visit ∈ live.visits, ¬ visit.call.Resolves site.delivery →
    ∃ block content, visit.call = .render block content ∧ visit.answer = Call.unchanged content

namespace Live

variable {frontend : Frontend} {saved : Option Breakpoints} {call : Call} {live : Live}

/-- A call that needs no pair leaves the pair of the request as it is, and reads nothing. -/
theorem visit_of_not_resolves (live : Live) (saved : Option Breakpoints)
    (h : ¬ call.Resolves frontend.site.delivery) :
    ∃ block content, call = .render block content ∧
      live.visit frontend saved call =
        { request := call.gathered frontend.site live.request
          reads := live.reads
          visits := live.visits ++
            [{ stored := frontend.stored, saved, call, answer := Call.unchanged content }] } := by
  obtain ⟨block, content, hcall, hperform⟩ :=
    Call.run_perform_of_not_resolves frontend.countedStored live.request h
  refine ⟨block, content, hcall, ?_⟩
  unfold visit
  rw [hperform]
  rfl

/-- A call that needs the pair is answered with the one that the request holds. -/
theorem visit_of_resolved {r : Resolved} (h : call.Resolves frontend.site.delivery)
    (hresolved : live.request.scope.resolved = some r) :
    live.visit frontend saved call =
      { request := call.gathered frontend.site live.request
        reads := live.reads
        visits := live.visits ++
          [{ stored := frontend.stored, saved, call
             answer := call.answer frontend.site r }] } := by
  have hscope := call.scope_gathered frontend.site live.request
  unfold visit
  rw [Call.run_perform h, Request.run_breakpoints, hscope, hresolved]
  rfl

/-- The first call that needs the pair resolves it. -/
theorem visit_of_not_resolved (h : call.Resolves frontend.site.delivery)
    (hresolved : live.request.scope.resolved = none) :
    live.visit frontend saved call =
      let r := frontend.site.hooks.resolve frontend.stored
      { request := { call.gathered frontend.site live.request with scope := { resolved := some r } }
        reads := live.reads + 1
        visits := live.visits ++
          [{ stored := frontend.stored, saved, call
             answer := call.answer frontend.site r }] } := by
  have hscope := call.scope_gathered frontend.site live.request
  unfold visit
  rw [Call.run_perform h, Request.run_breakpoints, hscope, hresolved]
  rfl

section Append

variable {site : Site} {next : Live} {visit : Visit}

theorem first?_append {d : Delivery} (hvisits : next.visits = live.visits ++ [visit]) :
    next.first? d =
      (live.first? d).or (if visit.call.Resolves d then some visit else none) := by
  unfold first?
  rw [hvisits, List.find?_append, List.find?_singleton]
  simp

/-- One more call only has to fit in with the calls before it. -/
theorem Snapshot.append (h : live.Snapshot site) (hvisits : next.visits = live.visits ++ [visit])
    (hresolved : next.request.scope.resolved =
      (next.first? site.delivery).map fun first ↦ site.hooks.resolve first.stored)
    (hreads : next.reads = if (next.first? site.delivery).isSome then 1 else 0)
    (hanswer : visit.call.Resolves site.delivery →
      ∃ first, next.first? site.delivery = some first ∧
        visit.answer = visit.call.answer site (site.hooks.resolve first.stored))
    (hunchanged : ¬ visit.call.Resolves site.delivery →
      ∃ block content, visit.call = .render block content ∧
        visit.answer = Call.unchanged content) : next.Snapshot site := by
  have hmem {v : Visit} (hv : v ∈ next.visits) : v ∈ live.visits ∨ v = visit := by
    rwa [hvisits, List.mem_append, List.mem_singleton] at hv
  refine ⟨hresolved, hreads, ?_, ?_⟩
  · intro v hv hneeds
    rcases hmem hv with hold | rfl
    · obtain ⟨first, hfirst, hanswered⟩ := h.answer v hold hneeds
      refine ⟨first, ?_, hanswered⟩
      rw [first?_append hvisits, hfirst]
      rfl
    · exact hanswer hneeds
  · intro v hv hneeds
    rcases hmem hv with hold | rfl
    · exact h.unchanged v hold hneeds
    · exact hunchanged hneeds

end Append

/-- Every call keeps the request to its first pair. -/
theorem Snapshot.visit (h : live.Snapshot frontend.site) :
    (live.visit frontend saved call).Snapshot frontend.site := by
  have hresolved := h.resolved
  have hreads := h.reads
  -- The pair of the request is settled by the first call that needs one.
  by_cases hcall : call.Resolves frontend.site.delivery
  · cases hfirst : live.first? frontend.site.delivery with
    | none =>
      rw [hfirst] at hresolved hreads
      rw [visit_of_not_resolved hcall hresolved]
      refine h.append rfl ?_ ?_ (fun _ ↦ ?_) (absurd hcall)
      · rw [first?_append rfl, hfirst, if_pos hcall]
        rfl
      · rw [first?_append rfl, hfirst, if_pos hcall, hreads]
        rfl
      · rw [first?_append rfl, hfirst, if_pos hcall]
        exact ⟨_, rfl, rfl⟩
    | some first =>
      rw [hfirst] at hresolved hreads
      rw [visit_of_resolved hcall hresolved]
      refine h.append rfl ?_ ?_ (fun _ ↦ ?_) (absurd hcall)
      · rw [first?_append rfl, hfirst, call.scope_gathered]
        exact hresolved
      · rw [first?_append rfl, hfirst]
        exact hreads
      · rw [first?_append rfl, hfirst]
        exact ⟨first, rfl, rfl⟩
  · obtain ⟨block, content, rfl, hvisit⟩ := visit_of_not_resolves live saved hcall
    rw [hvisit]
    refine h.append rfl ?_ ?_ (fun hneeds ↦ absurd hneeds hcall) fun _ ↦ ⟨block, content, rfl, rfl⟩
    · rw [first?_append rfl, if_neg hcall, Option.or_none, Call.scope_gathered]
      exact hresolved
    · rw [first?_append rfl, if_neg hcall, Option.or_none]
      exact hreads

end Live

/-! ### Saving -/

/-- What a store holds when `saved` is the pair saved last: what the definition of the record admits
of it. As long as no pair was saved it holds what it held at the start of the session. -/
def Frontend.Holds (frontend : Frontend) (stored : Stored) (saved : Option Breakpoints) : Prop :=
  match saved with
  | none => stored = frontend.stored
  | some b =>
    ∃ d, frontend.store.describe? overridesName = some d ∧ stored = .pair (b.only d.admits)

section SetUp

variable {σ : Type} {fs : FileSystem (StateM σ)} {config : Config} {store : Store}
  {frontend : Frontend} {disk disk' : σ}

/-- A frontend that is set up over a store has that store, with the record defined, and a delivery
with the standard filter. -/
theorem Frontend.parts_of_run_withStore
    (h : (withStore fs config store).run disk = (.ok frontend, disk')) :
    store.registerOverrides = .ok frontend.store ∧
      (Delivery.ofConfig fs config .standard).run disk = (.ok frontend.site.delivery, disk') := by
  rw [withStore] at h
  cases hregister : store.registerOverrides with
  | error e =>
    rw [hregister] at h
    cases congrArg Prod.fst h
  | ok defined =>
    rw [hregister] at h
    dsimp only at h
    rw [StateT.run_bind] at h
    rcases hdelivery : (Delivery.ofConfig fs config .standard).run disk with ⟨e | delivery, disk''⟩
    · rw [hdelivery] at h
      cases congrArg Prod.fst h
    · rw [hdelivery] at h
      obtain ⟨hfrontend, rfl⟩ := Prod.mk.inj h
      obtain rfl := Except.ok.inj hfrontend
      exact ⟨rfl, rfl⟩

end SetUp

namespace Session

variable {σ : Type} {fs : FileSystem (StateM σ)} {frontend : Frontend} {s : Session σ}

/-- What a session of a frontend keeps up: requests work with their first pair, and the store holds
the pair saved last, at every call and now. -/
structure Sound (frontend : Frontend) (s : Session σ) : Prop where
  site : s.frontend.site = frontend.site
  definitions : s.frontend.store.definitions = frontend.store.definitions
  holds : frontend.Holds s.frontend.stored s.saved
  snapshot : ∀ live ∈ s.requests, live.Snapshot frontend.site
  visits : ∀ live ∈ s.requests, ∀ visit ∈ live.visits, frontend.Holds visit.stored visit.saved

theorem Sound.save (h : s.Sound frontend) (b : Breakpoints) :
    (s.step fs (.save b)).Sound frontend := by
  have hset := Store.outcome_set fs overridesName b.toJson s.frontend.store s.disk
  have hstored := Store.stored_of_outcome_set fs b s.frontend.store s.disk
  rw [step, Frontend.run_saveBreakpoints]
  revert hset hstored
  rcases Store.outcome (Store.set fs overridesName b.toJson) s.frontend.store s.disk with
    ⟨⟨e | _, store⟩, disk⟩
  · rintro ⟨hdefinitions, hrecords⟩ -
    have hsame : store.stored = s.frontend.store.stored := Store.stored_congr hrecords
    refine ⟨h.site, hdefinitions.trans h.definitions, ?_, h.snapshot, h.visits⟩
    show frontend.Holds store.stored s.saved
    rw [hsame]
    exact h.holds
  · rintro ⟨hdefinitions, -⟩ hstored
    obtain ⟨d, hd, hholds⟩ := hstored rfl
    have hsame : s.frontend.store.describe? overridesName =
        frontend.store.describe? overridesName := by
      rw [Store.describe?, Store.describe?, h.definitions]
    exact ⟨h.site, hdefinitions.trans h.definitions, ⟨d, hsame.symm.trans hd, hholds⟩, h.snapshot,
      h.visits⟩

theorem Sound.request (h : s.Sound frontend) : (s.step fs .request).Sound frontend := by
  have hmem {live : Live} (hlive : live ∈ s.requests ++ [({} : Live)]) :
      live ∈ s.requests ∨ live = ({} : Live) := by
    rwa [List.mem_append, List.mem_singleton] at hlive
  refine ⟨h.site, h.definitions, h.holds, ?_, ?_⟩
  · intro live hlive
    rcases hmem hlive with hold | rfl
    · exact h.snapshot live hold
    · constructor <;> simp [Live.first?]
  · intro live hlive visit hvisit
    rcases hmem hlive with hold | rfl
    · exact h.visits live hold visit hvisit
    · contradiction

/-- The members of a list of which one was modified. -/
theorem mem_modify {α : Type} {a : α} {as : List α} {n : Nat} {f : α → α}
    (h : a ∈ as.modify n f) : a ∈ as ∨ ∃ old ∈ as, f old = a := by
  obtain ⟨i, hi⟩ := List.mem_iff_getElem?.mp h
  rw [List.getElem?_modify] at hi
  split at hi
  · obtain ⟨old, hold, rfl⟩ := Option.map_eq_some_iff.mp hi
    exact .inr ⟨old, List.mem_of_getElem? hold, rfl⟩
  · exact .inl (List.mem_of_getElem? (by simpa using hi))

theorem Sound.call (h : s.Sound frontend) (number : Nat) (call : Call) :
    (s.step fs (.call number call)).Sound frontend := by
  refine ⟨h.site, h.definitions, h.holds, ?_, ?_⟩
  · intro live hlive
    rcases mem_modify hlive with hold | ⟨old, hold, rfl⟩
    · exact h.snapshot live hold
    · rw [← h.site]
      refine Live.Snapshot.visit ?_
      rw [h.site]
      exact h.snapshot old hold
  · intro live hlive visit hvisit
    rcases mem_modify hlive with hold | ⟨old, hold, rfl⟩
    · exact h.visits live hold visit hvisit
    · rcases List.mem_append.mp hvisit with hbefore | hnow
      · exact h.visits old hold visit hbefore
      · obtain rfl := List.mem_singleton.mp hnow
        exact h.holds

/-- Every event keeps the session sound. -/
theorem Sound.step (h : s.Sound frontend) (event : Event) : (s.step fs event).Sound frontend := by
  cases event with
  | save b => exact h.save b
  | request => exact h.request
  | call number call => exact h.call number call

theorem Sound.run (h : s.Sound frontend) (events : List Event) :
    (s.run fs events).Sound frontend := by
  induction events generalizing s with
  | nil => exact h
  | cons event events ih => exact ih (h.step event)

theorem sound_start (frontend : Frontend) (disk : σ) : Sound frontend { frontend, disk } :=
  ⟨rfl, rfl, rfl, nofun, nofun⟩

/-- A call that needs no pair changes neither the pair of a request nor how often it read the
store. -/
theorem scopes_call {number : Nat} {call : Call} (h : ¬ call.Resolves s.frontend.site.delivery) :
    (s.step fs (.call number call)).requests.map (fun live ↦ (live.request.scope, live.reads)) =
      s.requests.map fun live ↦ (live.request.scope, live.reads) := by
  refine List.ext_getElem? fun i ↦ ?_
  rw [List.getElem?_map, List.getElem?_map, step, List.getElem?_modify, Option.map_eq_map,
    Option.map_map]
  congr 1
  ext live : 1
  rw [Function.comp_apply]
  split
  · obtain ⟨block, content, rfl, hvisit⟩ := live.visit_of_not_resolves s.saved h
    rw [hvisit, Call.scope_gathered]
  · rfl

/-- In every session, whatever is saved between the calls, a request works with the pair of the
store at its first call that needs one. Of the pair saved last the store holds what the definition
of its record admits, and all of it if that is the definition that the library brings along. -/
theorem run_keeps_first_pair (fs : FileSystem (StateM σ)) (frontend : Frontend) (disk : σ)
    (events : List Event) :
    let s := run fs { frontend, disk } events
    (∀ live ∈ s.requests, live.Snapshot frontend.site ∧
      ∀ visit ∈ live.visits, frontend.Holds visit.stored visit.saved ∧
        (frontend.store.describe? overridesName = some overridesDefinition →
          ∀ b ∈ visit.saved, visit.stored = .pair b)) ∧
      ∀ number call, ¬ call.Resolves frontend.site.delivery →
        (s.step fs (.call number call)).requests.map (fun live ↦ (live.request.scope, live.reads)) =
          s.requests.map fun live ↦ (live.request.scope, live.reads) := by
  intro s
  have hsound : s.Sound frontend := (sound_start frontend disk).run events
  constructor
  · intro live hlive
    refine ⟨hsound.snapshot live hlive, fun visit hvisit ↦ ?_⟩
    have hholds := hsound.visits live hlive visit hvisit
    refine ⟨hholds, fun hown b hsaved ↦ ?_⟩
    rw [Option.mem_def.mp hsaved] at hholds
    obtain ⟨d, hd, hstored⟩ := hholds
    obtain rfl := Option.some.inj (hown.symm.trans hd)
    rw [hstored, Breakpoints.only_admits_overridesDefinition]
  · intro number call h
    rw [← hsound.site] at h
    exact scopes_call h

/-- A store in which the record was defined beforehand, with a property for one tier only, loses the
other tier of a saved pair, and so do the requests after it. -/
theorem not_forall_saved_pair_merged :
    ¬ ∀ (store : Store) (frontend : Frontend) (disk : Disk) (events : List Event),
      (Frontend.withStore Disk.fileSystem {} store).run disk = (.ok frontend, disk) →
      ∀ live ∈ (run Disk.fileSystem { frontend, disk } events).requests,
        ∀ first ∈ live.first? frontend.site.delivery, ∀ b ∈ first.saved,
          first.stored.overrides = b := by
  intro h
  let tabletOnly : Definition :=
    { name := overridesName, description := "", properties := [("tablet", .string)] }
  let store : Store := { definitions := [(overridesName, tabletOnly)] }
  have hstored := h store _ default [.save ⟨"1200", "600"⟩, .request, .call 0 .breakpoints] rfl _
    (List.mem_singleton.mpr rfl) _ rfl ⟨"1200", "600"⟩ rfl
  exact absurd hstored (by decide)

end Session

end Responsive
