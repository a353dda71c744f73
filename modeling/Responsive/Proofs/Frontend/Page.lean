import Responsive.Proofs.CommandLine.SetRuns
import Responsive.Proofs.Delivery
import Responsive.Proofs.Frontend.Session

/-!
# Pages of a site

What a page gets of the responsive stylesheet, for requests in flight and for the command that
prints the text that reaches the page. In both cases one pair decides, so that the delivery, the
filter and the pair that are seen belong together.

* `Frontend.filter_of_run_ofConfig`: a configured site has the standard filter.
* `Session.run_page_agrees`: the page and the filter in every request.
-/

set_option autoImplicit false
set_option relaxedAutoImplicit false

namespace Responsive

open Delivery

variable {σ : Type} {fs : FileSystem (StateM σ)}

/-- The delivery of a configured site has the filter that it is given. -/
theorem Delivery.filter_of_run_ofConfig {config : Config} {filter : CssFilter} {d : Delivery}
    {s s' : σ} (h : (Delivery.ofConfig fs config filter).run s = (.ok d, s')) :
    d.filter = filter := by
  unfold Delivery.ofConfig at h
  cases hpath : config.breakpoints.stylesheet with
  | none =>
    rw [hpath] at h
    obtain rfl := Except.ok.inj (congrArg Prod.fst h)
    rfl
  | some path =>
    rw [hpath] at h
    dsimp only at h
    rw [StateT.run_bind] at h
    rcases hread : (fs.readText path).run s with ⟨e | text, s''⟩
    · rw [hread] at h
      cases congrArg Prod.fst h
    · rw [hread] at h
      obtain rfl := Except.ok.inj (congrArg Prod.fst h)
      rfl

/-- A configured site has the standard filter. -/
theorem Frontend.filter_of_run_ofConfig {process : String} {config : Config} {frontend : Frontend}
    {s s' : σ} (h : (Frontend.ofConfig fs process config).run s = (.ok frontend, s')) :
    frontend.site.delivery.filter = .standard := by
  rw [ofConfig, StateT.run_bind] at h
  rcases hopen : (Store.openDocument fs process config.settings.path config.settings.create).run s
    with ⟨e | store, s₁⟩
  · rw [hopen] at h
    cases congrArg Prod.fst h
  · rw [hopen] at h
    exact Delivery.filter_of_run_ofConfig (parts_of_run_withStore h).2

namespace CommandLine

/-- The text that reaches the page is that of the pair that the store makes. -/
theorem outcome_stylesheet_raw (frontend : Frontend) (s : σ) :
    outcome (stylesheet true) frontend s =
      let d := frontend.site.delivery
      ((.ok (d.pageCss (d.pageStyle (frontend.site.hooks.resolve frontend.stored))), frontend),
        s) :=
  rfl

/-- The command prints what a page of the configured site gets. -/
theorem onPage_of_run_stylesheet {surroundings : Surroundings (StateM σ)} {config : Config}
    {page : String} {s s' : σ}
    (h : (run surroundings config (.stylesheet true)).run s = (.ok page, s')) :
    ∃ frontend, (Frontend.ofConfig surroundings.fs surroundings.process config).run s =
        (.ok frontend, s') ∧
      let d := frontend.site.delivery
      let r := frontend.site.hooks.resolve frontend.stored
      OnPage d.responsiveCss r page (d.filterCss r d.responsiveCss) := by
  rcases hsetup : (Frontend.ofConfig surroundings.fs surroundings.process config).run s with
    ⟨e | frontend, s₁⟩
  · rw [run_of_not_set_up hsetup] at h
    cases congrArg Prod.fst h
  · have hrun : (run surroundings config (.stylesheet true)).run s = _ :=
      run_of_set_up hsetup (outcome_stylesheet_raw frontend s₁)
    obtain ⟨hpage, rfl⟩ := Prod.mk.inj (hrun.symm.trans h)
    obtain rfl := Except.ok.inj hpage
    exact ⟨frontend, rfl, onPage_standard (Frontend.filter_of_run_ofConfig hsetup) _⟩

end CommandLine

namespace Session

/-- In every request of every session, and whenever the text that reaches the page is printed, the
page is what the filter makes of the responsive stylesheet in that request, unless placeholders meet
a pair without a customized tier. Such a pair loads the stylesheet as it is. With a customized tier
the page holds a placeholder only where a configured value brings it along. -/
theorem run_page_agrees (fs : FileSystem (StateM σ)) (frontend : Frontend) (disk : σ)
    (events : List Event) (hfilter : frontend.site.delivery.filter = .standard) :
    let d := frontend.site.delivery
    (∀ live ∈ (run fs { frontend, disk } events).requests,
      ∀ visit ∈ live.visits, visit.call = .stylesheet →
        ∃ first style, live.first? d = some first ∧ visit.answer = .style style ∧
          let r := frontend.site.hooks.resolve first.stored
          (∀ other ∈ live.visits, other.call = .adjustCss d.responsiveCss →
            other.answer = .css (d.filterCss r d.responsiveCss)) ∧
          OnPage d.responsiveCss r (d.pageCss style) (d.filterCss r d.responsiveCss)) ∧
      ∀ (surroundings : CommandLine.Surroundings (StateM σ)) (config : Config) (page : String)
        (s' : σ), (CommandLine.run surroundings config (.stylesheet true)).run disk =
          (.ok page, s') →
        ∃ frontend, (Frontend.ofConfig surroundings.fs surroundings.process config).run disk =
            (.ok frontend, s') ∧
          let d := frontend.site.delivery
          let r := frontend.site.hooks.resolve frontend.stored
          OnPage d.responsiveCss r page (d.filterCss r d.responsiveCss) := by
  intro d
  refine ⟨fun live hlive visit hvisit hcall ↦ ?_,
    fun _ _ _ _ ↦ CommandLine.onPage_of_run_stylesheet⟩
  have hsound : Sound frontend (run fs { frontend, disk } events) :=
    (sound_start frontend disk).run events
  have hsnapshot := hsound.snapshot live hlive
  obtain ⟨first, hfirst, hanswer⟩ := hsnapshot.answer visit hvisit (by rw [hcall]; trivial)
  rw [hcall] at hanswer
  refine ⟨first, _, hfirst, hanswer, fun other hother hadjust ↦ ?_, onPage_standard hfilter _⟩
  obtain ⟨first', hfirst', hanswer'⟩ := hsnapshot.answer other hother (by rw [hadjust]; trivial)
  obtain rfl := Option.some.inj (hfirst.symm.trans hfirst')
  rw [hadjust] at hanswer'
  exact hanswer'

/-- A site whose stylesheet has a placeholder. -/
def placeholderSite : Site where
  delivery := { responsiveCss := "@media tablet\x7ba\x7bb:c\x7d\x7d" }

theorem isInfix_placeholderSite :
    Tier.tablet.placeholder.toList <:+: placeholderSite.delivery.responsiveCss.toList :=
  ⟨[], "\x7ba\x7bb:c\x7d\x7d".toList, by decide⟩

/-- With a tablet width of 1200 stored, the page of that site is what the filter makes of its
stylesheet, and the placeholder is not on it. -/
theorem run_page_agrees_of_tablet :
    ∃ style css, placeholderSite.delivery.filter = .standard ∧
      (run Disk.fileSystem
        { frontend :=
            { store := { records := [(overridesName, (Breakpoints.mk "1200" "").toJson)] }
              site := placeholderSite }
          disk := default }
        [.request, .call 0 .stylesheet,
          .call 0 (.adjustCss placeholderSite.delivery.responsiveCss)]).requests.map
            (·.visits.map (·.answer)) = [[.style style, .css css]] ∧
      placeholderSite.delivery.pageCss style = css ∧
      ∀ t : Tier, ¬ t.placeholder.toList <:+: css.toList := by
  obtain ⟨hmain, -⟩ := run_page_agrees Disk.fileSystem
    { store := { records := [(overridesName, (Breakpoints.mk "1200" "").toJson)] }
      site := placeholderSite } default
    [.request, .call 0 .stylesheet, .call 0 (.adjustCss placeholderSite.delivery.responsiveCss)] rfl
  obtain ⟨first, style, hfirst, hstyle, hother, hpage⟩ :=
    hmain _ (List.mem_singleton.mpr rfl) _ List.mem_cons_self rfl
  obtain rfl := Option.some.inj hfirst
  have hcss := hother _ (List.mem_cons_of_mem _ (List.mem_singleton.mpr rfl)) rfl
  have hagrees := hpage.agrees.mpr (.inl (by decide))
  refine ⟨style, _, rfl, congrArg₂ (fun style css ↦ [[style, css]]) hstyle hcss, hagrees,
    fun t ↦ ?_⟩
  rw [← hagrees, hpage.placeholder (by decide) t]
  rintro ⟨u, -, hvalue⟩
  revert hvalue
  cases t <;> cases u <;> decide

/-- Without a customized tier the page of that site has the placeholder, which the filter
expands. -/
theorem not_forall_page_eq_filtered :
    ¬ ∀ (frontend : Frontend) (events : List Event), frontend.site.delivery.filter = .standard →
      ∀ live ∈ (run Disk.fileSystem { frontend, disk := default } events).requests,
        ∀ visit ∈ live.visits, ∀ other ∈ live.visits, ∀ style css,
          visit.answer = .style style →
          other.call = .adjustCss frontend.site.delivery.responsiveCss → other.answer = .css css →
          frontend.site.delivery.pageCss style = css := by
  intro h
  have hequal := h { site := placeholderSite }
    [.request, .call 0 .stylesheet, .call 0 (.adjustCss placeholderSite.delivery.responsiveCss)] rfl
    _ (List.mem_singleton.mpr rfl) _ List.mem_cons_self
    _ (List.mem_cons_of_mem _ (List.mem_singleton.mpr rfl)) _ _ rfl rfl rfl
  have hpage := onPage_standard (d := placeholderSite.delivery) rfl
    (placeholderSite.hooks.resolve ({} : Store).stored)
  rcases hpage.agrees.mp hequal with hcustom | hnone
  · exact absurd hcustom (by decide)
  · exact hnone .tablet isInfix_placeholderSite

end Session

end Responsive
