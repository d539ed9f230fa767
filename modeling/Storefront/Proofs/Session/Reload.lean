import Storefront.Proofs.History
import Storefront.Proofs.Location
import Storefront.Proofs.Search.Applied
import Storefront.Proofs.Session.Invariant

/-! # A written location leads back to its search

The history of a session holds locations of two paths only: the one it started at and the one
results are shown at. Whatever is searched for, the written form of the current location names the
same search to a session that starts there, as long as it names a location at all. -/

namespace Storefront

/-! ## Paths of a history -/

/-- Every location that has been visited has a path of some kind. -/
def History.Within (h : History) (paths : String → Prop) : Prop :=
  ∀ l ∈ h.entries, paths l.path

namespace History

variable {h : History} {paths : String → Prop}

theorem Within.current (hw : h.Within paths) : paths h.current.path :=
  hw _ (List.get_mem _ _)

theorem Within.push (hw : h.Within paths) {l : Location} (hl : paths l.path) :
    (h.push l).Within paths := by
  intro m hm
  rcases List.mem_append.mp hm with hm | hm
  · exact hw m (List.mem_of_mem_take hm)
  · rw [List.mem_singleton.mp hm]
    exact hl

theorem Within.replace (hw : h.Within paths) {l : Location} (hl : paths l.path) :
    (h.replace l).Within paths := by
  intro m hm
  rcases List.mem_or_eq_of_mem_set hm with hm | rfl
  · exact hw m hm
  · exact hl

end History

@[simp] theorem Session.complete_history (s : Session) (ticket : Ticket) (result : SearchResult) :
    (s.complete ticket result).history = s.history := by
  by_cases h : s.snapshot.revision = ticket.number
  · cases result <;> simp [complete, commit, publish, record, h]
  · simp [complete, record, h]

namespace SessionRun

variable {r : SessionRun} {paths : String → Prop}

theorem runTasks_history (r : SessionRun) : r.runTasks.session.history = r.session.history := by
  unfold runTasks poll?
  split
  · rfl
  · split
    · rfl
    · simp
    · split <;> simp

theorem resolve_history (r : SessionRun) (call : Nat) (result : SearchResult) :
    (r.resolve call result).session.history = r.session.history := by
  rcases r.resolve_cases call result with heq | ⟨c, -, -, ⟨ticket, request, -, heq⟩ | heq⟩ <;>
    rw [heq]

theorem within_step (hresults : paths r.session.settings.resultsPath)
    (h : r.session.history.Within paths) (op : SessionStep) :
    (r.step op).session.history.Within paths := by
  have hset : ∀ categories, (r.session.setCategories categories).history.Within paths := by
    intro categories
    have hpath := SearchState.path_applyTo
      { SearchState.ofLocation r.session.history.current with categories } r.session.history.current
    exact (r.session.visit_history _).symm ▸ h.replace (hpath.symm ▸ h.current)
  cases op with
  | submit text =>
      unfold step Session.submit
      simp only
      split
      · have hpath := SearchState.path_applyTo
          { SearchState.ofLocation r.session.history.current with query := Text.trim text }
          (r.session.history.current.setPath r.session.settings.resultsPath)
        exact (r.session.visit_history _).symm ▸ h.push (hpath.symm ▸ hresults)
      · exact h
  | setCategories categories => exact hset categories
  | toggle label => exact hset _
  | back =>
      unfold step Session.back
      simp only
      split
      · rename_i history hback
        have hentries : history.Within paths := by
          rwa [History.Within, (History.turns_of_back? hback).entries_eq]
        exact (r.session.visit_history _).symm ▸ hentries
      · exact h
  | forward =>
      unfold step Session.forward
      simp only
      split
      · rename_i history hforward
        have hentries : history.Within paths := by
          rwa [History.Within, (History.turns_of_forward? hforward).entries_eq]
        exact (r.session.visit_history _).symm ▸ hentries
      · exact h
  | advance delay => exact (runTasks_history r).symm ▸ h
  | resolve call result => exact (resolve_history r call result).symm ▸ h

theorem within_steps {settings : SessionSettings} (hvalid : Valid settings r)
    (hresults : paths settings.resultsPath) (h : r.session.history.Within paths)
    (ops : List SessionStep) : (r.steps ops).session.history.Within paths := by
  induction ops generalizing r with
  | nil => exact h
  | cons op ops ih =>
      exact ih (hvalid.step op) (within_step (hvalid.settings_eq.symm ▸ hresults) h op)

end SessionRun

/-! ## Sessions at written locations -/

namespace Session

theorem atLocation_history (settings : SessionSettings) (l : Location) :
    (atLocation settings l).history = History.start l := by
  rw [atLocation_eq, (begins_beginRevision _ _).history_eq]
  rfl

theorem atLocation_state (settings : SessionSettings) (l : Location) :
    (atLocation settings l).snapshot.state = SearchState.ofLocation l := by
  rw [atLocation_eq, (begins_beginRevision _ _).state_eq]
  rfl

theorem start_eq_ok_iff {settings : SessionSettings} {s : Session} :
    start settings = .ok s ↔
      ∃ l, Location.parse settings.startLocation = .ok l ∧ s = atLocation settings l := by
  unfold start
  cases Location.parse settings.startLocation with
  | error e => simp [Except.map]
  | ok l => simp [Except.map, eq_comm]

end Session

/-- The pairs of a location are all that its search is read off. -/
theorem SearchState.ofLocation_congr {l m : Location} (h : l.pairs = m.pairs) :
    ofLocation l = ofLocation m := by
  simp only [ofLocation, Location.get?, Location.getAll, h]

namespace SessionRun

/-- Wherever a session has got to, the current location has the path it started at or the one of
results. -/
theorem path_current (backend : SearchRequest → Option SearchResult) (settings : SessionSettings)
    (l : Location) (ops : List SessionStep) :
    let shown := ((start backend (Session.atLocation settings l)).steps ops).session
    shown.history.current.path = l.path ∨ shown.history.current.path = settings.resultsPath := by
  have hstart : (Session.atLocation settings l).history.Within
      fun path => path = l.path ∨ path = settings.resultsPath := by
    rw [Session.atLocation_history]
    exact List.forall_mem_singleton.mpr (.inl rfl)
  exact (within_steps (valid_start backend settings l) (.inr rfl) hstart ops).current

/-- A session that starts at the written form of the current location shows the search that is shown
here, in the same order of categories, whatever has been done since the start. The written form is
read unless it still has the path of the start and that begins like a scheme or an authority. -/
theorem reload_reproduces_search (backend : SearchRequest → Option SearchResult) (href : String)
    (ops : List SessionStep) {s : Session} (h : Session.start { startLocation := href } = .ok s) :
    let shown := ((start backend s).steps ops).session
    (Url.readsAsPath s.history.current.path = true ∨ shown.history.current.path = "/search" →
      ∃ l, Location.parse shown.history.current.href = .ok l) ∧
    ∀ l, Location.parse shown.history.current.href = .ok l →
      SearchState.ofLocation l = shown.snapshot.state ∧
      ∃ fresh, Session.start { startLocation := shown.history.current.href } = .ok fresh ∧
        fresh.snapshot.state = shown.snapshot.state := by
  intro shown
  obtain ⟨l₀, hparse, rfl⟩ := Session.start_eq_ok_iff.mp h
  have hstate : shown.snapshot.state = SearchState.ofLocation shown.history.current :=
    ((valid_start backend _ l₀).steps ops).state_eq
  have hpath : shown.history.current.path = l₀.path ∨ shown.history.current.path = "/search" :=
    path_current backend _ l₀ ops
  have hurl : shown.history.current.HasUrlPath := by
    rcases hpath with hpath | hpath
    · rw [Location.HasUrlPath, hpath]
      exact Location.hasUrlPath_of_parse hparse
    · rw [Location.HasUrlPath, hpath]
      exact List.all_eq_true.mp (by decide)
  refine ⟨fun hreads => Location.exists_parse_href hurl ?_, fun l hl => ?_⟩
  · rw [Session.atLocation_history] at hreads
    rcases hpath with hpath | hpath
    · rcases hreads with hreads | hreads
      · exact hpath ▸ hreads
      · rw [hreads]
        decide
    · rw [hpath]
      decide
  · have hsearch : SearchState.ofLocation l = shown.snapshot.state :=
      (SearchState.ofLocation_congr (Location.pairs_eq_of_parse_href hurl hl)).trans hstate.symm
    exact ⟨hsearch, _, Session.start_eq_ok_iff.mpr ⟨l, hl, rfl⟩,
      (Session.atLocation_state _ l).trans hsearch⟩

/-- A session that starts away from the results, and has added a category. -/
theorem reload_reproduces_search_deals :
    let s := Session.atLocation { startLocation := "/deals?q=lamp" } ⟨"/deals", [("q", "lamp")]⟩
    let shown := ((start (fun _ => none) s).steps [.toggle "Rugs"]).session
    shown.history.current.href = "/deals?q=lamp&cat=Rugs" ∧
      ∃ l, Location.parse "/deals?q=lamp&cat=Rugs" = .ok l ∧
        SearchState.ofLocation l = shown.snapshot.state := by
  intro s shown
  have hstart : Session.start { startLocation := "/deals?q=lamp" } = .ok s :=
    Session.start_eq_ok_iff.mpr ⟨⟨"/deals", [("q", "lamp")]⟩, by decide +kernel, rfl⟩
  have hhref : shown.history.current.href = "/deals?q=lamp&cat=Rugs" := by decide +kernel
  have hreload := reload_reproduces_search (fun _ => none) "/deals?q=lamp" [.toggle "Rugs"] hstart
  obtain ⟨l, hl⟩ := hreload.1 (.inl (by decide +kernel))
  exact ⟨hhref, l, hhref ▸ hl, (hreload.2 l hl).1⟩

/-- A path of two slashes is written where a reader expects a host, so its location is not read. -/
theorem reload_refused_two_slashes :
    let s := Session.atLocation { startLocation := "/.//?q=lamp" } ⟨"//", [("q", "lamp")]⟩
    let shown := ((start (fun _ => none) s).steps []).session
    Session.start { startLocation := "/.//?q=lamp" } = .ok s ∧
      Location.parse shown.history.current.href = .error ⟨"//?q=lamp", .emptyHost⟩ := by
  intro s shown
  refine ⟨Session.start_eq_ok_iff.mpr ⟨⟨"//", [("q", "lamp")]⟩, by decide +kernel, rfl⟩, ?_⟩
  decide +kernel

end SessionRun

end Storefront
