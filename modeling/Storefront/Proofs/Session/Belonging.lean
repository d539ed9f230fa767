import Storefront.Proofs.Session.Invariant

/-! # What is shown belongs to the search

After every step of every run, the state that is shown is the one of the current location, and the
outcome that is shown is known beforehand or is the reply to the one call of the revision. -/

namespace Storefront

namespace SessionRun

/-- The location is the only source of the search: its query, its labels and their order. -/
theorem shown_state_eq_ofLocation (backend : SearchRequest → Option SearchResult)
    (settings : SessionSettings) (l : Location) (ops : List SessionStep) :
    let s := ((start backend (Session.atLocation settings l)).steps ops).session
    s.snapshot.state = SearchState.ofLocation s.history.current :=
  ((valid_start backend settings l).steps ops).state_eq

variable {settings : SessionSettings} {r : SessionRun}

/-- No two calls are of one revision. -/
theorem Valid.call_unique (h : Valid settings r) {m n : Nat} {c d : SearchCall}
    (hm : r.calls[m]? = some d)
    (hn : r.calls[n]? = some c) (hticket : d.ticket.number = c.ticket.number) : m = n := by
  have hnodup : (called r.calls).Nodup := h.called_lt.imp Nat.ne_of_lt
  have hlt : m < (called r.calls).length := by
    simpa [called] using (List.getElem?_eq_some_iff.mp hm).1
  exact (List.getElem?_inj hlt hnodup).mp (by simp [called, hm, hn, hticket])

/-- The reply to a call that is not of the revision that is shown changes nothing in the session. -/
theorem Valid.resolve_session (h : Valid settings r) {n : Nat} {c : SearchCall}
    (result : SearchResult)
    (hget : r.calls[n]? = some c) (hticket : c.ticket.number ≠ r.session.snapshot.revision) :
    (r.resolve n result).session = r.session := by
  by_cases hc : c.reply = none
  · rw [resolve_of_not_waiting result hget hc]
    intro ticket request hwaiting
    obtain rfl := Option.some.inj (hget.symm.trans (h.called_of_waiting hwaiting))
    exact hticket (congrArg Ticket.number (h.ticket_eq hwaiting))
  · rw [resolve_of_answered result hget hc]

/-- The outcome that is shown is known beforehand, still awaited, or the reply to the one call of
the revision that is shown, which asked for the search that is shown. No reply to the call of
another revision has any effect. -/
theorem outcome_belongs_to_search (backend : SearchRequest → Option SearchResult)
    (settings : SessionSettings) (l : Location) (ops : List SessionStep) :
    let r := (start backend (Session.atLocation settings l)).steps ops
    let shown := r.session.snapshot
    (if shown.state.query = "" then shown.outcome = .success []
      else if settings.sampleQuery = some shown.state.query then
        shown.outcome = .success Product.samples
      else shown.outcome = .loading ∨
        ∃ (n : Nat) (c : SearchCall) (result : SearchResult),
          r.calls[n]? = some c ∧ c.reply = some result ∧
          shown.outcome = .ofResult result ∧ c.ticket.number = shown.revision ∧
          (∀ (m : Nat) (d : SearchCall), r.calls[m]? = some d → d.ticket.number = shown.revision →
            m = n) ∧
          c.request.query = shown.state.query ∧
          c.request.classes.Perm shown.state.categories.labels) ∧
    ∀ (n : Nat) (c : SearchCall) (result : SearchResult), r.calls[n]? = some c →
      c.ticket.number ≠ shown.revision →
      (r.resolve n result).session = r.session := by
  intro r shown
  have h : Valid settings r := (valid_start backend settings l).steps ops
  refine ⟨?_, fun n c result hget hticket => h.resolve_session result hget hticket⟩
  cases h.phase with
  | empty query_eq outcome_eq idle => rwa [if_pos query_eq]
  | sample query_eq outcome_eq idle => rwa [if_neg query_eq.1, if_pos query_eq.2]
  | queued asks seeks outcome_eq inFlight_eq fresh =>
      rw [if_neg asks.1, if_neg asks.2]
      exact .inl outcome_eq
  | waiting asks seeks outcome_eq inFlight_eq called =>
      rw [if_neg asks.1, if_neg asks.2]
      exact .inl outcome_eq
  | answered asks seeks outcome_eq inFlight_eq called =>
      rw [if_neg asks.1, if_neg asks.2]
      exact .inl outcome_eq
  | settled asks seeks outcome_eq idle called =>
      rw [if_neg asks.1, if_neg asks.2]
      exact .inr ⟨_, _, _, called, rfl, outcome_eq, rfl,
        fun m d hm hd => h.call_unique hm called hd, seeks.query_eq, seeks.classes_perm⟩

/-- A slow reply to the search in category A, once the one in category B has taken its place. -/
theorem outcome_belongs_to_search_late_reply :
    let first := start (fun _ => none)
      (Session.atLocation {} ⟨"/search", [("q", "shirt"), ("cat", "A")]⟩)
    let r := first.steps [.advance 0, .setCategories ⟨["B"]⟩]
    r.calls[0]? = some ⟨⟨1⟩, ⟨"shirt", ["A"]⟩, none⟩ ∧ r.session.snapshot.revision = 2 ∧
      (r.resolve 0 (.ok Product.samples)).session = r.session := by
  intro first r
  have hcall : r.calls[0]? = some ⟨⟨1⟩, ⟨"shirt", ["A"]⟩, none⟩ := rfl
  have hrevision : r.session.snapshot.revision = 2 := by decide +kernel
  refine ⟨hcall, hrevision, ?_⟩
  exact (outcome_belongs_to_search _ _ _ _).2 0 _ _ hcall (by rw [hrevision]; decide)

end SessionRun

end Storefront
