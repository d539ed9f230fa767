import Storefront.Proofs.Session.Balance
import Storefront.Proofs.Suggestion.Balance

/-! # One set of counters

The search input and a session count in one place. Neither touches what the other counts, and at any
time the counters tell where every request of the two has ended up. -/

namespace Storefront

open Suggestion (Lookup verdicts)

/-- The search input and a session with the same counters. -/
@[ext]
structure SharedRun where
  input : Suggestion.Run
  session : SessionRun
  shared : input.input.metrics = session.session.metrics

inductive SharedStep where
  | input (m : Suggestion.Move)
  | session (op : SessionStep)

namespace SharedRun

/-- A session, and an input that counts where the session does. -/
def ofSession (input : Suggestion.Run) (session : SessionRun) : SharedRun :=
  ⟨input.withMetrics session.session.metrics, session, rfl⟩

/-- A session at a location, and an input that counts from there. -/
def start (settings : SessionSettings) (l : Location)
    (backend : SearchRequest → Option SearchResult) (suggestions : SuggestionSettings)
    (answers : String → Option Suggestion.Result) : SharedRun :=
  ofSession (Suggestion.Run.start suggestions answers)
    (SessionRun.start backend (Session.atLocation settings l))

def metrics (r : SharedRun) : Metrics :=
  r.session.session.metrics

/-- The input goes on, and the session counts from there. -/
def withInput (r : SharedRun) (input : Suggestion.Run) : SharedRun :=
  ⟨input, r.session.withMetrics input.input.metrics, rfl⟩

/-- The session goes on, and the input counts from there. -/
def withSession (r : SharedRun) (session : SessionRun) : SharedRun :=
  ofSession r.input session

def step (r : SharedRun) : SharedStep → SharedRun
  | .input m => r.withInput (r.input.move m)
  | .session op => r.withSession (r.session.step op)

def steps (r : SharedRun) (ss : List SharedStep) : SharedRun :=
  ss.foldl step r

/-! ## The record of a run -/

/-- The lookups that a step begins. -/
def begun (r : SharedRun) : SharedStep → List Lookup
  | .input m => r.input.input.lookupsOf (r.input.act? m).toList
  | .session _ => []

/-- The replies that a step brings to the input. -/
def answered (r : SharedRun) : SharedStep → List Suggestion.Reply
  | .input m => r.input.input.repliesOf (r.input.act? m).toList
  | .session _ => []

/-- What was shown last of the revision that a step puts an end to, if it does. -/
def closed (r : SharedRun) (s : SharedStep) : List Snapshot :=
  SessionRun.closed r.session (r.step s).session

def lookupsOf (r : SharedRun) : List SharedStep → List Lookup
  | [] => []
  | s :: ss => r.begun s ++ (r.step s).lookupsOf ss

def repliesOf (r : SharedRun) : List SharedStep → List Suggestion.Reply
  | [] => []
  | s :: ss => r.answered s ++ (r.step s).repliesOf ss

/-- What was shown last of each revision that is no longer shown. -/
def superseded (r : SharedRun) : List SharedStep → List Snapshot
  | [] => []
  | s :: ss => r.closed s ++ (r.step s).superseded ss

/-! ## The balance -/

/-- Both the lookups and the revisions so far agree with the counters. -/
structure Balanced (settings : SessionSettings) (r : SharedRun) (lookups : List Lookup)
    (replies : List Suggestion.Reply) (past : List Snapshot) : Prop where
  input : r.input.Balanced lookups replies
  session : r.session.Balanced settings past

variable {settings : SessionSettings} {r : SharedRun}
variable {lookups : List Lookup} {replies : List Suggestion.Reply} {past : List Snapshot}

theorem balanced_start (settings : SessionSettings) (l : Location)
    (backend : SearchRequest → Option SearchResult) (suggestions : SuggestionSettings)
    (answers : String → Option Suggestion.Result) :
    Balanced settings (start settings l backend suggestions answers) [] [] [] := by
  have hsession := SessionRun.balanced_start backend settings l
  have hinput := Suggestion.Run.balanced_start suggestions answers
  have hnone : Metrics.zero.SameSuggestions (Session.atLocation settings l).metrics := by
    rw [Session.atLocation_eq, Session.metrics_beginRevision, SessionSettings.count]
    split
    · exact ⟨rfl, rfl, rfl⟩
    · split <;> exact ⟨rfl, rfl, rfl⟩
  have hcounts : ((Suggestion.Run.start suggestions answers).withMetrics
      (Session.atLocation settings l).metrics).Balanced [] [] :=
    hinput.withMetrics hnone.suggestionRequests_eq hnone.suggestionFailures_eq
      hnone.staleSuggestions_eq
  exact ⟨hcounts, hsession⟩

/-- A step of the input leaves the counters of searches alone. -/
theorem sameSearches_step (r : SharedRun) (m : Suggestion.Move) :
    r.metrics.SameSearches (r.step (.input m)).metrics := by
  have hsame := (r.input.moved m).sameSearches
  rw [r.shared] at hsame
  exact hsame

/-- An event of the session leaves the counters of suggestions alone. -/
theorem Balanced.sameSuggestions_step (h : Balanced settings r lookups replies past)
    (op : SessionStep) : r.metrics.SameSuggestions (r.step (.session op)).metrics :=
  (h.session.valid.turn_step op).sameSuggestions

theorem Balanced.step (h : Balanced settings r lookups replies past) (s : SharedStep) :
    Balanced settings (r.step s) (lookups ++ r.begun s) (replies ++ r.answered s)
      (past ++ r.closed s) := by
  cases s with
  | input m =>
      have hsame := r.sameSearches_step m
      have hclosed : r.closed (.input m) = [] := if_pos rfl
      rw [hclosed, List.append_nil]
      refine ⟨(r.input.moved m).balanced h.input, ?_⟩
      exact h.session.withMetrics hsame.searchRequests_eq hsame.searchFailures_eq
        hsame.sampleHits_eq
  | session op =>
      have hturn := h.session.valid.turn_step op
      have hsame := hturn.sameSuggestions
      rw [← r.shared] at hsame
      refine ⟨?_, h.session.turn hturn (h.session.valid.step op)⟩
      rw [begun, answered, List.append_nil, List.append_nil]
      exact h.input.withMetrics hsame.suggestionRequests_eq hsame.suggestionFailures_eq
        hsame.staleSuggestions_eq

theorem Balanced.steps (h : Balanced settings r lookups replies past) (ss : List SharedStep) :
    Balanced settings (r.steps ss) (lookups ++ r.lookupsOf ss) (replies ++ r.repliesOf ss)
      (past ++ r.superseded ss) := by
  induction ss generalizing r lookups replies past with
  | nil =>
      rw [lookupsOf, repliesOf, superseded, List.append_nil, List.append_nil, List.append_nil]
      exact h
  | cons s ss ih =>
      rw [lookupsOf, repliesOf, superseded, ← List.append_assoc, ← List.append_assoc,
        ← List.append_assoc]
      exact ih (h.step s)

/-! ## Events of the input -/

theorem withInput_self (r : SharedRun) : r.withInput r.input = r := by
  refine SharedRun.ext rfl ?_
  change r.session.withMetrics r.input.input.metrics = r.session
  rw [r.shared]
  rfl

/-- Many moves of the input are as many steps. -/
theorem withInput_moves (r : SharedRun) (ms : List Suggestion.Move) :
    r.withInput (r.input.moves ms) = r.steps (ms.map .input) := by
  induction ms generalizing r with
  | nil => exact r.withInput_self
  | cons m ms ih => exact ih (r.step (.input m))

/-- In every run of an input and a session that share their counters: each lookup is open or was
answered once, and a request for suggestions is a reply that was shown, a failure, a late reply or an
open lookup; a request for a search is a revision that succeeded, one that failed, one that was
superseded before that, or the one that is awaited; the samples are counted as often as they are
found. Neither the input nor the session changes what the other counts. An event of the input is its
moves. -/
theorem counters_balance (settings : SessionSettings) (l : Location)
    (backend : SearchRequest → Option SearchResult) (suggestions : SuggestionSettings)
    (answers : String → Option Suggestion.Result) (ss : List SharedStep) :
    let first := start settings l backend suggestions answers
    let r := first.steps ss
    let m := r.metrics
    let lookups := first.lookupsOf ss
    let replies := first.repliesOf ss
    let shown := r.session.session.snapshot
    let superseded := first.superseded ss
    let revisions := superseded ++ [shown]
    (m.suggestionRequests = lookups.length ∧
      m.suggestionRequests = verdicts replies .shown + m.suggestionFailures +
        m.staleSuggestions + r.input.openLookups.length ∧
      m.suggestionFailures = verdicts replies .failed ∧
      m.staleSuggestions = verdicts replies .stale ∧
      lookups.Perm (r.input.openLookups ++ replies.map Suggestion.Reply.lookup) ∧
      (lookups.map fun l => l.ticket.number).Nodup) ∧
    (m.searchRequests = revisions.countP settings.asks ∧
      m.searchRequests =
        revisions.countP (fun s => settings.asks s && s.outcome.isSuccess) + m.searchFailures +
          superseded.countP (fun s => s.outcome.isLoading) +
          (if shown.outcome = .loading then 1 else 0) ∧
      m.searchFailures = revisions.countP (fun s => s.outcome.isFailure) ∧
      m.sampleHits = revisions.countP settings.samples ∧
      revisions.map Snapshot.revision = List.range' 1 revisions.length) ∧
    (∀ move, m.SameSearches (r.step (.input move)).metrics) ∧
    (∀ op, m.SameSuggestions (r.step (.session op)).metrics) ∧
    ∀ s, r.withInput (r.input.step s) = r.steps ((r.input.stepMoves s).map .input) := by
  intro first r m lookups replies shown superseded revisions
  have h : Balanced settings r lookups replies superseded :=
    (balanced_start settings l backend suggestions answers).steps ss
  have hmetrics : r.input.input.metrics = m := r.shared
  have hbalance := h.input.requests_balance
  have hrequests := h.input.requests_eq
  have hfailures := h.input.failures_eq
  have hstale := h.input.stale_eq
  rw [hmetrics] at hbalance hrequests hfailures hstale
  have hnumbers : revisions.map Snapshot.revision = List.range' 1 revisions.length := by
    rw [List.map_append, h.session.numbers_eq, List.map_singleton, h.session.revision_eq,
      List.length_append, List.length_singleton, List.range'_1_concat, Nat.add_comm 1]
  refine ⟨?_, ?_, r.sameSearches_step, h.sameSuggestions_step, ?_⟩
  · exact ⟨hrequests, hbalance, hfailures, hstale, h.input.lookups_perm,
      h.input.tickets_lt.imp Nat.ne_of_lt⟩
  · exact ⟨h.session.requests_eq, h.session.requests_balance, h.session.failures_eq,
      h.session.hits_eq, hnumbers⟩
  · intro s
    rw [h.input.timed.step_eq]
    exact r.withInput_moves _

/-- A search is superseded, the next one fails, and the reply to a lookup comes after another one
has begun. -/
example :
    ((start {} ⟨"/search", [("q", "lamp")]⟩ (fun _ => none) {} fun _ => none).steps
      [.session (.advance 0), .input (.event (.edit "a")), .input (.task 0), .input (.task 1),
        .session (.submit "rug"), .session (.advance 0), .input (.event (.edit "ab")),
        .input (.task 2), .input (.event (.resolve 0 (.ok ["apple"]))), .input (.task 4),
        .session (.resolve 1 (.error (.network "down"))), .session (.advance 0)]).metrics =
      ⟨2, 0, 1, 2, 1, 0, 0⟩ := by decide +kernel

end SharedRun

end Storefront
