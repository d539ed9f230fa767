import Storefront.Fetch.Outcome
import Storefront.Fetch.Request
import Storefront.History
import Storefront.Metrics
import Storefront.Product.Samples
import Storefront.Settings.Basic
import Storefront.Ticket

/-!
# Search sessions

A session shows one search: the one that the current location of its history describes. Each change of the
search begins a revision, which gives up the request of the one before; an outcome is shown only for the
revision that is.
-/

namespace Storefront

/-- What is shown, published as one. -/
structure Snapshot where
  revision : Nat
  state : SearchState
  outcome : Outcome
  deriving DecidableEq, Repr, Inhabited

/-- What a search request gives. -/
abbrev SearchResult := Except FetchError (List Product)

/-- How far a request has come. -/
inductive Stage where
  | queued
  | waiting (call : Nat)
  | answered (result : SearchResult)

/-- The request of a revision. -/
structure InFlight where
  ticket : Ticket
  request : SearchRequest
  stage : Stage

/-- The snapshot that was published last, how many were, and the request that has not been given up. -/
structure Session where
  settings : SessionSettings
  history : History
  revisions : Generation
  snapshot : Snapshot
  published : Nat
  metrics : Metrics
  inFlight : Option InFlight

namespace Session

def publish (s : Session) (snapshot : Snapshot) : Session :=
  { s with snapshot, published := s.published + 1 }

def record (s : Session) (c : Metrics.Counter) : Session :=
  { s with metrics := s.metrics.record c }

/-- Shows an outcome if the ticket is that of the revision that is shown. -/
def commit (s : Session) (ticket : Ticket) (outcome : Outcome) : Session :=
  if s.snapshot.revision = ticket.number then s.publish { s.snapshot with outcome } else s

/-- Begins a revision. Nothing to search for finds nothing; the reserved query finds the samples. -/
def beginRevision (s : Session) (state : SearchState) : Session :=
  let (ticket, revisions) := s.revisions.issue
  let s := { s with revisions, inFlight := none }.publish
    { revision := ticket.number, state, outcome := .loading }
  if state.isEmpty then s.commit ticket (.success [])
  else if s.settings.sampleQuery = some state.query then
    (s.record .sampleHit).commit ticket (.success Product.samples)
  else
    { s.record .searchRequest with
      inFlight := some { ticket, request := SearchRequest.ofState state, stage := .queued } }

/-- The search of the current location. -/
def located (s : Session) : SearchState :=
  SearchState.ofLocation s.history.current

/-- Follows the history to its current location. The same search is not begun again, but its categories are
shown in the order of the location. -/
def follow (s : Session) : Session :=
  let state := s.located
  if s.snapshot.state.canonical = state.canonical then
    if s.snapshot.state.categories.labels = state.categories.labels then s
    else s.publish { s.snapshot with state }
  else s.beginRevision state

/-- A session at a location. -/
def atLocation (settings : SessionSettings) (l : Location) : Session :=
  let s : Session :=
    { settings, history := History.start l, revisions := Generation.start
      snapshot := { revision := 0, state := ⟨"", CategorySet.empty⟩, outcome := .idle }
      published := 0, metrics := Metrics.zero, inFlight := none }
  s.beginRevision s.located

/-- A session where the settings say that one starts. -/
def start (settings : SessionSettings) : Except Location.ParseError Session :=
  (Location.parse settings.startLocation).map (atLocation settings)

/-- The location that a submission leads to. -/
def searched (s : Session) (text : String) : Location :=
  let l := s.history.current
  let state := { SearchState.ofLocation l with query := Text.trim text }
  state.applyTo (l.setPath s.settings.resultsPath)

/-- Whether a text is one to search for. -/
def accepts (text : String) : Bool :=
  !(Text.trim text).isEmpty

/-- Searches for a text in the current categories, as a new entry of the history. -/
def submit (s : Session) (text : String) : Session :=
  if accepts text then { s with history := s.history.push (s.searched text) }.follow else s

/-- Searches in other categories, in place of the current entry. -/
def setCategories (s : Session) (categories : CategorySet) : Session :=
  let l := s.history.current
  let state := { SearchState.ofLocation l with categories }
  { s with history := s.history.replace (state.applyTo l) }.follow

def toggle (s : Session) (label : String) : Session :=
  s.setCategories (s.snapshot.state.categories.toggle label)

def back (s : Session) : Session :=
  match s.history.back? with
  | some history => { s with history }.follow
  | none => s

def forward (s : Session) : Session :=
  match s.history.forward? with
  | some history => { s with history }.follow
  | none => s

/-- The request was answered. -/
def complete (s : Session) (ticket : Ticket) (result : SearchResult) : Session :=
  let s := { s with inFlight := none }
  if s.snapshot.revision = ticket.number then
    let s := s.commit ticket (Outcome.ofResult result)
    match result with
    | .ok _ => s
    | .error _ => s.record .searchFailure
  else s.record .staleResults

end Session

end Storefront
