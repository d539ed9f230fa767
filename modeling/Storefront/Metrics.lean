/-!
# Request metrics
-/

namespace Storefront

/-- How many requests were made, how many of them failed, and how many were answered too late. -/
structure Metrics where
  suggestionRequests : Nat
  suggestionFailures : Nat
  staleSuggestions : Nat
  searchRequests : Nat
  searchFailures : Nat
  staleResults : Nat
  sampleHits : Nat
  deriving DecidableEq, Repr, Inhabited

namespace Metrics

inductive Counter where
  | suggestionRequest
  | suggestionFailure
  | staleSuggestion
  | searchRequest
  | searchFailure
  | staleResults
  | sampleHit
  deriving DecidableEq, Repr

def zero : Metrics :=
  ⟨0, 0, 0, 0, 0, 0, 0⟩

def record (m : Metrics) : Counter → Metrics
  | .suggestionRequest => { m with suggestionRequests := m.suggestionRequests + 1 }
  | .suggestionFailure => { m with suggestionFailures := m.suggestionFailures + 1 }
  | .staleSuggestion => { m with staleSuggestions := m.staleSuggestions + 1 }
  | .searchRequest => { m with searchRequests := m.searchRequests + 1 }
  | .searchFailure => { m with searchFailures := m.searchFailures + 1 }
  | .staleResults => { m with staleResults := m.staleResults + 1 }
  | .sampleHit => { m with sampleHits := m.sampleHits + 1 }

end Metrics

end Storefront
