import Storefront.Number.Binary64

/-!
# Settings

What can be set, and what holds where nothing is. Times are in milliseconds, save for the request timeout,
which is in seconds.
-/

namespace Storefront

/-- Where the backend is. -/
structure BackendSettings where
  baseUrl : String := "http://127.0.0.1:5678"
  associatePath : String := "/associate"
  searchPath : String := "/search"
  deriving DecidableEq, Repr, Inhabited

structure ProxySettings where
  http : Option String := none
  https : Option String := none
  all : Option String := none
  deriving DecidableEq, Repr, Inhabited

/-- How requests are made. -/
structure OutgoingSettings where
  requestTimeout : Binary64 := Binary64.ofNat 5
  poolMaxsize : Nat := 8
  verifySsl : Bool := true
  proxies : ProxySettings := {}
  extraHeaders : List (String × String) := []
  deriving DecidableEq, Repr, Inhabited

/-- How the search input suggests completions. -/
structure SuggestionSettings where
  enabled : Bool := true
  debounce : Nat := 300
  blurGrace : Nat := 150
  rowHeight : Nat := 48
  deriving DecidableEq, Repr, Inhabited

/-- Where a session starts, where results are shown, and the query that samples answer. -/
structure SessionSettings where
  sampleQuery : Option String := some "mock"
  startLocation : String := "/search"
  resultsPath : String := "/search"
  deriving DecidableEq, Repr, Inhabited

structure Settings where
  backend : BackendSettings := {}
  outgoing : OutgoingSettings := {}
  suggestion : SuggestionSettings := {}
  session : SessionSettings := {}
  deriving DecidableEq, Repr, Inhabited

namespace BackendSettings

/-- A path behind a base, with one slash between them. -/
def joinUrl (base path : String) : String :=
  String.ofList
    ((base.toList.reverse.dropWhile (· == '/')).reverse ++ '/' :: path.toList.dropWhile (· == '/'))

def associateUrl (s : BackendSettings) : String :=
  joinUrl s.baseUrl s.associatePath

def searchUrl (s : BackendSettings) : String :=
  joinUrl s.baseUrl s.searchPath

end BackendSettings

end Storefront
