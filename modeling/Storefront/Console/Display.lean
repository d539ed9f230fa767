import Storefront.Product.Labels
import Storefront.Session.Basic
import Storefront.Suggestion.Input

/-!
# What the console shows

Lines for the search that is shown, for suggestions, and for help.
-/

namespace Storefront.Console

def usage : List String :=
  ["",
    "Nexus Search v0.1.0",
    "",
    "COMMANDS:",
    "    type <text>        Edit the search input (suggestions follow)",
    "    pick <n>           Choose suggestion n and search for it",
    "    enter              Submit the input as typed",
    "    focus | blur       Focus or leave the search input",
    "    cat <a, b, ...>    Replace the category filter",
    "    toggle <category>  Flip one category",
    "    back | forward     Walk the search history",
    "    show               Print the current search",
    "    quit               Exit",
    "",
    "ENVIRONMENT VARIABLES:",
    "    NEXUS_SETTINGS_PATH    Path to settings.yml",
    "    NEXUS_BACKEND_URL      Search backend base URL",
    "    NEXUS_DEBOUNCE_MS      Suggestion quiet period",
    "    NEXUS_REQUEST_TIMEOUT  Request timeout in seconds",
    "    RUST_LOG               Log filter (default: info)",
    ""]

/-- The revision and the search that a snapshot belongs to. -/
def heading (s : Snapshot) : String :=
  "#" ++ Nat.repr s.revision ++ " q='" ++ s.state.query ++ "' categories=[" ++
    ", ".intercalate s.state.categories.labels ++ "]"

def productLine (p : Product) : String :=
  let was := match p.originalPriceLabel with
    | some price => " (was " ++ price ++ ")"
    | none => ""
  "  " ++ p.displayName ++ " | " ++ p.displayCategory ++ " | " ++ p.priceLabel ++ was ++ " | " ++ p.ratingLabel

def snapshotLines (s : Snapshot) : List String :=
  match s.outcome with
  | .idle => []
  | .loading => [heading s ++ " loading..."]
  | .failure message => [heading s ++ " error: " ++ message]
  | .success [] => [heading s ++ " No products found. Please try a different search or filter."]
  | .success products =>
    (heading s ++ " " ++ Nat.repr products.length ++ " products") :: products.map productLine

/-- Suggestions are numbered from one. -/
def suggestionLines (v : Suggestion.View) : List String :=
  if v.visible then
    ("suggestions for '" ++ v.suggestionsFor ++ "':") ::
      v.suggestions.zipIdx.map fun (text, i) => "  [" ++ Nat.repr (i + 1) ++ "] " ++ text
  else []

end Storefront.Console
