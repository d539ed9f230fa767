import Storefront.Fetch.Error
import Storefront.Metrics
import Storefront.Settings.Basic
import Storefront.Suggestion.Panel
import Storefront.Text.Blank
import Storefront.Ticket

/-!
# The search input

What the input shows, and what an event does to it at once. A lookup holds a ticket; its reply changes
something only while that ticket is current, which no later lookup, submission, choice or blank text
leaves it.
-/

namespace Storefront

open Storefront.Text

/-- What the visitor sees of the input. -/
structure Suggestion.View where
  draft : String
  suggestions : List String
  suggestionsFor : String
  visible : Bool
  focused : Bool
  deriving DecidableEq, Repr, Inhabited

/-- The reply to a lookup. -/
abbrev Suggestion.Result := Except FetchError (List String)

namespace Suggestion

namespace View

def initial : View :=
  ⟨"", [], "", false, false⟩

/-- Without suggestions. -/
def clear (v : View) : View :=
  { v with suggestions := [], suggestionsFor := "", visible := false }

def panel (v : View) (rowHeight : Nat) : Panel :=
  Panel.ofList v.visible v.suggestions.length rowHeight

end View

/-- The input: its view, the panel last published and how often one was, and the tickets. -/
structure Input where
  settings : SuggestionSettings
  view : View
  panel : Panel
  published : Nat
  lookups : Generation
  metrics : Metrics
  deriving DecidableEq, Repr

namespace Input

def start (settings : SuggestionSettings) : Input :=
  { settings, view := View.initial, panel := Panel.hidden, published := 0
    lookups := Generation.start, metrics := Metrics.zero }

/-- Shows another view, and publishes the panel if it is another one. -/
def display (i : Input) (v : View) : Input :=
  let panel := v.panel i.settings.rowHeight
  if panel = i.panel then { i with view := v }
  else { i with view := v, panel, published := i.published + 1 }

def record (i : Input) (c : Metrics.Counter) : Input :=
  { i with metrics := i.metrics.record c }

/-- No reply that is still to come counts. -/
def supersede (i : Input) : Input :=
  { i with lookups := i.lookups.invalidate }

/-- Whether a text is one to look up. -/
def looksUp (i : Input) (text : String) : Bool :=
  !blank text && i.settings.enabled

/-- The text was edited. -/
def edit (i : Input) (text : String) : Input :=
  let v := { i.view with draft := text, focused := true }
  if blank text then i.supersede.display v.clear else i.display v

/-- A suggestion was chosen. -/
def choose (i : Input) (text : String) : Input :=
  i.supersede.display { i.view with draft := text }.clear

/-- The draft was submitted. -/
def submit (i : Input) : Input :=
  i.supersede.display i.view.clear

def blur (i : Input) : Input :=
  i.display { i.view with focused := false }

/-- The grace delay after a blur is over. -/
def hide (i : Input) : Input :=
  i.display (if i.view.focused then i.view else { i.view with visible := false })

/-- The list is shown again if it belongs to the draft. -/
def focus (i : Input) : Input :=
  i.display { i.view with
    focused := true
    visible := !i.view.suggestions.isEmpty && i.view.suggestionsFor == i.view.draft }

/-- A lookup begins. -/
def issue (i : Input) : Ticket × Input :=
  let (ticket, lookups) := i.lookups.issue
  (ticket, ({ i with lookups }.display i.view).record .suggestionRequest)

/-- A lookup was answered. -/
def deliver (i : Input) (ticket : Ticket) (text : String) (result : Result) : Input :=
  if i.lookups.isCurrent ticket then
    match result with
    | .ok suggestions =>
      i.display { i.view with
        visible := !suggestions.isEmpty && i.view.focused, suggestions, suggestionsFor := text }
    | .error _ => (i.record .suggestionFailure).display i.view.clear
  else (i.record .staleSuggestion).display i.view

end Input

end Suggestion

end Storefront
