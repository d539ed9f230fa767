import Storefront.Agenda
import Storefront.Suggestion.Input

/-!
# Runs of the search input

The input in time: edits wait for a quiet period before they are looked up, a blur hides the list after a
grace delay, and lookups are answered in any order. What the input submits and looks up is recorded.
-/

namespace Storefront.Suggestion

/-- What a task of the input does once it is due. -/
inductive Job where
  | lookUp (text : String)
  | hide
  | call (ticket : Ticket) (text : String)
  | deliver (ticket : Ticket) (text : String) (result : Result)

/-- A lookup that reached the backend. -/
structure Call where
  ticket : Ticket
  text : String
  answered : Bool
  deriving DecidableEq, Repr

/-- `backend` answers some texts at once. `live` until the input is closed, `received` while anybody takes
what it submits. -/
structure Run where
  backend : String → Option Result
  input : Input
  agenda : Agenda Job
  debounce : Option Nat
  blur : Option Nat
  calls : List Call
  submitted : List String
  live : Bool
  received : Bool

namespace Run

def start (settings : SuggestionSettings) (backend : String → Option Result) : Run :=
  { backend, input := Input.start settings, agenda := Agenda.empty, debounce := none, blur := none
    calls := [], submitted := [], live := true, received := true }

def cancelDebounce (r : Run) : Run :=
  { r with agenda := r.agenda.cancelSlot r.debounce, debounce := none }

def cancelBlur (r : Run) : Run :=
  { r with agenda := r.agenda.cancelSlot r.blur, blur := none }

def submitText (r : Run) (text : String) : Run :=
  if r.received then { r with submitted := r.submitted ++ [text] } else r

/-- An edit puts off the lookup of the one before. -/
def edit (r : Run) (text : String) : Run :=
  let r := r.cancelBlur
  let r := { r with input := r.input.edit text }
  let looksUp := r.input.looksUp text
  let r := r.cancelDebounce
  if looksUp then
    { r with
      debounce := some r.agenda.count
      agenda := r.agenda.add r.input.settings.debounce (.lookUp text) }
  else r

def choose (r : Run) (text : String) : Run :=
  let r := r.cancelDebounce.cancelBlur
  { r with input := r.input.choose text }.submitText text

def submit (r : Run) : Run :=
  let r := r.cancelDebounce.cancelBlur
  { r with input := r.input.submit }.submitText r.input.view.draft

def leave (r : Run) : Run :=
  let r := { r with input := r.input.blur }.cancelBlur
  { r with blur := some r.agenda.count, agenda := r.agenda.add r.input.settings.blurGrace .hide }

def focus (r : Run) : Run :=
  let r := r.cancelBlur
  { r with input := r.input.focus }

/-- The input is closed: nothing waits any more, and no reply counts. -/
def close (r : Run) : Run :=
  let r := r.cancelDebounce.cancelBlur
  { r with input := r.input.supersede, live := false }

/-- Nobody takes submissions any more. -/
def stopReceiving (r : Run) : Run :=
  { r with received := false }

def isWaiting (r : Run) (call : Nat) : Bool :=
  r.calls[call]?.any fun c => !c.answered

/-- Answers a lookup that waits for it. -/
def resolve (r : Run) (call : Nat) (result : Result) : Run :=
  match r.calls[call]? with
  | some c =>
    if c.answered then r
    else
      { r with
        calls := r.calls.set call { c with answered := true }
        agenda := r.agenda.add 0 (.deliver c.ticket c.text result) }
  | none => r

/-- Does a task. -/
def perform (r : Run) (job : Job) : Run :=
  match job with
  | .lookUp text =>
    let (ticket, input) := r.input.issue
    { r with input, agenda := r.agenda.add 0 (.call ticket text) }
  | .hide => { r with input := r.input.hide }
  | .call ticket text =>
    match r.backend text with
    | some result =>
      { r with
        calls := r.calls ++ [⟨ticket, text, true⟩]
        input := r.input.deliver ticket text result }
    | none => { r with calls := r.calls ++ [⟨ticket, text, false⟩] }
  | .deliver ticket text result => { r with input := r.input.deliver ticket text result }

/-- Does the next task that is due by `limit`. -/
def next? (r : Run) (limit : Nat) : Option Run :=
  (r.agenda.next? limit).map fun (t, agenda) => { r with agenda }.perform t.job

def performDue (limit : Nat) : Nat → Run → Run
  | 0, r => r
  | fuel + 1, r =>
    match r.next? limit with
    | none => r
    | some r => performDue limit fuel r

/-- Lets time pass. Each task puts down at most one other, which puts down none. -/
def advance (r : Run) (delay : Nat) : Run :=
  let limit := r.agenda.now + delay
  let r := performDue limit (2 * r.agenda.tasks.length) r
  { r with agenda := r.agenda.wait limit }

end Run

/-- An event in the life of the input. -/
inductive Step where
  | edit (text : String)
  | choose (text : String)
  | submit
  | blur
  | focus
  | close
  | stopReceiving
  | advance (delay : Nat)
  | resolve (call : Nat) (result : Result)

namespace Run

/-- Whether an event can still happen. -/
def allows (r : Run) : Step → Bool
  | .edit _ | .choose _ | .submit | .blur | .focus | .close => r.live
  | _ => true

def step (r : Run) (s : Step) : Run :=
  if r.allows s then
    match s with
    | .edit text => r.edit text
    | .choose text => r.choose text
    | .submit => r.submit
    | .blur => r.leave
    | .focus => r.focus
    | .close => r.close
    | .stopReceiving => r.stopReceiving
    | .advance delay => r.advance delay
    | .resolve call result => r.resolve call result
  else r

def steps (r : Run) (ss : List Step) : Run :=
  ss.foldl step r

end Run

end Storefront.Suggestion
