import Storefront.Backend
import Storefront.Console.Command
import Storefront.Console.Display
import Storefront.Number.Numeral
import Storefront.Session.Run
import Storefront.Settings.Load
import Storefront.Suggestion.Run

/-!
# Runs of the console

The search input and a session side by side: what the input submits, the session searches for. A change of the
panel or of the snapshot is shown once the command that led to it is done, or when it comes by itself.
-/

namespace Storefront

open Storefront.Console

/-- Why the console cannot start. -/
inductive Console.StartError where
  | client (e : ClientError)
  | location (e : Location.ParseError)

/-- A request on its way to the backend, and which lookup or search waits for the reply. -/
inductive Console.Question where
  | suggestions (call : Nat) (request : HttpRequest)
  | products (call : Nat) (request : HttpRequest)

def Console.Question.request : Console.Question → HttpRequest
  | suggestions _ request => request
  | products _ request => request

structure Console where
  backend : Backend
  input : Suggestion.Run
  session : SessionRun
  /-- How many panels and snapshots had been published when they were shown last. -/
  panelsSeen : Nat
  snapshotsSeen : Nat
  /-- Requests in the order in which they were made. -/
  questions : List Question
  finished : Bool

namespace Console

/-- The error of a request that cannot be made. -/
def unsendable? {α : Type} (request : Except FetchError HttpRequest) : Option (Except FetchError α) :=
  match request with
  | .ok _ => none
  | .error e => some (.error e)

def suggestionQuestion? (b : Backend) (call : Nat) (c : Suggestion.Call) : Option Question :=
  match b.suggestionRequest { query := c.text } with
  | .ok request => some (.suggestions call request)
  | .error _ => none

def productQuestion? (b : Backend) (call : Nat) (c : SearchCall) : Option Question :=
  match b.searchRequest c.request with
  | .ok request => some (.products call request)
  | .error _ => none

/-- Lets time pass; requests that are made meanwhile are put down. -/
def advance (c : Console) (delay : Nat) : Console :=
  let input := c.input.advance delay
  let session := c.session.advance delay
  let lookups := (input.calls.zipIdx.drop c.input.calls.length).filterMap fun (call, n) =>
    suggestionQuestion? c.backend n call
  let searches := (session.calls.zipIdx.drop c.session.calls.length).filterMap fun (call, n) =>
    productQuestion? c.backend n call
  { c with input, session, questions := c.questions ++ lookups ++ searches }

/-- The session searches for what the input has submitted. -/
def takeSubmissions (c : Console) : Console :=
  { c with
    session := { c.session with session := c.input.submitted.foldl Session.submit c.session.session }
    input := { c.input with submitted := [] } }

/-- Shows the panel and the snapshot if others have been published. -/
def notice (c : Console) : List String × Console :=
  let panels := c.input.input.published
  let snapshots := c.session.session.published
  ((if panels = c.panelsSeen then [] else suggestionLines c.input.input.view) ++
      (if snapshots = c.snapshotsSeen then [] else snapshotLines c.session.session.snapshot),
    { c with panelsSeen := panels, snapshotsSeen := snapshots })

/-- Shows what a command did, and then what follows from it without delay. -/
def settle (c : Console) : List String × Console :=
  let (now, c) := c.takeSubmissions.notice
  let (later, c) := (c.advance 0).notice
  (now ++ later, c)

def start (settings : Settings) : Except StartError (List String × Console) := do
  let backend ← (Backend.ofSettings settings.outgoing settings.backend).mapError .client
  let session ← (Session.start settings.session).mapError .location
  let c : Console :=
    { backend
      input := Suggestion.Run.start settings.suggestion fun text =>
        unsendable? (backend.suggestionRequest { query := text })
      session := SessionRun.start (fun r => unsendable? (backend.searchRequest r)) session
      panelsSeen := 0
      snapshotsSeen := session.published
      questions := []
      finished := false }
  let (lines, c) := c.settle
  .ok (usage ++ snapshotLines session.snapshot ++ lines, c)

def view (c : Console) : Suggestion.View :=
  c.input.input.view

/-- The suggestion with a number, counted from one. -/
def suggestion? (c : Console) (number : String) : Option String := do
  let n ← Numeral.natBelow? (twoTo 64) 10 number.toList
  if n = 0 then none else c.view.suggestions[n - 1]?

def withSession (c : Console) (f : Session → Session) : Console :=
  { c with session := { c.session with session := f c.session.session } }

/-- What a command shows by itself, and what it does. -/
def apply (c : Console) : Command → List String × Console
  | .nothing => ([], c)
  | .edit text => ([], { c with input := c.input.edit text })
  | .enter => ([], { c with input := c.input.submit })
  | .focus => ([], { c with input := c.input.focus })
  | .blur => ([], { c with input := c.input.leave })
  | .pick number =>
    match c.suggestion? number with
    | some text => ([], { c with input := c.input.choose text })
    | none => (["no suggestion '" ++ number ++ "'"], c)
  | .categories labels => ([], c.withSession fun s => s.setCategories (CategorySet.ofList labels))
  | .toggle label => ([], c.withSession fun s => s.toggle label)
  | .back =>
    (if c.session.session.history.back?.isSome then [] else ["already at the first page"],
      c.withSession Session.back)
  | .forward =>
    (if c.session.session.history.forward?.isSome then [] else ["already at the last page"],
      c.withSession Session.forward)
  | .describe =>
    (("location: " ++ c.session.session.history.current.href) :: ("draft: '" ++ c.view.draft ++ "'") ::
      snapshotLines c.session.session.snapshot, c)
  | .help => (usage, c)
  | .quit => ([], { c with finished := true })
  | .unknown name => (["unknown command '" ++ name ++ "', try 'help'"], c)

/-- Obeys a line. Nothing is shown any more once the console is finished. -/
def obey (c : Console) (line : String) : List String × Console :=
  if c.finished then ([], c)
  else
    let (lines, c) := c.apply (Command.ofLine line)
    if c.finished then (lines, c)
    else
      let (more, c) := c.settle
      (lines ++ more, c)

/-- Lets time pass and shows what comes of it. -/
def wait (c : Console) (delay : Nat) : List String × Console :=
  if c.finished then ([], c) else (c.advance delay).settle

/-- Hands a reply, or why there is none, to what waits for it. -/
def answer (c : Console) (q : Question) (reply : Except FetchError HttpReply) : List String × Console :=
  if c.finished then ([], c)
  else
    match q with
    | .suggestions call _ =>
      settle { c with input := c.input.resolve call (reply.bind fun r => r.toReply.suggestions) }
    | .products call _ =>
      settle { c with session := c.session.resolve call (reply.bind fun r => r.toReply.products) }

/-- Waits for the next task of the input. -/
def waitForTask (c : Console) : Option (List String × Console) :=
  (Agenda.earliest c.input.agenda.tasks).map fun t => c.wait (t.due - c.input.agenda.now)

/-- Waits until a request has been made after the first `seen`. Nothing else makes one than the tasks of the
input, each of which puts down one other at most. -/
def waitForQuestion (seen : Nat) : Nat → Console → List String × Console
  | 0, c => ([], c)
  | fuel + 1, c =>
    if seen < c.questions.length then ([], c)
    else
      match c.waitForTask with
      | none => ([], c)
      | some (lines, c) =>
        let (more, c) := waitForQuestion seen fuel c
        (lines ++ more, c)

def awaitQuestion (c : Console) (seen : Nat) : List String × Console :=
  waitForQuestion seen (2 * c.input.agenda.tasks.length + 1) c

end Console

end Storefront
