import Storefront.Session.Basic

/-!
# Runs of a session

A session and the backend it asks: requests reach the backend when tasks run, and are answered in any order.
-/

namespace Storefront

/-- A request that reached the backend: the ticket of the revision that made it, and the reply once there is
one. -/
structure SearchCall where
  ticket : Ticket
  request : SearchRequest
  reply : Option SearchResult

def SearchCall.answered (c : SearchCall) : Bool :=
  c.reply.isSome

/-- `backend` answers some requests at once. -/
structure SessionRun where
  backend : SearchRequest → Option SearchResult
  session : Session
  calls : List SearchCall
  now : Nat

namespace SessionRun

def start (backend : SearchRequest → Option SearchResult) (session : Session) : SessionRun :=
  { backend, session, calls := [], now := 0 }

/-- Does what the request in flight can do, if it does not wait for its answer. -/
def poll? (r : SessionRun) : Option SessionRun :=
  match r.session.inFlight with
  | none => none
  | some f =>
    match f.stage with
    | .waiting _ => none
    | .answered result => some { r with session := r.session.complete f.ticket result }
    | .queued =>
      match r.backend f.request with
      | some result =>
        some { r with
          calls := r.calls ++ [⟨f.ticket, f.request, some result⟩]
          session := r.session.complete f.ticket result }
      | none =>
        some { r with
          calls := r.calls ++ [⟨f.ticket, f.request, none⟩]
          session := { r.session with inFlight := some { f with stage := .waiting r.calls.length } } }

/-- Tasks run. A request that was queued either waits or is complete after that. -/
def runTasks (r : SessionRun) : SessionRun :=
  r.poll?.getD r

def advance (r : SessionRun) (delay : Nat) : SessionRun :=
  { r.runTasks with now := r.now + delay }

/-- The snapshot once it is no longer loading, waiting for at most `patience`. -/
def settled (r : SessionRun) (patience : Nat) : Option Snapshot × SessionRun :=
  let r := r.runTasks
  if r.session.snapshot.outcome.isLoading then (none, r.advance patience)
  else (some r.session.snapshot, r)

def isWaiting (r : SessionRun) (call : Nat) : Bool :=
  r.calls[call]?.any fun c => !c.answered

/-- Answers a request that waits for it; one that was given up takes no notice. -/
def resolve (r : SessionRun) (call : Nat) (result : SearchResult) : SessionRun :=
  match r.calls[call]? with
  | some c =>
    if c.answered then r
    else
      let r := { r with calls := r.calls.set call { c with reply := some result } }
      match r.session.inFlight with
      | some { ticket, request, stage := .waiting waited } =>
        if waited = call then
          { r with
            session := { r.session with
              inFlight := some { ticket, request, stage := .answered result } } }
        else r
      | _ => r
  | none => r

end SessionRun

/-- An event in the life of a session. -/
inductive SessionStep where
  | submit (text : String)
  | setCategories (categories : CategorySet)
  | toggle (label : String)
  | back
  | forward
  | advance (delay : Nat)
  | resolve (call : Nat) (result : SearchResult)

namespace SessionRun

def step (r : SessionRun) : SessionStep → SessionRun
  | .submit text => { r with session := r.session.submit text }
  | .setCategories categories => { r with session := r.session.setCategories categories }
  | .toggle label => { r with session := r.session.toggle label }
  | .back => { r with session := r.session.back }
  | .forward => { r with session := r.session.forward }
  | .advance delay => r.advance delay
  | .resolve call result => r.resolve call result

def steps (r : SessionRun) (ss : List SessionStep) : SessionRun :=
  ss.foldl step r

end SessionRun

end Storefront
