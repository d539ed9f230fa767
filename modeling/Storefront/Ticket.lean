import Storefront.Number.Power

/-!
# Tickets

A counter hands out numbered tickets, one for each request. Only the ticket that was issued last is current,
and none is after the counter has moved on without issuing one.
-/

namespace Storefront

structure Ticket where
  number : Nat
  deriving DecidableEq, Repr, Inhabited

/-- The ticket as 64 bits hold it. -/
def Ticket.inWord (t : Ticket) : Ticket :=
  ⟨t.number % twoTo 64⟩

/-- The number that was reached last. -/
structure Generation where
  latest : Nat
  deriving DecidableEq, Repr, Inhabited

namespace Generation

def start : Generation :=
  ⟨0⟩

def issue (g : Generation) : Ticket × Generation :=
  (⟨g.latest + 1⟩, ⟨g.latest + 1⟩)

/-- Moves on, so that no ticket is current. -/
def invalidate (g : Generation) : Generation :=
  ⟨g.latest + 1⟩

def isCurrent (g : Generation) (t : Ticket) : Bool :=
  g.latest == t.number

/-- The counter as 64 bits hold it: behind the last number it goes on at zero. -/
def inWord (g : Generation) : Generation :=
  ⟨g.latest % twoTo 64⟩

end Generation

/-- Counters of 64 bits and the handles on them. Several handles may share a counter. -/
structure TicketDesk where
  counters : List Generation
  handles : List Nat
  deriving DecidableEq, Repr

namespace TicketDesk

/-- One counter with one handle. -/
def start : TicketDesk :=
  { counters := [Generation.start], handles := [0] }

/-- The place of the counter behind a handle, and the counter. -/
def counter? (d : TicketDesk) (handle : Nat) : Option (Nat × Generation) := do
  let place ← d.handles[handle]?
  let g ← d.counters[place]?
  some (place, g)

/-- Leaves a counter at its place. -/
def put (d : TicketDesk) (place : Nat) (g : Generation) : TicketDesk :=
  { d with counters := d.counters.set place g.inWord }

def issue? (d : TicketDesk) (handle : Nat) : Option (Ticket × TicketDesk) :=
  (d.counter? handle).map fun (place, g) => (g.issue.1.inWord, d.put place g.issue.2)

def invalidate? (d : TicketDesk) (handle : Nat) : Option TicketDesk :=
  (d.counter? handle).map fun (place, g) => d.put place g.invalidate

def isCurrent? (d : TicketDesk) (handle : Nat) (t : Ticket) : Option Bool :=
  (d.counter? handle).map fun (_, g) => g.isCurrent t

/-- Another handle on the same counter, and its number. -/
def clone? (d : TicketDesk) (handle : Nat) : Option (Nat × TicketDesk) :=
  (d.counter? handle).map fun (place, _) =>
    (d.handles.length, { d with handles := d.handles ++ [place] })

/-- A handle on a fresh counter, and its number. -/
def addCounter (d : TicketDesk) : Nat × TicketDesk :=
  (d.handles.length,
    { counters := d.counters ++ [Generation.start], handles := d.handles ++ [d.counters.length] })

end TicketDesk

/-- An operation on a handle, or another counter. -/
inductive DeskStep where
  | issue (handle : Nat)
  | invalidate (handle : Nat)
  | isCurrent (handle : Nat) (t : Ticket)
  | clone (handle : Nat)
  | addCounter
  deriving DecidableEq, Repr

/-- The handle that an operation is on. -/
def DeskStep.handle? : DeskStep → Option Nat
  | .issue handle | .invalidate handle | .isCurrent handle _ | .clone handle => some handle
  | .addCounter => none

namespace TicketDesk

/-- The ticket that an operation hands out. -/
def ticket? (d : TicketDesk) : DeskStep → Option Ticket
  | .issue handle => (d.issue? handle).map Prod.fst
  | .invalidate _ | .isCurrent _ _ | .clone _ | .addCounter => none

/-- Does an operation. Where there is no such handle, nothing is done. -/
def step (d : TicketDesk) : DeskStep → TicketDesk
  | .issue handle => ((d.issue? handle).map Prod.snd).getD d
  | .invalidate handle => (d.invalidate? handle).getD d
  | .isCurrent _ _ => d
  | .clone handle => ((d.clone? handle).map Prod.snd).getD d
  | .addCounter => d.addCounter.2

def steps (d : TicketDesk) (ops : List DeskStep) : TicketDesk :=
  ops.foldl step d

end TicketDesk

end Storefront
