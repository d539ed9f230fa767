import Storefront.Agenda

/-!
# Task slots

A slot holds at most one task. Putting another one into it takes off the one it held, as does giving up the
slot. A task that is done leaves its tag in a log.
-/

namespace Storefront

/-- A slot is empty or holds the number of its last task, until it is given up. -/
inductive TaskSlot where
  | holding (task : Option Nat)
  | gone
  deriving DecidableEq, Repr

structure TaskSlots where
  agenda : Agenda String
  slots : List TaskSlot
  log : List String

namespace TaskSlots

/-- One empty slot at time zero. -/
def start : TaskSlots :=
  { agenda := Agenda.empty, slots := [.holding none], log := [] }

def add (s : TaskSlots) : TaskSlots :=
  { s with slots := s.slots ++ [.holding none] }

/-- The task that a slot holds, done or not; nothing if there is no such slot any more. -/
def task? (s : TaskSlots) (slot : Nat) : Option (Option Nat) :=
  match s.slots[slot]? with
  | some (.holding task) => some task
  | _ => none

/-- Whether the slot's task is still to be done. -/
def isPending (s : TaskSlots) (slot : Nat) : Bool :=
  match s.task? slot with
  | some (some id) => s.agenda.holds id
  | _ => false

/-- Leaves the slot empty. -/
def cancel (s : TaskSlots) (slot : Nat) : TaskSlots :=
  match s.task? slot with
  | some task => { s with agenda := s.agenda.cancelSlot task, slots := s.slots.set slot (.holding none) }
  | none => s

/-- Puts a task into a slot. -/
def schedule (s : TaskSlots) (slot delay : Nat) (tag : String) : TaskSlots :=
  match s.task? slot with
  | some task =>
    let agenda := s.agenda.cancelSlot task
    { s with
      agenda := agenda.add delay tag
      slots := s.slots.set slot (.holding (some agenda.count)) }
  | none => s

/-- Puts a task into a slot that is due at once. -/
def spawn (s : TaskSlots) (slot : Nat) (tag : String) : TaskSlots :=
  s.schedule slot 0 tag

def giveUp (s : TaskSlots) (slot : Nat) : TaskSlots :=
  match s.task? slot with
  | some task => { s with agenda := s.agenda.cancelSlot task, slots := s.slots.set slot .gone }
  | none => s

/-- Does what is due by `limit`, at most `fuel` tasks. -/
def perform (limit : Nat) : Nat → TaskSlots → TaskSlots
  | 0, s => s
  | fuel + 1, s =>
    match s.agenda.next? limit with
    | none => s
    | some (t, agenda) => perform limit fuel { s with agenda, log := s.log ++ [t.job] }

/-- Lets time pass. No task puts down another, so there is nothing left that is due. -/
def advance (s : TaskSlots) (delay : Nat) : TaskSlots :=
  let limit := s.agenda.now + delay
  let s := perform limit s.agenda.tasks.length s
  { s with agenda := s.agenda.wait limit }

end TaskSlots

/-- An operation on a slot, another slot, or time that passes. -/
inductive SlotStep where
  | add
  | spawn (slot : Nat) (tag : String)
  | schedule (slot delay : Nat) (tag : String)
  | cancel (slot : Nat)
  | isPending (slot : Nat)
  | giveUp (slot : Nat)
  | advance (delay : Nat)
  deriving DecidableEq, Repr

/-- The slot that an operation is on. -/
def SlotStep.slot? : SlotStep → Option Nat
  | .spawn slot _ | .schedule slot _ _ | .cancel slot | .isPending slot | .giveUp slot => some slot
  | .add | .advance _ => none

namespace TaskSlots

/-- Whether there is the slot that an operation is on. -/
def allows (s : TaskSlots) (op : SlotStep) : Bool :=
  op.slot?.all fun slot => (s.task? slot).isSome

/-- What an operation answers: cancelling tells, as asking does, whether the slot's task was still to be
done. -/
def answer? (s : TaskSlots) : SlotStep → Option Bool
  | .cancel slot | .isPending slot => (s.task? slot).map fun _ => s.isPending slot
  | _ => none

def step (s : TaskSlots) : SlotStep → TaskSlots
  | .add => s.add
  | .spawn slot tag => s.spawn slot tag
  | .schedule slot delay tag => s.schedule slot delay tag
  | .cancel slot => s.cancel slot
  | .isPending _ => s
  | .giveUp slot => s.giveUp slot
  | .advance delay => s.advance delay

def steps (s : TaskSlots) (ops : List SlotStep) : TaskSlots :=
  ops.foldl step s

end TaskSlots

end Storefront
