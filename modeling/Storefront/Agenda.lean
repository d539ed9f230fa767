/-!
# Agendas

Work that is due at some time on a clock of its own. Of the tasks that are due, the one that was due first
comes first, and of those due together the one that was put down first.
-/

namespace Storefront

structure Agenda.Task (κ : Type) where
  id : Nat
  due : Nat
  job : κ
  deriving Repr

/-- The clock, how many tasks were ever put down, and the tasks that are left in the order in which
they were. -/
structure Agenda (κ : Type) where
  now : Nat
  count : Nat
  tasks : List (Agenda.Task κ)
  deriving Repr

namespace Agenda

variable {κ : Type}

def empty : Agenda κ :=
  ⟨0, 0, []⟩

/-- Puts down a task that is due after a delay. Its number is the count before. -/
def add (a : Agenda κ) (delay : Nat) (job : κ) : Agenda κ :=
  { a with count := a.count + 1, tasks := a.tasks ++ [⟨a.count, a.now + delay, job⟩] }

/-- Takes a task off without doing it. -/
def cancel (a : Agenda κ) (id : Nat) : Agenda κ :=
  { a with tasks := a.tasks.filter fun t => t.id != id }

/-- Takes off the task of a slot, if it holds one. -/
def cancelSlot (a : Agenda κ) (slot : Option Nat) : Agenda κ :=
  match slot with
  | none => a
  | some id => a.cancel id

def holds (a : Agenda κ) (id : Nat) : Bool :=
  a.tasks.any fun t => t.id == id

/-- The first of the tasks that are due earliest. -/
def earliest : List (Task κ) → Option (Task κ)
  | [] => none
  | t :: ts =>
    match earliest ts with
    | none => some t
    | some u => if u.due < t.due then some u else some t

/-- The next task that is due by `limit`, and the agenda without it at the time it is done. -/
def next? (a : Agenda κ) (limit : Nat) : Option (Task κ × Agenda κ) :=
  (earliest a.tasks).bind fun t =>
    if t.due ≤ limit then some (t, { (a.cancel t.id) with now := max a.now t.due }) else none

/-- The clock set to a time that is not past it. -/
def wait (a : Agenda κ) (time : Nat) : Agenda κ :=
  { a with now := max a.now time }

end Agenda

end Storefront
