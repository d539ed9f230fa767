import Storefront.Proofs.TaskSlots.Turn
import Mathlib.Data.List.Induction

/-! # Which slots are there

There is one slot at the start, and another for each that is added. A slot is there until it is
given up. So the operations alone tell which of them put a task into a slot, and when it is due. -/

namespace Storefront

namespace SlotStep

variable {slot : Nat} {ops : List SlotStep}

/-! ## Slots that are there -/

/-- How many slots there ever were by the end of operations. -/
def slotCount (ops : List SlotStep) : Nat :=
  1 + ops.count .add

/-- Whether an operation gives a slot up. -/
def givesUp (slot : Nat) : SlotStep → Bool
  | .giveUp other => other == slot
  | _ => false

/-- Whether a slot is given up by operations before which there were so many slots. A slot cannot be
given up before it is added. -/
def givenUp (slot : Nat) : Nat → List SlotStep → Bool
  | _, [] => false
  | count, op :: ops =>
    op.givesUp slot && decide (slot < count) ||
      givenUp slot (count + if op == .add then 1 else 0) ops

/-- Whether a slot is there after operations. -/
def isThere (slot : Nat) (ops : List SlotStep) : Bool :=
  decide (slot < slotCount ops) && !givenUp slot 1 ops

/-- Whether a slot is there after one more operation, if it was there or not before it and there
were so many slots. -/
def keeps (slot count : Nat) (there : Bool) : SlotStep → Bool
  | .add => there || slot == count
  | .giveUp other => there && !(other == slot)
  | _ => there

theorem slotCount_concat (ops : List SlotStep) (op : SlotStep) :
    slotCount (ops ++ [op]) = slotCount ops + [op].count .add := by
  rw [slotCount, slotCount, List.count_append, Nat.add_assoc]

theorem givenUp_concat (slot count : Nat) (ops : List SlotStep) (op : SlotStep) :
    givenUp slot count (ops ++ [op]) =
      (givenUp slot count ops || op.givesUp slot && decide (slot < count + ops.count .add)) := by
  induction ops generalizing count with
  | nil => exact Bool.or_false _
  | cons first ops ih =>
      rw [List.cons_append, givenUp, givenUp, ih, List.count_cons, Bool.or_assoc, Nat.add_assoc,
        Nat.add_comm (ops.count .add)]

theorem givenUp_eq_false {count : Nat} (h : count + ops.count .add ≤ slot) :
    givenUp slot count ops = false := by
  induction ops generalizing count with
  | nil => rfl
  | cons op ops ih =>
      rw [List.count_cons] at h
      have hlater : decide (slot < count) = false := decide_eq_false (by omega)
      rw [givenUp, ih (by omega), hlater, Bool.and_false, Bool.or_false]

theorem isThere_concat (slot : Nat) (ops : List SlotStep) (op : SlotStep) :
    isThere slot (ops ++ [op]) = op.keeps slot (slotCount ops) (isThere slot ops) := by
  have hunmade : slotCount ops ≤ slot → givenUp slot 1 ops = false := givenUp_eq_false
  rw [isThere, isThere, slotCount_concat, givenUp_concat, ← slotCount]
  cases op with
  | add =>
      rcases Nat.lt_trichotomy slot (slotCount ops) with hlt | rfl | hgt
      · simp [keeps, givesUp, hlt, Nat.ne_of_lt hlt, Nat.lt_succ_of_lt hlt]
      · simp [keeps, givesUp, hunmade]
      · simp [keeps, givesUp, Nat.ne_of_gt hgt, Nat.not_lt_of_gt hgt, Nat.not_lt_of_ge hgt]
  | giveUp other =>
      by_cases hlt : slot < slotCount ops
      · simp [keeps, givesUp, hlt]
      · simp [keeps, hlt]
  | _ => simp [keeps, givesUp]

/-! ## Tasks that are put into them -/

/-- The time after operations. -/
def clock (ops : List SlotStep) : Nat :=
  ops.foldr (fun op time => op.elapsed + time) 0

theorem clock_concat (ops : List SlotStep) (op : SlotStep) :
    clock (ops ++ [op]) = clock ops + op.elapsed := by
  induction ops with
  | nil => simp [clock]
  | cons first ops ih =>
      rw [clock, clock] at ih
      rw [clock, clock, List.cons_append, List.foldr_cons, List.foldr_cons, ih, Nat.add_assoc]

/-- The task that is put into a slot behind other operations, if the slot is there. -/
def into? (earlier : List SlotStep) (count slot delay : Nat) (tag : String) :
    Option TaskSlots.Placement :=
  if isThere slot earlier then
    some ⟨slot, delay, ⟨count, clock earlier + delay, tag⟩⟩
  else
    none

/-- The task that an operation puts into a slot behind others, which put so many there. -/
def put? (earlier : List SlotStep) (count : Nat) : SlotStep → Option TaskSlots.Placement
  | .spawn slot tag => into? earlier count slot 0 tag
  | .schedule slot delay tag => into? earlier count slot delay tag
  | _ => none

/-- The tasks that operations put into slots behind others, each with the operations after it. -/
def placed (earlier : List SlotStep) (count : Nat) :
    List SlotStep → List (TaskSlots.Placement × List SlotStep)
  | [] => []
  | op :: ops =>
    let tasks := (op.put? earlier count).toList
    tasks.map (·, ops) ++ placed (earlier ++ [op]) (count + tasks.length) ops

/-- The last of the tasks that are put into a slot. -/
def lastIn? (slot : Nat) (placed : List (TaskSlots.Placement × List SlotStep)) :
    Option (TaskSlots.Placement × List SlotStep) :=
  (placed.filter fun p => p.1.slot == slot).getLast?

end SlotStep

namespace TaskSlots

variable {s : TaskSlots}

theorem steps_concat (ops : List SlotStep) (op : SlotStep) :
    s.steps (ops ++ [op]) = (s.steps ops).step op :=
  List.foldl_concat step s op ops

/-! ## What an operation does to the slots -/

theorem isSome_task?_schedule (slot delay : Nat) (tag : String) (other : Nat) :
    ((s.schedule slot delay tag).task? other).isSome = (s.task? other).isSome := by
  rw [schedule]
  cases htask : s.task? slot with
  | none => rfl
  | some task =>
      refine (congrArg Option.isSome (task?_set htask _ _ other)).trans ?_
      by_cases heq : slot = other
      · simp [← heq, htask]
      · rw [if_neg heq]

theorem isSome_task?_leave (slot : Nat) (entry : TaskSlot) (other : Nat) :
    ((s.leave slot entry).task? other).isSome =
      ((s.task? other).isSome && !(slot == other && entry == .gone)) := by
  rw [leave]
  cases htask : s.task? slot with
  | none =>
      by_cases heq : slot = other
      · simp [← heq, htask]
      · simp [heq]
  | some task =>
      refine (congrArg Option.isSome (task?_set htask entry _ other)).trans ?_
      by_cases heq : slot = other
      · cases entry with
        | holding task => simp [← heq, htask]
        | gone => simp [heq]
      · simp [heq]

theorem isSome_task?_step (op : SlotStep) (slot : Nat) :
    ((s.step op).task? slot).isSome = op.keeps slot s.slots.length (s.task? slot).isSome := by
  cases op with
  | add =>
      rw [step, task?_add, SlotStep.keeps]
      by_cases heq : slot = s.slots.length
      · simp [heq]
      · simp [heq]
  | spawn other tag => exact isSome_task?_schedule other 0 tag slot
  | schedule other delay tag => exact isSome_task?_schedule other delay tag slot
  | cancel other =>
      refine (isSome_task?_leave other (.holding none) slot).trans ?_
      simp [SlotStep.keeps]
  | isPending other => rfl
  | giveUp other =>
      refine (isSome_task?_leave other .gone slot).trans ?_
      simp [SlotStep.keeps]
  | advance delay => exact congrArg Option.isSome (task?_advance delay slot)

theorem length_slots_schedule (slot delay : Nat) (tag : String) :
    (s.schedule slot delay tag).slots.length = s.slots.length := by
  rw [schedule]
  cases s.task? slot with
  | none => rfl
  | some task => exact List.length_set

theorem length_slots_leave (slot : Nat) (entry : TaskSlot) :
    (s.leave slot entry).slots.length = s.slots.length := by
  rw [leave]
  cases s.task? slot with
  | none => rfl
  | some task => exact List.length_set

theorem length_slots_step (op : SlotStep) :
    (s.step op).slots.length = s.slots.length + [op].count .add := by
  cases op with
  | add => exact List.length_append
  | spawn slot tag => exact length_slots_schedule slot 0 tag
  | schedule slot delay tag => exact length_slots_schedule slot delay tag
  | cancel slot => exact length_slots_leave slot (.holding none)
  | isPending slot => rfl
  | giveUp slot => exact length_slots_leave slot .gone
  | advance delay => exact congrArg List.length (slots_perform _ _)

/-! ## What a run does to the slots -/

theorem length_slots_steps (ops : List SlotStep) :
    (start.steps ops).slots.length = SlotStep.slotCount ops := by
  induction ops using List.reverseRecOn with
  | nil => rfl
  | append_singleton ops op ih =>
      rw [steps_concat, length_slots_step, ih, SlotStep.slotCount_concat]

theorem isSome_task?_start (slot : Nat) :
    (start.task? slot).isSome = SlotStep.isThere slot [] := by
  cases slot with
  | zero => rfl
  | succ slot => rfl

/-- Which slots are there is what the operations tell. -/
theorem isSome_task?_steps (slot : Nat) (ops : List SlotStep) :
    ((start.steps ops).task? slot).isSome = SlotStep.isThere slot ops := by
  induction ops using List.reverseRecOn with
  | nil => exact isSome_task?_start slot
  | append_singleton ops op ih =>
      rw [steps_concat, isSome_task?_step, length_slots_steps, ih, SlotStep.isThere_concat]

end TaskSlots

end Storefront
