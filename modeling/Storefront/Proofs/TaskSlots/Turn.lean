import Storefront.Proofs.Agenda
import Storefront.TaskSlots

/-! # What one operation on slots can do

A slot holds its last task until an operation clears it. A task is left until it is done or its slot
is cleared, and only time that passes does any. -/

namespace Storefront

/-- Whether an operation takes off what a slot holds. -/
def SlotStep.clears (slot : Nat) : SlotStep → Bool
  | .spawn other _ | .schedule other _ _ | .cancel other | .giveUp other => other == slot
  | .add | .isPending _ | .advance _ => false

/-- Whether an operation lets enough time pass for a task that waits this long. -/
def SlotStep.reaches (wait : Nat) : SlotStep → Bool
  | .advance delay => decide (wait ≤ delay)
  | _ => false

/-- How far an operation moves the clock. -/
def SlotStep.elapsed : SlotStep → Nat
  | .advance delay => delay
  | _ => 0

namespace TaskSlots

variable {s next : TaskSlots} {slot other : Nat} {op : SlotStep}

/-! ## What a slot holds -/

/-- The slot's last task is the one of this number. -/
def Holds (s : TaskSlots) (slot id : Nat) : Prop :=
  s.task? slot = some (some id)

theorem lt_of_task?_eq_some {task : Option Nat} (h : s.task? slot = some task) :
    slot < s.slots.length := by
  by_contra hge
  rw [task?, List.getElem?_eq_none (Nat.le_of_not_lt hge)] at h
  cases h

/-- The entry of a slot is another one; all others are as they were. -/
theorem task?_set {task : Option Nat} (h : s.task? slot = some task) (entry : TaskSlot)
    (agenda : Agenda String) (other : Nat) :
    task? { s with agenda, slots := s.slots.set slot entry } other =
      if slot = other then
        match entry with
        | .holding task => some task
        | .gone => none
      else s.task? other := by
  by_cases heq : slot = other
  · subst heq
    simp only [task?, List.getElem?_set_self (lt_of_task?_eq_some h), if_true]
    cases entry <;> rfl
  · simp only [task?, List.getElem?_set_ne heq, if_neg heq]

/-- The slot that is added is empty; all others are as they were. -/
theorem task?_add (slot : Nat) :
    s.add.task? slot = if slot = s.slots.length then some none else s.task? slot := by
  rcases Nat.lt_trichotomy slot s.slots.length with hlt | rfl | hgt
  · simp only [task?, add, List.getElem?_append_left hlt, if_neg (Nat.ne_of_lt hlt)]
  · simp [task?, add]
  · have hnone : (s.slots ++ [TaskSlot.holding none])[slot]? = none :=
      List.getElem?_eq_none (by simp; omega)
    simp only [task?, add, hnone, List.getElem?_eq_none (Nat.le_of_lt hgt),
      if_neg (Nat.ne_of_gt hgt)]

theorem holds_add_iff (id : Nat) : s.add.Holds slot id ↔ s.Holds slot id := by
  rw [Holds, Holds, task?_add]
  by_cases heq : slot = s.slots.length
  · rw [if_pos heq]
    refine iff_of_false (fun hempty => nomatch hempty) (fun hholds => ?_)
    exact Nat.ne_of_lt (lt_of_task?_eq_some hholds) heq
  · rw [if_neg heq]

/-- A slot is left with this entry, and the task that it held is taken off. -/
def leave (s : TaskSlots) (slot : Nat) (entry : TaskSlot) : TaskSlots :=
  match s.task? slot with
  | some task => { s with agenda := s.agenda.cancelSlot task, slots := s.slots.set slot entry }
  | none => s

/-- A slot without a task is there or gone. -/
def Vacant (entry : TaskSlot) : Prop :=
  ∀ id, entry ≠ .holding (some id)

theorem vacant_empty : Vacant (.holding none) := by
  simp [Vacant]

theorem vacant_gone : Vacant .gone := by
  simp [Vacant]

theorem task?_leave (h : (s.task? slot).isSome) (entry : TaskSlot) :
    (s.leave slot entry).task? slot =
      match entry with
      | .holding task => some task
      | .gone => none := by
  obtain ⟨task, htask⟩ := Option.isSome_iff_exists.mp h
  rw [leave, htask]
  exact (task?_set htask entry _ slot).trans (if_pos rfl)

theorem task?_leave_of_ne (entry : TaskSlot) (hne : slot ≠ other) :
    (s.leave slot entry).task? other = s.task? other := by
  rw [leave]
  cases htask : s.task? slot with
  | none => rfl
  | some task => exact (task?_set htask entry _ other).trans (if_neg hne)

theorem holds_leave_iff {entry : TaskSlot} (hentry : Vacant entry) (other id : Nat) :
    (s.leave slot entry).Holds other id ↔ s.Holds other id ∧ (slot == other) = false := by
  rw [beq_eq_false_iff_ne]
  by_cases heq : slot = other
  · subst heq
    refine iff_of_false (fun hsome => ?_) (fun hand => hand.2 rfl)
    cases htask : s.task? slot with
    | none =>
        rw [Holds, leave, htask] at hsome
        exact nomatch htask.symm.trans hsome
    | some task =>
        rw [Holds, task?_leave (Option.isSome_iff_exists.mpr ⟨task, htask⟩)] at hsome
        cases entry with
        | gone => nomatch hsome
        | holding task => exact hentry id (congrArg _ (Option.some.inj hsome))
  · rw [Holds, task?_leave_of_ne entry heq]
    exact (and_iff_left heq).symm

theorem mem_leave_iff (entry : TaskSlot) (t : Agenda.Task String) :
    t ∈ (s.leave slot entry).agenda.tasks ↔
      t ∈ s.agenda.tasks ∧ ∀ other, s.Holds other t.id → (slot == other) = false := by
  have hslot : (∀ other, s.Holds other t.id → (slot == other) = false) ↔ ¬s.Holds slot t.id := by
    simp only [beq_eq_false_iff_ne]
    exact ⟨fun h hholds => h slot hholds rfl, fun h other hholds heq => h (heq ▸ hholds)⟩
  rw [hslot, leave, Holds]
  cases s.task? slot with
  | none => simp
  | some task =>
      rw [Option.some.injEq]
      exact Agenda.mem_cancelSlot

theorem agenda_leave (slot : Nat) (entry : TaskSlot) :
    ∃ task, (s.leave slot entry).agenda = s.agenda.cancelSlot task := by
  rw [leave]
  cases s.task? slot with
  | none => exact ⟨none, rfl⟩
  | some task => exact ⟨task, rfl⟩

@[simp]
theorem log_leave (slot : Nat) (entry : TaskSlot) : (s.leave slot entry).log = s.log := by
  rw [leave]
  cases s.task? slot <;> rfl

@[simp]
theorem count_leave (slot : Nat) (entry : TaskSlot) :
    (s.leave slot entry).agenda.count = s.agenda.count := by
  obtain ⟨task, htask⟩ := s.agenda_leave slot entry
  rw [htask, Agenda.count_cancelSlot]

@[simp]
theorem now_leave (slot : Nat) (entry : TaskSlot) :
    (s.leave slot entry).agenda.now = s.agenda.now := by
  obtain ⟨task, htask⟩ := s.agenda_leave slot entry
  rw [htask, Agenda.now_cancelSlot]

/-- A task goes into a slot that is there. -/
def put (s : TaskSlots) (slot delay : Nat) (tag : String) : TaskSlots :=
  { s with
    agenda := s.agenda.add delay tag
    slots := s.slots.set slot (.holding (some s.agenda.count)) }

theorem holds_put_iff {task : Option Nat} (h : s.task? slot = some task) (delay : Nat)
    (tag : String) (other id : Nat) :
    (s.put slot delay tag).Holds other id ↔
      if slot = other then s.agenda.count = id else s.Holds other id := by
  rw [Holds, put, task?_set h]
  by_cases heq : slot = other
  · simp only [if_pos heq, Option.some.injEq]
  · simp only [if_neg heq, Holds]

/-- To schedule is to leave the slot empty first. -/
theorem schedule_eq {task : Option Nat} (h : s.task? slot = some task) (delay : Nat)
    (tag : String) :
    s.schedule slot delay tag = (s.leave slot (.holding none)).put slot delay tag := by
  simp [schedule, h, leave, put]

/-! ## The tasks that time brings -/

/-- The tasks that are done by a time, in their order. -/
def doneBy (limit : Nat) : Nat → TaskSlots → List (Agenda.Task String)
  | 0, _ => []
  | fuel + 1, s =>
    match s.agenda.next? limit with
    | none => []
    | some (t, agenda) => t :: doneBy limit fuel { s with agenda, log := s.log ++ [t.job] }

/-- The tasks that an operation does. -/
def done (s : TaskSlots) : SlotStep → List (Agenda.Task String)
  | .advance delay => doneBy (s.agenda.now + delay) s.agenda.tasks.length s
  | _ => []

/-- The tasks that are done in the course of operations, in their order. -/
def doneOver (s : TaskSlots) : List SlotStep → List (Agenda.Task String)
  | [] => []
  | op :: ops => s.done op ++ (s.step op).doneOver ops

theorem slots_perform (limit fuel : Nat) : (perform limit fuel s).slots = s.slots := by
  induction fuel generalizing s with
  | zero => rfl
  | succ fuel ih =>
      rw [perform]
      cases s.agenda.next? limit with
      | none => rfl
      | some pair => exact ih

theorem task?_advance (delay slot : Nat) : (s.advance delay).task? slot = s.task? slot := by
  simp only [task?, advance, slots_perform]

/-- What is done by a time is what is due by then, and all else is left as it was. -/
structure Passes (limit : Nat) (s next : TaskSlots) (done : List (Agenda.Task String)) : Prop where
  perm : done.Perm (s.agenda.tasks.filter fun t => decide (t.due ≤ limit))
  tasks_eq : next.agenda.tasks = s.agenda.tasks.filter fun t => !decide (t.due ≤ limit)
  count_eq : next.agenda.count = s.agenda.count
  now_le : next.agenda.now ≤ limit
  log_eq : next.log = s.log ++ done.map Agenda.Task.job

theorem passes_of_none {limit : Nat} (hnow : s.agenda.now ≤ limit)
    (hnone : s.agenda.next? limit = none) : Passes limit s s [] := by
  have hlater : ∀ t ∈ s.agenda.tasks, ¬t.due ≤ limit := fun t ht =>
    Nat.not_le_of_gt (Agenda.lt_due_of_next?_eq_none hnone ht)
  refine ⟨?_, ?_, rfl, hnow, (List.append_nil _).symm⟩
  · rw [List.filter_eq_nil_iff.mpr fun t ht => by simpa using hlater t ht]
  · exact (List.filter_eq_self.mpr fun t ht => by simpa using hlater t ht).symm

theorem passes_perform {limit fuel : Nat} (hordered : s.agenda.Ordered)
    (hnow : s.agenda.now ≤ limit) (hfuel : s.agenda.tasks.length ≤ fuel) :
    Passes limit s (perform limit fuel s) (doneBy limit fuel s) := by
  induction fuel generalizing s with
  | zero =>
      have hnil : s.agenda.tasks = [] := List.eq_nil_of_length_eq_zero (Nat.le_zero.mp hfuel)
      refine passes_of_none hnow ?_
      rw [Agenda.next?, hnil]
      rfl
  | succ fuel ih =>
      rw [perform, doneBy]
      cases hnext : s.agenda.next? limit with
      | none => exact passes_of_none hnow hnext
      | some pair =>
          obtain ⟨t, agenda⟩ := pair
          obtain ⟨hmem, hdue, rfl⟩ := Agenda.next?_eq_some hnext
          have hlength : s.agenda.tasks.length = (s.agenda.cancel t.id).tasks.length + 1 :=
            (hordered.perm_cancel hmem).length_eq
          have hfewer : (s.agenda.cancel t.id).tasks.length ≤ fuel := by omega
          have hrest := ih (s := { s with
              agenda := (s.agenda.wait t.due).cancel t.id, log := s.log ++ [t.job] })
            ((hordered.wait t.due).cancel t.id) (Nat.max_le.mpr ⟨hnow, hdue⟩)
            hfewer
          refine ⟨?_, ?_, hrest.count_eq, hrest.now_le, ?_⟩
          · exact (hrest.perm.cons t).trans (hordered.perm_due hmem hdue).symm
          · exact hrest.tasks_eq.trans (hordered.filter_cancel_of_due hmem hdue)
          · rw [hrest.log_eq, List.append_assoc]
            rfl

theorem passes_advance (hordered : s.agenda.Ordered) (delay : Nat) :
    Passes (s.agenda.now + delay) s (s.advance delay) (s.done (.advance delay)) := by
  have hpasses := passes_perform hordered (Nat.le_add_right s.agenda.now delay) (Nat.le_refl _)
  exact ⟨hpasses.perm, hpasses.tasks_eq, hpasses.count_eq,
    Nat.max_le.mpr ⟨hpasses.now_le, Nat.le_refl _⟩, hpasses.log_eq⟩

theorem now_advance (hordered : s.agenda.Ordered) (delay : Nat) :
    (s.advance delay).agenda.now = s.agenda.now + delay :=
  Nat.le_antisymm (passes_advance hordered delay).now_le (Nat.le_max_right _ _)

theorem mem_done_iff (hordered : s.agenda.Ordered) (op : SlotStep) (t : Agenda.Task String) :
    t ∈ s.done op ↔ t ∈ s.agenda.tasks ∧ op.reaches (t.due - s.agenda.now) = true := by
  cases op with
  | advance delay =>
      rw [(passes_advance hordered delay).perm.mem_iff, List.mem_filter, SlotStep.reaches,
        decide_eq_true_iff, decide_eq_true_iff, Nat.sub_le_iff_le_add']
  | _ => simp [done, SlotStep.reaches]

theorem nodup_done (hordered : s.agenda.Ordered) (op : SlotStep) :
    ((s.done op).map Agenda.Task.id).Nodup := by
  cases op with
  | advance delay =>
      rw [((passes_advance hordered delay).perm.map _).nodup_iff]
      exact (hordered.ids_lt.sublist (List.filter_sublist.map _)).imp Nat.ne_of_lt
  | _ => exact List.nodup_nil

/-! ## What one operation can do -/

/-- A task that an operation puts into a slot, and how long it waits there. -/
structure Placement where
  slot : Nat
  wait : Nat
  task : Agenda.Task String

/-- The task that is next to be put into a slot, if the slot is there. -/
def place? (s : TaskSlots) (slot delay : Nat) (tag : String) : Option Placement :=
  (s.task? slot).map fun _ => ⟨slot, delay, ⟨s.agenda.count, s.agenda.now + delay, tag⟩⟩

def placement? (s : TaskSlots) : SlotStep → Option Placement
  | .spawn slot tag => s.place? slot 0 tag
  | .schedule slot delay tag => s.place? slot delay tag
  | _ => none

/-- A slot holds a task until an operation clears it, a task is left until it is done or its slot is
cleared, and only what the operation puts into a slot is new. -/
structure Turn (s : TaskSlots) (op : SlotStep) (next : TaskSlots) : Prop where
  holds_iff : ∀ slot id, next.Holds slot id ↔
    s.Holds slot id ∧ op.clears slot = false ∨
      ∃ p, s.placement? op = some p ∧ p.slot = slot ∧ p.task.id = id
  mem_iff : ∀ t, t ∈ next.agenda.tasks ↔
    (t ∈ s.agenda.tasks ∧ op.reaches (t.due - s.agenda.now) = false ∧
      ∀ slot, s.Holds slot t.id → op.clears slot = false) ∨
      ∃ p, s.placement? op = some p ∧ p.task = t
  count_eq : next.agenda.count = s.agenda.count + (s.placement? op).toList.length
  now_eq : next.agenda.now = s.agenda.now + op.elapsed
  log_eq : next.log = s.log ++ (s.done op).map Agenda.Task.job
  ordered : next.agenda.Ordered

theorem turn_add (hordered : s.agenda.Ordered) : Turn s .add s.add := by
  refine ⟨fun slot id => ?_, fun t => ?_, rfl, rfl, (List.append_nil _).symm, hordered⟩
  · simp [holds_add_iff, SlotStep.clears, placement?]
  · simp [add, SlotStep.clears, SlotStep.reaches, placement?]

theorem turn_isPending (hordered : s.agenda.Ordered) (slot : Nat) : Turn s (.isPending slot) s := by
  refine ⟨fun slot id => ?_, fun t => ?_, rfl, rfl, (List.append_nil _).symm, hordered⟩
  · simp [SlotStep.clears, placement?]
  · simp [SlotStep.clears, SlotStep.reaches, placement?]

theorem turn_advance (hordered : s.agenda.Ordered) (delay : Nat) :
    Turn s (.advance delay) (s.advance delay) := by
  have hpasses := passes_advance hordered delay
  refine ⟨fun slot id => ?_, fun t => ?_, hpasses.count_eq, now_advance hordered delay,
    hpasses.log_eq, ?_⟩
  · simp [Holds, task?_advance, SlotStep.clears, placement?]
  · rw [hpasses.tasks_eq, List.mem_filter]
    simp [SlotStep.clears, SlotStep.reaches, placement?, Nat.add_comm delay]
  · constructor
    · rw [hpasses.tasks_eq]
      exact hordered.ids_lt.sublist (List.filter_sublist.map _)
    · intro t ht
      rw [hpasses.tasks_eq] at ht
      rw [hpasses.count_eq]
      exact hordered.lt_count t (List.mem_filter.mp ht).1

theorem ordered_leave (hordered : s.agenda.Ordered) (slot : Nat) (entry : TaskSlot) :
    (s.leave slot entry).agenda.Ordered := by
  obtain ⟨task, htask⟩ := s.agenda_leave slot entry
  rw [htask]
  exact hordered.cancelSlot task

/-- An operation that only leaves a slot without a task. -/
theorem turn_leave {entry : TaskSlot} (hordered : s.agenda.Ordered) (hentry : Vacant entry)
    (hclears : ∀ other, op.clears other = (slot == other))
    (hwaits : ∀ wait, op.reaches wait = false) (helapsed : op.elapsed = 0)
    (hplacement : s.placement? op = none) (hdone : s.done op = []) :
    Turn s op (s.leave slot entry) := by
  refine ⟨fun other id => ?_, fun t => ?_, by simp [hplacement], by simp [helapsed],
    by simp [hdone], ordered_leave hordered slot entry⟩
  · simp [holds_leave_iff hentry, hclears, hplacement]
  · simp [mem_leave_iff, hclears, hwaits, hplacement]

theorem turn_schedule (hordered : s.agenda.Ordered) (slot delay : Nat) (tag : String) :
    Turn s (.schedule slot delay tag) (s.schedule slot delay tag) := by
  cases htask : s.task? slot with
  | none =>
      -- there is no such slot, so it holds nothing that could be cleared
      have habsent : s.schedule slot delay tag = s := by rw [schedule, htask]
      have hnothing : ∀ other id, s.Holds other id → (slot == other) = false := by
        intro other id hholds
        rw [beq_eq_false_iff_ne]
        rintro rfl
        exact nomatch htask.symm.trans hholds
      rw [habsent]
      refine ⟨fun other id => ?_, fun t => ?_, by simp [placement?, place?, htask], rfl,
        by simp [done], hordered⟩
      · simpa [SlotStep.clears, placement?, place?, htask] using hnothing other id
      · simpa [SlotStep.clears, SlotStep.reaches, placement?, place?, htask] using
          fun _ other => hnothing other t.id
  | some task =>
      have hempty : (s.leave slot (.holding none)).task? slot = some none :=
        task?_leave (Option.isSome_iff_exists.mpr ⟨task, htask⟩) _
      have hplacement : s.placement? (.schedule slot delay tag) =
          some ⟨slot, delay, ⟨s.agenda.count, s.agenda.now + delay, tag⟩⟩ := by
        rw [placement?, place?, htask]
        rfl
      rw [schedule_eq htask]
      refine ⟨fun other id => ?_, fun t => ?_, ?_, ?_, ?_, ?_⟩
      · rw [holds_put_iff hempty, count_leave]
        by_cases heq : slot = other
        · subst heq
          simp [SlotStep.clears, hplacement]
        · simp [heq, holds_leave_iff vacant_empty, SlotStep.clears, hplacement]
      · have hput : t ∈ ((s.leave slot (.holding none)).put slot delay tag).agenda.tasks ↔
            t ∈ (s.leave slot (.holding none)).agenda.tasks ∨
              ⟨s.agenda.count, s.agenda.now + delay, tag⟩ = t := by
          simp [put, Agenda.add, eq_comm]
        simp [hput, mem_leave_iff, SlotStep.clears, SlotStep.reaches, hplacement]
      · simp [put, Agenda.add, hplacement]
      · simp [put, Agenda.add, SlotStep.elapsed]
      · simp [put, done]
      · exact (ordered_leave hordered slot _).add delay tag

theorem turn_spawn (hordered : s.agenda.Ordered) (slot : Nat) (tag : String) :
    Turn s (.spawn slot tag) (s.schedule slot 0 tag) := by
  have hturn := turn_schedule hordered slot 0 tag
  exact ⟨hturn.holds_iff, hturn.mem_iff, hturn.count_eq, hturn.now_eq, hturn.log_eq,
    hturn.ordered⟩

theorem turn_step (hordered : s.agenda.Ordered) (op : SlotStep) : Turn s op (s.step op) := by
  cases op with
  | add => exact turn_add hordered
  | spawn slot tag => exact turn_spawn hordered slot tag
  | schedule slot delay tag => exact turn_schedule hordered slot delay tag
  | cancel slot =>
      exact turn_leave hordered vacant_empty (fun _ => rfl) (fun _ => rfl) rfl rfl rfl
  | isPending slot => exact turn_isPending hordered slot
  | giveUp slot =>
      exact turn_leave hordered vacant_gone (fun _ => rfl) (fun _ => rfl) rfl rfl rfl
  | advance delay => exact turn_advance hordered delay

end TaskSlots

end Storefront
