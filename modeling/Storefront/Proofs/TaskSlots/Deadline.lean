import Storefront.Proofs.TaskSlots.Presence

/-! # Which tasks are done

A task that is put into a slot is done once, when the time it is due at has come, unless its slot is
used again before that. What is done with other slots does not matter to it. -/

namespace Storefront

namespace TaskSlots

variable {s : TaskSlots} {slot other : Nat} {op : SlotStep} {ops : List SlotStep}
  {t u : Agenda.Task String} {p : Placement}

/-- A task that is left to be done, and the slot that holds it. -/
structure Live (s : TaskSlots) (slot : Nat) (t : Agenda.Task String) : Prop where
  mem : t ∈ s.agenda.tasks
  holds : s.Holds slot t.id

/-- Every number is handed out once, and every task that is left is held by a slot. -/
structure Kept (s : TaskSlots) : Prop where
  ordered : s.agenda.Ordered
  lt_count : ∀ slot id, s.Holds slot id → id < s.agenda.count
  slot_unique : ∀ slot other id, s.Holds slot id → s.Holds other id → slot = other
  held : ∀ t ∈ s.agenda.tasks, ∃ slot, s.Holds slot t.id

theorem steps_nil : s.steps [] = s :=
  rfl

theorem steps_cons (op : SlotStep) (ops : List SlotStep) :
    s.steps (op :: ops) = (s.step op).steps ops :=
  rfl

theorem kept_start : start.Kept := by
  have hempty : ∀ slot id, ¬start.Holds slot id := by
    intro slot id hholds
    cases slot with
    | zero => nomatch hholds
    | succ slot => nomatch hholds
  exact ⟨Agenda.ordered_empty, fun slot id h => absurd h (hempty slot id),
    fun slot other id h => absurd h (hempty slot id), fun t ht => nomatch ht⟩

/-! ## Tasks that are put into slots -/

theorem place?_eq_some {delay : Nat} {tag : String} (h : s.place? slot delay tag = some p) :
    p = ⟨slot, delay, ⟨s.agenda.count, s.agenda.now + delay, tag⟩⟩ := by
  obtain ⟨task, -, rfl⟩ := Option.map_eq_some_iff.mp h
  rfl

/-- An operation that puts a task into a slot clears the slot, and lets no time pass. -/
theorem placement?_eq_some (h : s.placement? op = some p) :
    op.clears p.slot = true ∧ op.elapsed = 0 ∧ p.task.id = s.agenda.count ∧
      p.task.due = s.agenda.now + p.wait := by
  cases op with
  | spawn slot tag =>
      obtain rfl := place?_eq_some h
      simp [SlotStep.clears, SlotStep.elapsed]
  | schedule slot delay tag =>
      obtain rfl := place?_eq_some h
      simp [SlotStep.clears, SlotStep.elapsed]
  | _ => cases h

theorem Kept.step (h : s.Kept) (op : SlotStep) : (s.step op).Kept := by
  have hturn := turn_step h.ordered op
  constructor
  · exact hturn.ordered
  · intro slot id hholds
    rw [hturn.count_eq]
    rcases (hturn.holds_iff slot id).mp hholds with ⟨hold, -⟩ | ⟨p, hp, -, rfl⟩
    · exact Nat.lt_of_lt_of_le (h.lt_count slot id hold) (Nat.le_add_right _ _)
    · rw [hp, (placement?_eq_some hp).2.2.1]
      exact Nat.lt_succ_self _
  · intro slot other id hslot hother
    rcases (hturn.holds_iff slot id).mp hslot with ⟨hold, -⟩ | ⟨p, hp, rfl, hid⟩ <;>
      rcases (hturn.holds_iff other id).mp hother with ⟨hold', -⟩ | ⟨q, hq, rfl, hid'⟩
    · exact h.slot_unique slot other id hold hold'
    · have hlt := h.lt_count slot id hold
      have hcount := (placement?_eq_some hq).2.2.1
      omega
    · have hlt := h.lt_count other id hold'
      have hcount := (placement?_eq_some hp).2.2.1
      omega
    · obtain rfl := Option.some.inj (hp.symm.trans hq)
      rfl
  · intro t ht
    rcases (hturn.mem_iff t).mp ht with ⟨hmem, -, hclears⟩ | ⟨p, hp, rfl⟩
    · obtain ⟨slot, hslot⟩ := h.held t hmem
      exact ⟨slot, (hturn.holds_iff slot t.id).mpr (.inl ⟨hslot, hclears slot hslot⟩)⟩
    · exact ⟨p.slot, (hturn.holds_iff _ _).mpr (.inr ⟨p, hp, rfl, rfl⟩)⟩

theorem Kept.steps (h : s.Kept) (ops : List SlotStep) : (s.steps ops).Kept := by
  induction ops generalizing s with
  | nil => exact h
  | cons op ops ih => exact ih (h.step op)

/-- A live task lives on unless the operation does it or clears its slot. -/
theorem Kept.live_step_iff (h : s.Kept) (op : SlotStep) (slot : Nat) (t : Agenda.Task String) :
    (s.step op).Live slot t ↔
      (s.Live slot t ∧ op.reaches (t.due - s.agenda.now) = false ∧ op.clears slot = false) ∨
        ∃ p, s.placement? op = some p ∧ p.slot = slot ∧ p.task = t := by
  have hturn := turn_step h.ordered op
  constructor
  · rintro ⟨hmem, hholds⟩
    rcases (hturn.mem_iff t).mp hmem with ⟨hold, hwaits, hclears⟩ | ⟨p, hp, rfl⟩
    · rcases (hturn.holds_iff slot t.id).mp hholds with ⟨hslot, hclear⟩ | ⟨p, hp, -, hid⟩
      · exact .inl ⟨⟨hold, hslot⟩, hwaits, hclear⟩
      · have hlt := h.ordered.lt_count t hold
        have hcount := (placement?_eq_some hp).2.2.1
        omega
    · rcases (hturn.holds_iff slot p.task.id).mp hholds with ⟨hslot, -⟩ | ⟨q, hq, hslot, -⟩
      · have hlt := h.lt_count slot _ hslot
        have hcount := (placement?_eq_some hp).2.2.1
        omega
      · obtain rfl := Option.some.inj (hp.symm.trans hq)
        exact .inr ⟨p, hp, hslot, rfl⟩
  · rintro (⟨hlive, hwaits, hclears⟩ | ⟨p, hp, rfl, rfl⟩)
    · refine ⟨(hturn.mem_iff t).mpr (.inl ⟨hlive.mem, hwaits, fun other hother => ?_⟩),
        (hturn.holds_iff slot t.id).mpr (.inl ⟨hlive.holds, hclears⟩)⟩
      rw [h.slot_unique other slot t.id hother hlive.holds]
      exact hclears
    · exact ⟨(hturn.mem_iff p.task).mpr (.inr ⟨p, hp, rfl⟩),
        (hturn.holds_iff p.slot p.task.id).mpr (.inr ⟨p, hp, rfl, rfl⟩)⟩

/-- A slot has at most one live task, the last that was put into it. -/
theorem Kept.live_unique (h : s.Kept) (ht : s.Live slot t) (hu : s.Live slot u) : t = u := by
  have hid : some (some t.id) = some (some u.id) := ht.holds.symm.trans hu.holds
  exact h.ordered.eq_of_id_eq ht.mem hu.mem (Option.some.inj (Option.some.inj hid))

theorem isPending_iff : s.isPending slot = true ↔ ∃ t, s.Live slot t := by
  constructor
  · intro hpending
    rw [isPending] at hpending
    split at hpending
    · rename_i id hslot
      obtain ⟨t, ht, hid⟩ := List.any_eq_true.mp hpending
      obtain rfl := beq_iff_eq.mp hid
      exact ⟨t, ht, hslot⟩
    · nomatch hpending
  · rintro ⟨t, ht, hholds⟩
    rw [isPending, hholds]
    exact List.any_eq_true.mpr ⟨t, ht, beq_self_eq_true _⟩

/-! ## What becomes of a task -/

/-- Whether a task that waits this long in a slot comes due before an operation clears the slot. -/
def comesDue (slot : Nat) : Nat → List SlotStep → Bool
  | _, [] => false
  | wait, op :: ops =>
    op.reaches wait || !op.clears slot && comesDue slot (wait - op.elapsed) ops

/-- Whether a task that waits this long in a slot is still there after the operations. -/
def stands (slot wait : Nat) (ops : List SlotStep) : Bool :=
  ops.all (fun op => !op.clears slot) && !comesDue slot wait ops

theorem stands_cons (wait : Nat) :
    stands slot wait (op :: ops) =
      (!op.reaches wait && !op.clears slot && stands slot (wait - op.elapsed) ops) := by
  rw [stands, stands, comesDue, List.all_cons]
  cases op.reaches wait <;> cases op.clears slot <;> simp

/-- The tasks that operations put into slots, each with the operations after it. -/
def placements (s : TaskSlots) : List SlotStep → List (Placement × List SlotStep)
  | [] => []
  | op :: ops => (s.placement? op).toList.map (·, ops) ++ (s.step op).placements ops

theorem mem_placements_cons {later : List SlotStep} :
    (p, later) ∈ s.placements (op :: ops) ↔
      s.placement? op = some p ∧ later = ops ∨ (p, later) ∈ (s.step op).placements ops := by
  rw [placements, List.mem_append]
  simp [eq_comm]

/-- A task that is done was live or is put into a slot later, and comes due before the slot is
cleared. -/
theorem Kept.mem_doneOver_iff (h : s.Kept) (ops : List SlotStep) (t : Agenda.Task String) :
    t ∈ s.doneOver ops ↔
      (∃ slot, s.Live slot t ∧ comesDue slot (t.due - s.agenda.now) ops = true) ∨
        ∃ p later, (p, later) ∈ s.placements ops ∧ comesDue p.slot p.wait later = true ∧
          p.task = t := by
  induction ops generalizing s with
  | nil => simp [doneOver, comesDue, placements]
  | cons op ops ih =>
      have hnow := (turn_step h.ordered op).now_eq
      rw [doneOver, List.mem_append, mem_done_iff h.ordered, ih (h.step op), hnow, ← Nat.sub_sub]
      constructor
      · rintro (⟨hmem, hreaches⟩ | ⟨slot, hlive, hdue⟩ | ⟨p, later, hp, hdue, rfl⟩)
        · obtain ⟨slot, hslot⟩ := h.held t hmem
          exact .inl ⟨slot, ⟨hmem, hslot⟩, by simp [comesDue, hreaches]⟩
        · rcases (h.live_step_iff op slot t).mp hlive with ⟨hold, -, hclears⟩ | ⟨p, hp, rfl, rfl⟩
          · exact .inl ⟨slot, hold, by simp [comesDue, hclears, hdue]⟩
          · refine .inr ⟨p, ops, mem_placements_cons.mpr (.inl ⟨hp, rfl⟩), ?_, rfl⟩
            obtain ⟨-, helapsed, -, hwait⟩ := placement?_eq_some hp
            rwa [hwait, helapsed, Nat.add_sub_cancel_left, Nat.sub_zero] at hdue
        · exact .inr ⟨p, later, mem_placements_cons.mpr (.inr hp), hdue, rfl⟩
      · rintro (⟨slot, hlive, hdue⟩ | ⟨p, later, hp, hdue, rfl⟩)
        · rw [comesDue] at hdue
          cases hreaches : op.reaches (t.due - s.agenda.now) with
          | true => exact .inl ⟨hlive.mem, rfl⟩
          | false =>
              rw [hreaches, Bool.false_or, Bool.and_eq_true, Bool.not_eq_true'] at hdue
              have hnext := (h.live_step_iff op slot t).mpr (.inl ⟨hlive, hreaches, hdue.1⟩)
              exact .inr (.inl ⟨slot, hnext, hdue.2⟩)
        · rcases mem_placements_cons.mp hp with ⟨hplace, rfl⟩ | hp
          · have hnext := (h.live_step_iff op p.slot p.task).mpr (.inr ⟨p, hplace, rfl, rfl⟩)
            obtain ⟨-, helapsed, -, hwait⟩ := placement?_eq_some hplace
            refine .inr (.inl ⟨p.slot, hnext, ?_⟩)
            rwa [hwait, helapsed, Nat.add_sub_cancel_left, Nat.sub_zero]
          · exact .inr (.inr ⟨p, later, hp, hdue, rfl⟩)

/-- A task that is live in the end was so all along, or was put into its slot and is still there. -/
theorem Kept.live_steps_iff (h : s.Kept) (ops : List SlotStep) (slot : Nat)
    (t : Agenda.Task String) :
    (s.steps ops).Live slot t ↔
      (s.Live slot t ∧ stands slot (t.due - s.agenda.now) ops = true) ∨
        ∃ p later, (p, later) ∈ s.placements ops ∧ p.slot = slot ∧ p.task = t ∧
          stands slot p.wait later = true := by
  induction ops generalizing s with
  | nil =>
      rw [steps_nil]
      simp [stands, comesDue, placements]
  | cons op ops ih =>
      have hnow := (turn_step h.ordered op).now_eq
      rw [steps_cons, ih (h.step op), hnow, ← Nat.sub_sub, h.live_step_iff, stands_cons]
      constructor
      · rintro (⟨⟨hlive, hwaits, hclears⟩ | ⟨p, hp, rfl, rfl⟩, hstands⟩ | ⟨p, later, hp, hrest⟩)
        · exact .inl ⟨hlive, by simp [hwaits, hclears, hstands]⟩
        · obtain ⟨-, helapsed, -, hwait⟩ := placement?_eq_some hp
          rw [hwait, helapsed, Nat.add_sub_cancel_left, Nat.sub_zero] at hstands
          exact .inr ⟨p, ops, mem_placements_cons.mpr (.inl ⟨hp, rfl⟩), rfl, rfl, hstands⟩
        · exact .inr ⟨p, later, mem_placements_cons.mpr (.inr hp), hrest⟩
      · rintro (⟨hlive, hstands⟩ | ⟨p, later, hp, rfl, rfl, hstands⟩)
        · rw [Bool.and_eq_true, Bool.and_eq_true, Bool.not_eq_true', Bool.not_eq_true'] at hstands
          exact .inl ⟨.inl ⟨hlive, hstands.1⟩, hstands.2⟩
        · rcases mem_placements_cons.mp hp with ⟨hplace, rfl⟩ | hp
          · obtain ⟨-, helapsed, -, hwait⟩ := placement?_eq_some hplace
            refine .inl ⟨.inr ⟨p, hplace, rfl, rfl⟩, ?_⟩
            rwa [hwait, helapsed, Nat.add_sub_cancel_left, Nat.sub_zero]
          · exact .inr ⟨p, later, hp, rfl, rfl, hstands⟩

/-! ## Every task by its number -/

/-- Tasks are numbered in the order in which they are put into slots. -/
theorem Kept.ids_placements (h : s.Kept) (ops : List SlotStep) :
    (s.placements ops).map (fun p => p.1.task.id) =
      List.range' s.agenda.count (s.placements ops).length := by
  induction ops generalizing s with
  | nil => rfl
  | cons op ops ih =>
      have hcount := (turn_step h.ordered op).count_eq
      rw [placements]
      cases hp : s.placement? op with
      | none =>
          rw [hp] at hcount
          have hrest := ih (h.step op)
          rwa [hcount] at hrest
      | some p =>
          rw [hp] at hcount
          have hid := (placement?_eq_some hp).2.2.1
          have hrest := ih (h.step op)
          rw [hcount] at hrest
          simp only [Option.toList_some, List.map_cons, List.map_nil, List.singleton_append,
            List.length_cons, List.range'_succ, hid]
          exact congrArg _ hrest

theorem Kept.nodup_ids (h : s.Kept) (ops : List SlotStep) :
    ((s.placements ops).map fun p => p.1.task.id).Nodup := by
  rw [h.ids_placements]
  exact List.nodup_range'

theorem Kept.le_id_of_mem_placements (h : s.Kept) {later : List SlotStep}
    (hp : (p, later) ∈ s.placements ops) : s.agenda.count ≤ p.task.id := by
  have hid : p.task.id ∈ (s.placements ops).map (fun p => p.1.task.id) :=
    List.mem_map.mpr ⟨_, hp, rfl⟩
  rw [h.ids_placements, List.mem_range'_1] at hid
  exact hid.1

theorem Kept.count_steps (h : s.Kept) (ops : List SlotStep) :
    (s.steps ops).agenda.count = s.agenda.count + (s.placements ops).length := by
  induction ops generalizing s with
  | nil => rfl
  | cons op ops ih =>
      rw [steps_cons, ih (h.step op), (turn_step h.ordered op).count_eq, placements,
        List.length_append, List.length_map, Nat.add_assoc]

theorem Kept.id_lt_count_steps (h : s.Kept) {later : List SlotStep}
    (hp : (p, later) ∈ s.placements ops) : p.task.id < (s.steps ops).agenda.count := by
  have hid : p.task.id ∈ (s.placements ops).map (fun p => p.1.task.id) :=
    List.mem_map.mpr ⟨_, hp, rfl⟩
  rw [h.ids_placements, List.mem_range'_1] at hid
  rw [h.count_steps]
  exact hid.2

/-- No two of the tasks that are put into slots are the same. -/
theorem Kept.eq_of_task_eq (h : s.Kept) {q : Placement} {later after : List SlotStep}
    (hp : (p, later) ∈ s.placements ops) (hq : (q, after) ∈ s.placements ops)
    (htask : p.task = q.task) : (p, later) = (q, after) := by
  exact List.inj_on_of_nodup_map (h.nodup_ids ops) hp hq (congrArg Agenda.Task.id htask)

/-- No task is done twice. -/
theorem Kept.nodup_doneOver (h : s.Kept) (ops : List SlotStep) :
    ((s.doneOver ops).map Agenda.Task.id).Nodup := by
  induction ops generalizing s with
  | nil => exact List.nodup_nil
  | cons op ops ih =>
      have hturn := turn_step h.ordered op
      rw [doneOver, List.map_append, List.nodup_append]
      refine ⟨nodup_done h.ordered op, ih (h.step op), ?_⟩
      intro _ hnow _ hlater heq
      obtain ⟨t, ht, rfl⟩ := List.mem_map.mp hnow
      obtain ⟨u, hu, rfl⟩ := List.mem_map.mp hlater
      obtain ⟨hmem, hreaches⟩ := (mem_done_iff h.ordered op t).mp ht
      have hlt := h.ordered.lt_count t hmem
      have hcount : s.agenda.count ≤ (s.step op).agenda.count := by
        rw [hturn.count_eq]
        exact Nat.le_add_right _ _
      rcases ((h.step op).mem_doneOver_iff ops u).mp hu with
        ⟨slot, hlive, -⟩ | ⟨p, later, hp, -, rfl⟩
      · rcases (hturn.mem_iff u).mp hlive.mem with ⟨hold, hwaits, -⟩ | ⟨p, hp, rfl⟩
        · obtain rfl := h.ordered.eq_of_id_eq hmem hold heq
          exact nomatch hreaches.symm.trans hwaits
        · have hid := (placement?_eq_some hp).2.2.1
          omega
      · have hle := (h.step op).le_id_of_mem_placements hp
        omega

/-- What is done is what comes due before its slot is cleared. -/
theorem perm_doneOver (ops : List SlotStep) :
    (start.doneOver ops).Perm (((start.placements ops).filter fun p =>
      comesDue p.1.slot p.1.wait p.2).map fun p => p.1.task) := by
  have hdone : (start.doneOver ops).Nodup := (kept_start.nodup_doneOver ops).of_map _
  have hplaced : (((start.placements ops).filter fun p =>
      comesDue p.1.slot p.1.wait p.2).map fun p => p.1.task).Nodup := by
    apply List.Nodup.of_map Agenda.Task.id
    rw [List.map_map]
    exact (kept_start.nodup_ids ops).sublist (List.filter_sublist.map _)
  rw [List.perm_ext_iff_of_nodup hdone hplaced]
  intro t
  rw [kept_start.mem_doneOver_iff ops t, List.mem_map]
  constructor
  · rintro (⟨slot, hlive, -⟩ | ⟨p, later, hp, hdue, rfl⟩)
    · nomatch hlive.mem
    · exact ⟨(p, later), List.mem_filter.mpr ⟨hp, hdue⟩, rfl⟩
  · rintro ⟨⟨p, later⟩, hp, rfl⟩
    obtain ⟨hmem, hdue⟩ := List.mem_filter.mp hp
    exact .inr ⟨p, later, hmem, hdue, rfl⟩

theorem Kept.log_steps (h : s.Kept) (ops : List SlotStep) :
    (s.steps ops).log = s.log ++ (s.doneOver ops).map Agenda.Task.job := by
  induction ops generalizing s with
  | nil => exact (List.append_nil _).symm
  | cons op ops ih =>
      rw [steps_cons, ih (h.step op), (turn_step h.ordered op).log_eq, doneOver, List.map_append,
        List.append_assoc]

/-! ## The last task of a slot -/

theorem slot_ne_of_mem_placements {later : List SlotStep}
    (hclears : ∀ op ∈ ops, op.clears slot = false) (hp : (p, later) ∈ s.placements ops) :
    p.slot ≠ slot := by
  induction ops generalizing s with
  | nil => nomatch hp
  | cons op ops ih =>
      rw [List.forall_mem_cons] at hclears
      rcases mem_placements_cons.mp hp with ⟨hplace, -⟩ | hp
      · rintro rfl
        exact nomatch hclears.1.symm.trans (placement?_eq_some hplace).1
      · exact ih hclears.2 hp

/-- A task after which its slot is not cleared is the last of the slot. -/
theorem lastIn?_eq_some {later : List SlotStep} (hp : (p, later) ∈ s.placements ops)
    (hclears : ∀ op ∈ later, op.clears p.slot = false) :
    SlotStep.lastIn? p.slot (s.placements ops) = some (p, later) := by
  induction ops generalizing s with
  | nil => nomatch hp
  | cons op ops ih =>
      rw [SlotStep.lastIn?, placements, List.filter_append, List.getLast?_append]
      rcases mem_placements_cons.mp hp with ⟨hplace, rfl⟩ | hp
      · have hnil : ((s.step op).placements later).filter (fun q => q.1.slot == p.slot) = [] :=
          List.filter_eq_nil_iff.mpr fun q hq => by
            simpa using slot_ne_of_mem_placements hclears hq
        simp [hnil, hplace]
      · have hlast := ih hp
        rw [SlotStep.lastIn?] at hlast
        rw [hlast]
        rfl

theorem not_clears_of_stands {wait : Nat} (h : stands slot wait ops = true) :
    ∀ op ∈ ops, op.clears slot = false := by
  rw [stands, Bool.and_eq_true, List.all_eq_true] at h
  exact fun op hop => by simpa using h.1 op hop

/-- A task that is left is the one that its slot holds. -/
theorem live_of_mem_tasks {later : List SlotStep} (hp : (p, later) ∈ start.placements ops)
    (hleft : p.task ∈ (start.steps ops).agenda.tasks) : (start.steps ops).Live p.slot p.task := by
  obtain ⟨slot, hslot⟩ := (kept_start.steps ops).held p.task hleft
  have hlive : (start.steps ops).Live slot p.task := ⟨hleft, hslot⟩
  rcases (kept_start.live_steps_iff ops slot p.task).mp hlive with ⟨hnone, -⟩ |
    ⟨q, after, hq, rfl, htask, -⟩
  · nomatch hnone.mem
  · obtain ⟨rfl, -⟩ := Prod.mk.inj (kept_start.eq_of_task_eq hp hq htask.symm)
    exact hlive

theorem mem_tasks_steps_iff {later : List SlotStep} (hp : (p, later) ∈ start.placements ops) :
    p.task ∈ (start.steps ops).agenda.tasks ↔ stands p.slot p.wait later = true := by
  constructor
  · intro hleft
    rcases (kept_start.live_steps_iff ops p.slot p.task).mp (live_of_mem_tasks hp hleft) with
      ⟨hnone, -⟩ | ⟨q, after, hq, -, htask, hstands⟩
    · nomatch hnone.mem
    · obtain ⟨rfl, rfl⟩ := Prod.mk.inj (kept_start.eq_of_task_eq hp hq htask.symm)
      exact hstands
  · intro hstands
    exact ((kept_start.live_steps_iff ops p.slot p.task).mpr
      (.inr ⟨p, later, hp, rfl, rfl, hstands⟩)).mem

/-- A slot's task is pending if it is the last that was put into it and is still there. -/
theorem isPending_steps (slot : Nat) (ops : List SlotStep) :
    (start.steps ops).isPending slot =
      (SlotStep.lastIn? slot (start.placements ops)).any fun p => stands slot p.1.wait p.2 := by
  rw [Bool.eq_iff_iff, isPending_iff, Option.any_eq_true]
  constructor
  · rintro ⟨t, hlive⟩
    rcases (kept_start.live_steps_iff ops slot t).mp hlive with ⟨hnone, -⟩ |
      ⟨p, later, hp, rfl, -, hstands⟩
    · nomatch hnone.mem
    · exact ⟨(p, later), lastIn?_eq_some hp (not_clears_of_stands hstands), hstands⟩
  · rintro ⟨⟨p, later⟩, hlast, hstands⟩
    have hmem := List.mem_filter.mp (List.mem_of_getLast? hlast)
    exact ⟨p.task, (kept_start.live_steps_iff ops slot p.task).mpr
      (.inr ⟨p, later, hmem.1, beq_iff_eq.mp hmem.2, rfl, hstands⟩)⟩

/-! ## What the operations alone tell -/

theorem now_steps (ops : List SlotStep) : (start.steps ops).agenda.now = SlotStep.clock ops := by
  induction ops using List.reverseRecOn with
  | nil => rfl
  | append_singleton ops op ih =>
      rw [steps_concat, (turn_step (kept_start.steps ops).ordered op).now_eq, ih,
        SlotStep.clock_concat]

theorem place?_steps (ops : List SlotStep) (slot delay : Nat) (tag : String) :
    (start.steps ops).place? slot delay tag =
      SlotStep.into? ops (start.steps ops).agenda.count slot delay tag := by
  rw [place?, SlotStep.into?, ← isSome_task?_steps, ← now_steps]
  cases (start.steps ops).task? slot with
  | none => rfl
  | some task => rfl

theorem placement?_steps (ops : List SlotStep) (op : SlotStep) :
    (start.steps ops).placement? op = op.put? ops (start.steps ops).agenda.count := by
  cases op with
  | spawn slot tag => exact place?_steps ops slot 0 tag
  | schedule slot delay tag => exact place?_steps ops slot delay tag
  | _ => rfl

theorem placements_steps (ops later : List SlotStep) :
    (start.steps ops).placements later =
      SlotStep.placed ops (start.steps ops).agenda.count later := by
  induction later generalizing ops with
  | nil => rfl
  | cons op later ih =>
      have hcount := (turn_step (kept_start.steps ops).ordered op).count_eq
      rw [placement?_steps] at hcount
      rw [placements, SlotStep.placed, placement?_steps, ← hcount, ← steps_concat, ih]

/-- Which tasks are put into slots does not depend on anything but the operations. -/
theorem placements_start (ops : List SlotStep) :
    start.placements ops = SlotStep.placed [] 0 ops :=
  placements_steps [] ops

/-- A slot answers as long as it is there. -/
theorem map_task?_steps (slot : Nat) (ops : List SlotStep) (answer : Bool) :
    ((start.steps ops).task? slot).map (fun _ => answer) =
      if SlotStep.isThere slot ops then some answer else none := by
  rw [← isSome_task?_steps]
  cases (start.steps ops).task? slot with
  | none => rfl
  | some task => rfl

/-! ## Other slots -/

theorem task?_step_of_ne (hop : op.slot? = some slot) (hne : slot ≠ other) :
    (s.step op).task? other = s.task? other := by
  have hschedule : ∀ delay tag, (s.schedule slot delay tag).task? other = s.task? other := by
    intro delay tag
    rw [schedule]
    cases htask : s.task? slot with
    | none => rfl
    | some task => exact (task?_set htask _ _ other).trans (if_neg hne)
  cases op with
  | add => cases hop
  | advance delay => cases hop
  | spawn slot tag =>
      obtain rfl := Option.some.inj hop
      exact hschedule 0 tag
  | schedule slot delay tag =>
      obtain rfl := Option.some.inj hop
      exact hschedule delay tag
  | cancel slot =>
      obtain rfl := Option.some.inj hop
      exact task?_leave_of_ne (.holding none) hne
  | isPending slot => rfl
  | giveUp slot =>
      obtain rfl := Option.some.inj hop
      exact task?_leave_of_ne .gone hne

theorem clears_of_slot?_ne (hop : op.slot? = some slot) (hne : slot ≠ other) :
    op.clears other = false := by
  cases op with
  | add | advance delay | isPending slot => rfl
  | spawn slot tag | schedule slot delay tag | cancel slot | giveUp slot =>
      obtain rfl := Option.some.inj hop
      exact beq_eq_false_iff_ne.mpr hne

theorem reaches_of_slot? (hop : op.slot? = some slot) (wait : Nat) : op.reaches wait = false := by
  cases op with
  | advance delay => nomatch hop
  | _ => rfl

/-- An operation on a slot does no task. -/
theorem Kept.log_step (h : s.Kept) (hop : op.slot? = some slot) : (s.step op).log = s.log := by
  have hdone : s.done op = [] := by
    refine List.eq_nil_iff_forall_not_mem.mpr fun t ht => ?_
    have hdue := ((mem_done_iff h.ordered op t).mp ht).2
    exact nomatch (reaches_of_slot? hop _).symm.trans hdue
  rw [(turn_step h.ordered op).log_eq, hdone, List.map_nil, List.append_nil]

/-- An operation on one slot leaves the live task of every other slot as it was. -/
theorem Kept.live_step_iff_of_ne (h : s.Kept) (hop : op.slot? = some slot) (hne : slot ≠ other) :
    (s.step op).Live other t ↔ s.Live other t := by
  have hclears := clears_of_slot?_ne hop hne
  rw [h.live_step_iff]
  constructor
  · rintro (⟨hlive, -⟩ | ⟨p, hp, rfl, -⟩)
    · exact hlive
    · exact nomatch hclears.symm.trans (placement?_eq_some hp).1
  · exact fun hlive => .inl ⟨hlive, reaches_of_slot? hop _, hclears⟩

/-- An operation on one slot takes off no task of another. -/
theorem mem_tasks_step_iff {later : List SlotStep} (hp : (p, later) ∈ start.placements ops)
    (hop : op.slot? = some slot) (hne : slot ≠ p.slot) :
    p.task ∈ ((start.steps ops).step op).agenda.tasks ↔
      p.task ∈ (start.steps ops).agenda.tasks := by
  have hkept := kept_start.steps ops
  constructor
  · intro hleft
    rcases ((turn_step hkept.ordered op).mem_iff p.task).mp hleft with ⟨hmem, -⟩ | ⟨q, hq, htask⟩
    · exact hmem
    · have hlt := kept_start.id_lt_count_steps hp
      rw [← htask, (placement?_eq_some hq).2.2.1] at hlt
      exact absurd hlt (Nat.lt_irrefl _)
  · intro hleft
    exact ((hkept.live_step_iff_of_ne hop hne).mpr (live_of_mem_tasks hp hleft)).mem

/-- A task goes into every slot that was made and is not given up. It is done at most once, and just
if it comes due before the slot is used again or given up. It is left for as long as neither has
happened, which is what a slot answers of the last task that was put into it; so no slot has two tasks
left, and what is done with one slot does not matter to the tasks of another. -/
theorem done_iff_due_in_time (ops : List SlotStep) :
    let s := start.steps ops
    let done := start.doneOver ops
    let placed := SlotStep.placed [] 0 ops
    s.log = done.map Agenda.Task.job ∧
      placed.map (fun p => p.1.task.id) = List.range placed.length ∧
      done.Perm ((placed.filter fun p => comesDue p.1.slot p.1.wait p.2).map fun p => p.1.task) ∧
      (∀ p ∈ placed, p.1.task ∈ s.agenda.tasks ↔ stands p.1.slot p.1.wait p.2 = true) ∧
      (∀ slot,
        let pending := (SlotStep.lastIn? slot placed).any fun p => stands slot p.1.wait p.2
        let answer := if SlotStep.isThere slot ops then some pending else none
        s.answer? (.isPending slot) = answer ∧ s.answer? (.cancel slot) = answer) ∧
      (∀ p ∈ placed, ∀ q ∈ placed, p.1.slot = q.1.slot →
        p.1.task ∈ s.agenda.tasks → q.1.task ∈ s.agenda.tasks → p = q) ∧
      ∀ op slot, op.slot? = some slot → (s.step op).log = s.log ∧
        (∀ other, slot ≠ other → (s.step op).task? other = s.task? other) ∧
          ∀ p ∈ placed, slot ≠ p.1.slot →
            (p.1.task ∈ (s.step op).agenda.tasks ↔ p.1.task ∈ s.agenda.tasks) := by
  intro s done placed
  have hkept : s.Kept := kept_start.steps ops
  have hplaced : placed = start.placements ops := (placements_start ops).symm
  rw [hplaced]
  refine ⟨kept_start.log_steps ops, ?_, perm_doneOver ops, ?_, ?_, ?_, ?_⟩
  · exact (kept_start.ids_placements ops).trans List.range_eq_range'.symm
  · rintro ⟨p, later⟩ hp
    exact mem_tasks_steps_iff hp
  · intro slot
    rw [← isPending_steps slot ops]
    exact ⟨map_task?_steps slot ops _, map_task?_steps slot ops _⟩
  · rintro ⟨p, later⟩ hp ⟨q, after⟩ hq hslot hleft hleft'
    have htask := hkept.live_unique (live_of_mem_tasks hp hleft)
      (hslot ▸ live_of_mem_tasks hq hleft')
    exact kept_start.eq_of_task_eq hp hq htask
  · intro op slot hop
    refine ⟨hkept.log_step hop, fun other hne => task?_step_of_ne hop hne, ?_⟩
    rintro ⟨p, later⟩ hp hne
    exact mem_tasks_step_iff hp hop hne

/-- Two slots have a task that is due at the same time, one of them after another task of its was
cancelled. The slot of the other is used again at that very time, and once more a moment before the
next task is due. -/
theorem done_iff_due_in_time_two_slots :
    let ops : List SlotStep := [.add, .schedule 0 5 "first", .schedule 1 5 "second", .cancel 0,
      .spawn 0 "third", .advance 2, .schedule 0 3 "fourth", .advance 3, .schedule 1 4 "fifth",
      .advance 3, .spawn 1 "sixth"]
    let s := start.steps ops
    s.log = ["third", "second", "fourth"] ∧
      (start.doneOver ops).Perm [⟨1, 5, "second"⟩, ⟨2, 0, "third"⟩, ⟨3, 5, "fourth"⟩] ∧
      s.answer? (.isPending 0) = some false ∧ s.answer? (.cancel 1) = some true ∧
      s.answer? (.isPending 2) = none := by
  intro ops s
  obtain ⟨-, -, hdone, -, hanswers, -⟩ := done_iff_due_in_time ops
  exact ⟨rfl, hdone, (hanswers 0).1, (hanswers 1).2, (hanswers 2).1⟩

end TaskSlots

end Storefront
