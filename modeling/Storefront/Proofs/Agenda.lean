import Mathlib.Data.List.Nodup
import Storefront.Agenda

/-! # What an agenda holds

Tasks keep the order in which they were put down and are told apart by their numbers, so that taking
one off or doing it concerns no other. -/

namespace Storefront

namespace Agenda

variable {κ : Type} {a : Agenda κ}

/-- Every task has a number of its own, and a later one than the tasks before it. -/
structure Ordered (a : Agenda κ) : Prop where
  ids_lt : (a.tasks.map Task.id).Pairwise (· < ·)
  lt_count : ∀ t ∈ a.tasks, t.id < a.count

theorem ordered_empty : (empty : Agenda κ).Ordered :=
  ⟨List.Pairwise.nil, fun t ht => by simp [empty] at ht⟩

theorem Ordered.add (h : a.Ordered) (delay : Nat) (job : κ) : (a.add delay job).Ordered := by
  constructor
  · rw [Agenda.add, List.map_append, List.pairwise_append]
    refine ⟨h.ids_lt, List.pairwise_singleton _ _, ?_⟩
    intro m hm n hn
    obtain ⟨t, ht, rfl⟩ := List.mem_map.mp hm
    obtain rfl := List.mem_singleton.mp hn
    exact h.lt_count t ht
  · intro t ht
    rcases List.mem_append.mp ht with ht | ht
    · exact Nat.lt_succ_of_lt (h.lt_count t ht)
    · obtain rfl := List.mem_singleton.mp ht
      exact Nat.lt_succ_self _

theorem mem_cancel {t : Task κ} {id : Nat} : t ∈ (a.cancel id).tasks ↔ t ∈ a.tasks ∧ t.id ≠ id := by
  simp [cancel]

theorem Ordered.cancel (h : a.Ordered) (id : Nat) : (a.cancel id).Ordered := by
  refine ⟨h.ids_lt.sublist (List.filter_sublist.map _), ?_⟩
  intro t ht
  exact h.lt_count t (mem_cancel.mp ht).1

theorem mem_cancelSlot {t : Task κ} {slot : Option Nat} :
    t ∈ (a.cancelSlot slot).tasks ↔ t ∈ a.tasks ∧ slot ≠ some t.id := by
  cases slot with
  | none => simp [cancelSlot]
  | some id => simp [cancelSlot, mem_cancel, eq_comm]

theorem Ordered.cancelSlot (h : a.Ordered) (slot : Option Nat) : (a.cancelSlot slot).Ordered := by
  cases slot with
  | none => exact h
  | some id => exact h.cancel id

@[simp]
theorem count_cancelSlot (slot : Option Nat) : (a.cancelSlot slot).count = a.count := by
  cases slot <;> rfl

@[simp]
theorem now_cancelSlot (slot : Option Nat) : (a.cancelSlot slot).now = a.now := by
  cases slot <;> rfl

theorem Ordered.wait (h : a.Ordered) (time : Nat) : (a.wait time).Ordered :=
  ⟨h.ids_lt, h.lt_count⟩

/-- A slot whose tasks are those with a certain kind of job is cleared of just these. -/
theorem tasks_cancelSlot {slot : Option Nat} {p : κ → Bool}
    (h : ∀ t ∈ a.tasks, slot = some t.id ↔ p t.job = true) :
    (a.cancelSlot slot).tasks = a.tasks.filter fun t => !p t.job := by
  cases slot with
  | none =>
      refine (List.filter_eq_self.mpr fun t ht => ?_).symm
      cases hp : p t.job with
      | false => rfl
      | true => nomatch (h t ht).mpr hp
  | some id =>
      refine List.filter_congr fun t ht => ?_
      have hid : (t.id == id) = p t.job := by
        rw [Bool.eq_iff_iff, beq_iff_eq, ← h t ht, Option.some.injEq, eq_comm]
      rw [bne, hid]

/-! ## Doing a task -/

def task? (a : Agenda κ) (id : Nat) : Option (Task κ) :=
  a.tasks.find? fun t => t.id == id

theorem task?_eq_some {t : Task κ} {id : Nat} (h : a.task? id = some t) : t ∈ a.tasks ∧ t.id = id :=
  ⟨List.mem_of_find?_eq_some h, by simpa using List.find?_some h⟩

theorem Ordered.eq_of_id_eq (h : a.Ordered) {t u : Task κ} (ht : t ∈ a.tasks) (hu : u ∈ a.tasks)
    (hid : t.id = u.id) : t = u := by
  have hnodup : (a.tasks.map Task.id).Nodup := h.ids_lt.imp Nat.ne_of_lt
  exact List.inj_on_of_nodup_map hnodup ht hu hid

theorem Ordered.task?_id (h : a.Ordered) {t : Task κ} (ht : t ∈ a.tasks) :
    a.task? t.id = some t := by
  cases hfind : a.task? t.id with
  | none =>
      have hnone := List.find?_eq_none.mp hfind t ht
      simp at hnone
  | some u =>
      obtain ⟨hu, hid⟩ := task?_eq_some hfind
      rw [h.eq_of_id_eq hu ht hid]

/-- A task that is taken off leaves all others. -/
theorem Ordered.perm_cancel (h : a.Ordered) {t : Task κ} (ht : t ∈ a.tasks) :
    a.tasks.Perm (t :: (a.cancel t.id).tasks) := by
  obtain ⟨before, after, hsplit⟩ := List.append_of_mem ht
  have hids := h.ids_lt
  rw [hsplit, List.map_append, List.map_cons, List.pairwise_append, List.pairwise_cons] at hids
  have hbefore : before.filter (fun u => u.id != t.id) = before := by
    refine List.filter_eq_self.mpr fun u hu => bne_iff_ne.mpr (Nat.ne_of_lt ?_)
    exact hids.2.2 u.id (List.mem_map_of_mem hu) t.id List.mem_cons_self
  have hafter : after.filter (fun u => u.id != t.id) = after := by
    refine List.filter_eq_self.mpr fun u hu => bne_iff_ne.mpr (Nat.ne_of_gt ?_)
    exact hids.2.1.1 u.id (List.mem_map_of_mem hu)
  have hrest : (a.cancel t.id).tasks = before ++ after := by
    rw [Agenda.cancel, hsplit, List.filter_append, hbefore, List.filter_cons_of_neg (by simp),
      hafter]
  rw [hrest, hsplit]
  exact List.perm_middle

/-- Of the tasks that are due by a time, one that is done leaves all others. -/
theorem Ordered.perm_due (h : a.Ordered) {t : Task κ} (ht : t ∈ a.tasks) {limit : Nat}
    (hdue : t.due ≤ limit) :
    (a.tasks.filter fun u => decide (u.due ≤ limit)).Perm
      (t :: (a.cancel t.id).tasks.filter fun u => decide (u.due ≤ limit)) := by
  have hperm := (h.perm_cancel ht).filter fun u => decide (u.due ≤ limit)
  have hhead : (t :: (a.cancel t.id).tasks).filter (fun u => decide (u.due ≤ limit)) =
      t :: (a.cancel t.id).tasks.filter fun u => decide (u.due ≤ limit) :=
    List.filter_cons_of_pos (decide_eq_true hdue)
  rwa [hhead] at hperm

/-- A task that is due is none of those that are not. -/
theorem Ordered.filter_cancel_of_due (h : a.Ordered) {t : Task κ} (ht : t ∈ a.tasks) {limit : Nat}
    (hdue : t.due ≤ limit) :
    ((a.cancel t.id).tasks.filter fun u => !decide (u.due ≤ limit)) =
      a.tasks.filter fun u => !decide (u.due ≤ limit) := by
  refine List.filter_filter.trans (List.filter_congr fun u hu => ?_)
  by_cases hid : u.id = t.id
  · rw [h.eq_of_id_eq hu ht hid, decide_eq_true hdue]
    rfl
  · rw [bne_iff_ne.mpr hid, Bool.and_true]

theorem earliest_mem {ts : List (Task κ)} {t : Task κ} (h : earliest ts = some t) : t ∈ ts := by
  induction ts generalizing t with
  | nil => nomatch h
  | cons u ts ih =>
      rw [earliest] at h
      split at h
      · simp_all
      · rename_i v hv
        split at h
        · obtain rfl := Option.some.inj h
          exact List.mem_cons_of_mem _ (ih hv)
        · simp_all

theorem earliest_eq_none {ts : List (Task κ)} (h : earliest ts = none) : ts = [] := by
  cases ts with
  | nil => rfl
  | cons t ts =>
      rw [earliest] at h
      split at h
      · nomatch h
      · split at h <;> nomatch h

theorem due_earliest_le {ts : List (Task κ)} {t u : Task κ} (h : earliest ts = some t)
    (hu : u ∈ ts) : t.due ≤ u.due := by
  induction ts generalizing t with
  | nil => nomatch hu
  | cons v ts ih =>
      rw [earliest] at h
      split at h
      · rename_i hnone
        obtain rfl := Option.some.inj h
        rw [earliest_eq_none hnone, List.mem_singleton] at hu
        exact Nat.le_of_eq (congrArg Task.due hu.symm)
      · rename_i w hw
        rcases List.mem_cons.mp hu with rfl | hu
        · split at h <;> obtain rfl := Option.some.inj h <;> omega
        · have hle : w.due ≤ u.due := ih hw hu
          split at h <;> obtain rfl := Option.some.inj h <;> omega

/-- Where no task is next, none of those left is due. -/
theorem lt_due_of_next?_eq_none {limit : Nat} (h : a.next? limit = none) {t : Task κ}
    (ht : t ∈ a.tasks) : limit < t.due := by
  cases hearliest : earliest a.tasks with
  | none =>
      rw [earliest_eq_none hearliest] at ht
      nomatch ht
  | some u =>
      rw [next?, hearliest, Option.bind_some] at h
      split at h
      · nomatch h
      · have hle := due_earliest_le hearliest ht
        omega

/-- The next task is one of those left, is due, and is done no earlier than that. -/
theorem next?_eq_some {t : Task κ} {b : Agenda κ} {limit : Nat} (h : a.next? limit = some (t, b)) :
    t ∈ a.tasks ∧ t.due ≤ limit ∧ b = (a.wait t.due).cancel t.id := by
  obtain ⟨u, hu, hif⟩ := Option.bind_eq_some_iff.mp h
  by_cases hdue : u.due ≤ limit
  · rw [if_pos hdue] at hif
    obtain ⟨rfl, rfl⟩ := Prod.mk.inj (Option.some.inj hif)
    exact ⟨earliest_mem hu, hdue, rfl⟩
  · rw [if_neg hdue] at hif
    nomatch hif

end Agenda

end Storefront
