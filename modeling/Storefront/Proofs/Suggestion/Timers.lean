import Storefront.Proofs.Agenda
import Storefront.Suggestion.Run

/-! # The timers of the search input

A lookup waits for its quiet period in one slot, and hiding the list waits for its grace delay in
another. What a slot names is the only task of its kind, so that clearing the slot clears all of
them and nothing else. -/

namespace Storefront.Suggestion

def Job.isLookUp : Job → Bool
  | .lookUp _ => true
  | _ => false

def Job.isHide : Job → Bool
  | .hide => true
  | _ => false

def Job.isCall : Job → Bool
  | .call .. => true
  | _ => false

/-- The slots name exactly the tasks that wait for a quiet period and for a grace delay. -/
structure Timers (a : Agenda Job) (debounce blur : Option Nat) : Prop where
  ordered : a.Ordered
  debounce_lt : ∀ id, debounce = some id → id < a.count
  blur_lt : ∀ id, blur = some id → id < a.count
  debounce_iff : ∀ t ∈ a.tasks, debounce = some t.id ↔ t.job.isLookUp = true
  blur_iff : ∀ t ∈ a.tasks, blur = some t.id ↔ t.job.isHide = true

variable {a : Agenda Job} {debounce blur : Option Nat}

namespace Timers

theorem empty : Timers Agenda.empty none none :=
  ⟨Agenda.ordered_empty, by simp, by simp, by simp [Agenda.empty], by simp [Agenda.empty]⟩

theorem wait (h : Timers a debounce blur) (time : Nat) : Timers (a.wait time) debounce blur :=
  ⟨h.ordered.wait time, h.debounce_lt, h.blur_lt, h.debounce_iff, h.blur_iff⟩

theorem cancel (h : Timers a debounce blur) (id : Nat) : Timers (a.cancel id) debounce blur :=
  ⟨h.ordered.cancel id, h.debounce_lt, h.blur_lt,
    fun t ht => h.debounce_iff t (Agenda.mem_cancel.mp ht).1,
    fun t ht => h.blur_iff t (Agenda.mem_cancel.mp ht).1⟩

theorem cancelDebounce (h : Timers a debounce blur) : Timers (a.cancelSlot debounce) none blur := by
  refine ⟨h.ordered.cancelSlot _, by simp, ?_, ?_, ?_⟩
  · rw [Agenda.count_cancelSlot]
    exact h.blur_lt
  · intro t ht
    obtain ⟨hmem, hslot⟩ := Agenda.mem_cancelSlot.mp ht
    exact iff_of_false (fun heq => nomatch heq)
      (fun hjob => hslot ((h.debounce_iff t hmem).mpr hjob))
  · intro t ht
    exact h.blur_iff t (Agenda.mem_cancelSlot.mp ht).1

theorem cancelBlur (h : Timers a debounce blur) : Timers (a.cancelSlot blur) debounce none := by
  refine ⟨h.ordered.cancelSlot _, ?_, by simp, ?_, ?_⟩
  · rw [Agenda.count_cancelSlot]
    exact h.debounce_lt
  · intro t ht
    exact h.debounce_iff t (Agenda.mem_cancelSlot.mp ht).1
  · intro t ht
    obtain ⟨hmem, hslot⟩ := Agenda.mem_cancelSlot.mp ht
    exact iff_of_false (fun heq => nomatch heq) (fun hjob => hslot ((h.blur_iff t hmem).mpr hjob))

theorem mem_add {t : Agenda.Task Job} {delay : Nat} {job : Job} (ht : t ∈ (a.add delay job).tasks) :
    t ∈ a.tasks ∨ t = ⟨a.count, a.now + delay, job⟩ := by
  simpa [Agenda.add] using ht

/-- The number of a task that is put down is not yet in a slot. -/
theorem fresh {slot : Option Nat} (hlt : ∀ id, slot = some id → id < a.count) :
    slot ≠ some a.count :=
  fun heq => Nat.lt_irrefl _ (hlt _ heq)

/-- A task of another kind is put down beside them. -/
theorem add (h : Timers a debounce blur) (delay : Nat) {job : Job} (hlookUp : job.isLookUp = false)
    (hhide : job.isHide = false) : Timers (a.add delay job) debounce blur := by
  refine ⟨h.ordered.add delay job, fun id hid => Nat.lt_succ_of_lt (h.debounce_lt id hid),
    fun id hid => Nat.lt_succ_of_lt (h.blur_lt id hid), ?_, ?_⟩
  · intro t ht
    rcases mem_add ht with ht | rfl
    · exact h.debounce_iff t ht
    · exact iff_of_false (fresh h.debounce_lt) (Bool.eq_false_iff.mp hlookUp)
  · intro t ht
    rcases mem_add ht with ht | rfl
    · exact h.blur_iff t ht
    · exact iff_of_false (fresh h.blur_lt) (Bool.eq_false_iff.mp hhide)

theorem startDebounce (h : Timers a none blur) (delay : Nat) (text : String) :
    Timers (a.add delay (.lookUp text)) (some a.count) blur := by
  refine ⟨h.ordered.add delay _, ?_, fun id hid => Nat.lt_succ_of_lt (h.blur_lt id hid), ?_, ?_⟩
  · intro id hid
    exact Option.some.inj hid ▸ Nat.lt_succ_self _
  · intro t ht
    rcases mem_add ht with ht | rfl
    · refine iff_of_false ?_ fun hjob => nomatch (h.debounce_iff t ht).mpr hjob
      exact fun heq => Nat.ne_of_gt (h.ordered.lt_count t ht) (Option.some.inj heq)
    · exact iff_of_true rfl rfl
  · intro t ht
    rcases mem_add ht with ht | rfl
    · exact h.blur_iff t ht
    · exact iff_of_false (fresh h.blur_lt) (fun hjob => nomatch hjob)

theorem startBlur (h : Timers a debounce none) (delay : Nat) :
    Timers (a.add delay .hide) debounce (some a.count) := by
  refine ⟨h.ordered.add delay _, fun id hid => Nat.lt_succ_of_lt (h.debounce_lt id hid), ?_, ?_, ?_⟩
  · intro id hid
    exact Option.some.inj hid ▸ Nat.lt_succ_self _
  · intro t ht
    rcases mem_add ht with ht | rfl
    · exact h.debounce_iff t ht
    · exact iff_of_false (fresh h.debounce_lt) (fun hjob => nomatch hjob)
  · intro t ht
    rcases mem_add ht with ht | rfl
    · refine iff_of_false ?_ fun hjob => nomatch (h.blur_iff t ht).mpr hjob
      exact fun heq => Nat.ne_of_gt (h.ordered.lt_count t ht) (Option.some.inj heq)
    · exact iff_of_true rfl rfl

/-- Clearing the slot of the quiet period clears exactly the lookups that wait for it. -/
theorem tasks_cancelDebounce (h : Timers a debounce blur) :
    (a.cancelSlot debounce).tasks = a.tasks.filter fun t => !t.job.isLookUp :=
  Agenda.tasks_cancelSlot h.debounce_iff

theorem tasks_cancelBlur (h : Timers a debounce blur) :
    (a.cancelSlot blur).tasks = a.tasks.filter fun t => !t.job.isHide :=
  Agenda.tasks_cancelSlot h.blur_iff

end Timers

namespace Run

variable {r : Run}

/-- The timers of a run are in order. -/
def Timed (r : Run) : Prop :=
  Timers r.agenda r.debounce r.blur

theorem timed_start (settings : SuggestionSettings) (backend : String → Option Result) :
    (start settings backend).Timed :=
  Timers.empty

theorem Timed.cancelDebounce (h : r.Timed) : r.cancelDebounce.Timed :=
  Timers.cancelDebounce h

theorem Timed.cancelBlur (h : r.Timed) : r.cancelBlur.Timed :=
  Timers.cancelBlur h

theorem Timed.choose (h : r.Timed) (text : String) : (r.choose text).Timed := by
  rw [Run.choose, submitText]
  split <;> exact h.cancelDebounce.cancelBlur

theorem Timed.submit (h : r.Timed) : r.submit.Timed := by
  rw [Run.submit, submitText]
  split <;> exact h.cancelDebounce.cancelBlur

theorem Timed.edit (h : r.Timed) (text : String) : (r.edit text).Timed := by
  have hcleared := Timers.cancelDebounce h.cancelBlur
  rw [Run.edit]
  split
  · exact Timers.startDebounce hcleared _ _
  · exact hcleared

theorem Timed.leave (h : r.Timed) : r.leave.Timed :=
  Timers.startBlur h.cancelBlur _

theorem Timed.resolve (h : r.Timed) (call : Nat) (result : Result) :
    (r.resolve call result).Timed := by
  rw [Run.resolve]
  split
  · split
    · exact h
    · exact Timers.add h 0 rfl rfl
  · exact h

theorem Timed.perform (h : r.Timed) (job : Job) : (r.perform job).Timed := by
  cases job with
  | lookUp text => exact Timers.add h 0 rfl rfl
  | hide => exact h
  | call ticket text =>
      rw [Run.perform]
      split <;> exact h
  | deliver ticket text result => exact h

end Run

end Storefront.Suggestion
