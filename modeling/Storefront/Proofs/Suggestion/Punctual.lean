import Storefront.Proofs.Suggestion.Quiet

/-! # Tasks at their time

In a run of events no task is done before it is due, and the clock goes on by as much as the events
let pass. -/

namespace Storefront.Suggestion

namespace Run

variable {r next : Run} {a? : Option Act}

/-- In the course of moves no task is done before it is due. -/
def Timely (r : Run) : List Move → Prop
  | [] => True
  | m :: ms => (∀ t ∈ r.agenda.tasks, m = .task t.id → t.due ≤ r.agenda.now) ∧ (r.move m).Timely ms

theorem timely_append {ms ns : List Move} :
    r.Timely (ms ++ ns) ↔ r.Timely ms ∧ (r.moves ms).Timely ns := by
  induction ms generalizing r with
  | nil => exact (and_iff_right trivial).symm
  | cons m ms ih => rw [List.cons_append, Timely, Timely, ih, and_assoc, moves_cons]

/-! ## The moves of an event -/

/-- Before a task is done the clock is set to when it is due. -/
theorem Timed.timely_taskMoves (h : r.Timed) {t : Agenda.Task Job} (ht : t ∈ r.agenda.tasks) :
    r.Timely (r.taskMoves t) := by
  refine ⟨fun u _ hevent => (nomatch hevent), ?_, trivial⟩
  intro u hu htask
  have hid : u.id = t.id := (Move.task.inj htask).symm
  obtain rfl := h.ordered.eq_of_id_eq hu ht hid
  change u.due ≤ max r.agenda.now (r.agenda.now + (u.due - r.agenda.now))
  omega

theorem Timed.timely_dueMoves (h : r.Timed) (limit fuel : Nat) :
    r.Timely (dueMoves limit fuel r) := by
  induction fuel generalizing r with
  | zero => trivial
  | succ fuel ih =>
      rw [dueMoves]
      cases hnext : r.agenda.next? limit with
      | none => trivial
      | some pair =>
          obtain ⟨t, b⟩ := pair
          obtain ⟨hmem, -, -⟩ := Agenda.next?_eq_some hnext
          exact timely_append.mpr ⟨h.timely_taskMoves hmem, ih (h.moves _)⟩

theorem Timed.timely_momentMoves (h : r.Timed) (m : Moment) : r.Timely (r.momentMoves m) := by
  have hevent : ∀ (next : Run) s, next.Timely [.event s] :=
    fun _ _ => ⟨fun _ _ htask => (nomatch htask), trivial⟩
  cases m with
  | lapse delay => exact hevent _ _
  | event s =>
      cases s with
      | advance delay => exact timely_append.mpr ⟨h.timely_dueMoves _ _, hevent _ _⟩
      | _ => exact hevent _ _

/-- In a run of events no task is done before it is due. -/
theorem Timed.timely_movesOver (h : r.Timed) (ms : List Moment) : r.Timely (r.movesOver ms) := by
  induction ms generalizing r with
  | nil => trivial
  | cons m ms ih =>
      refine timely_append.mpr ⟨h.timely_momentMoves m, ?_⟩
      rw [← h.moment_eq]
      exact ih (h.moment m)

theorem event_of_mem_dueMoves {limit fuel : Nat} {s : Step}
    (hs : Move.event s ∈ dueMoves limit fuel r) : ∃ delay, s = .advance delay := by
  induction fuel generalizing r with
  | zero => cases hs
  | succ fuel ih =>
      rw [dueMoves] at hs
      cases hnext : r.agenda.next? limit with
      | none =>
          rw [hnext] at hs
          cases hs
      | some pair =>
          rw [hnext] at hs
          rcases List.mem_append.mp hs with htask | hrest
          · rcases List.mem_cons.mp htask with hwait | htask
            · exact ⟨_, Move.event.inj hwait⟩
            · cases List.mem_singleton.mp htask
          · exact ih hrest

/-- Of the moves that moments are, those that are events are these moments or let time pass. -/
theorem event_of_mem_movesOver {ms : List Moment} {s : Step}
    (hs : Move.event s ∈ r.movesOver ms) :
    (∃ delay, s = .advance delay) ∨ Moment.event s ∈ ms := by
  induction ms generalizing r with
  | nil => cases hs
  | cons m ms ih =>
      have hsingle : ∀ {s' : Step}, m = .event s' → Move.event s ∈ [Move.event s'] →
          Moment.event s ∈ m :: ms := by
        intro s' hm hmem
        rw [hm, Move.event.inj (List.mem_singleton.mp hmem)]
        exact List.mem_cons_self
      rcases List.mem_append.mp hs with hfirst | hrest
      · cases m with
        | lapse delay => exact .inl ⟨delay, Move.event.inj (List.mem_singleton.mp hfirst)⟩
        | event s' =>
            cases s' with
            | advance delay =>
                rcases List.mem_append.mp hfirst with hdue | hlast
                · exact .inl (event_of_mem_dueMoves hdue)
                · exact .inl ⟨_, Move.event.inj (List.mem_singleton.mp hlast)⟩
            | _ => exact .inr (hsingle rfl hfirst)
      · exact (ih hrest).imp_right (List.mem_cons_of_mem _)

/-! ## The clock -/

theorem now_perform (r : Run) (job : Job) : (r.perform job).agenda.now = r.agenda.now := by
  cases job with
  | call ticket text => rw [agenda_perform_call]
  | _ => rfl

/-- The clock never goes back. -/
theorem Moved.now_le (hmoved : Moved r a? next) : r.agenda.now ≤ next.agenda.now := by
  have hcleared : r.cancelDebounce.cancelBlur.agenda.now = r.agenda.now :=
    (Agenda.now_cancelSlot _).trans (Agenda.now_cancelSlot _)
  cases hmoved with
  | edit text live =>
      have hedited : r.cancelBlur.cancelDebounce.agenda.now = r.agenda.now :=
        (Agenda.now_cancelSlot _).trans (Agenda.now_cancelSlot _)
      rw [(r.edit_eq text).1]
      split <;> exact Nat.le_of_eq hedited.symm
  | choose text live =>
      rw [(r.choose_eq text).1]
      exact Nat.le_of_eq hcleared.symm
  | submit live =>
      rw [r.submit_eq.1]
      exact Nat.le_of_eq hcleared.symm
  | blur live => exact Nat.le_of_eq (Agenda.now_cancelSlot _).symm
  | focus live => exact Nat.le_of_eq (Agenda.now_cancelSlot _).symm
  | close live => exact Nat.le_of_eq hcleared.symm
  | stopReceiving => exact Nat.le_refl _
  | wait delay => exact Nat.le_max_left _ _
  | nothing => exact Nat.le_refl _
  | resolve call result =>
      rcases r.resolve_cases call result with heq | ⟨c, -, -, heq⟩
      · exact Nat.le_of_eq (congrArg (fun r => r.agenda.now) heq.symm)
      · exact Nat.le_of_eq (congrArg (fun r => r.agenda.now) heq.symm)
  | task mem =>
      rw [now_perform]
      exact Nat.le_refl _

theorem now_le_moves (r : Run) (ms : List Move) : r.agenda.now ≤ (r.moves ms).agenda.now := by
  induction ms generalizing r with
  | nil => exact Nat.le_refl _
  | cons m ms ih => exact Nat.le_trans (r.moved m).now_le (ih (r.move m))

theorem Resting.now_moment (h : r.Resting) (m : Moment) :
    (r.moment m).agenda.now = r.agenda.now + m.duration := by
  have hlive : ∀ {next : Run}, (r.live = true → next.agenda.now = r.agenda.now) →
      (if r.live = true then next else r).agenda.now = r.agenda.now := by
    intro next hnext
    split
    · exact hnext ‹_›
    · rfl
  cases m with
  | lapse delay => exact (h.wait delay).now_eq
  | event s =>
      cases s with
      | advance delay => exact (h.advance delay).1.now_eq
      | resolve call result => exact (h.resolve call result).1.now_eq
      | stopReceiving => rfl
      | edit text => exact hlive fun hlive => (h.edit hlive text).now_eq
      | choose text => exact hlive fun _ => (h.choose text).now_eq
      | submit => exact hlive fun _ => h.submit.now_eq
      | blur => exact hlive fun _ => h.leave.now_eq
      | focus => exact hlive fun _ => h.focus.now_eq
      | close => exact hlive fun _ => h.close.now_eq

/-- The clock goes on by the time that passes. -/
theorem Resting.now_moments (h : r.Resting) (ms : List Moment) :
    (r.moments ms).agenda.now = r.agenda.now + elapsed ms := by
  induction ms generalizing r with
  | nil => rfl
  | cons m ms ih =>
      have hfirst := h.now_moment m
      have hrest := ih (h.moment m ms).resting
      change ((r.moment m).moments ms).agenda.now = r.agenda.now + (m.duration + elapsed ms)
      omega

end Run

end Storefront.Suggestion
