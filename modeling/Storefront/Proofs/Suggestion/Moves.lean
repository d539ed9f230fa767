import Storefront.Proofs.Suggestion.Acts
import Storefront.Proofs.Suggestion.Timers

/-! # Runs of the search input, one move at a time

An event that lets time pass does many tasks at once. A move does one thing: an event, or a task of
the agenda, whichever it is. Every run of events is a run of moves, and each move is at most one act
upon the input. -/

namespace Storefront.Suggestion

inductive Move where
  | event (s : Step)
  | task (id : Nat)

/-- What an event does to the input. -/
def Step.act? : Step → Option Act
  | .edit text => some (.edit text)
  | .choose text => some (.choose text)
  | .submit => some .submit
  | .blur => some .blur
  | .focus => some .focus
  | .close => some .close
  | .stopReceiving | .advance _ | .resolve .. => none

/-- The lookup that a task is part of, once it was begun. -/
def Job.lookup? : Job → Option Lookup
  | .call ticket text | .deliver ticket text _ => some ⟨ticket, text⟩
  | .lookUp _ | .hide => none

/-- The lookup that waits for the backend. -/
def Call.lookup? (c : Call) : Option Lookup :=
  if c.answered then none else some ⟨c.ticket, c.text⟩

namespace Run

def wait (r : Run) (delay : Nat) : Run :=
  { r with agenda := r.agenda.wait (r.agenda.now + delay) }

/-- Does a task, when it is due or not. -/
def runTask (r : Run) (id : Nat) : Run :=
  match r.agenda.task? id with
  | some t => { r with agenda := r.agenda.cancel id }.perform t.job
  | none => r

/-- Time passes without any task being done: these are moves of their own. -/
def move (r : Run) : Move → Run
  | .event (.advance delay) => r.wait delay
  | .event s => r.step s
  | .task id => r.runTask id

def moves (r : Run) (ms : List Move) : Run :=
  ms.foldl move r

theorem moves_cons (r : Run) (m : Move) (ms : List Move) :
    r.moves (m :: ms) = (r.move m).moves ms :=
  rfl

theorem moves_append (r : Run) (ms ns : List Move) : r.moves (ms ++ ns) = (r.moves ms).moves ns :=
  List.foldl_append

/-- What doing a job does to the input. -/
def jobAct? (r : Run) : Job → Option Act
  | .lookUp text => some (.lookUp text)
  | .hide => some .hide
  | .call ticket text => (r.backend text).map (.deliver ticket text)
  | .deliver ticket text result => some (.deliver ticket text result)

/-- What a move does to the input. -/
def act? (r : Run) : Move → Option Act
  | .event s => if r.allows s then s.act? else none
  | .task id => (r.agenda.task? id).bind fun t => r.jobAct? t.job

/-- The acts upon the input in the course of moves. -/
def actsOf (r : Run) : List Move → List Act
  | [] => []
  | m :: ms => (r.act? m).toList ++ (r.move m).actsOf ms

theorem actsOf_append (r : Run) (ms ns : List Move) :
    r.actsOf (ms ++ ns) = r.actsOf ms ++ (r.moves ms).actsOf ns := by
  induction ms generalizing r with
  | nil => rfl
  | cons m ms ih => rw [List.cons_append, actsOf, actsOf, ih, List.append_assoc, moves_cons]

/-- What one move can do, together with the act upon the input that it is. -/
inductive Moved (r : Run) : Option Act → Run → Prop where
  | edit (text : String) (live : r.live = true) : Moved r (some (.edit text)) (r.edit text)
  | choose (text : String) (live : r.live = true) : Moved r (some (.choose text)) (r.choose text)
  | submit (live : r.live = true) : Moved r (some .submit) r.submit
  | blur (live : r.live = true) : Moved r (some .blur) r.leave
  | focus (live : r.live = true) : Moved r (some .focus) r.focus
  | close (live : r.live = true) : Moved r (some .close) r.close
  | stopReceiving : Moved r none r.stopReceiving
  | wait (delay : Nat) : Moved r none (r.wait delay)
  | resolve (call : Nat) (result : Result) : Moved r none (r.resolve call result)
  | task {t : Agenda.Task Job} (mem : t ∈ r.agenda.tasks) :
      Moved r (r.jobAct? t.job) ({ r with agenda := r.agenda.cancel t.id }.perform t.job)
  | nothing : Moved r none r

/-- An event that can happen only while the input is live. -/
theorem moved_of_live {r next : Run} {s : Step} (hallows : r.allows s = r.live)
    (hstep : r.move (.event s) = if r.allows s then next else r)
    (hmoved : r.live = true → Moved r s.act? next) :
    Moved r (r.act? (.event s)) (r.move (.event s)) := by
  rw [hstep, act?, hallows]
  cases hlive : r.live with
  | false => exact .nothing
  | true => exact hmoved hlive

theorem moved (r : Run) (m : Move) : Moved r (r.act? m) (r.move m) := by
  cases m with
  | task id =>
      rw [act?, move, runTask]
      cases htask : r.agenda.task? id with
      | none => exact .nothing
      | some t =>
          obtain ⟨hmem, rfl⟩ := Agenda.task?_eq_some htask
          exact .task hmem
  | event s =>
      cases s with
      | advance delay => exact .wait delay
      | resolve call result => exact .resolve call result
      | stopReceiving => exact .stopReceiving
      | edit text => exact moved_of_live rfl rfl (.edit text)
      | choose text => exact moved_of_live rfl rfl (.choose text)
      | submit => exact moved_of_live rfl rfl .submit
      | blur => exact moved_of_live rfl rfl .blur
      | focus => exact moved_of_live rfl rfl .focus
      | close => exact moved_of_live rfl rfl .close

variable {r next : Run} {a? : Option Act}

/-! ## The input -/

theorem input_perform (r : Run) (job : Job) :
    (r.perform job).input = r.input.acts (r.jobAct? job).toList := by
  cases job with
  | lookUp text => rfl
  | hide => rfl
  | deliver ticket text result => rfl
  | call ticket text =>
      rw [perform, jobAct?]
      cases r.backend text <;> rfl

theorem input_submitText (r : Run) (text : String) : (r.submitText text).input = r.input := by
  rw [submitText]
  split <;> rfl

/-- Of what waits and of what reached the backend, submitting a text changes nothing. -/
theorem submitText_eq (r : Run) (text : String) :
    (r.submitText text).agenda = r.agenda ∧ (r.submitText text).calls = r.calls ∧
      (r.submitText text).live = r.live := by
  rw [submitText]
  split <;> exact ⟨rfl, rfl, rfl⟩

theorem choose_eq (r : Run) (text : String) :
    (r.choose text).agenda = r.cancelDebounce.cancelBlur.agenda ∧
      (r.choose text).calls = r.calls ∧ (r.choose text).live = r.live :=
  submitText_eq _ _

theorem submit_eq (r : Run) :
    r.submit.agenda = r.cancelDebounce.cancelBlur.agenda ∧ r.submit.calls = r.calls ∧
      r.submit.live = r.live :=
  submitText_eq _ _

/-- A reply is put down for a call that waits for one, and else there is nothing to do. -/
theorem resolve_cases (r : Run) (call : Nat) (result : Result) :
    r.resolve call result = r ∨ ∃ c, r.calls[call]? = some c ∧ c.answered = false ∧
      r.resolve call result =
        { r with
          calls := r.calls.set call { c with answered := true }
          agenda := r.agenda.add 0 (.deliver c.ticket c.text result) } := by
  rw [resolve]
  cases hget : r.calls[call]? with
  | none => exact .inl rfl
  | some c =>
      cases hanswered : c.answered with
      | true => exact .inl (if_pos hanswered)
      | false => exact .inr ⟨c, rfl, hanswered, if_neg (Bool.eq_false_iff.mp hanswered)⟩

/-- A move does to the input what its act does, and nothing else. -/
theorem Moved.input_eq (h : Moved r a? next) : next.input = r.input.acts a?.toList := by
  cases h with
  | edit text live =>
      rw [Run.edit]
      split <;> rfl
  | choose text live => exact input_submitText _ _
  | submit live => exact input_submitText _ _
  | resolve call result =>
      rw [Run.resolve]
      split
      · split <;> rfl
      · rfl
  | task mem => exact input_perform _ _
  | blur live => rfl
  | focus live => rfl
  | close live => rfl
  | stopReceiving => rfl
  | wait delay => rfl
  | nothing => rfl

theorem input_moves (r : Run) (ms : List Move) :
    (r.moves ms).input = r.input.acts (r.actsOf ms) := by
  induction ms generalizing r with
  | nil => rfl
  | cons m ms ih => rw [moves_cons, ih, (r.moved m).input_eq, actsOf, Input.acts_append]

/-! ## The timers -/

theorem Timed.moved (h : r.Timed) (hmoved : Moved r a? next) : next.Timed := by
  cases hmoved with
  | edit text live => exact h.edit text
  | choose text live => exact h.choose text
  | submit live => exact h.submit
  | blur live => exact h.leave
  | focus live => exact h.cancelBlur
  | close live => exact h.cancelDebounce.cancelBlur
  | stopReceiving => exact h
  | wait delay => exact Timers.wait h _
  | resolve call result => exact h.resolve call result
  | @task t mem =>
      have hcancelled : Timed { r with agenda := r.agenda.cancel t.id } := Timers.cancel h t.id
      exact hcancelled.perform t.job
  | nothing => exact h

theorem Timed.moves (h : r.Timed) (ms : List Move) : (r.moves ms).Timed := by
  induction ms generalizing r with
  | nil => exact h
  | cons m ms ih => exact ih (h.moved (r.moved m))

/-! ## Runs of events -/

/-- Setting the clock to a time is letting pass what is left until then. -/
theorem wait_until (r : Run) (time : Nat) :
    { r with agenda := r.agenda.wait time } = r.wait (time - r.agenda.now) := by
  have hmax :
      max r.agenda.now time = max r.agenda.now (r.agenda.now + (time - r.agenda.now)) := by omega
  rw [wait, Agenda.wait, Agenda.wait, hmax]

/-- Waiting until a task is due, and doing it. -/
def taskMoves (r : Run) (t : Agenda.Task Job) : List Move :=
  [.event (.advance (t.due - r.agenda.now)), .task t.id]

/-- The moves by which everything is done that is due by a limit. -/
def dueMoves (limit : Nat) : Nat → Run → List Move
  | 0, _ => []
  | fuel + 1, r =>
    match r.agenda.next? limit with
    | none => []
    | some (t, _) => r.taskMoves t ++ dueMoves limit fuel (r.moves (r.taskMoves t))

/-- The moves that an event is. -/
def stepMoves (r : Run) : Step → List Move
  | .advance delay =>
    let due := dueMoves (r.agenda.now + delay) (2 * r.agenda.tasks.length) r
    due ++ [.event (.advance (r.agenda.now + delay - (r.moves due).agenda.now))]
  | s => [.event s]

theorem Timed.moves_taskMoves (h : r.Timed) {t : Agenda.Task Job} (ht : t ∈ r.agenda.tasks) :
    r.moves (r.taskMoves t) =
      { r with agenda := (r.agenda.wait t.due).cancel t.id }.perform t.job := by
  have htask : (r.agenda.wait t.due).task? t.id = some t := (h.ordered.wait t.due).task?_id ht
  rw [taskMoves, moves_cons, move, ← wait_until, moves_cons, move, runTask, htask]
  rfl

theorem Timed.performDue_eq (h : r.Timed) (limit fuel : Nat) :
    performDue limit fuel r = r.moves (dueMoves limit fuel r) := by
  induction fuel generalizing r with
  | zero => rfl
  | succ fuel ih =>
      rw [performDue, next?, dueMoves]
      cases hnext : r.agenda.next? limit with
      | none => rfl
      | some pair =>
          obtain ⟨t, b⟩ := pair
          obtain ⟨hmem, -, rfl⟩ := Agenda.next?_eq_some hnext
          have hfirst := h.moves_taskMoves hmem
          have hrest := ih (h.moves (r.taskMoves t))
          simp only [Option.map_some]
          rw [moves_append, ← hrest, hfirst]

theorem Timed.step_eq (h : r.Timed) (s : Step) : r.step s = r.moves (r.stepMoves s) := by
  cases s with
  | advance delay =>
      have hdue := h.performDue_eq (r.agenda.now + delay) (2 * r.agenda.tasks.length)
      rw [stepMoves, moves_append, moves_cons, move, ← wait_until, ← hdue]
      rfl
  | edit text => rfl
  | choose text => rfl
  | submit => rfl
  | blur => rfl
  | focus => rfl
  | close => rfl
  | stopReceiving => rfl
  | resolve call result => rfl

/-- Every run of events is a run of moves. -/
theorem Timed.steps_eq_moves (h : r.Timed) (ss : List Step) : ∃ ms, r.steps ss = r.moves ms := by
  induction ss generalizing r with
  | nil => exact ⟨[], rfl⟩
  | cons s ss ih =>
      obtain ⟨rest, hrest⟩ := ih (h.moves (r.stepMoves s))
      refine ⟨r.stepMoves s ++ rest, ?_⟩
      rw [moves_append, ← hrest, ← h.step_eq]
      rfl

end Run

end Storefront.Suggestion
