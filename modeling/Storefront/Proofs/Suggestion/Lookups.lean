import Storefront.Proofs.Suggestion.Moves

/-! # Lookups in flight

A lookup that was begun is either still in flight or was answered, and is answered only once. -/

namespace Storefront.Suggestion

/-- The lookups that tasks are part of. -/
def openTasks (ts : List (Agenda.Task Job)) : List Lookup :=
  ts.filterMap fun t => t.job.lookup?

/-- The lookups that wait for the backend. -/
def openCalls (cs : List Call) : List Lookup :=
  cs.filterMap Call.lookup?

theorem openTasks_append (ts us : List (Agenda.Task Job)) :
    openTasks (ts ++ us) = openTasks ts ++ openTasks us :=
  List.filterMap_append

theorem openCalls_append (cs ds : List Call) :
    openCalls (cs ++ ds) = openCalls cs ++ openCalls ds :=
  List.filterMap_append

/-- Taking off tasks that are part of no lookup leaves all lookups. -/
theorem openTasks_filter {p : Job → Bool} (hp : ∀ job, p job = true → job.lookup? = none)
    (ts : List (Agenda.Task Job)) : openTasks (ts.filter fun t => !p t.job) = openTasks ts := by
  rw [openTasks, List.filterMap_filter]
  refine List.filterMap_congr fun t _ => ?_
  cases hjob : p t.job with
  | false => rfl
  | true => exact (hp t.job hjob).symm

theorem openTasks_cons (t : Agenda.Task Job) (ts : List (Agenda.Task Job)) :
    openTasks (t :: ts) = t.job.lookup?.toList ++ openTasks ts := by
  rw [openTasks, List.filterMap_cons]
  cases t.job.lookup? <;> rfl

theorem openTasks_add (a : Agenda Job) (delay : Nat) (job : Job) :
    openTasks (a.add delay job).tasks = openTasks a.tasks ++ job.lookup?.toList := by
  rw [Agenda.add, openTasks_append, openTasks_cons]
  exact congrArg (openTasks a.tasks ++ ·) (List.append_nil _)

theorem openCalls_cons (c : Call) (cs : List Call) :
    openCalls (c :: cs) = c.lookup?.toList ++ openCalls cs := by
  rw [openCalls, List.filterMap_cons]
  cases c.lookup? <;> rfl

/-- A call that is answered waits no longer. -/
theorem openCalls_set {cs : List Call} {call : Nat} {c : Call} (hget : cs[call]? = some c)
    (hopen : c.answered = false) :
    (openCalls cs).Perm
      (⟨c.ticket, c.text⟩ :: openCalls (cs.set call { c with answered := true })) := by
  induction cs generalizing call with
  | nil => nomatch hget
  | cons d cs ih =>
      cases call with
      | zero =>
          obtain rfl : d = c := Option.some.inj hget
          rw [List.set_cons_zero, openCalls_cons, openCalls_cons, Call.lookup?, hopen]
          exact List.Perm.refl _
      | succ call =>
          rw [List.set_cons_succ, openCalls_cons, openCalls_cons]
          exact ((ih hget).append_left _).trans List.perm_middle

namespace Run

/-- The lookups that were begun and not answered yet. -/
def openLookups (r : Run) : List Lookup :=
  openTasks r.agenda.tasks ++ openCalls r.calls

variable {r next : Run} {a? : Option Act}

/-! ## One move -/

theorem openTasks_cancelDebounce (h : r.Timed) :
    openTasks r.cancelDebounce.agenda.tasks = openTasks r.agenda.tasks := by
  rw [cancelDebounce, Timers.tasks_cancelDebounce h]
  refine openTasks_filter (fun job hjob => ?_) _
  cases job with
  | lookUp text => rfl
  | _ => nomatch hjob

theorem openTasks_cancelBlur (h : r.Timed) :
    openTasks r.cancelBlur.agenda.tasks = openTasks r.agenda.tasks := by
  rw [cancelBlur, Timers.tasks_cancelBlur h]
  refine openTasks_filter (fun job hjob => ?_) _
  cases job with
  | hide => rfl
  | _ => nomatch hjob

theorem openTasks_cancelTimers (h : r.Timed) :
    openTasks r.cancelDebounce.cancelBlur.agenda.tasks = openTasks r.agenda.tasks :=
  (openTasks_cancelBlur h.cancelDebounce).trans (openTasks_cancelDebounce h)

theorem openLookups_edit (h : r.Timed) (text : String) :
    (r.edit text).openLookups = r.openLookups := by
  have hcleared : openTasks r.cancelBlur.cancelDebounce.agenda.tasks = openTasks r.agenda.tasks :=
    (openTasks_cancelDebounce h.cancelBlur).trans (openTasks_cancelBlur h)
  rw [edit]
  split
  · exact congrArg (· ++ openCalls r.calls)
      (((openTasks_add _ _ _).trans (List.append_nil _)).trans hcleared)
  · exact congrArg (· ++ openCalls r.calls) hcleared

theorem openLookups_choose (h : r.Timed) (text : String) :
    (r.choose text).openLookups = r.openLookups := by
  rw [choose, submitText]
  split <;> exact congrArg (· ++ openCalls r.calls) (openTasks_cancelTimers h)

theorem openLookups_submit (h : r.Timed) : r.submit.openLookups = r.openLookups := by
  rw [submit, submitText]
  split <;> exact congrArg (· ++ openCalls r.calls) (openTasks_cancelTimers h)

theorem openLookups_leave (h : r.Timed) : r.leave.openLookups = r.openLookups := by
  have hadded : openTasks r.leave.agenda.tasks = openTasks r.cancelBlur.agenda.tasks :=
    (openTasks_add _ _ _).trans (List.append_nil _)
  exact congrArg (· ++ openCalls r.calls) (hadded.trans (openTasks_cancelBlur h))

/-- The reply to a call is on its way, so that its lookup is still open. -/
theorem openLookups_resolve (r : Run) (call : Nat) (result : Result) :
    r.openLookups.Perm (r.resolve call result).openLookups := by
  rcases r.resolve_cases call result with heq | ⟨c, hget, hopen, heq⟩
  · rw [heq]
  · have hcalls := (openCalls_set hget hopen).append_left (openTasks r.agenda.tasks)
    rw [List.append_cons] at hcalls
    rw [heq, openLookups, openLookups, openTasks_add]
    exact hcalls

theorem openLookups_lookUp (r : Run) (text : String) :
    (r.openLookups ++ [Lookup.mk r.input.issue.1 text]).Perm
      (r.perform (.lookUp text)).openLookups := by
  have hadded : (r.perform (.lookUp text)).openLookups =
      openTasks r.agenda.tasks ++ [⟨r.input.issue.1, text⟩] ++ openCalls r.calls :=
    congrArg (· ++ openCalls r.calls) (openTasks_add _ _ _)
  rw [hadded, openLookups, List.append_assoc, List.append_assoc]
  exact List.perm_append_comm.append_left _

/-- A task takes its lookup on: one that the backend does not answer at once waits there, and an
answer is brought. -/
theorem openLookups_perform (r : Run) (job : Job) :
    (job.lookup?.toList ++ r.openLookups ++ r.input.lookupsOf (r.jobAct? job).toList).Perm
      ((r.perform job).openLookups ++
        (r.input.repliesOf (r.jobAct? job).toList).map Reply.lookup) := by
  cases job with
  | lookUp text =>
      exact (openLookups_lookUp r text).trans (List.Perm.of_eq (List.append_nil _).symm)
  | hide => exact List.Perm.refl _
  | deliver ticket text result => exact (List.append_nil _).symm ▸ List.perm_append_comm
  | call ticket text =>
      rw [perform, jobAct?]
      cases r.backend text with
      | none =>
          have hcalled : openCalls (r.calls ++ [⟨ticket, text, false⟩]) =
              openCalls r.calls ++ [⟨ticket, text⟩] := openCalls_append _ _
          simp only [openLookups, hcalled]
          rw [← List.append_assoc (openTasks _)]
          exact List.Perm.append_right [] List.perm_append_comm
      | some result =>
          have hcalled : openCalls (r.calls ++ [⟨ticket, text, true⟩]) = openCalls r.calls :=
            (openCalls_append _ _).trans (List.append_nil _)
          simp only [openLookups, hcalled]
          exact (List.append_nil _).symm ▸ List.perm_append_comm

/-- A lookup that a move begins is open, and one whose reply it brings no longer is. -/
theorem Moved.openLookups_perm (hmoved : Moved r a? next) (h : r.Timed) :
    (r.openLookups ++ r.input.lookupsOf a?.toList).Perm
      (next.openLookups ++ (r.input.repliesOf a?.toList).map Reply.lookup) := by
  have hsame : next.openLookups = r.openLookups →
      (r.openLookups ++ []).Perm (next.openLookups ++ []) :=
    fun heq => heq ▸ List.Perm.refl _
  cases hmoved with
  | edit text live => exact hsame (openLookups_edit h text)
  | choose text live => exact hsame (openLookups_choose h text)
  | submit live => exact hsame (openLookups_submit h)
  | blur live => exact hsame (openLookups_leave h)
  | focus live => exact hsame (congrArg (· ++ openCalls r.calls) (openTasks_cancelBlur h))
  | close live => exact hsame (congrArg (· ++ openCalls r.calls) (openTasks_cancelTimers h))
  | stopReceiving => exact hsame rfl
  | wait delay => exact hsame rfl
  | nothing => exact hsame rfl
  | resolve call result => exact (openLookups_resolve r call result).append_right []
  | @task t mem =>
      have htasks : (openTasks r.agenda.tasks).Perm
          (t.job.lookup?.toList ++ openTasks (r.agenda.cancel t.id).tasks) :=
        openTasks_cons t _ ▸ (h.ordered.perm_cancel mem).filterMap _
      have hopen := htasks.append_right (openCalls r.calls)
      rw [List.append_assoc] at hopen
      exact (hopen.append_right _).trans
        (openLookups_perform { r with agenda := r.agenda.cancel t.id } t.job)

/-! ## Whole runs -/

/-- What comes in and what goes out adds up over two stretches. -/
theorem perm_append_trans {α : Type} {held between left came coming gone going : List α}
    (hfirst : (held ++ came).Perm (between ++ gone))
    (hrest : (between ++ coming).Perm (left ++ going)) :
    (held ++ (came ++ coming)).Perm (left ++ (gone ++ going)) := by
  calc (held ++ (came ++ coming)).Perm (between ++ gone ++ coming) := by
        rw [← List.append_assoc]
        exact hfirst.append_right coming
    (between ++ gone ++ coming).Perm (between ++ coming ++ gone) := by
        rw [List.append_assoc, List.append_assoc]
        exact List.perm_append_comm.append_left between
    (between ++ coming ++ gone).Perm (left ++ going ++ gone) := hrest.append_right gone
    (left ++ going ++ gone).Perm (left ++ (gone ++ going)) := by
        rw [List.append_assoc]
        exact List.perm_append_comm.append_left left

/-- Every lookup that is open or begun is open in the end or answered, and not both. -/
theorem Timed.lookups_perm (h : r.Timed) (ms : List Move) :
    (r.openLookups ++ r.input.lookupsOf (r.actsOf ms)).Perm
      ((r.moves ms).openLookups ++ (r.input.repliesOf (r.actsOf ms)).map Reply.lookup) := by
  induction ms generalizing r with
  | nil => exact List.Perm.refl _
  | cons m ms ih =>
      have hmoved := r.moved m
      rw [actsOf, Input.lookupsOf_append, Input.repliesOf_append, ← hmoved.input_eq,
        List.map_append, moves_cons]
      exact perm_append_trans (hmoved.openLookups_perm h) (ih (h.moved hmoved))

/-! ## Calls -/

/-- How many lookups were begun whose call is still to be made. -/
def uncalled (r : Run) : Nat :=
  r.agenda.tasks.countP fun t => t.job.isCall

theorem uncalled_congr (h : next.agenda = r.agenda) : next.uncalled = r.uncalled := by
  rw [uncalled, uncalled, h]

/-- Taking off tasks that are no calls leaves all calls. -/
theorem uncalled_eq_of_filter {p : Job → Bool} (hp : ∀ job, p job = true → job.isCall = false)
    (h : next.agenda.tasks = r.agenda.tasks.filter fun t => !p t.job) :
    next.uncalled = r.uncalled := by
  rw [uncalled, h, List.countP_filter]
  refine List.countP_congr fun t _ => ?_
  cases hjob : p t.job with
  | false => simp
  | true => simp [hp t.job hjob]

theorem uncalled_eq_of_add {a : Agenda Job} {delay : Nat} {job : Job} (hjob : job.isCall = false)
    (h : next.agenda = a.add delay job) : next.uncalled = a.tasks.countP fun t => t.job.isCall := by
  rw [uncalled, h, Agenda.add, List.countP_append]
  simp [hjob]

theorem uncalled_cancelDebounce (h : r.Timed) : r.cancelDebounce.uncalled = r.uncalled := by
  refine uncalled_eq_of_filter (fun job hjob => ?_) (Timers.tasks_cancelDebounce h)
  cases job with
  | call ticket text => cases hjob
  | _ => rfl

theorem uncalled_cancelBlur (h : r.Timed) : r.cancelBlur.uncalled = r.uncalled := by
  refine uncalled_eq_of_filter (fun job hjob => ?_) (Timers.tasks_cancelBlur h)
  cases job with
  | call ticket text => cases hjob
  | _ => rfl

theorem uncalled_cancelTimers (h : r.Timed) :
    r.cancelDebounce.cancelBlur.uncalled = r.uncalled :=
  (uncalled_cancelBlur h.cancelDebounce).trans (uncalled_cancelDebounce h)

theorem uncalled_edit (h : r.Timed) (text : String) : (r.edit text).uncalled = r.uncalled := by
  have hcleared : r.cancelBlur.cancelDebounce.uncalled = r.uncalled :=
    (uncalled_cancelDebounce h.cancelBlur).trans (uncalled_cancelBlur h)
  rw [edit]
  split
  · exact (uncalled_eq_of_add rfl rfl).trans hcleared
  · exact hcleared

theorem uncalled_resolve (r : Run) (call : Nat) (result : Result) :
    (r.resolve call result).uncalled = r.uncalled := by
  rcases r.resolve_cases call result with heq | ⟨c, -, -, heq⟩ <;> rw [heq]
  exact uncalled_eq_of_add rfl rfl

/-- A reply changes no text that was looked up. -/
theorem texts_resolve (r : Run) (call : Nat) (result : Result) :
    (r.resolve call result).calls.map Call.text = r.calls.map Call.text := by
  rcases r.resolve_cases call result with heq | ⟨c, hget, -, heq⟩ <;> rw [heq]
  obtain ⟨hlt, rfl⟩ := List.getElem?_eq_some_iff.mp hget
  have hlt' : call < (r.calls.map Call.text).length := by simpa using hlt
  have hself : (r.calls.map Call.text).set call (r.calls.map Call.text)[call] =
      r.calls.map Call.text := List.set_getElem_self hlt'
  rw [List.map_set]
  simpa only [List.getElem_map] using hself

/-- A lookup that a task begins is one more whose call is to be made, and a call is one less. -/
theorem called_perform (r : Run) (job : Job) :
    (r.input.lookupsOf (r.jobAct? job).toList).length + r.calls.length + r.uncalled +
        (if job.isCall then 1 else 0) =
      (r.perform job).calls.length + (r.perform job).uncalled := by
  cases job with
  | lookUp text =>
      have hadded : (r.perform (.lookUp text)).uncalled = r.uncalled + 1 := by
        simp [uncalled, perform, Agenda.add, Job.isCall]
      rw [hadded]
      change 1 + r.calls.length + r.uncalled + 0 = r.calls.length + (r.uncalled + 1)
      omega
  | hide => exact congrArg (· + r.uncalled) (Nat.zero_add _)
  | deliver ticket text result => exact congrArg (· + r.uncalled) (Nat.zero_add _)
  | call ticket text =>
      rw [perform, jobAct?]
      cases r.backend text <;> simp [uncalled, Job.isCall, Input.lookupsOf, Input.begun?] <;> omega

/-- Each lookup that is begun makes one call, now or later, and there are no other calls. -/
theorem Moved.called_eq (hmoved : Moved r a? next) (h : r.Timed) :
    (r.input.lookupsOf a?.toList).length + r.calls.length + r.uncalled =
      next.calls.length + next.uncalled := by
  have hsame : next.calls.length = r.calls.length → next.uncalled = r.uncalled →
      0 + r.calls.length + r.uncalled = next.calls.length + next.uncalled := by
    intro hcalls huncalled
    rw [hcalls, huncalled, Nat.zero_add]
  cases hmoved with
  | edit text live =>
      refine hsame ?_ (uncalled_edit h text)
      rw [Run.edit]
      split <;> rfl
  | choose text live =>
      obtain ⟨hagenda, hcalls, -⟩ := r.choose_eq text
      exact hsame (congrArg List.length hcalls)
        ((uncalled_congr hagenda).trans (uncalled_cancelTimers h))
  | submit live =>
      obtain ⟨hagenda, hcalls, -⟩ := r.submit_eq
      exact hsame (congrArg List.length hcalls)
        ((uncalled_congr hagenda).trans (uncalled_cancelTimers h))
  | blur live => exact hsame rfl ((uncalled_eq_of_add rfl rfl).trans (uncalled_cancelBlur h))
  | focus live => exact hsame rfl (uncalled_cancelBlur h)
  | close live => exact hsame rfl (uncalled_cancelTimers h)
  | stopReceiving => exact hsame rfl rfl
  | wait delay => exact hsame rfl rfl
  | nothing => exact hsame rfl rfl
  | resolve call result =>
      have hlength := congrArg List.length (texts_resolve r call result)
      rw [List.length_map, List.length_map] at hlength
      exact hsame hlength (uncalled_resolve r call result)
  | @task t mem =>
      have huncalled : r.uncalled = uncalled { r with agenda := r.agenda.cancel t.id } +
          if t.job.isCall then 1 else 0 := by
        rw [uncalled, (h.ordered.perm_cancel mem).countP_eq, List.countP_cons]
        rfl
      rw [huncalled, ← Nat.add_assoc]
      exact called_perform { r with agenda := r.agenda.cancel t.id } t.job

end Run

end Storefront.Suggestion
