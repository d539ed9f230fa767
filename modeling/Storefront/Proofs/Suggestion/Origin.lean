import Mathlib.Data.List.Induction
import Storefront.Proofs.Suggestion.Quiet
import Storefront.Proofs.Suggestion.Staleness

/-! # Where lookups come from

A lookup begins when the quiet period of a text is over. The task that waited for this was put down
when the text was typed, so every lookup can be traced back to an edit. -/

namespace Storefront.Suggestion

namespace Run

/-- In the course of moves a text that is one to look up is typed, and the task of this number is
put down for it. -/
def Types (r : Run) (ms : List Move) (id : Nat) (text : String) : Prop :=
  ∃ earlier later, ms = earlier ++ .event (.edit text) :: later ∧
    (r.moves earlier).live = true ∧ (r.moves earlier).input.looksUp text = true ∧
    (r.moves earlier).agenda.count = id

/-- In the course of moves a lookup begins whose text is typed before it. -/
def Begins (r : Run) (ms : List Move) (l : Lookup) : Prop :=
  ∃ earlier id later, ms = earlier ++ .task id :: later ∧ r.Types earlier id l.text ∧
    (r.moves earlier).act? (.task id) = some (.lookUp l.text) ∧
    (r.moves earlier).input.issue.1 = l.ticket

variable {r next : Run} {a? : Option Act} {m : Move} {ms : List Move}

/-! ## The events and tasks that acts come from -/

/-- An act is what an event does that can happen, or what a task does that is left. -/
theorem act?_eq_some {a : Act} (h : r.act? m = some a) :
    (∃ s, m = .event s ∧ s.act? = some a) ∨
      ∃ t ∈ r.agenda.tasks, m = .task t.id ∧ r.jobAct? t.job = some a := by
  cases m with
  | event s =>
      rw [act?] at h
      split at h
      · exact .inl ⟨s, rfl, h⟩
      · cases h
  | task id =>
      obtain ⟨t, htask, hjob⟩ := Option.bind_eq_some_iff.mp h
      obtain ⟨hmem, rfl⟩ := Agenda.task?_eq_some htask
      exact .inr ⟨t, hmem, rfl, hjob⟩

/-- What a task does, read off its job. -/
theorem jobAct?_cases {job : Job} {a : Act} (h : r.jobAct? job = some a) :
    (∃ text, job = .lookUp text ∧ a = .lookUp text) ∨ (job = .hide ∧ a = .hide) ∨
      ∃ ticket text result, a = .deliver ticket text result := by
  cases job with
  | lookUp text => exact .inl ⟨text, rfl, (Option.some.inj h).symm⟩
  | hide => exact .inr (.inl ⟨rfl, (Option.some.inj h).symm⟩)
  | call ticket text =>
      obtain ⟨result, -, rfl⟩ := Option.map_eq_some_iff.mp h
      exact .inr (.inr ⟨ticket, text, result, rfl⟩)
  | deliver ticket text result =>
      exact .inr (.inr ⟨ticket, text, result, (Option.some.inj h).symm⟩)

/-- No two events are the same act. -/
theorem step_eq_of_act?_eq {s other : Step} {a : Act} (hs : s.act? = some a)
    (hother : other.act? = some a) : other = s := by
  cases s <;> cases hs <;> cases other <;> cases hother <;> rfl

/-- What an event does to the input is done by nothing else, and by no task. -/
theorem act?_eq_event (s : Step) {a : Act} (hs : s.act? = some a) (h : r.act? m = some a) :
    m = .event s := by
  rcases act?_eq_some h with ⟨other, rfl, hother⟩ | ⟨t, -, -, hjob⟩
  · rw [step_eq_of_act?_eq hs hother]
  · rcases jobAct?_cases hjob with ⟨_, -, rfl⟩ | ⟨-, rfl⟩ | ⟨_, _, _, rfl⟩ <;> cases s <;> cases hs

/-- What no event does to the input is done by a task. -/
theorem act?_eq_task {a : Act} (hevent : ∀ s : Step, s.act? ≠ some a) (h : r.act? m = some a) :
    ∃ t ∈ r.agenda.tasks, m = .task t.id ∧ r.jobAct? t.job = some a := by
  rcases act?_eq_some h with ⟨s, -, hs⟩ | htask
  · exact absurd hs (hevent s)
  · exact htask

/-- A lookup begins by doing the task that waits for it. -/
theorem act?_eq_lookUp {text : String} (h : r.act? m = some (.lookUp text)) :
    ∃ t ∈ r.agenda.tasks, m = .task t.id ∧ t.job = .lookUp text := by
  obtain ⟨t, hmem, rfl, hjob⟩ := act?_eq_task (fun s hs => by cases s <;> cases hs) h
  rcases jobAct?_cases hjob with ⟨_, hcase, ha⟩ | ⟨-, ha⟩ | ⟨_, _, _, ha⟩ <;> cases ha
  exact ⟨t, hmem, rfl, hcase⟩

/-- The list is hidden by doing the task that waits for the grace delay. -/
theorem act?_eq_hide (h : r.act? m = some .hide) :
    ∃ t ∈ r.agenda.tasks, m = .task t.id ∧ t.job = .hide := by
  obtain ⟨t, hmem, rfl, hjob⟩ := act?_eq_task (fun s hs => by cases s <;> cases hs) h
  rcases jobAct?_cases hjob with ⟨_, -, ha⟩ | ⟨hcase, -⟩ | ⟨_, _, _, ha⟩
  · cases ha
  · exact ⟨t, hmem, rfl, hcase⟩
  · cases ha

/-! ## The task that waits for a lookup -/

/-- Doing a job puts down no task that waits for a lookup. -/
theorem mem_of_mem_perform {job : Job} {t : Agenda.Task Job} (ht : t ∈ (r.perform job).agenda.tasks)
    (hjob : t.job.isLookUp = true) : t ∈ r.agenda.tasks := by
  cases job with
  | lookUp text =>
      rcases Timers.mem_add ht with ht | rfl
      · exact ht
      · cases hjob
  | hide => exact ht
  | call ticket text =>
      rw [agenda_perform_call] at ht
      exact ht
  | deliver ticket text result => exact ht

/-- A task that waits for a lookup waited before, or is put down by an edit for its text. -/
theorem Moved.lookUp_mem (hmoved : Moved r a? next) {t : Agenda.Task Job}
    (ht : t ∈ next.agenda.tasks) (hjob : t.job.isLookUp = true) :
    t ∈ r.agenda.tasks ∨ ∃ text, a? = some (.edit text) ∧ r.live = true ∧
      r.input.looksUp text = true ∧ t.id = r.agenda.count ∧ t.job = .lookUp text := by
  cases hmoved with
  | edit text live =>
      rw [(r.edit_eq text).1] at ht
      cases hlooksUp : r.input.looksUp text with
      | false =>
          rw [hlooksUp, if_neg Bool.false_ne_true] at ht
          have hkept := (Agenda.mem_cancelSlot.mp ht).1
          exact .inl (Agenda.mem_cancelSlot.mp hkept).1
      | true =>
          rw [hlooksUp, if_pos rfl] at ht
          rcases Timers.mem_add ht with ht | rfl
          · have hkept := (Agenda.mem_cancelSlot.mp ht).1
            exact .inl (Agenda.mem_cancelSlot.mp hkept).1
          · refine .inr ⟨text, rfl, live, hlooksUp, ?_, rfl⟩
            exact (Agenda.count_cancelSlot _).trans (Agenda.count_cancelSlot _)
  | choose text live =>
      rw [(r.choose_eq text).1] at ht
      have hkept := (Agenda.mem_cancelSlot.mp ht).1
      exact .inl (Agenda.mem_cancelSlot.mp hkept).1
  | submit live =>
      rw [r.submit_eq.1] at ht
      have hkept := (Agenda.mem_cancelSlot.mp ht).1
      exact .inl (Agenda.mem_cancelSlot.mp hkept).1
  | close live =>
      have hkept := (Agenda.mem_cancelSlot.mp ht).1
      exact .inl (Agenda.mem_cancelSlot.mp hkept).1
  | focus live => exact .inl (Agenda.mem_cancelSlot.mp ht).1
  | blur live =>
      rcases Timers.mem_add ht with ht | rfl
      · exact .inl (Agenda.mem_cancelSlot.mp ht).1
      · cases hjob
  | stopReceiving => exact .inl ht
  | wait delay => exact .inl ht
  | nothing => exact .inl ht
  | resolve call result =>
      rcases r.resolve_cases call result with heq | ⟨c, -, -, heq⟩ <;> rw [heq] at ht
      · exact .inl ht
      · rcases Timers.mem_add ht with ht | rfl
        · exact .inl ht
        · cases hjob
  | task mem =>
      have hkept := mem_of_mem_perform ht hjob
      exact .inl (Agenda.mem_cancel.mp hkept).1

/-! ## Whole runs -/

theorem Types.append {id : Nat} {text : String} (h : r.Types ms id text) (ns : List Move) :
    r.Types (ms ++ ns) id text := by
  obtain ⟨earlier, later, rfl, hlive, hlooksUp, hid⟩ := h
  exact ⟨earlier, later ++ ns, by simp, hlive, hlooksUp, hid⟩

theorem Types.looksUp {id : Nat} {text : String} (h : r.Types ms id text) :
    r.input.looksUp text = true := by
  obtain ⟨earlier, later, -, -, hlooksUp, -⟩ := h
  rw [Input.looksUp, input_moves, Input.settings_acts] at hlooksUp
  exact hlooksUp

/-- Where no text waits to be looked up at first, every one that waits later was typed meanwhile. -/
theorem types_of_mem (hnone : ∀ t ∈ r.agenda.tasks, t.job.isLookUp = false) (ms : List Move) :
    ∀ t ∈ (r.moves ms).agenda.tasks, ∀ text, t.job = .lookUp text → r.Types ms t.id text := by
  induction ms using List.reverseRecOn with
  | nil =>
      intro t ht text hjob
      have hother := hnone t ht
      rw [hjob] at hother
      cases hother
  | append_singleton ms m ih =>
      intro t ht text hjob
      rw [moves_append] at ht
      have hisLookUp : t.job.isLookUp = true := by
        rw [hjob]
        rfl
      rcases ((r.moves ms).moved m).lookUp_mem ht hisLookUp with
        hmem | ⟨typed, hact, hlive, hlooksUp, hid, hjob'⟩
      · exact (ih t hmem text hjob).append [m]
      · obtain rfl : typed = text := by
          rw [hjob] at hjob'
          exact (Job.lookUp.inj hjob').symm
        obtain rfl := act?_eq_event (.edit _) rfl hact
        exact ⟨ms, [], rfl, hlive, hlooksUp, hid.symm⟩

/-- A lookup on record begins with one of the moves. -/
theorem exists_move_of_mem_lookupsOf {l : Lookup} (h : l ∈ r.input.lookupsOf (r.actsOf ms)) :
    ∃ earlier m later, ms = earlier ++ m :: later ∧
      (r.moves earlier).act? m = some (.lookUp l.text) ∧
      (r.moves earlier).input.issue.1 = l.ticket := by
  induction ms generalizing r with
  | nil => cases h
  | cons m ms ih =>
      rw [actsOf, Input.lookupsOf_append, ← (r.moved m).input_eq] at h
      rcases List.mem_append.mp h with hfirst | hrest
      · cases hact : r.act? m with
        | none =>
            rw [hact] at hfirst
            cases hfirst
        | some a =>
            rw [hact] at hfirst
            cases a with
            | lookUp text =>
                obtain rfl : l = ⟨r.input.issue.1, text⟩ := List.mem_singleton.mp hfirst
                exact ⟨[], m, ms, rfl, hact, rfl⟩
            | _ => cases hfirst
      · obtain ⟨earlier, m', later, rfl, hact, hticket⟩ := ih hrest
        exact ⟨m :: earlier, m', later, rfl, hact, hticket⟩

/-- Where no text waits to be looked up at first, every lookup is for a text typed meanwhile. -/
theorem begins_of_mem_lookupsOf (hnone : ∀ t ∈ r.agenda.tasks, t.job.isLookUp = false)
    {l : Lookup} (h : l ∈ r.input.lookupsOf (r.actsOf ms)) : r.Begins ms l := by
  obtain ⟨earlier, m, later, rfl, hact, hticket⟩ := exists_move_of_mem_lookupsOf h
  obtain ⟨t, hmem, rfl, hjob⟩ := act?_eq_lookUp hact
  exact ⟨earlier, t.id, later, rfl, types_of_mem hnone earlier t hmem l.text hjob, hact, hticket⟩

end Run

end Storefront.Suggestion
