import Storefront.Proofs.Suggestion.Lookups

/-! # Letting time pass

A text is on its way to the backend from the edit that puts down its lookup until the call. While
time passes, everything that is due is done: the text whose quiet period ends by then reaches the
backend, and any other stays where it is. -/

namespace Storefront.Suggestion

/-- The text that a task brings to the backend. -/
def Job.text? : Job → Option String
  | .lookUp text | .call _ text => some text
  | .hide | .deliver .. => none

def Job.asks (job : Job) : Bool :=
  job.text?.isSome

/-- The tasks that bring a text to the backend. -/
def asking (ts : List (Agenda.Task Job)) : List (Agenda.Task Job) :=
  ts.filter fun t => t.job.asks

/-- The texts that tasks bring to the backend by a limit. -/
def textsBy (limit : Nat) (ts : List (Agenda.Task Job)) : List String :=
  (ts.filter fun t => decide (t.due ≤ limit)).filterMap fun t => t.job.text?

/-- The tasks that are put off beyond a limit. -/
def tasksAfter (limit : Nat) (ts : List (Agenda.Task Job)) : List (Agenda.Task Job) :=
  ts.filter fun t => decide (limit < t.due)

section Asking

variable {a : Agenda Job} {t : Agenda.Task Job}

theorem mem_asking {ts : List (Agenda.Task Job)} :
    t ∈ asking ts ↔ t ∈ ts ∧ t.job.asks = true :=
  List.mem_filter

theorem asking_add (a : Agenda Job) (delay : Nat) (job : Job) :
    asking (a.add delay job).tasks =
      asking a.tasks ++ if job.asks then [⟨a.count, a.now + delay, job⟩] else [] := by
  rw [Agenda.add, asking, asking, List.filter_append, List.filter_cons, List.filter_nil]

/-- Taking off tasks that bring no text leaves all those that do. -/
theorem asking_filter {p : Job → Bool} (hp : ∀ job, p job = true → job.asks = false)
    (ts : List (Agenda.Task Job)) : asking (ts.filter fun t => !p t.job) = asking ts := by
  rw [asking, List.filter_filter]
  refine List.filter_congr fun t _ => ?_
  cases hjob : p t.job with
  | false => simp
  | true => simp [hp t.job hjob]

theorem asking_cancel_of_not_asks (h : a.Ordered) (ht : t ∈ a.tasks) (hjob : t.job.asks = false) :
    asking (a.cancel t.id).tasks = asking a.tasks := by
  rw [asking, Agenda.cancel, List.filter_filter]
  refine List.filter_congr fun u hu => ?_
  cases hasks : u.job.asks with
  | false => rfl
  | true =>
      have hne : u.id ≠ t.id := by
        intro hid
        rw [h.eq_of_id_eq hu ht hid, hjob] at hasks
        cases hasks
      simpa using hne

theorem asking_cancel_of_eq (h : asking a.tasks = [t]) : asking (a.cancel t.id).tasks = [] := by
  rw [asking, Agenda.cancel, List.filter_comm]
  change (asking a.tasks).filter _ = []
  rw [h]
  simp

/-- Tasks that one slot names are one task. -/
theorem length_asking_le_one (h : a.Ordered) {slot : Option Nat}
    (hslot : ∀ t ∈ asking a.tasks, slot = some t.id) : (asking a.tasks).length ≤ 1 := by
  have hids : (asking a.tasks).Pairwise fun t u => t.id < u.id :=
    (List.pairwise_map.mp h.ids_lt).sublist List.filter_sublist
  cases hasking : asking a.tasks with
  | nil => exact Nat.zero_le 1
  | cons t ts =>
      cases ts with
      | nil => exact Nat.le_refl 1
      | cons u us =>
          rw [hasking] at hids hslot
          have hlt : t.id < u.id := (List.pairwise_cons.mp hids).1 u List.mem_cons_self
          have ht := hslot t List.mem_cons_self
          have hu := hslot u (List.mem_cons_of_mem _ List.mem_cons_self)
          exact absurd (Option.some.inj (ht.symm.trans hu)) (Nat.ne_of_lt hlt)

theorem textsBy_singleton {limit : Nat} {text : String} (hdue : t.due ≤ limit)
    (htext : t.job.text? = some text) : textsBy limit [t] = [text] := by
  simp [textsBy, hdue, htext]

theorem tasksAfter_singleton {limit : Nat} (hdue : t.due ≤ limit) : tasksAfter limit [t] = [] := by
  simp [tasksAfter, hdue]

end Asking

namespace Run

/-- The tasks that bring a text to the backend. -/
def asking (r : Run) : List (Agenda.Task Job) :=
  Suggestion.asking r.agenda.tasks

variable {r next : Run} {limit : Nat}

theorem asking_congr (h : next.agenda = r.agenda) : next.asking = r.asking := by
  rw [asking, asking, h]

/-! ## One task -/

/-- In the middle of letting time pass until a limit: at most one text is on its way to the backend,
and a call is not put off beyond the limit. -/
structure Passing (limit : Nat) (r : Run) : Prop where
  timed : r.Timed
  now_le : r.agenda.now ≤ limit
  asking_le : r.asking.length ≤ 1
  call_due : ∀ t ∈ r.agenda.tasks, t.job.isCall = true → t.due ≤ limit

/-- What letting time pass until a limit keeps: the texts that are with the backend or reach it by
then, and the tasks that bring one later. -/
structure Keeps (limit : Nat) (r next : Run) : Prop where
  texts_eq : next.calls.map Call.text ++ textsBy limit next.asking =
    r.calls.map Call.text ++ textsBy limit r.asking
  tasksAfter_eq : tasksAfter limit next.asking = tasksAfter limit r.asking
  live_eq : next.live = r.live
  settings_eq : next.input.settings = r.input.settings

theorem Keeps.refl (limit : Nat) (r : Run) : Keeps limit r r :=
  ⟨rfl, rfl, rfl, rfl⟩

theorem Keeps.trans {last : Run} (h : Keeps limit r next) (h' : Keeps limit next last) :
    Keeps limit r last :=
  ⟨h'.texts_eq.trans h.texts_eq, h'.tasksAfter_eq.trans h.tasksAfter_eq, h'.live_eq.trans h.live_eq,
    h'.settings_eq.trans h.settings_eq⟩

/-- The task that is done next, and what is left of the run before it is. -/
theorem next?_eq_some (h : r.next? limit = some next) :
    ∃ t ∈ r.agenda.tasks, t.due ≤ limit ∧
      next = { r with agenda := (r.agenda.wait t.due).cancel t.id }.perform t.job := by
  obtain ⟨⟨t, b⟩, hagenda, rfl⟩ := Option.map_eq_some_iff.mp h
  obtain ⟨hmem, hdue, rfl⟩ := Agenda.next?_eq_some hagenda
  exact ⟨t, hmem, hdue, rfl⟩

theorem settings_perform (r : Run) (job : Job) :
    (r.perform job).input.settings = r.input.settings := by
  rw [input_perform, Input.settings_acts]

theorem live_perform (r : Run) (job : Job) : (r.perform job).live = r.live := by
  cases job with
  | call ticket text =>
      rw [perform]
      split <;> rfl
  | _ => rfl

/-- A call takes its text to the backend, whether this answers at once or not. -/
theorem texts_perform_call (r : Run) (ticket : Ticket) (text : String) :
    (r.perform (.call ticket text)).calls.map Call.text = r.calls.map Call.text ++ [text] := by
  rw [perform]
  split <;> simp

theorem agenda_perform_call (r : Run) (ticket : Ticket) (text : String) :
    (r.perform (.call ticket text)).agenda = r.agenda := by
  rw [perform]
  split <;> rfl

theorem Passing.asking_eq (h : Passing limit r) {t : Agenda.Task Job} (ht : t ∈ r.agenda.tasks)
    (hjob : t.job.asks = true) : r.asking = [t] := by
  have hmem : t ∈ r.asking := mem_asking.mpr ⟨ht, hjob⟩
  have hle := h.asking_le
  cases hasking : r.asking with
  | nil => exact absurd (hasking ▸ hmem) List.not_mem_nil
  | cons u us =>
      rw [hasking] at hmem hle
      obtain rfl := List.eq_nil_of_length_eq_zero (Nat.le_zero.mp (Nat.le_of_succ_le_succ hle))
      rw [List.mem_singleton.mp hmem]

/-- The run before a task is done that is taken off. -/
theorem Passing.cancel (h : Passing limit r) {t : Agenda.Task Job} (hdue : t.due ≤ limit) :
    Passing limit { r with agenda := (r.agenda.wait t.due).cancel t.id } := by
  refine ⟨Timers.cancel (Timers.wait h.timed _) _, Nat.max_le.mpr ⟨h.now_le, hdue⟩, ?_, ?_⟩
  · refine Nat.le_trans ?_ h.asking_le
    exact (List.filter_sublist.filter _).length_le
  · intro u hu
    exact h.call_due u (Agenda.mem_cancel.mp hu).1

/-- A lookup that begins makes a call that is due at once, so that its text is still on its way. -/
theorem Passing.lookUp (h : Passing limit r) {id due : Nat} {text : String}
    (hask : r.asking = [⟨id, due, .lookUp text⟩]) (hdue : due ≤ limit) :
    let next := { r with agenda := (r.agenda.wait due).cancel id }.perform (.lookUp text)
    Passing limit next ∧ Keeps limit r next := by
  intro next
  have hcancelled := h.cancel (t := ⟨id, due, .lookUp text⟩) hdue
  have hnone : Suggestion.asking ((r.agenda.wait due).cancel id).tasks = [] :=
    asking_cancel_of_eq hask
  have hcall : next.asking =
      [⟨r.agenda.count, max r.agenda.now due + 0, .call r.input.issue.1 text⟩] := by
    refine (asking_add _ _ _).trans ?_
    rw [hnone]
    rfl
  have hnow : max r.agenda.now due + 0 ≤ limit := hcancelled.now_le
  refine ⟨⟨hcancelled.timed.perform _, hcancelled.now_le, ?_, ?_⟩, ⟨?_, ?_, rfl, ?_⟩⟩
  · rw [hcall]
    exact Nat.le_refl 1
  · intro u hu hjob
    rcases Timers.mem_add hu with hu | rfl
    · exact hcancelled.call_due u hu hjob
    · exact hnow
  · rw [hcall, hask, textsBy_singleton hnow rfl, textsBy_singleton hdue rfl]
    rfl
  · rw [hcall, hask, tasksAfter_singleton hnow, tasksAfter_singleton hdue]
  · exact settings_perform _ _

/-- A call takes the text to the backend. -/
theorem Passing.call (h : Passing limit r) {id due : Nat} {ticket : Ticket} {text : String}
    (hask : r.asking = [⟨id, due, .call ticket text⟩]) (hdue : due ≤ limit) :
    let next := { r with agenda := (r.agenda.wait due).cancel id }.perform (.call ticket text)
    Passing limit next ∧ Keeps limit r next := by
  intro next
  have hcancelled := h.cancel (t := ⟨id, due, .call ticket text⟩) hdue
  have hagenda : next.agenda = (r.agenda.wait due).cancel id := agenda_perform_call _ _ _
  have hnone : next.asking = [] := by
    rw [asking, hagenda]
    exact asking_cancel_of_eq hask
  refine ⟨⟨hcancelled.timed.perform _, ?_, ?_, ?_⟩, ⟨?_, ?_, live_perform _ _, ?_⟩⟩
  · rw [hagenda]
    exact hcancelled.now_le
  · rw [hnone]
    exact Nat.zero_le 1
  · rw [hagenda]
    exact hcancelled.call_due
  · rw [texts_perform_call, hnone, hask, textsBy_singleton hdue rfl]
    exact List.append_nil _
  · rw [hnone, hask, tasksAfter_singleton hdue]
    rfl
  · exact settings_perform _ _

/-- A task that brings no text to the backend changes nothing about those that do. -/
theorem Passing.other (h : Passing limit r) {t : Agenda.Task Job} (ht : t ∈ r.agenda.tasks)
    (hdue : t.due ≤ limit) (hjob : t.job.asks = false) :
    let next := { r with agenda := (r.agenda.wait t.due).cancel t.id }.perform t.job
    Passing limit next ∧ Keeps limit r next := by
  intro next
  have hcancelled := h.cancel hdue
  have hsame : Suggestion.asking ((r.agenda.wait t.due).cancel t.id).tasks = r.asking :=
    asking_cancel_of_not_asks (h.timed.ordered.wait t.due) ht hjob
  have hagenda : next.agenda = (r.agenda.wait t.due).cancel t.id ∧ next.calls = r.calls := by
    cases hcase : t.job with
    | hide => simp only [next, hcase]; exact ⟨rfl, rfl⟩
    | deliver ticket text result => simp only [next, hcase]; exact ⟨rfl, rfl⟩
    | lookUp text =>
        rw [hcase] at hjob
        cases hjob
    | call ticket text =>
        rw [hcase] at hjob
        cases hjob
  have hasking : next.asking = r.asking := by
    rw [asking, hagenda.1, hsame]
  refine ⟨⟨hcancelled.timed.perform _, ?_, ?_, ?_⟩, ⟨?_, ?_, live_perform _ _, ?_⟩⟩
  · rw [hagenda.1]
    exact hcancelled.now_le
  · rw [hasking]
    exact h.asking_le
  · rw [hagenda.1]
    exact hcancelled.call_due
  · rw [hagenda.2, hasking]
  · rw [hasking]
  · exact settings_perform _ _

theorem Passing.next? (h : Passing limit r) (hnext : r.next? limit = some next) :
    Passing limit next ∧ Keeps limit r next := by
  obtain ⟨t, hmem, hdue, rfl⟩ := next?_eq_some hnext
  cases hasks : t.job.asks with
  | false => exact h.other hmem hdue hasks
  | true =>
      have hask := h.asking_eq hmem hasks
      obtain ⟨id, due, job⟩ := t
      cases job with
      | lookUp text => exact h.lookUp hask hdue
      | call ticket text => exact h.call hask hdue
      | hide => cases hasks
      | deliver ticket text result => cases hasks

/-! ## Everything that is due -/

/-- How many tasks are still to be done, those counted that the ones put down make. -/
def load (r : Run) : Nat :=
  r.agenda.tasks.length + r.agenda.tasks.countP fun t => t.job.isLookUp

theorem load_le (r : Run) : r.load ≤ 2 * r.agenda.tasks.length := by
  have hle : r.agenda.tasks.countP (fun t => t.job.isLookUp) ≤ r.agenda.tasks.length :=
    List.countP_le_length
  rw [load]
  omega

theorem load_perform_le (r : Run) (job : Job) :
    (r.perform job).load ≤ r.load + if job.isLookUp then 1 else 0 := by
  cases job with
  | lookUp text =>
      simp only [load, perform, Agenda.add, List.length_append, List.countP_append]
      exact Nat.le_of_eq (by simp [Job.isLookUp]; omega)
  | call ticket text =>
      rw [load, agenda_perform_call]
      exact Nat.le_refl _
  | hide => exact Nat.le_refl _
  | deliver ticket text result => exact Nat.le_refl _

/-- Each task that is done leaves less to do. -/
theorem Timed.load_lt (h : r.Timed) (hnext : r.next? limit = some next) : next.load < r.load := by
  obtain ⟨t, hmem, -, rfl⟩ := next?_eq_some hnext
  have hperm := (h.ordered.wait t.due).perm_cancel hmem
  have hlength := hperm.length_eq
  have hcount := hperm.countP_eq fun u => u.job.isLookUp
  have hperform := load_perform_le { r with agenda := (r.agenda.wait t.due).cancel t.id } t.job
  rw [List.length_cons] at hlength
  rw [List.countP_cons] at hcount
  change _ ≤ ((r.agenda.wait t.due).cancel t.id).tasks.length +
    ((r.agenda.wait t.due).cancel t.id).tasks.countP _ + _ at hperform
  change r.agenda.tasks.length = _ at hlength
  change r.agenda.tasks.countP _ = _ at hcount
  rw [load.eq_def r]
  omega

/-- With enough fuel nothing is left that is due. -/
theorem Passing.performDue (h : Passing limit r) {fuel : Nat} (hfuel : r.load ≤ fuel) :
    let last := performDue limit fuel r
    Passing limit last ∧ Keeps limit r last ∧ last.next? limit = none := by
  induction fuel generalizing r with
  | zero =>
      refine ⟨h, Keeps.refl limit r, ?_⟩
      cases hnext : r.next? limit with
      | none => exact hnext
      | some next =>
          have hlt := h.timed.load_lt hnext
          omega
  | succ fuel ih =>
      rw [Run.performDue]
      cases hnext : r.next? limit with
      | none => exact ⟨h, Keeps.refl limit r, hnext⟩
      | some next =>
          obtain ⟨hpassing, hkeeps⟩ := h.next? hnext
          have hlt := h.timed.load_lt hnext
          obtain ⟨hlast, hrest, hnone⟩ := ih hpassing (by omega)
          exact ⟨hlast, hkeeps.trans hrest, hnone⟩

/-! ## Between events -/

/-- Between events no lookup that has begun waits for its call, and a closed input waits for
nothing. -/
structure Resting (r : Run) : Prop where
  timed : r.Timed
  uncalled_eq : r.uncalled = 0
  closed : r.live = false → r.asking = []

theorem resting_start (settings : SuggestionSettings) (backend : String → Option Result) :
    (start settings backend).Resting :=
  ⟨timed_start settings backend, rfl, fun hlive => Bool.noConfusion hlive⟩

theorem Resting.not_call (h : r.Resting) {t : Agenda.Task Job} (ht : t ∈ r.agenda.tasks) :
    t.job.isCall = false :=
  Bool.eq_false_iff.mpr (List.countP_eq_zero.mp h.uncalled_eq t ht)

/-- The texts that are on their way are those that wait for their quiet period, and this is the last
edit's at most. -/
theorem Resting.asking_le (h : r.Resting) : r.asking.length ≤ 1 := by
  have hslot : ∀ t ∈ r.asking, r.debounce = some t.id := by
    intro t ht
    obtain ⟨hmem, hasks⟩ := mem_asking.mp ht
    refine (h.timed.debounce_iff t hmem).mpr ?_
    have hcall := h.not_call hmem
    cases hjob : t.job with
    | lookUp text => rfl
    | call ticket text =>
        rw [hjob] at hcall
        cases hcall
    | hide =>
        rw [hjob] at hasks
        cases hasks
    | deliver ticket text result =>
        rw [hjob] at hasks
        cases hasks
  exact length_asking_le_one h.timed.ordered hslot

theorem Resting.passing (h : r.Resting) (hnow : r.agenda.now ≤ limit) : Passing limit r := by
  refine ⟨h.timed, hnow, h.asking_le, fun t ht hjob => ?_⟩
  rw [h.not_call ht] at hjob
  cases hjob

/-- How a run goes on from one resting state to the next: how far the clock goes, which texts reach
the backend, and which tasks bring one later. -/
structure Proceeds (delay : Nat) (texts : List String) (waiting : List (Agenda.Task Job))
    (r next : Run) : Prop where
  resting : next.Resting
  now_eq : next.agenda.now = r.agenda.now + delay
  texts_eq : next.calls.map Call.text = r.calls.map Call.text ++ texts
  asking_eq : next.asking = waiting
  settings_eq : next.input.settings = r.input.settings

/-- Once the time has passed, every task that is left is due later. -/
theorem Resting.lt_due_advance (h : r.Resting) (delay : Nat) :
    ∀ t ∈ (r.advance delay).agenda.tasks, r.agenda.now + delay < t.due := by
  obtain ⟨-, -, hnone⟩ :=
    (h.passing (Nat.le_add_right r.agenda.now delay)).performDue r.load_le
  intro t ht
  exact Agenda.lt_due_of_next?_eq_none (Option.map_eq_none_iff.mp hnone) ht

/-- The texts that are due when the time has passed reach the backend, in their order, and all
others are put off as they were. -/
theorem Resting.advance (h : r.Resting) (delay : Nat) :
    Proceeds delay (textsBy (r.agenda.now + delay) r.asking)
      (tasksAfter (r.agenda.now + delay) r.asking) r (r.advance delay) ∧
    (r.advance delay).live = r.live := by
  obtain ⟨hlast, hkeeps, -⟩ :=
    (h.passing (Nat.le_add_right r.agenda.now delay)).performDue r.load_le
  let last := performDue (r.agenda.now + delay) (2 * r.agenda.tasks.length) r
  have hlater : ∀ t ∈ last.agenda.tasks, r.agenda.now + delay < t.due := h.lt_due_advance delay
  have hlaterAsking : ∀ t ∈ last.asking, r.agenda.now + delay < t.due :=
    fun t ht => hlater t (mem_asking.mp ht).1
  have htexts : textsBy (r.agenda.now + delay) last.asking = [] := by
    rw [textsBy, List.filter_eq_nil_iff.mpr, List.filterMap_nil]
    intro t ht
    simpa using hlaterAsking t ht
  have hafter : tasksAfter (r.agenda.now + delay) last.asking = last.asking :=
    List.filter_eq_self.mpr fun t ht => decide_eq_true (hlaterAsking t ht)
  have hasking : last.asking = tasksAfter (r.agenda.now + delay) r.asking :=
    hafter.symm.trans hkeeps.tasksAfter_eq
  have hcalls := hkeeps.texts_eq
  refine ⟨⟨⟨Timers.wait hlast.timed _, ?_, ?_⟩, Nat.max_eq_right hlast.now_le, ?_, hasking,
    hkeeps.settings_eq⟩, hkeeps.live_eq⟩
  · refine List.countP_eq_zero.mpr fun t ht hcall => ?_
    exact Nat.not_le_of_gt (hlater t ht) (hlast.call_due t ht hcall)
  · intro hlive
    rw [show (r.advance delay).asking = last.asking from rfl, hasking,
      h.closed (hkeeps.live_eq.symm.trans hlive)]
    rfl
  · rw [htexts, List.append_nil] at hcalls
    exact hcalls

end Run

end Storefront.Suggestion
