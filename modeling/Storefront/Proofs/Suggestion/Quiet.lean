import Storefront.Proofs.Suggestion.Advance

/-! # Quiet periods

Which of the texts that are typed reach the backend can be read off what happens after each of them,
with no timers at all: those after which nothing else is typed, submitted or chosen before tasks are
done with the quiet period over. -/

namespace Storefront.Suggestion

/-- What can happen at some time: an event, or the clock going on before any task is done. -/
inductive Moment where
  | event (s : Step)
  | lapse (delay : Nat)

namespace Moment

/-- Whether a text that was typed before is not looked up any more. -/
def interrupts : Moment → Bool
  | .event (.edit _) | .event (.choose _) | .event .submit | .event .close => true
  | _ => false

/-- How far the clock goes on. -/
def duration : Moment → Nat
  | .event (.advance delay) | .lapse delay => delay
  | _ => 0

/-- Whether tasks are done. -/
def runsTasks : Moment → Bool
  | .event (.advance _) => true
  | _ => false

end Moment

def elapsed : List Moment → Nat
  | [] => 0
  | m :: ms => m.duration + elapsed ms

/-- Tasks are done once a delay is over, and nothing interrupts before that. -/
def Rests (delay : Nat) (ms : List Moment) : Prop :=
  ∃ quiet wait later, ms = quiet ++ .event (.advance wait) :: later ∧
    (∀ m ∈ quiet, m.interrupts = false) ∧ delay ≤ elapsed quiet + wait

theorem not_rests_nil (delay : Nat) : ¬Rests delay [] := by
  rintro ⟨quiet, wait, later, hsplit, -, -⟩
  exact List.append_ne_nil_of_right_ne_nil quiet (List.cons_ne_nil _ _) hsplit.symm

theorem rests_cons_iff {delay : Nat} {m : Moment} {ms : List Moment} :
    Rests delay (m :: ms) ↔ (m.runsTasks = true ∧ delay ≤ m.duration) ∨
      (m.interrupts = false ∧ Rests (delay - m.duration) ms) := by
  constructor
  · rintro ⟨quiet, wait, later, hsplit, hquiet, hdelay⟩
    cases quiet with
    | nil =>
        obtain ⟨rfl, rfl⟩ := List.cons.inj hsplit
        exact .inl ⟨rfl, by simpa [elapsed, Moment.duration] using hdelay⟩
    | cons q quiet =>
        obtain ⟨rfl, rfl⟩ := List.cons.inj hsplit
        obtain ⟨hfirst, hrest⟩ := List.forall_mem_cons.mp hquiet
        rw [elapsed] at hdelay
        exact .inr ⟨hfirst, quiet, wait, later, rfl, hrest, by omega⟩
  · rintro (⟨hruns, hdelay⟩ | ⟨hfirst, quiet, wait, later, rfl, hquiet, hdelay⟩)
    · match m with
      | .event (.advance wait) =>
          exact ⟨[], wait, ms, rfl, by simp, by simpa [elapsed, Moment.duration] using hdelay⟩
    · refine ⟨m :: quiet, wait, later, rfl, List.forall_mem_cons.mpr ⟨hfirst, hquiet⟩, ?_⟩
      rw [elapsed]
      omega

instance decidableRests : ∀ delay ms, Decidable (Rests delay ms)
  | delay, [] => isFalse (not_rests_nil delay)
  | delay, m :: ms =>
    have := decidableRests (delay - m.duration) ms
    decidable_of_iff _ rests_cons_iff.symm

/-- The texts that are looked up, in their order: each that is not blank, unless looking up is
disabled, and after which there is rest for the quiet period. -/
def textsAtRest (settings : SuggestionSettings) : List Moment → List String
  | [] => []
  | .event (.edit text) :: ms =>
    if Text.blank text = false ∧ settings.enabled = true ∧ Rests settings.debounce ms then
      text :: textsAtRest settings ms
    else textsAtRest settings ms
  | .event .close :: _ => []
  | _ :: ms => textsAtRest settings ms

namespace Run

/-- Time that lapses passes without any task being done. -/
def moment (r : Run) : Moment → Run
  | .event s => r.step s
  | .lapse delay => r.wait delay

def moments (r : Run) (ms : List Moment) : Run :=
  ms.foldl moment r

theorem moments_append (r : Run) (ms ns : List Moment) :
    r.moments (ms ++ ns) = (r.moments ms).moments ns :=
  List.foldl_append

variable {r next : Run}

/-! ## Moments as moves -/

/-- The moves that a moment is. -/
def momentMoves (r : Run) : Moment → List Move
  | .event s => r.stepMoves s
  | .lapse delay => [.event (.advance delay)]

/-- The moves that moments are, one moment after another. -/
def movesOver (r : Run) : List Moment → List Move
  | [] => []
  | m :: ms => r.momentMoves m ++ (r.moment m).movesOver ms

theorem Timed.moment_eq (h : r.Timed) (m : Moment) : r.moment m = r.moves (r.momentMoves m) := by
  cases m with
  | event s => exact h.step_eq s
  | lapse delay => rfl

theorem Timed.moment (h : r.Timed) (m : Moment) : (r.moment m).Timed := by
  rw [h.moment_eq]
  exact h.moves _

theorem Timed.moments_eq (h : r.Timed) (ms : List Moment) :
    r.moments ms = r.moves (r.movesOver ms) := by
  induction ms generalizing r with
  | nil => rfl
  | cons m ms ih =>
      rw [movesOver, moves_append, ← h.moment_eq, ← ih (h.moment m)]
      rfl

/-! ## One event -/

theorem asking_cancelBlur (h : r.Timed) : r.cancelBlur.asking = r.asking := by
  rw [asking, cancelBlur, Timers.tasks_cancelBlur h]
  refine asking_filter (fun job hjob => ?_) _
  cases job with
  | hide => rfl
  | _ => cases hjob

/-- Once the quiet period is given up no text is on its way. -/
theorem Resting.asking_cancelDebounce (h : r.Resting) : r.cancelDebounce.asking = [] := by
  rw [asking, cancelDebounce, Timers.tasks_cancelDebounce h.timed]
  refine List.filter_eq_nil_iff.mpr fun t ht hasks => ?_
  obtain ⟨hmem, hjob⟩ := List.mem_filter.mp ht
  have hcall := h.not_call hmem
  obtain ⟨id, due, job⟩ := t
  cases job with
  | lookUp text => cases hjob
  | call ticket text => cases hcall
  | hide => cases hasks
  | deliver ticket text result => cases hasks

theorem Resting.cancelBlur (h : r.Resting) : r.cancelBlur.Resting :=
  ⟨h.timed.cancelBlur, (uncalled_cancelBlur h.timed).trans h.uncalled_eq,
    fun hlive => (asking_cancelBlur h.timed).trans (h.closed hlive)⟩

theorem Resting.cancelDebounce (h : r.Resting) : r.cancelDebounce.Resting :=
  ⟨h.timed.cancelDebounce, (uncalled_cancelDebounce h.timed).trans h.uncalled_eq,
    fun _ => h.asking_cancelDebounce⟩

theorem Resting.wait (h : r.Resting) (delay : Nat) : Proceeds delay [] r.asking r (r.wait delay) :=
  ⟨⟨Timers.wait h.timed _, h.uncalled_eq, h.closed⟩, Nat.max_eq_right (Nat.le_add_right _ _),
    (List.append_nil _).symm, rfl, rfl⟩

theorem Resting.leave (h : r.Resting) : Proceeds 0 [] r.asking r r.leave := by
  have hadded : r.leave.asking = r.asking :=
    (asking_add _ _ _).trans ((List.append_nil _).trans (asking_cancelBlur h.timed))
  have huncalled : r.leave.uncalled = 0 :=
    (uncalled_eq_of_add rfl rfl).trans h.cancelBlur.uncalled_eq
  exact ⟨⟨h.timed.leave, huncalled, fun hlive => hadded.trans (h.closed hlive)⟩,
    Agenda.now_cancelSlot _, (List.append_nil _).symm, hadded, Input.settings_act _ .blur⟩

theorem Resting.focus (h : r.Resting) : Proceeds 0 [] r.asking r r.focus :=
  ⟨⟨h.cancelBlur.timed, h.cancelBlur.uncalled_eq, h.cancelBlur.closed⟩, Agenda.now_cancelSlot _,
    (List.append_nil _).symm, asking_cancelBlur h.timed, Input.settings_act _ .focus⟩

theorem Resting.resolve (h : r.Resting) (call : Nat) (result : Result) :
    Proceeds 0 [] r.asking r (r.resolve call result) ∧ (r.resolve call result).live = r.live := by
  have htexts := texts_resolve r call result
  have huncalled := (uncalled_resolve r call result).trans h.uncalled_eq
  have htimed := h.timed.resolve call result
  rcases r.resolve_cases call result with heq | ⟨c, -, -, heq⟩ <;>
    rw [heq] at htexts huncalled htimed ⊢
  · exact ⟨⟨h, rfl, (List.append_nil _).symm, rfl, rfl⟩, rfl⟩
  · have hasking : Suggestion.asking (r.agenda.add 0 (.deliver c.ticket c.text result)).tasks =
        r.asking := (asking_add _ _ _).trans (List.append_nil _)
    exact ⟨⟨⟨htimed, huncalled, fun hlive => hasking.trans (h.closed hlive)⟩, rfl,
      htexts.trans (List.append_nil _).symm, hasking, rfl⟩, rfl⟩

/-- A choice or a submission gives up the text that was on its way. -/
theorem Resting.of_cancelTimers (h : r.Resting)
    (hagenda : next.agenda = r.cancelDebounce.cancelBlur.agenda) (htimed : next.Timed)
    (hcalls : next.calls = r.calls) (hsettings : next.input.settings = r.input.settings) :
    Proceeds 0 [] [] r next := by
  have hcleared : r.cancelDebounce.cancelBlur.asking = [] :=
    (asking_cancelBlur h.cancelDebounce.timed).trans h.asking_cancelDebounce
  have hasking : next.asking = [] := (asking_congr hagenda).trans hcleared
  refine ⟨⟨htimed, ?_, fun _ => hasking⟩, ?_, ?_, hasking, hsettings⟩
  · exact (uncalled_congr hagenda).trans h.cancelDebounce.cancelBlur.uncalled_eq
  · rw [hagenda]
    exact (Agenda.now_cancelSlot _).trans (Agenda.now_cancelSlot _)
  · rw [hcalls, List.append_nil]

theorem Resting.choose (h : r.Resting) (text : String) : Proceeds 0 [] [] r (r.choose text) := by
  obtain ⟨hagenda, hcalls, -⟩ := r.choose_eq text
  refine h.of_cancelTimers hagenda (h.timed.choose text) hcalls ?_
  exact (congrArg Input.settings (input_submitText _ _)).trans (Input.settings_act _ (.choose text))

theorem Resting.submit (h : r.Resting) : Proceeds 0 [] [] r r.submit := by
  obtain ⟨hagenda, hcalls, -⟩ := r.submit_eq
  refine h.of_cancelTimers hagenda h.timed.submit hcalls ?_
  exact (congrArg Input.settings (input_submitText _ _)).trans (Input.settings_act _ .submit)

theorem Resting.close (h : r.Resting) : Proceeds 0 [] [] r r.close :=
  h.of_cancelTimers rfl h.timed.cancelDebounce.cancelBlur rfl rfl

theorem edit_eq (r : Run) (text : String) :
    (r.edit text).agenda =
        (if r.input.looksUp text then
          r.cancelBlur.cancelDebounce.agenda.add r.input.settings.debounce (.lookUp text)
        else r.cancelBlur.cancelDebounce.agenda) ∧
      (r.edit text).calls = r.calls ∧ (r.edit text).live = r.live ∧
      (r.edit text).input.settings = r.input.settings := by
  have hsettings : (r.input.edit text).settings = r.input.settings :=
    Input.settings_act r.input (.edit text)
  have hlooksUp : (r.input.edit text).looksUp text = r.input.looksUp text := by
    rw [Input.looksUp, Input.looksUp, hsettings]
  rw [Run.edit]
  cases hcase : r.input.looksUp text with
  | false => simp [hlooksUp, hcase, hsettings, cancelBlur, cancelDebounce]
  | true => simp [hlooksUp, hcase, hsettings, cancelBlur, cancelDebounce]

/-- An edit puts down a lookup for its text if this is one to look up, and no other text is on its
way. -/
theorem Resting.edit (h : r.Resting) (hlive : r.live = true) (text : String) :
    Proceeds 0 []
      (if r.input.looksUp text then
        [⟨r.agenda.count, r.agenda.now + r.input.settings.debounce, .lookUp text⟩]
      else []) r (r.edit text) := by
  obtain ⟨hagenda, hcalls, hlive', hsettings⟩ := r.edit_eq text
  have hcleared : r.cancelBlur.cancelDebounce.asking = [] := h.cancelBlur.asking_cancelDebounce
  have hnow : r.cancelBlur.cancelDebounce.agenda.now = r.agenda.now :=
    (Agenda.now_cancelSlot _).trans (Agenda.now_cancelSlot _)
  have hcount : r.cancelBlur.cancelDebounce.agenda.count = r.agenda.count :=
    (Agenda.count_cancelSlot _).trans (Agenda.count_cancelSlot _)
  have hclosed : (r.edit text).live = false → (r.edit text).asking = [] := by
    rw [hlive', hlive]
    exact fun hfalse => Bool.noConfusion hfalse
  refine ⟨⟨h.timed.edit text, (uncalled_edit h.timed text).trans h.uncalled_eq, hclosed⟩, ?_,
    by rw [hcalls, List.append_nil], ?_, hsettings⟩
  · rw [hagenda]
    split <;> exact hnow
  · rw [asking, hagenda]
    split
    · refine (asking_add _ _ _).trans ?_
      rw [hnow, hcount]
      exact congrArg (· ++ _) hcleared
    · exact hcleared

/-! ## The texts that are still to come -/

/-- The texts of those tasks after whose deadlines there is rest. -/
def awaited (now : Nat) (ms : List Moment) (ts : List (Agenda.Task Job)) : List String :=
  (ts.filter fun t => decide (Rests (t.due - now) ms)).filterMap fun t => t.job.text?

theorem awaited_of_interrupts {m : Moment} (hm : m.interrupts = true) (now : Nat)
    (ms : List Moment) (ts : List (Agenda.Task Job)) : awaited now (m :: ms) ts = [] := by
  have hnone : ∀ delay, ¬Rests delay (m :: ms) := by
    intro delay hrests
    rcases rests_cons_iff.mp hrests with ⟨hruns, -⟩ | ⟨hquiet, -⟩
    · match m with
      | .event (.advance wait) => cases hm
    · nomatch hm.symm.trans hquiet
  simp [awaited, hnone]

theorem awaited_of_idle {m : Moment} (hm : m.interrupts = false) (hruns : m.runsTasks = false)
    (now : Nat) (ms : List Moment) (ts : List (Agenda.Task Job)) :
    awaited now (m :: ms) ts = awaited (now + m.duration) ms ts := by
  simp only [awaited, rests_cons_iff, hm, hruns, Bool.false_eq_true, false_and, false_or, true_and,
    Nat.sub_sub]

/-- When tasks are done, the one text that is on its way has been looked up or is still to come. -/
theorem awaited_advance {ts : List (Agenda.Task Job)} (hts : ts.length ≤ 1) (now delay : Nat)
    (ms : List Moment) :
    awaited now (.event (.advance delay) :: ms) ts =
      textsBy (now + delay) ts ++ awaited (now + delay) ms (tasksAfter (now + delay) ts) := by
  cases ts with
  | nil => rfl
  | cons t ts =>
      obtain rfl := List.eq_nil_of_length_eq_zero (Nat.le_zero.mp (Nat.le_of_succ_le_succ hts))
      have hiff : Rests (t.due - now) (.event (.advance delay) :: ms) ↔
          t.due ≤ now + delay ∨ Rests (t.due - (now + delay)) ms := by
        rw [rests_cons_iff, Nat.sub_le_iff_le_add', ← Nat.sub_sub]
        simp [Moment.runsTasks, Moment.interrupts, Moment.duration]
      simp only [awaited, textsBy, tasksAfter, List.filter_cons, List.filter_nil, hiff]
      by_cases hdue : t.due ≤ now + delay
      · simp [hdue, Nat.not_lt_of_le hdue]
      · simp [hdue, Nat.lt_of_not_le hdue, List.filter_cons]

/-- The texts that reach the backend in the course of moments that are still to come. -/
def toCome (r : Run) (ms : List Moment) : List String :=
  awaited r.agenda.now ms r.asking ++ if r.live then textsAtRest r.input.settings ms else []

theorem Resting.toCome_of_closed (h : r.Resting) (hlive : r.live = false) (ms : List Moment) :
    r.toCome ms = [] := by
  simp [toCome, awaited, h.closed hlive, hlive]

/-- A run goes on as it was foretold: what has reached the backend and what is to come adds up. -/
structure Foretold (r : Run) (m : Moment) (ms : List Moment) (next : Run) : Prop where
  resting : next.Resting
  settings_eq : next.input.settings = r.input.settings
  texts_eq : next.calls.map Call.text ++ next.toCome ms =
    r.calls.map Call.text ++ r.toCome (m :: ms)

theorem Proceeds.foretold {delay : Nat} {texts : List String}
    {waiting : List (Agenda.Task Job)} (h : Proceeds delay texts waiting r next) {m : Moment}
    {ms : List Moment}
    (htoCome : texts ++ (awaited (r.agenda.now + delay) ms waiting ++
      if next.live then textsAtRest r.input.settings ms else []) = r.toCome (m :: ms)) :
    Foretold r m ms next := by
  refine ⟨h.resting, h.settings_eq, ?_⟩
  rw [h.texts_eq, toCome, h.now_eq, h.asking_eq, h.settings_eq, List.append_assoc, htoCome]

/-- A moment that neither interrupts nor lets tasks be done leaves what is to come as it was. -/
theorem Proceeds.foretold_of_idle {delay : Nat} {m : Moment} {ms : List Moment}
    (h : Proceeds delay [] r.asking r next) (hlive : next.live = r.live)
    (hdelay : m.duration = delay) (hm : m.interrupts = false) (hruns : m.runsTasks = false) :
    Foretold r m ms next := by
  have htexts : textsAtRest r.input.settings (m :: ms) = textsAtRest r.input.settings ms := by
    cases m with
    | lapse delay => rfl
    | event s => cases s <;> first | rfl | nomatch hm
  refine h.foretold ?_
  rw [toCome, awaited_of_idle hm hruns, htexts, hlive, hdelay, List.nil_append]

/-- An event of a closed input does nothing. -/
theorem Resting.foretold_of_live (h : r.Resting) {s : Step} {ms : List Moment}
    (hstep : r.step s = if r.live then next else r)
    (hnext : r.live = true → Foretold r (.event s) ms next) :
    Foretold r (.event s) ms (r.step s) := by
  rw [hstep]
  cases hlive : r.live with
  | false =>
      refine ⟨h, rfl, ?_⟩
      simp [h.toCome_of_closed hlive]
  | true => exact hnext hlive

/-- An event that interrupts leaves nothing to come of what was on its way. -/
theorem Proceeds.foretold_of_interrupts {waiting : List (Agenda.Task Job)}
    (h : Proceeds 0 [] waiting r next) {m : Moment} {ms : List Moment} (hm : m.interrupts = true)
    (htexts : (awaited r.agenda.now ms waiting ++
        if next.live then textsAtRest r.input.settings ms else []) =
      if r.live then textsAtRest r.input.settings (m :: ms) else []) : Foretold r m ms next := by
  refine h.foretold ?_
  rw [toCome, awaited_of_interrupts hm, List.nil_append, List.nil_append]
  exact htexts

theorem textsAtRest_edit (i : Input) (text : String) (ms : List Moment) :
    textsAtRest i.settings (.event (.edit text) :: ms) =
      (if i.looksUp text = true ∧ Rests i.settings.debounce ms then [text] else []) ++
        textsAtRest i.settings ms := by
  have hlooksUp : i.looksUp text = true ↔ Text.blank text = false ∧ i.settings.enabled = true := by
    simp [Input.looksUp]
  simp only [textsAtRest, hlooksUp, and_assoc]
  split <;> rfl

/-- The text that an edit puts on its way is to come if there is rest for the quiet period. -/
theorem awaited_edit (r : Run) (text : String) (ms : List Moment) :
    awaited r.agenda.now ms (if r.input.looksUp text then
        [⟨r.agenda.count, r.agenda.now + r.input.settings.debounce, .lookUp text⟩] else []) =
      if r.input.looksUp text = true ∧ Rests r.input.settings.debounce ms then [text] else [] := by
  by_cases hlooksUp : r.input.looksUp text = true
  · by_cases hrests : Rests r.input.settings.debounce ms <;>
      simp [awaited, hlooksUp, hrests, Job.text?]
  · simp [awaited, hlooksUp]

/-- Every moment goes on as foretold. -/
theorem Resting.moment (h : r.Resting) (m : Moment) (ms : List Moment) :
    Foretold r m ms (r.moment m) := by
  cases m with
  | lapse delay => exact (h.wait delay).foretold_of_idle rfl rfl rfl rfl
  | event s =>
      cases s with
      | advance delay =>
          obtain ⟨hadvance, hlive⟩ := h.advance delay
          refine hadvance.foretold ?_
          rw [toCome, awaited_advance h.asking_le, List.append_assoc, hlive]
          rfl
      | resolve call result =>
          obtain ⟨hresolve, hlive⟩ := h.resolve call result
          exact hresolve.foretold_of_idle hlive rfl rfl rfl
      | stopReceiving =>
          have hstop : Proceeds 0 [] r.asking r r.stopReceiving :=
            ⟨⟨h.timed, h.uncalled_eq, h.closed⟩, rfl, (List.append_nil _).symm, rfl, rfl⟩
          exact hstop.foretold_of_idle rfl rfl rfl rfl
      | blur => exact h.foretold_of_live rfl fun _ => h.leave.foretold_of_idle rfl rfl rfl rfl
      | focus => exact h.foretold_of_live rfl fun _ => h.focus.foretold_of_idle rfl rfl rfl rfl
      | choose text =>
          refine h.foretold_of_live rfl fun _ => (h.choose text).foretold_of_interrupts rfl ?_
          rw [(r.choose_eq text).2.2]
          rfl
      | submit =>
          refine h.foretold_of_live rfl fun _ => h.submit.foretold_of_interrupts rfl ?_
          rw [r.submit_eq.2.2]
          rfl
      | close =>
          refine h.foretold_of_live rfl fun hlive => h.close.foretold_of_interrupts rfl ?_
          rw [hlive]
          rfl
      | edit text =>
          refine h.foretold_of_live rfl fun hlive =>
            (h.edit hlive text).foretold_of_interrupts rfl ?_
          rw [(r.edit_eq text).2.2.1, hlive, awaited_edit, textsAtRest_edit]
          rfl

/-- Whatever has reached the backend, the texts that come to it in the course of more moments are
those that were to come. -/
theorem Resting.texts_moments (h : r.Resting) (ms : List Moment) :
    (r.moments ms).Resting ∧
      (r.moments ms).calls.map Call.text = r.calls.map Call.text ++ r.toCome ms := by
  induction ms generalizing r with
  | nil =>
      refine ⟨h, ?_⟩
      have hnone : r.toCome [] = [] := by simp [toCome, awaited, not_rests_nil, textsAtRest]
      rw [hnone, List.append_nil]
      rfl
  | cons m ms ih =>
      have hmoment := h.moment m ms
      obtain ⟨hresting, htexts⟩ := ih hmoment.resting
      exact ⟨hresting, htexts.trans hmoment.texts_eq⟩

/-! ## The count of requests -/

theorem Timed.called_moves (h : r.Timed) (ms : List Move) :
    (r.input.lookupsOf (r.actsOf ms)).length + r.calls.length + r.uncalled =
      (r.moves ms).calls.length + (r.moves ms).uncalled := by
  induction ms generalizing r with
  | nil => exact congrArg (· + r.uncalled) (Nat.zero_add _)
  | cons m ms ih =>
      have hmoved := r.moved m
      have hrest := ih (h.moved hmoved)
      have hfirst := hmoved.called_eq h
      rw [actsOf, Input.lookupsOf_append, ← hmoved.input_eq, List.length_append, moves_cons]
      omega

/-- Where no call is still to be made, there were as many requests as calls. -/
theorem requests_eq_length_calls (settings : SuggestionSettings)
    (backend : String → Option Result) (ms : List Moment) :
    let r := (start settings backend).moments ms
    r.input.metrics.suggestionRequests = r.calls.length := by
  intro r
  have htimed := timed_start settings backend
  have hresting := ((resting_start settings backend).texts_moments ms).1
  let ns := (start settings backend).movesOver ms
  have hns : r = (start settings backend).moves ns := htimed.moments_eq ms
  have hcalled := htimed.called_moves ns
  have hrequests : r.input.metrics.suggestionRequests =
      0 + ((start settings backend).input.lookupsOf
        ((start settings backend).actsOf ns)).length := by
    rw [hns, input_moves]
    exact Input.requests_acts _ _
  rw [← hns, hresting.uncalled_eq] at hcalled
  change _ + 0 + 0 = r.calls.length + 0 at hcalled
  omega

end Run

/-! ## What leaves the lookups alone -/

/-- A blur, a focus, a reply, or nobody taking what is submitted. -/
def Moment.isAside : Moment → Bool
  | .event .blur | .event .focus | .event (.resolve ..) | .event .stopReceiving => true
  | _ => false

theorem rests_filter_isAside (delay : Nat) (ms : List Moment) :
    Rests delay (ms.filter fun m => !m.isAside) ↔ Rests delay ms := by
  induction ms generalizing delay with
  | nil => rfl
  | cons m ms ih =>
      cases haside : m.isAside with
      | false => rw [List.filter_cons_of_pos (by simp [haside]), rests_cons_iff, rests_cons_iff, ih]
      | true =>
          have hplain : m.runsTasks = false ∧ m.interrupts = false ∧ m.duration = 0 := by
            cases m with
            | lapse delay => cases haside
            | event s => cases s <;> first | exact ⟨rfl, rfl, rfl⟩ | nomatch haside
          rw [List.filter_cons_of_neg (by simp [haside]), rests_cons_iff, ih]
          simp [hplain]

theorem textsAtRest_filter_isAside (settings : SuggestionSettings) (ms : List Moment) :
    textsAtRest settings (ms.filter fun m => !m.isAside) = textsAtRest settings ms := by
  induction ms with
  | nil => rfl
  | cons m ms ih =>
      cases m with
      | lapse delay => exact ih
      | event s =>
          cases s with
          | edit text =>
              have hkept : ((.event (.edit text) :: ms).filter fun m : Moment => !m.isAside) =
                  .event (.edit text) :: ms.filter fun m => !m.isAside := rfl
              rw [hkept]
              simp only [textsAtRest, rests_filter_isAside, ih]
          | close => rfl
          | _ => exact ih

namespace Run

/-- The texts that reach the backend are, in their order, those that were typed and then left alone
until the quiet period was over, each once and as it was typed. There are as many requests, and
neither blur and focus nor replies add, delay or suppress one. -/
theorem calls_eq_textsAtRest (settings : SuggestionSettings) (backend : String → Option Result)
    (ms : List Moment) :
    let r := (start settings backend).moments ms
    r.calls.map Call.text = textsAtRest settings ms ∧
    r.input.metrics.suggestionRequests = (textsAtRest settings ms).length ∧
    ∀ backend', ((start settings backend').moments (ms.filter fun m => !m.isAside)).calls.map
      Call.text = r.calls.map Call.text := by
  have htexts : ∀ backend' ns,
      ((start settings backend').moments ns).calls.map Call.text = textsAtRest settings ns :=
    fun backend' ns => ((resting_start settings backend').texts_moments ns).2
  intro r
  refine ⟨htexts backend ms, ?_, fun backend' => ?_⟩
  · rw [← htexts backend ms, List.length_map]
    exact requests_eq_length_calls settings backend ms
  · rw [htexts backend', htexts backend, textsAtRest_filter_isAside]

/-- Of three edits that follow one another closely, the last one is looked up, and not before its
quiet period is over. -/
example : textsAtRest {} [.event (.edit "a"), .event (.advance 100), .event (.edit "ab"),
    .event (.advance 100), .event (.edit "abc"), .event (.advance 299), .event .blur,
    .event (.advance 1), .event .submit] = ["abc"] := by decide

end Run

end Storefront.Suggestion
