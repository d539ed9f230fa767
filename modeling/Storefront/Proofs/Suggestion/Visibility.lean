import Storefront.Proofs.Suggestion.Origin
import Storefront.Proofs.Suggestion.Punctual

/-! # When the list is shown

The list is shown only where there is one, and only while the input has the focus or the grace delay
after a blur runs. Once that is over the list stays hidden until the input is focused or edited. -/

namespace Storefront.Suggestion

/-- Whether an act is part of a lookup, and neither the visitor's doing nor a timer's. -/
def Act.isFetch : Act → Bool
  | .lookUp _ | .deliver .. => true
  | _ => false

/-- Whether an event is an operation upon the input. -/
def Step.isOperation (s : Step) : Bool :=
  s.act?.isSome

/-- Whether an event can show the list again. -/
def Step.reopens : Step → Bool
  | .edit _ | .focus => true
  | _ => false

namespace Input

variable {i : Input}

/-! ## One act -/

/-- Where a list is shown without the focus, it was shown before, and the focus is just lost or was
not there either. -/
theorem visible_act {a : Act} (hvisible : (i.act a).view.visible = true)
    (hfocused : (i.act a).view.focused = false) :
    i.view.visible = true ∧
      (a = .blur ∨ a = .close ∨ (a.isFetch = true ∧ i.view.focused = false)) := by
  rw [view_act] at hvisible hfocused
  cases a with
  | edit text =>
      rw [viewAfter] at hfocused
      split at hfocused <;> cases hfocused
  | choose text => cases hvisible
  | submit => cases hvisible
  | blur => exact ⟨hvisible, .inl rfl⟩
  | focus => cases hfocused
  | hide =>
      rw [viewAfter] at hvisible hfocused
      split at hvisible
      · rename_i hfocus
        rw [if_pos hfocus, hfocus] at hfocused
        cases hfocused
      · cases hvisible
  | close => exact ⟨hvisible, .inr (.inl rfl)⟩
  | lookUp text => exact ⟨hvisible, .inr (.inr ⟨rfl, hfocused⟩)⟩
  | deliver ticket text result =>
      rw [viewAfter] at hvisible hfocused
      split at hvisible
      · rename_i hcurrent
        rw [if_pos hcurrent] at hfocused
        cases result with
        | ok suggestions =>
            have hshown : (!suggestions.isEmpty && i.view.focused) = true := hvisible
            rw [Bool.and_eq_true] at hshown
            cases hfocused.symm.trans hshown.2
        | error e => cases hvisible
      · rename_i hstale
        rw [if_neg hstale] at hfocused
        exact ⟨hvisible, .inr (.inr ⟨rfl, hfocused⟩)⟩

/-- The focus comes by a focus or an edit only. -/
theorem focused_act {a : Act} (hfocused : (i.act a).view.focused = true) :
    i.view.focused = true ∨ a = .focus ∨ ∃ text, a = .edit text := by
  rw [view_act] at hfocused
  cases a with
  | edit text => exact .inr (.inr ⟨text, rfl⟩)
  | focus => exact .inr (.inl rfl)
  | blur => cases hfocused
  | hide =>
      rw [viewAfter] at hfocused
      split at hfocused <;> exact .inl hfocused
  | deliver ticket text result =>
      rw [viewAfter] at hfocused
      split at hfocused
      · cases result <;> exact .inl hfocused
      · exact .inl hfocused
  | _ => exact .inl hfocused

/-- What is part of a lookup changes nothing that is shown unless it is a reply that counts. -/
theorem view_act_of_isFetch {a : Act} (ha : a.isFetch = true)
    (hreply : ∀ reply, i.reply? a = some reply → reply.accepted = false) :
    (i.act a).view = i.view := by
  rw [view_act]
  cases a with
  | lookUp text => rfl
  | deliver ticket text result =>
      have hstale : i.lookups.isCurrent ticket = false := hreply _ rfl
      rw [viewAfter, if_neg (Bool.eq_false_iff.mp hstale)]
  | _ => cases ha

/-- A list that is shown has something in it. -/
def Stocked (i : Input) : Prop :=
  i.view.visible = true → i.view.suggestions ≠ []

theorem stocked_start (settings : SuggestionSettings) : (start settings).Stocked := by
  intro hvisible
  cases hvisible

theorem Stocked.act (h : i.Stocked) (a : Act) : (i.act a).Stocked := by
  intro hvisible
  rw [view_act] at hvisible ⊢
  cases a with
  | edit text =>
      rw [viewAfter] at hvisible ⊢
      split at hvisible
      · cases hvisible
      · rw [if_neg ‹_›]
        exact h hvisible
  | choose text => cases hvisible
  | submit => cases hvisible
  | blur => exact h hvisible
  | focus =>
      have hshown : i.view.suggestions ≠ [] ∧ i.view.suggestionsFor = i.view.draft := by
        simpa [viewAfter] using hvisible
      exact hshown.1
  | hide =>
      rw [viewAfter] at hvisible ⊢
      split at hvisible
      · rw [if_pos ‹_›]
        exact h hvisible
      · cases hvisible
  | close => exact h hvisible
  | lookUp text => exact h hvisible
  | deliver ticket text result =>
      rw [viewAfter] at hvisible ⊢
      split at hvisible
      · rw [if_pos ‹_›]
        cases result with
        | ok suggestions =>
            have hshown : suggestions ≠ [] ∧ i.view.focused = true := by
              simpa [View.taking] using hvisible
            exact hshown.1
        | error e => cases hvisible
      · rw [if_neg ‹_›]
        exact h hvisible

theorem Stocked.acts (h : i.Stocked) (as : List Act) : (i.acts as).Stocked := by
  induction as generalizing i with
  | nil => exact h
  | cons a as ih => exact ih (h.act a)

end Input

namespace Run

variable {r next : Run} {a? : Option Act} {m : Move} {due : Nat}

/-! ## The grace delay -/

/-- The timer of the latest blur runs until a time. -/
def Fades (r : Run) (due : Nat) : Prop :=
  ∃ t ∈ r.agenda.tasks, r.blur = some t.id ∧ t.job = .hide ∧ t.due = due

/-- A blur starts the timer of its grace delay. -/
theorem fades_leave (r : Run) : r.leave.Fades (r.agenda.now + r.input.settings.blurGrace) := by
  let task : Agenda.Task Job := ⟨r.agenda.count, r.agenda.now + r.input.settings.blurGrace, .hide⟩
  have hsettings : r.input.blur.settings = r.input.settings := Input.settings_act r.input .blur
  let cleared := cancelBlur { r with input := r.input.blur }
  have hcount : cleared.agenda.count = r.agenda.count := Agenda.count_cancelSlot _
  have hnow : cleared.agenda.now = r.agenda.now := Agenda.now_cancelSlot _
  have htasks : r.leave.agenda.tasks = cleared.agenda.tasks ++ [task] := by
    change cleared.agenda.tasks ++ [_] = _
    rw [hcount, hnow]
    exact congrArg (fun s : SuggestionSettings => cleared.agenda.tasks ++
      [⟨r.agenda.count, r.agenda.now + s.blurGrace, .hide⟩]) hsettings
  refine ⟨task, ?_, congrArg some hcount, rfl, rfl⟩
  rw [htasks]
  exact List.mem_append_right _ List.mem_cons_self

/-- Doing a job takes off no task, and concerns no timer of a blur. -/
theorem perform_keeps (r : Run) (job : Job) :
    (∀ t ∈ r.agenda.tasks, t ∈ (r.perform job).agenda.tasks) ∧ (r.perform job).blur = r.blur := by
  cases job with
  | lookUp text => exact ⟨fun t ht => List.mem_append_left _ ht, rfl⟩
  | hide => exact ⟨fun _ ht => ht, rfl⟩
  | call ticket text =>
      rw [agenda_perform_call]
      refine ⟨fun _ ht => ht, ?_⟩
      rw [perform]
      split <;> rfl
  | deliver ticket text result => exact ⟨fun _ ht => ht, rfl⟩

/-- What is part of a lookup leaves the timer of a blur alone. -/
theorem Moved.fades (hmoved : Moved r a? next) (h : r.Timed)
    (hfetch : ∀ a, a? = some a → a.isFetch = true) (hfades : r.Fades due) : next.Fades due := by
  cases hmoved with
  | edit text live => cases hfetch _ rfl
  | choose text live => cases hfetch _ rfl
  | submit live => cases hfetch _ rfl
  | blur live => cases hfetch _ rfl
  | focus live => cases hfetch _ rfl
  | close live => cases hfetch _ rfl
  | stopReceiving => exact hfades
  | wait delay => exact hfades
  | nothing => exact hfades
  | resolve call result =>
      obtain ⟨t, hmem, hslot, hjob, hdue⟩ := hfades
      rcases r.resolve_cases call result with heq | ⟨c, -, -, heq⟩ <;> rw [heq]
      · exact ⟨t, hmem, hslot, hjob, hdue⟩
      · exact ⟨t, List.mem_append_left _ hmem, hslot, hjob, hdue⟩
  | @task u mem =>
      obtain ⟨t, hmem, hslot, hjob, hdue⟩ := hfades
      have hne : t.id ≠ u.id := by
        intro hid
        obtain rfl := h.ordered.eq_of_id_eq hmem mem hid
        have hhide := hfetch .hide (by rw [hjob]; rfl)
        cases hhide
      obtain ⟨hkept, hblur⟩ := perform_keeps { r with agenda := r.agenda.cancel u.id } u.job
      exact ⟨t, hkept t (Agenda.mem_cancel.mpr ⟨hmem, hne⟩), hblur.trans hslot, hjob, hdue⟩

/-- An input that is live was live before, and is not just closed. -/
theorem Moved.live (hmoved : Moved r a? next) (hlive : next.live = true) :
    r.live = true ∧ a? ≠ some .close := by
  cases hmoved with
  | edit text live => exact ⟨live, nofun⟩
  | choose text live => exact ⟨live, nofun⟩
  | submit live => exact ⟨live, nofun⟩
  | blur live => exact ⟨live, nofun⟩
  | focus live => exact ⟨live, nofun⟩
  | close live => cases hlive
  | stopReceiving => exact ⟨hlive, nofun⟩
  | wait delay => exact ⟨hlive, nofun⟩
  | nothing => exact ⟨hlive, nofun⟩
  | resolve call result =>
      rcases r.resolve_cases call result with heq | ⟨c, -, -, heq⟩ <;> rw [heq] at hlive
      · exact ⟨hlive, nofun⟩
      · exact ⟨hlive, nofun⟩
  | task mem =>
      rw [live_perform] at hlive
      refine ⟨hlive, fun hclose => ?_⟩
      rcases jobAct?_cases hclose with ⟨_, -, ha⟩ | ⟨-, ha⟩ | ⟨_, _, _, ha⟩ <;> cases ha

/-- While a list is shown without the focus, the timer of the latest blur runs. -/
theorem Timed.fades_of_visible (h : r.Timed) (hhidden : r.input.view.visible = false)
    (ms : List Move) :
    let last := r.moves ms
    last.live = true → last.input.view.visible = true → last.input.view.focused = false →
      ∃ earlier later, ms = earlier ++ .event .blur :: later ∧ Move.event .blur ∉ later ∧
        last.Fades ((r.moves earlier).agenda.now + r.input.settings.blurGrace) := by
  induction ms using List.reverseRecOn with
  | nil =>
      intro _ _ hvisible _
      cases hhidden.symm.trans hvisible
  | append_singleton ms m ih =>
      rw [moves_append]
      intro last hlive hvisible hfocused
      have hmoved : Moved (r.moves ms) ((r.moves ms).act? m) last := (r.moves ms).moved m
      obtain ⟨hlive', hclose⟩ := hmoved.live hlive
      -- A move that is no blur and leaves the list shown goes on with the timer that runs.
      have hkeep : (∀ a, (r.moves ms).act? m = some a → a.isFetch = true) →
          (r.moves ms).input.view.visible = true → (r.moves ms).input.view.focused = false →
          ∃ earlier later, ms ++ [m] = earlier ++ .event .blur :: later ∧
            Move.event .blur ∉ later ∧
            last.Fades ((r.moves earlier).agenda.now + r.input.settings.blurGrace) := by
        intro hfetch hvisible hfocused
        obtain ⟨earlier, later, rfl, hlatest, hfades⟩ := ih hlive' hvisible hfocused
        refine ⟨earlier, later ++ [m], by simp, ?_, hmoved.fades (h.moves _) hfetch hfades⟩
        intro hmem
        rcases List.mem_append.mp hmem with hmem | hmem
        · exact hlatest hmem
        · obtain rfl := List.mem_singleton.mp hmem
          cases hfetch .blur (if_pos hlive')
      have hinput := hmoved.input_eq
      cases hact : (r.moves ms).act? m with
      | none =>
          rw [hact] at hinput
          refine hkeep (fun a ha => ?_) ?_ ?_
          · cases hact.symm.trans ha
          · rw [← hvisible, hinput]
            rfl
          · rw [← hfocused, hinput]
            rfl
      | some a =>
          rw [hact] at hinput hclose
          rw [hinput] at hvisible hfocused
          obtain ⟨hvisible', hcase⟩ := Input.visible_act hvisible hfocused
          rcases hcase with rfl | rfl | ⟨hfetch, hfocused'⟩
          · obtain rfl := act?_eq_event .blur rfl hact
            refine ⟨ms, [], rfl, List.not_mem_nil, ?_⟩
            have hleave : last = (r.moves ms).leave := if_pos hlive'
            have hsettings : (r.moves ms).input.settings = r.input.settings := by
              rw [input_moves, Input.settings_acts]
            rw [hleave, ← hsettings]
            exact fades_leave _
          · exact absurd rfl hclose
          · refine hkeep (fun a' ha' => ?_) hvisible' hfocused'
            obtain rfl := Option.some.inj (hact.symm.trans ha')
            exact hfetch

/-! ## After a blur -/

/-- The focus is lost, and what is shown is hidden at some time. -/
structure Fading (due : Nat) (r : Run) : Prop where
  unfocused : r.input.view.focused = false
  fades : r.input.view.visible = true → r.Fades due

theorem fading_leave (r : Run) : Fading (r.agenda.now + r.input.settings.blurGrace) r.leave := by
  refine ⟨?_, fun _ => fades_leave r⟩
  change r.input.blur.view.focused = false
  rw [Input.blur, Input.display_view]

/-- Where there is no operation, what happens is that the list is hidden or part of a lookup. -/
theorem act?_of_not_isOperation {a : Act} (hm : ∀ s, m = .event s → s.isOperation = false)
    (h : r.act? m = some a) : a = .hide ∨ a.isFetch = true := by
  rcases act?_eq_some h with ⟨s, rfl, hact⟩ | ⟨t, -, -, hjob⟩
  · have hnone := hm s rfl
    rw [Step.isOperation, hact] at hnone
    cases hnone
  · rcases jobAct?_cases hjob with ⟨_, -, rfl⟩ | ⟨-, rfl⟩ | ⟨_, _, _, rfl⟩
    · exact .inr rfl
    · exact .inl rfl
    · exact .inr rfl

/-- Without an operation the focus stays lost, and the timer runs while the list is shown. -/
theorem Timed.fading_move (h : r.Timed) (hfading : Fading due r)
    (hm : ∀ s, m = .event s → s.isOperation = false) : Fading due (r.move m) := by
  have hmoved := r.moved m
  have hinput := hmoved.input_eq
  cases hact : r.act? m with
  | none =>
      rw [hact] at hmoved hinput
      refine ⟨?_, fun hvisible => hmoved.fades h nofun (hfading.fades ?_)⟩
      · rw [hinput]
        exact hfading.unfocused
      · rw [hinput] at hvisible
        exact hvisible
  | some a =>
      rw [hact] at hmoved hinput
      have hquiet := act?_of_not_isOperation hm hact
      have hunfocused : (r.input.act a).view.focused = false := by
        refine Bool.eq_false_iff.mpr fun hfocused => ?_
        rcases Input.focused_act hfocused with hbefore | rfl | ⟨text, rfl⟩
        · cases hfading.unfocused.symm.trans hbefore
        · rcases hquiet with hhide | hfetch
          · cases hhide
          · cases hfetch
        · rcases hquiet with hhide | hfetch
          · cases hhide
          · cases hfetch
      refine ⟨hinput ▸ hunfocused, fun hvisible => ?_⟩
      rw [hinput] at hvisible
      obtain ⟨hvisible', hcase⟩ := Input.visible_act hvisible hunfocused
      have hfetch : a.isFetch = true := by
        rcases hquiet with rfl | hfetch
        · rcases hcase with hblur | hclose | ⟨hfetch, -⟩
          · cases hblur
          · cases hclose
          · exact hfetch
        · exact hfetch
      refine hmoved.fades h (fun a' ha' => ?_) (hfading.fades hvisible')
      obtain rfl := Option.some.inj ha'
      exact hfetch

theorem Timed.fading_moves (h : r.Timed) (hfading : Fading due r) {ms : List Move}
    (hms : ∀ s, Move.event s ∈ ms → s.isOperation = false) : Fading due (r.moves ms) := by
  induction ms generalizing r with
  | nil => exact hfading
  | cons m ms ih =>
      have hfirst := h.fading_move hfading fun s hs => hms s (hs ▸ List.mem_cons_self)
      exact ih (h.moved (r.moved m)) hfirst fun s hs => hms s (List.mem_cons_of_mem _ hs)

/-- Before the timer is due the list stays where it is, unless a reply counts. -/
theorem Timed.visible_move (h : r.Timed) (hvisible : r.input.view.visible = true)
    (hfading : Fading due r) (hm : ∀ s, m = .event s → s.isOperation = false)
    (htimely : ∀ t ∈ r.agenda.tasks, m = .task t.id → t.due ≤ r.agenda.now)
    (hreplies : ∀ reply ∈ r.input.repliesOf (r.act? m).toList, reply.accepted = false)
    (hnow : r.agenda.now < due) : (r.move m).input.view.visible = true := by
  have hinput := (r.moved m).input_eq
  cases hact : r.act? m with
  | none =>
      rw [hact] at hinput
      rw [hinput]
      exact hvisible
  | some a =>
      rw [hact] at hinput hreplies
      rw [hinput]
      rcases act?_of_not_isOperation hm hact with rfl | hfetch
      · obtain ⟨t, hmem, hslot, -, rfl⟩ := hfading.fades hvisible
        obtain ⟨u, humem, hmove, hjob⟩ := act?_eq_hide hact
        have huslot : r.blur = some u.id := by
          refine (h.blur_iff u humem).mpr ?_
          rw [hjob]
          rfl
        have hid : t.id = u.id := Option.some.inj (hslot.symm.trans huslot)
        obtain rfl := h.ordered.eq_of_id_eq hmem humem hid
        have hdue := htimely t hmem hmove
        omega
      · have hview : (r.input.act a).view = r.input.view := by
          refine Input.view_act_of_isFetch hfetch fun reply hreply => hreplies reply ?_
          rw [Option.toList_some, Input.repliesOf, hreply]
          exact List.mem_cons_self
        change (r.input.act a).view.visible = true
        rw [hview]
        exact hvisible

theorem Timed.visible_moves (h : r.Timed) (hvisible : r.input.view.visible = true)
    (hfading : Fading due r) {ms : List Move}
    (hms : ∀ s, Move.event s ∈ ms → s.isOperation = false) (htimely : r.Timely ms)
    (hreplies : ∀ reply ∈ r.input.repliesOf (r.actsOf ms), reply.accepted = false)
    (hnow : (r.moves ms).agenda.now < due) : (r.moves ms).input.view.visible = true := by
  induction ms generalizing r with
  | nil => exact hvisible
  | cons m ms ih =>
      rw [actsOf, Input.repliesOf_append, ← (r.moved m).input_eq] at hreplies
      have hm : ∀ s, m = .event s → s.isOperation = false :=
        fun s hs => hms s (hs ▸ List.mem_cons_self)
      have hnowFirst : r.agenda.now < due := Nat.lt_of_le_of_lt (r.now_le_moves (m :: ms)) hnow
      have hfirst := h.visible_move hvisible hfading hm htimely.1
        (fun reply hreply => hreplies reply (List.mem_append_left _ hreply)) hnowFirst
      exact ih (h.moved (r.moved m)) hfirst (h.fading_move hfading hm)
        (fun s hs => hms s (List.mem_cons_of_mem _ hs)) htimely.2
        (fun reply hreply => hreplies reply (List.mem_append_right _ hreply)) hnow

theorem isOperation_of_mem_movesOver {ms : List Moment}
    (hms : ∀ s, Moment.event s ∈ ms → s.isOperation = false) :
    ∀ s, Move.event s ∈ r.movesOver ms → s.isOperation = false := by
  intro s hs
  rcases event_of_mem_movesOver hs with ⟨delay, rfl⟩ | hmem
  · rfl
  · exact hms s hmem

/-- In the midst of moments without an operation the list stays where it is before the timer is
due. -/
theorem Timed.visible_of_prefix (h : r.Timed) (hvisible : r.input.view.visible = true)
    (hfading : Fading due r) {ms : List Moment} {done : List Move}
    (hms : ∀ s, Moment.event s ∈ ms → s.isOperation = false) (hdone : done <+: r.movesOver ms)
    (hreplies : ∀ reply ∈ r.input.repliesOf (r.actsOf done), reply.accepted = false)
    (hnow : (r.moves done).agenda.now < due) : (r.moves done).input.view.visible = true := by
  obtain ⟨rest, hrest⟩ := hdone
  have htimely : r.Timely (done ++ rest) := hrest ▸ h.timely_movesOver ms
  have hevents : ∀ s, Move.event s ∈ done → s.isOperation = false := by
    intro s hs
    refine isOperation_of_mem_movesOver hms s (r := r) ?_
    rw [← hrest]
    exact List.mem_append_left _ hs
  exact h.visible_moves hvisible hfading hevents (timely_append.mp htimely).1 hreplies hnow

/-- Once everything is done that is due by the end of the grace delay, the list is hidden. -/
theorem Fading.hidden (h : Fading due r) (hlater : ∀ t ∈ r.agenda.tasks, due < t.due) :
    r.input.view.visible = false := by
  refine Bool.eq_false_iff.mpr fun hvisible => ?_
  obtain ⟨t, hmem, -, -, rfl⟩ := h.fades hvisible
  exact Nat.lt_irrefl _ (hlater t hmem)

theorem Resting.hidden_advance (h : r.Resting) (hfading : Fading due r) {ms : List Moment}
    (hms : ∀ s, Moment.event s ∈ ms → s.isOperation = false) {delay : Nat}
    (hdue : due ≤ r.agenda.now + elapsed ms + delay) :
    let last := r.moments (ms ++ [.event (.advance delay)])
    last.input.view.visible = false ∧ last.input.view.focused = false := by
  intro last
  let waited := r.moments ms
  have hwaited : waited.Resting := (h.texts_moments ms).1
  have hclock : waited.agenda.now = r.agenda.now + elapsed ms := h.now_moments ms
  have hlast : last = waited.advance delay := moments_append _ _ _
  have hquiet : ∀ s, Moment.event s ∈ ms ++ [.event (.advance delay)] →
      s.isOperation = false := by
    intro s hs
    rcases List.mem_append.mp hs with hs | hs
    · exact hms s hs
    · obtain rfl := Moment.event.inj (List.mem_singleton.mp hs)
      rfl
  have hlastFading : Fading due last := by
    have hmoves : last = r.moves (r.movesOver (ms ++ [.event (.advance delay)])) :=
      h.timed.moments_eq _
    rw [hmoves]
    exact h.timed.fading_moves hfading (isOperation_of_mem_movesOver hquiet)
  refine ⟨hlastFading.hidden fun t ht => ?_, hlastFading.unfocused⟩
  rw [hlast] at ht
  have hlater := hwaited.lt_due_advance delay t ht
  omega

/-- A list that is hidden without the focus stays so until the input is focused or edited. -/
theorem hidden_moves (hvisible : r.input.view.visible = false)
    (hfocused : r.input.view.focused = false) {ms : List Move}
    (hms : ∀ s, Move.event s ∈ ms → s.reopens = false) :
    (r.moves ms).input.view.visible = false ∧ (r.moves ms).input.view.focused = false := by
  induction ms generalizing r with
  | nil => exact ⟨hvisible, hfocused⟩
  | cons m ms ih =>
      have hinput := (r.moved m).input_eq
      have hrest : ∀ s, Move.event s ∈ ms → s.reopens = false :=
        fun s hs => hms s (List.mem_cons_of_mem _ hs)
      have hm : ∀ s, m = .event s → s.reopens = false :=
        fun s hs => hms s (hs ▸ List.mem_cons_self)
      have hnext : (r.move m).input.view.visible = false ∧
          (r.move m).input.view.focused = false := by
        rw [hinput]
        cases hact : r.act? m with
        | none => exact ⟨hvisible, hfocused⟩
        | some a =>
            have hunfocused : (r.input.act a).view.focused = false := by
              refine Bool.eq_false_iff.mpr fun hfocus => ?_
              rcases Input.focused_act hfocus with hbefore | rfl | ⟨text, rfl⟩
              · cases hfocused.symm.trans hbefore
              · obtain rfl := act?_eq_event .focus rfl hact
                cases hm _ rfl
              · obtain rfl := act?_eq_event (.edit text) rfl hact
                cases hm _ rfl
            refine ⟨Bool.eq_false_iff.mpr fun hshown => ?_, hunfocused⟩
            cases hvisible.symm.trans (Input.visible_act hshown hunfocused).1
      exact ih hnext.1 hnext.2 hrest

/-! ## What is shown -/

/-- The list that is shown was fetched for a text that is not blank. -/
theorem suggestionsFor_of_visible (settings : SuggestionSettings)
    (backend : String → Option Result) (ms : List Move) :
    let v := ((start settings backend).moves ms).input.view
    v.visible = true → v.suggestions ≠ [] ∧ Text.blank v.suggestionsFor = false := by
  intro v hvisible
  let first := start settings backend
  have hinput : (first.moves ms).input = first.input.acts (first.actsOf ms) := input_moves _ _
  have hstocked : (first.moves ms).input.Stocked := by
    rw [hinput]
    exact (Input.stocked_start settings).acts _
  have hshows : (first.moves ms).input.Shows (first.input.repliesOf (first.actsOf ms)) := by
    rw [hinput]
    exact Input.Shows.acts (.inl rfl : first.input.Shows []) _
  have hsome : v.suggestions ≠ [] := hstocked hvisible
  obtain ⟨reply, hlast, -, hfor⟩ := hshows.resolve_left hsome
  have hreply : reply ∈ first.input.repliesOf (first.actsOf ms) :=
    (List.mem_filter.mp (List.mem_of_getLast? hlast)).1
  have hlookup : reply.lookup ∈ first.input.lookupsOf (first.actsOf ms) :=
    (replies_of_lookups settings backend ms).1 _ (List.mem_map_of_mem hreply)
  obtain ⟨earlier, id, later, -, htypes, -, -⟩ :=
    begins_of_mem_lookupsOf (r := first) (fun t ht => nomatch ht) hlookup
  have hlooksUp := htypes.looksUp
  rw [Input.looksUp, Bool.and_eq_true] at hlooksUp
  refine ⟨hsome, ?_⟩
  rw [show v.suggestionsFor = reply.lookup.text from hfor]
  simpa using hlooksUp.1

/-- A list that is shown has something in it and is for a text that is not blank, and the input has
the focus or the timer of the latest blur runs. After a blur without another operation the list is
shown while the clock is before the end of the grace delay and no reply counts. Once tasks are done
at the end of it or later the list is hidden, and stays so whatever replies come until the input is
focused or edited. -/
theorem visible_until_grace_over (settings : SuggestionSettings)
    (backend : String → Option Result) :
    let first := start settings backend
    (∀ ms : List Move,
      let r := first.moves ms
      let v := r.input.view
      r.live = true → v.visible = true →
        v.suggestions ≠ [] ∧ Text.blank v.suggestionsFor = false ∧
        (v.focused = true ∨ ∃ earlier later,
          ms = earlier ++ .event .blur :: later ∧ Move.event .blur ∉ later ∧
          r.Fades ((first.moves earlier).agenda.now + settings.blurGrace))) ∧
    (∀ earlier quiet : List Moment,
      let r := first.moments earlier
      let blurred := r.step .blur
      let expiry := r.agenda.now + settings.blurGrace
      r.live = true → r.input.view.visible = true →
      (∀ s, Moment.event s ∈ quiet → s.isOperation = false) →
        (∀ done, done <+: blurred.movesOver quiet →
          let seen := blurred.moves done
          (∀ reply ∈ blurred.input.repliesOf (blurred.actsOf done), reply.accepted = false) →
          seen.agenda.now < expiry → seen.input.view.visible = true) ∧
        ∀ delay, expiry ≤ r.agenda.now + elapsed quiet + delay →
          ∀ later : List Move, (∀ s, Move.event s ∈ later → s.reopens = false) →
          let last := blurred.moments (quiet ++ [.event (.advance delay)])
          (last.moves later).input.view.visible = false) ∧
    ∀ ms : List Moment, first.moments ms = first.moves (first.movesOver ms) := by
  intro first
  have htimed : first.Timed := timed_start settings backend
  refine ⟨?_, ?_, htimed.moments_eq⟩
  · intro ms r v hlive hvisible
    obtain ⟨hsome, hfor⟩ := suggestionsFor_of_visible settings backend ms hvisible
    refine ⟨hsome, hfor, ?_⟩
    cases hfocused : v.focused with
    | true => exact .inl rfl
    | false => exact .inr (htimed.fades_of_visible rfl ms hlive hvisible hfocused)
  · intro earlier quiet r blurred expiry hlive hvisible hquiet
    have hresting : r.Resting := ((resting_start settings backend).texts_moments earlier).1
    have hsettings : r.input.settings = settings := by
      rw [show r = first.moves (first.movesOver earlier) from htimed.moments_eq earlier,
        input_moves, Input.settings_acts]
      rfl
    have hleave : blurred = r.leave := if_pos hlive
    have hblurred : blurred.Resting := hleave ▸ hresting.leave.resting
    have hnow : blurred.agenda.now = r.agenda.now := hleave ▸ hresting.leave.now_eq
    have hfading : Fading expiry blurred := by
      have hover : expiry = r.agenda.now + r.input.settings.blurGrace := by rw [hsettings]
      rw [hleave, hover]
      exact fading_leave r
    have hshown : blurred.input.view.visible = true := by
      rw [hleave]
      change r.input.blur.view.visible = true
      rw [Input.blur, Input.display_view]
      exact hvisible
    refine ⟨?_, ?_⟩
    · intro done hdone seen hreplies hbefore
      exact hblurred.timed.visible_of_prefix hshown hfading hquiet hdone hreplies hbefore
    · intro delay hover later hlater last
      rw [← hnow] at hover
      obtain ⟨hhidden, hunfocused⟩ := hblurred.hidden_advance hfading hquiet hover
      exact (hidden_moves hhidden hunfocused hlater).1

/-- A list is shown for one millisecond less than the grace delay, and a choice and another blur do
not bring it back. -/
theorem visible_until_grace_over_apple :
    let faded := (start {} fun _ => none).moves [.event (.edit "a"), .task 0, .task 1,
      .event (.resolve 0 (.ok ["apple"])), .task 2, .event .blur]
    let r := (start {} fun _ => none).moments [.event (.edit "a"), .event (.advance 300),
      .event (.resolve 0 (.ok ["apple"])), .event (.advance 0)]
    let blurred := r.step .blur
    let last := blurred.moments [.event (.advance 149), .event (.advance 1)]
    (faded.live = true ∧ faded.input.view.visible = true ∧ faded.input.view.suggestions ≠ []) ∧
    (r.live = true ∧ r.input.view.visible = true) ∧
    (blurred.moves (blurred.movesOver [.event (.advance 149)])).input.view.visible = true ∧
    (last.moves [.event (.choose "b"), .event .blur]).input.view.visible = false := by
  intro faded r blurred last
  obtain ⟨hstates, hblurs, -⟩ := visible_until_grace_over {} fun _ => none
  have hfaded : faded.live = true ∧ faded.input.view.visible = true := by decide +kernel
  have hr : r.live = true ∧ r.input.view.visible = true := by decide +kernel
  have hsome := (hstates _ hfaded.1 hfaded.2).1
  have hquiet : ∀ s, Moment.event s ∈ [.event (.advance 149)] → s.isOperation = false := by
    intro s hs
    obtain rfl := Moment.event.inj (List.mem_singleton.mp hs)
    rfl
  have hlater : ∀ s, Move.event s ∈ [.event (.choose "b"), .event .blur] → s.reopens = false := by
    intro s hs
    rcases List.mem_pair.mp hs with hs | hs <;> obtain rfl := Move.event.inj hs <;> rfl
  have hblur := hblurs _ [.event (.advance 149)] hr.1 hr.2 hquiet
  have hseen := hblur.1 _ (List.prefix_refl _) (by decide +kernel) (by decide +kernel)
  have hover := hblur.2 1 (by decide +kernel) _ hlater
  refine ⟨⟨hfaded.1, hfaded.2, hsome⟩, hr, ?_, ?_⟩
  · subst blurred r
    exact hseen
  · subst last blurred r
    exact hover

end Run

end Storefront.Suggestion
