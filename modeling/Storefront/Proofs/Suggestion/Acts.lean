import Storefront.Suggestion.Input

/-! # What happens to the search input

The acts that reach the input one at a time, what they leave of the tickets that are out, and the
record of lookups and replies that they make. -/

namespace Storefront.Suggestion

instance Result.decEq : DecidableEq Result
  | .ok _, .ok _ => decidable_of_iff _ (Except.ok.injEq _ _).symm.to_iff
  | .error _, .error _ => decidable_of_iff _ (Except.error.injEq _ _).symm.to_iff
  | .ok _, .error _ => isFalse nofun
  | .error _, .ok _ => isFalse nofun

/-- What can happen to the input. A lookup begins by `lookUp` and is answered by `deliver`. -/
inductive Act where
  | edit (text : String)
  | choose (text : String)
  | submit
  | blur
  | focus
  | hide
  | close
  | lookUp (text : String)
  | deliver (ticket : Ticket) (text : String) (result : Result)
  deriving DecidableEq

/-- Whether no lookup that is out counts any more after an act. -/
def Act.supersedes : Act → Bool
  | .edit text => Text.blank text
  | .choose _ | .submit | .close | .lookUp _ => true
  | .blur | .focus | .hide | .deliver .. => false

/-- The view once a reply was taken. -/
def View.taking (v : View) (text : String) : Result → View
  | .ok suggestions =>
    { v with
      visible := !suggestions.isEmpty && v.focused, suggestions, suggestionsFor := text }
  | .error _ => v.clear

namespace Input

def act (i : Input) : Act → Input
  | .edit text => i.edit text
  | .choose text => i.choose text
  | .submit => i.submit
  | .blur => i.blur
  | .focus => i.focus
  | .hide => i.hide
  | .close => i.supersede
  | .lookUp _ => i.issue.2
  | .deliver ticket text result => i.deliver ticket text result

def acts (i : Input) (as : List Act) : Input :=
  as.foldl act i

theorem acts_cons (i : Input) (a : Act) (as : List Act) : i.acts (a :: as) = (i.act a).acts as :=
  rfl

theorem acts_append (i : Input) (as bs : List Act) : i.acts (as ++ bs) = (i.acts as).acts bs :=
  List.foldl_append

variable {i : Input}

/-! ## The panel -/

@[simp]
theorem display_view (i : Input) (v : View) : (i.display v).view = v := by
  rw [display]
  split <;> rfl

@[simp]
theorem display_settings (i : Input) (v : View) : (i.display v).settings = i.settings := by
  rw [display]
  split <;> rfl

@[simp]
theorem display_panel (i : Input) (v : View) :
    (i.display v).panel = v.panel i.settings.rowHeight := by
  rw [display]
  split
  · exact Eq.symm ‹_›
  · rfl

@[simp]
theorem display_lookups (i : Input) (v : View) : (i.display v).lookups = i.lookups := by
  rw [display]
  split <;> rfl

@[simp]
theorem display_metrics (i : Input) (v : View) : (i.display v).metrics = i.metrics := by
  rw [display]
  split <;> rfl

/-- The panel last published is the one of the view. -/
def Mirrors (i : Input) : Prop :=
  i.panel = i.view.panel i.settings.rowHeight

theorem mirrors_start (settings : SuggestionSettings) : (start settings).Mirrors := by
  simp [Mirrors, start, View.panel, View.initial, Panel.ofList, Panel.hidden]

theorem mirrors_display (i : Input) (v : View) : (i.display v).Mirrors := by
  rw [Mirrors, display_panel, display_view, display_settings]

/-- What is shown already is not published again. -/
theorem Mirrors.display_self (h : i.Mirrors) : i.display i.view = i :=
  if_pos h.symm

theorem Mirrors.act (h : i.Mirrors) (a : Act) : (i.act a).Mirrors := by
  cases a with
  | edit text =>
      rw [Input.act, edit]
      split <;> exact mirrors_display _ _
  | close => exact h
  | deliver ticket text result =>
      rw [Input.act]
      unfold deliver
      split
      · cases result <;> exact mirrors_display _ _
      · exact mirrors_display _ _
  | choose text => exact mirrors_display _ _
  | submit => exact mirrors_display _ _
  | blur => exact mirrors_display _ _
  | focus => exact mirrors_display _ _
  | hide => exact mirrors_display _ _
  | lookUp text => exact mirrors_display _ _

theorem Mirrors.acts (h : i.Mirrors) (as : List Act) : (i.acts as).Mirrors := by
  induction as generalizing i with
  | nil => exact h
  | cons a as ih => exact ih (h.act a)

@[simp]
theorem settings_act (i : Input) (a : Act) : (i.act a).settings = i.settings := by
  cases a with
  | edit text =>
      rw [Input.act, edit]
      split <;> exact display_settings _ _
  | close => rfl
  | deliver ticket text result =>
      rw [Input.act]
      unfold deliver
      split
      · cases result <;> exact display_settings _ _
      · exact display_settings _ _
  | choose text => exact display_settings _ _
  | submit => exact display_settings _ _
  | blur => exact display_settings _ _
  | focus => exact display_settings _ _
  | hide => exact display_settings _ _
  | lookUp text => exact display_settings _ _

theorem settings_acts (i : Input) (as : List Act) : (i.acts as).settings = i.settings := by
  induction as generalizing i with
  | nil => rfl
  | cons a as ih => rw [acts_cons, ih, settings_act]

/-! ## Replies -/

/-- A reply that does not count changes nothing that is shown. -/
theorem Mirrors.deliver_of_stale (h : i.Mirrors) {ticket : Ticket}
    (hstale : i.lookups.isCurrent ticket = false) (text : String) (result : Result) :
    i.deliver ticket text result = i.record .staleSuggestion := by
  have hrecord : (i.record .staleSuggestion).Mirrors := h
  unfold deliver
  rw [if_neg (Bool.eq_false_iff.mp hstale)]
  exact hrecord.display_self

theorem deliver_ok_of_current {ticket : Ticket} (hcurrent : i.lookups.isCurrent ticket = true)
    (text : String) (suggestions : List String) :
    i.deliver ticket text (.ok suggestions) = i.display { i.view with
      visible := !suggestions.isEmpty && i.view.focused, suggestions, suggestionsFor := text } := by
  rw [deliver, if_pos hcurrent]

theorem deliver_error_of_current {ticket : Ticket} (hcurrent : i.lookups.isCurrent ticket = true)
    (text : String) (e : FetchError) :
    i.deliver ticket text (.error e) = (i.record .suggestionFailure).display i.view.clear := by
  rw [deliver, if_pos hcurrent]

/-- The view after an act, whether the panel is published with it or not. -/
def viewAfter (i : Input) : Act → View
  | .edit text =>
    let v := { i.view with draft := text, focused := true }
    if Text.blank text then v.clear else v
  | .choose text => { i.view with draft := text }.clear
  | .submit => i.view.clear
  | .blur => { i.view with focused := false }
  | .focus =>
    { i.view with
      focused := true
      visible := !i.view.suggestions.isEmpty && i.view.suggestionsFor == i.view.draft }
  | .hide => if i.view.focused then i.view else { i.view with visible := false }
  | .close | .lookUp _ => i.view
  | .deliver ticket text result =>
    if i.lookups.isCurrent ticket then i.view.taking text result else i.view

theorem view_act (i : Input) (a : Act) : (i.act a).view = i.viewAfter a := by
  cases a with
  | edit text =>
      rw [act, edit, viewAfter]
      split <;> exact display_view _ _
  | deliver ticket text result =>
      rw [act, viewAfter]
      unfold deliver
      cases i.lookups.isCurrent ticket with
      | false => exact display_view _ _
      | true => cases result <;> exact display_view _ _
  | close => rfl
  | choose text => exact display_view _ _
  | submit => exact display_view _ _
  | blur => exact display_view _ _
  | focus => exact display_view _ _
  | hide => exact display_view _ _
  | lookUp text => exact display_view _ _

/-! ## Tickets -/

theorem lookups_deliver (i : Input) (ticket : Ticket) (text : String) (result : Result) :
    (i.deliver ticket text result).lookups = i.lookups := by
  unfold deliver
  split
  · cases result <;> exact display_lookups _ _
  · exact display_lookups _ _

/-- An act moves the counter on by one, or leaves it as it was. -/
theorem latest_act (i : Input) (a : Act) :
    (i.act a).lookups.latest = i.lookups.latest + if a.supersedes then 1 else 0 := by
  cases a with
  | edit text =>
      rw [act, edit, Act.supersedes]
      split <;> exact congrArg Generation.latest (display_lookups _ _)
  | deliver ticket text result =>
      exact congrArg Generation.latest (i.lookups_deliver ticket text result)
  | close => rfl
  | choose text => exact congrArg Generation.latest (display_lookups _ _)
  | submit => exact congrArg Generation.latest (display_lookups _ _)
  | blur => exact congrArg Generation.latest (display_lookups _ _)
  | focus => exact congrArg Generation.latest (display_lookups _ _)
  | hide => exact congrArg Generation.latest (display_lookups _ _)
  | lookUp text => exact congrArg Generation.latest (display_lookups _ _)

theorem latest_lookUp (i : Input) (text : String) :
    (i.act (.lookUp text)).lookups.latest = i.issue.1.number :=
  latest_act i (.lookUp text)

theorem latest_acts (i : Input) (as : List Act) :
    (i.acts as).lookups.latest = i.lookups.latest + as.countP Act.supersedes := by
  induction as generalizing i with
  | nil => rfl
  | cons a as ih =>
      rw [acts_cons, ih, latest_act, List.countP_cons, Nat.add_assoc,
        Nat.add_comm (List.countP _ _)]

/-- The ticket of a lookup is current for as long as nothing supersedes it. -/
theorem isCurrent_issue_iff (i : Input) (text : String) (between : List Act) :
    ((i.act (.lookUp text)).acts between).lookups.isCurrent i.issue.1 = true ↔
      ∀ a ∈ between, a.supersedes = false := by
  rw [Generation.isCurrent, latest_acts, latest_lookUp, beq_iff_eq, Nat.add_eq_left,
    List.countP_eq_zero]
  simp only [Bool.not_eq_true]

end Input

/-! ## The record of lookups -/

/-- A lookup that was begun: its ticket and the text it is for. -/
structure Lookup where
  ticket : Ticket
  text : String
  deriving DecidableEq, Repr

/-- The reply to a lookup, and whether the ticket was current when it came. -/
structure Reply where
  lookup : Lookup
  result : Result
  accepted : Bool

/-- What becomes of a lookup with its reply. -/
inductive Verdict where
  | shown
  | failed
  | stale
  deriving DecidableEq

def Reply.verdict (r : Reply) : Verdict :=
  if r.accepted then
    match r.result with
    | .ok _ => .shown
    | .error _ => .failed
  else .stale

/-- The counters once a lookup was answered. -/
def Verdict.count (m : Metrics) : Verdict → Metrics
  | .shown => m
  | .failed => m.record .suggestionFailure
  | .stale => m.record .staleSuggestion

namespace Input

variable {i : Input}

/-- The lookup that an act begins. -/
def begun? (i : Input) : Act → Option Lookup
  | .lookUp text => some ⟨i.issue.1, text⟩
  | _ => none

/-- The reply that an act brings. -/
def reply? (i : Input) : Act → Option Reply
  | .deliver ticket text result => some ⟨⟨ticket, text⟩, result, i.lookups.isCurrent ticket⟩
  | _ => none

/-- The lookups that are begun in the course of acts. -/
def lookupsOf (i : Input) : List Act → List Lookup
  | [] => []
  | a :: as => (i.begun? a).toList ++ (i.act a).lookupsOf as

/-- The replies that come in the course of acts. -/
def repliesOf (i : Input) : List Act → List Reply
  | [] => []
  | a :: as => (i.reply? a).toList ++ (i.act a).repliesOf as

theorem lookupsOf_append (i : Input) (as bs : List Act) :
    i.lookupsOf (as ++ bs) = i.lookupsOf as ++ (i.acts as).lookupsOf bs := by
  induction as generalizing i with
  | nil => rfl
  | cons a as ih => rw [List.cons_append, lookupsOf, lookupsOf, ih, List.append_assoc, acts_cons]

theorem repliesOf_append (i : Input) (as bs : List Act) :
    i.repliesOf (as ++ bs) = i.repliesOf as ++ (i.acts as).repliesOf bs := by
  induction as generalizing i with
  | nil => rfl
  | cons a as ih => rw [List.cons_append, repliesOf, repliesOf, ih, List.append_assoc, acts_cons]

/-- The counters after an act. -/
def counted (i : Input) : Act → Metrics
  | .lookUp _ => i.metrics.record .suggestionRequest
  | .deliver ticket text result =>
    (Reply.verdict ⟨⟨ticket, text⟩, result, i.lookups.isCurrent ticket⟩).count i.metrics
  | _ => i.metrics

theorem metrics_deliver (i : Input) (ticket : Ticket) (text : String) (result : Result) :
    (i.deliver ticket text result).metrics = i.counted (.deliver ticket text result) := by
  rw [counted, Reply.verdict]
  unfold deliver
  cases i.lookups.isCurrent ticket with
  | false => exact display_metrics _ _
  | true => cases result <;> exact display_metrics _ _

theorem metrics_act (i : Input) (a : Act) : (i.act a).metrics = i.counted a := by
  cases a with
  | edit text =>
      rw [act, edit]
      split <;> exact display_metrics _ _
  | deliver ticket text result => exact metrics_deliver i ticket text result
  | lookUp text => exact congrArg (fun m => m.record .suggestionRequest) (display_metrics _ _)
  | close => rfl
  | choose text => exact display_metrics _ _
  | submit => exact display_metrics _ _
  | blur => exact display_metrics _ _
  | focus => exact display_metrics _ _
  | hide => exact display_metrics _ _

/-- Beginning a lookup is what makes a request, and nothing else does. -/
theorem requests_act (i : Input) (a : Act) :
    (i.act a).metrics.suggestionRequests =
      i.metrics.suggestionRequests + (i.begun? a).toList.length := by
  rw [metrics_act]
  cases a with
  | deliver ticket text result =>
      rw [counted]
      cases Reply.verdict ⟨⟨ticket, text⟩, result, i.lookups.isCurrent ticket⟩ <;> rfl
  | _ => rfl

theorem requests_acts (i : Input) (as : List Act) :
    (i.acts as).metrics.suggestionRequests =
      i.metrics.suggestionRequests + (i.lookupsOf as).length := by
  induction as generalizing i with
  | nil => rfl
  | cons a as ih =>
      rw [acts_cons, ih, requests_act, lookupsOf, List.length_append, Nat.add_assoc]

/-- A lookup on record was begun by an act for its text, which handed out its ticket. -/
theorem exists_lookUp_of_mem {as : List Act} {l : Lookup} (h : l ∈ i.lookupsOf as) :
    ∃ earlier between, as = earlier ++ .lookUp l.text :: between ∧
      (i.acts earlier).issue.1 = l.ticket := by
  induction as generalizing i with
  | nil => nomatch h
  | cons a as ih =>
      rcases List.mem_append.mp h with h | h
      · cases a with
        | lookUp text =>
            obtain rfl : l = ⟨i.issue.1, text⟩ := List.mem_singleton.mp h
            exact ⟨[], as, rfl, rfl⟩
        | _ => nomatch h
      · obtain ⟨earlier, between, rfl, hticket⟩ := ih h
        exact ⟨a :: earlier, between, rfl, hticket⟩

/-- Every ticket that was handed out is among those that the counter has passed. -/
theorem ticket_le_of_mem_lookupsOf {as : List Act} {l : Lookup} (h : l ∈ i.lookupsOf as) :
    l.ticket.number ≤ (i.acts as).lookups.latest := by
  obtain ⟨earlier, between, rfl, hticket⟩ := exists_lookUp_of_mem h
  rw [acts_append, acts_cons, latest_acts, latest_lookUp, hticket]
  exact Nat.le_add_right _ _

theorem latest_le_act (i : Input) (a : Act) : i.lookups.latest ≤ (i.act a).lookups.latest := by
  rw [latest_act]
  exact Nat.le_add_right _ _

/-- Tickets are handed out in increasing order, after those that were out before. -/
theorem lookupsOf_increasing (i : Input) (as : List Act) :
    ((i.lookupsOf as).map fun l => l.ticket.number).Pairwise (· < ·) ∧
      ∀ l ∈ i.lookupsOf as, i.lookups.latest < l.ticket.number := by
  induction as generalizing i with
  | nil => exact ⟨List.Pairwise.nil, fun l hl => nomatch hl⟩
  | cons a as ih =>
      obtain ⟨hlt, hbound⟩ := ih (i.act a)
      have hlater : ∀ l ∈ (i.act a).lookupsOf as, i.lookups.latest < l.ticket.number :=
        fun l hl => Nat.lt_of_le_of_lt (i.latest_le_act a) (hbound l hl)
      cases a with
      | lookUp text =>
          rw [latest_lookUp] at hbound
          refine ⟨List.pairwise_cons.mpr ⟨?_, hlt⟩,
            List.forall_mem_cons.mpr ⟨Nat.lt_succ_self _, hlater⟩⟩
          intro n hn
          obtain ⟨l, hl, rfl⟩ := List.mem_map.mp hn
          exact hbound l hl
      | _ => exact ⟨hlt, hlater⟩

/-- The tickets of the replies that were accepted. -/
def acceptedTickets (rs : List Reply) : List Nat :=
  (rs.filter Reply.accepted).map fun r => r.lookup.ticket.number

/-- Each accepted ticket was the latest when its reply came, so they do not decrease. -/
theorem acceptedTickets_monotone (i : Input) (as : List Act) :
    (acceptedTickets (i.repliesOf as)).Pairwise (· ≤ ·) ∧
      ∀ n ∈ acceptedTickets (i.repliesOf as), i.lookups.latest ≤ n := by
  induction as generalizing i with
  | nil => exact ⟨List.Pairwise.nil, fun n hn => nomatch hn⟩
  | cons a as ih =>
      obtain ⟨hle, hbound⟩ := ih (i.act a)
      have hlater : ∀ n ∈ acceptedTickets ((i.act a).repliesOf as), i.lookups.latest ≤ n :=
        fun n hn => Nat.le_trans (i.latest_le_act a) (hbound n hn)
      cases a with
      | deliver ticket text result =>
          cases hcurrent : i.lookups.isCurrent ticket with
          | false =>
              have hskip : acceptedTickets (i.repliesOf (.deliver ticket text result :: as)) =
                  acceptedTickets ((i.act (.deliver ticket text result)).repliesOf as) := by
                simp [acceptedTickets, repliesOf, reply?, hcurrent]
              rw [hskip]
              exact ⟨hle, hlater⟩
          | true =>
              have htake : acceptedTickets (i.repliesOf (.deliver ticket text result :: as)) =
                  ticket.number ::
                    acceptedTickets ((i.act (.deliver ticket text result)).repliesOf as) := by
                simp [acceptedTickets, repliesOf, reply?, hcurrent]
              have hticket : i.lookups.latest = ticket.number := beq_iff_eq.mp hcurrent
              rw [htake]
              exact ⟨List.pairwise_cons.mpr ⟨fun n hn => hticket ▸ hlater n hn, hle⟩,
                List.forall_mem_cons.mpr ⟨Nat.le_of_eq hticket, hlater⟩⟩
      | _ => exact ⟨hle, hlater⟩

/-! ## The list that is shown -/

/-- There are no suggestions, or those of the last reply that was accepted. -/
def Shows (i : Input) (rs : List Reply) : Prop :=
  i.view.suggestions = [] ∨ ∃ r, (rs.filter Reply.accepted).getLast? = some r ∧
    r.result = .ok i.view.suggestions ∧ i.view.suggestionsFor = r.lookup.text

theorem Shows.of_view_eq {j : Input} {rs : List Reply} (h : i.Shows rs)
    (hsuggestions : j.view.suggestions = i.view.suggestions)
    (hfor : j.view.suggestionsFor = i.view.suggestionsFor) : j.Shows rs := by
  rw [Shows, hsuggestions, hfor]
  exact h

theorem shows_of_clear {j : Input} {v : View} (h : j.view = v.clear) (rs : List Reply) :
    j.Shows rs :=
  .inl (by rw [h]; rfl)

theorem Shows.deliver {rs : List Reply} (h : i.Shows rs) (ticket : Ticket) (text : String)
    (result : Result) :
    (i.deliver ticket text result).Shows
      (rs ++ [⟨⟨ticket, text⟩, result, i.lookups.isCurrent ticket⟩]) := by
  cases hcurrent : i.lookups.isCurrent ticket with
  | false =>
      have hview : (i.deliver ticket text result).view = i.view := by
        unfold Input.deliver
        rw [if_neg (Bool.eq_false_iff.mp hcurrent), display_view]
      rw [Shows, hview, List.filter_append, List.filter_cons_of_neg (by simp), List.filter_nil,
        List.append_nil]
      exact h
  | true =>
      cases result with
      | ok suggestions =>
          rw [deliver_ok_of_current hcurrent, Shows, display_view, List.filter_append,
            List.filter_cons_of_pos rfl, List.filter_nil, List.getLast?_concat]
          exact .inr ⟨_, rfl, rfl, rfl⟩
      | error e =>
          rw [deliver_error_of_current hcurrent]
          exact shows_of_clear (display_view _ _) _

theorem Shows.act {rs : List Reply} (h : i.Shows rs) (a : Act) :
    (i.act a).Shows (rs ++ (i.reply? a).toList) := by
  have hsilent : i.reply? a = none → (i.act a).Shows rs →
    (i.act a).Shows (rs ++ (i.reply? a).toList) := by
    intro hreply hshows
    rw [hreply, Option.toList_none, List.append_nil]
    exact hshows
  have hkeep : ∀ v : View, v.suggestions = i.view.suggestions →
    v.suggestionsFor = i.view.suggestionsFor →
      (i.display v).Shows rs :=
    fun v hsuggestions hfor => h.of_view_eq (by rw [display_view, hsuggestions])
      (by rw [display_view, hfor])
  cases a with
  | deliver ticket text result => exact h.deliver ticket text result
  | edit text =>
      refine hsilent rfl ?_
      rw [Input.act, edit]
      split
      · exact shows_of_clear (display_view _ _) _
      · exact hkeep _ rfl rfl
  | hide =>
      refine hsilent rfl (hkeep _ ?_ ?_) <;> split <;> rfl
  | choose text => exact hsilent rfl (shows_of_clear (display_view _ _) _)
  | submit => exact hsilent rfl (shows_of_clear (display_view _ _) _)
  | close => exact hsilent rfl h
  | blur => exact hsilent rfl (hkeep _ rfl rfl)
  | focus => exact hsilent rfl (hkeep _ rfl rfl)
  | lookUp text =>
      exact hsilent rfl (h.of_view_eq (congrArg View.suggestions (display_view _ _))
        (congrArg View.suggestionsFor (display_view _ _)))

theorem Shows.acts {rs : List Reply} (h : i.Shows rs) (as : List Act) :
    (i.acts as).Shows (rs ++ i.repliesOf as) := by
  induction as generalizing i rs with
  | nil =>
      rw [repliesOf, List.append_nil]
      exact h
  | cons a as ih =>
      rw [repliesOf, ← List.append_assoc]
      exact ih (h.act a)

end Input

end Storefront.Suggestion
