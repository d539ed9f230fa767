import Mathlib.Data.List.Induction
import Mathlib.Data.Nat.ModEq
import Storefront.Proofs.TicketDesk.Turn

/-! # Which ticket of a counter is current

A counter has reached the number of its events, so that a ticket has the number of its place among
them and is current until the next of them. Only where 64 bits do not hold the number of events is
a ticket current again: after the next `2 ^ 64` of them. -/

namespace Storefront.TicketDesk

variable {d : TicketDesk} {place handle : Nat} {op : DeskStep} {ops : List DeskStep} {t u : Ticket}

/-! ## A run of operations -/

/-- What happens at the counter of a place over operations, in order. -/
def events (d : TicketDesk) (place : Nat) : List DeskStep → List CounterEvent
  | [] => []
  | op :: ops => (d.event? place op).toList ++ (d.step op).events place ops

/-- The tickets of the counter of a place, in the order in which they are handed out. -/
def tickets (d : TicketDesk) (place : Nat) (ops : List DeskStep) : List Ticket :=
  (d.events place ops).filterMap CounterEvent.ticket?

theorem steps_append (d : TicketDesk) (ops more : List DeskStep) :
    d.steps (ops ++ more) = (d.steps ops).steps more :=
  List.foldl_append

theorem steps_concat (d : TicketDesk) (ops : List DeskStep) (op : DeskStep) :
    d.steps (ops ++ [op]) = (d.steps ops).step op :=
  d.steps_append ops [op]

theorem events_append (d : TicketDesk) (place : Nat) (ops more : List DeskStep) :
    d.events place (ops ++ more) = d.events place ops ++ (d.steps ops).events place more := by
  induction ops generalizing d with
  | nil => rfl
  | cons op ops ih =>
      rw [List.cons_append, events, ih, events, List.append_assoc]
      rfl

theorem events_concat (d : TicketDesk) (place : Nat) (ops : List DeskStep) (op : DeskStep) :
    d.events place (ops ++ [op]) =
      d.events place ops ++ ((d.steps ops).event? place op).toList := by
  rw [events_append, events, events, List.append_nil]

theorem place?_steps (h : d.place? handle = some place) (ops : List DeskStep) :
    (d.steps ops).place? handle = some place := by
  induction ops generalizing d with
  | nil => exact h
  | cons op ops ih => exact ih ((turn_step d op).place?_eq handle place h)

theorem exists_of_mem_tickets (ht : t ∈ start.tickets place ops) :
    ∃ before after, start.events place ops = before ++ .issued t :: after := by
  obtain ⟨e, he, hte⟩ := List.mem_filterMap.mp ht
  obtain rfl := CounterEvent.ticket?_eq_some_iff.mp hte
  exact List.append_of_mem he

/-- A counter has reached the number of its events, as far as 64 bits hold it. -/
theorem latest_steps (ops : List DeskStep) (place : Nat) :
    (start.steps ops).latest place = (start.events place ops).length % twoTo 64 := by
  induction ops using List.reverseRecOn with
  | nil =>
      cases place with
      | zero => rfl
      | succ place => rfl
  | append_singleton ops op ih =>
      have hturn := turn_step (start.steps ops) op
      rw [steps_concat, events_concat, hturn.latest_eq]
      cases hevent : (start.steps ops).event? place op with
      | none => simpa using ih
      | some e =>
          rw [ih, Option.isSome_some, if_pos rfl, Nat.mod_add_mod]
          simp

/-- A ticket is numbered by its place among the events of its counter, from one on. -/
theorem number_of_getElem?_events {i : Nat}
    (h : (start.events place ops)[i]? = some (.issued t)) : t.number = (i + 1) % twoTo 64 := by
  induction ops using List.reverseRecOn with
  | nil => nomatch h
  | append_singleton ops op ih =>
      rw [events_concat] at h
      by_cases hold : i < (start.events place ops).length
      · exact ih ((List.getElem?_append_left hold).symm.trans h)
      · -- it is the very last operation that issued the ticket
        rw [List.getElem?_append_right (Nat.le_of_not_lt hold)] at h
        cases hevent : (start.steps ops).event? place op with
        | none =>
            rw [hevent] at h
            nomatch h
        | some e =>
            obtain ⟨hlast, rfl⟩ : i - (start.events place ops).length = 0 ∧ e = .issued t := by
              simpa [hevent, List.getElem?_singleton] using h
            have hi : i = (start.events place ops).length := by omega
            rw [(turn_step _ op).number_eq place t hevent, latest_steps, hi, Nat.mod_add_mod]

/-- A ticket is current just if the number of events after it is a multiple of `2 ^ 64`. -/
theorem isCurrent?_of_issued {before after : List CounterEvent}
    (hissued : start.events place ops = before ++ .issued t :: after)
    (hplace : (start.steps ops).place? handle = some place) :
    (start.steps ops).isCurrent? handle t = some (after.length % twoTo 64 == 0) := by
  have hget : (start.events place ops)[before.length]? = some (.issued t) := by simp [hissued]
  have hlength : (start.events place ops).length = before.length + 1 + after.length := by
    rw [hissued, List.length_append, List.length_cons]
    omega
  rw [isCurrent?_eq hplace, latest_steps, number_of_getElem?_events hget, hlength,
    Option.some.injEq, Bool.eq_iff_iff, beq_iff_eq, beq_iff_eq]
  exact Nat.add_modEq_left_iff.trans Nat.dvd_iff_mod_eq_zero

/-! ## While 64 bits hold the number of events -/

section

variable (hbound : (start.events place ops).length < twoTo 64)

include hbound

theorem number_eq_of_getElem? {i : Nat} (h : (start.events place ops)[i]? = some (.issued t)) :
    t.number = i + 1 := by
  have hi : i < (start.events place ops).length := (List.getElem?_eq_some_iff.mp h).1
  rw [number_of_getElem?_events h, Nat.mod_eq_of_lt]
  exact Nat.lt_of_le_of_lt hi hbound

theorem isCurrent?_eq_isEmpty {before after : List CounterEvent}
    (hissued : start.events place ops = before ++ .issued t :: after)
    (hplace : (start.steps ops).place? handle = some place) :
    (start.steps ops).isCurrent? handle t = some after.isEmpty := by
  have hafter : after.length < twoTo 64 := by
    rw [hissued, List.length_append, List.length_cons] at hbound
    omega
  rw [isCurrent?_of_issued hissued hplace, Nat.mod_eq_of_lt hafter]
  cases after with
  | nil => rfl
  | cons e after => rfl

theorem pairwise_number_lt :
    (start.tickets place ops).Pairwise fun t u => t.number < u.number := by
  rw [tickets, List.pairwise_filterMap, List.pairwise_iff_getElem]
  intro i j hi hj hlt t ht u hu
  have hfirst : (start.events place ops)[i]? = some (.issued t) := by
    rw [List.getElem?_eq_getElem hi, CounterEvent.ticket?_eq_some_iff.mp ht]
  have hsecond : (start.events place ops)[j]? = some (.issued u) := by
    rw [List.getElem?_eq_getElem hj, CounterEvent.ticket?_eq_some_iff.mp hu]
  rw [number_eq_of_getElem? hbound hfirst, number_eq_of_getElem? hbound hsecond]
  exact Nat.succ_lt_succ hlt

/-- Whatever handle is asked, a ticket that is current is the last event of its counter. -/
theorem getLast?_of_isCurrent? (ht : t ∈ start.tickets place ops)
    (hplace : (start.steps ops).place? handle = some place)
    (hcurrent : (start.steps ops).isCurrent? handle t = some true) :
    (start.events place ops).getLast? = some (.issued t) := by
  obtain ⟨before, after, hissued⟩ := exists_of_mem_tickets ht
  rw [isCurrent?_eq_isEmpty hbound hissued hplace, Option.some.injEq, List.isEmpty_iff] at hcurrent
  rw [hissued, hcurrent, List.getLast?_concat]

end

/-- A ticket that is not current is not current later on either, whatever handle is asked. -/
theorem isCurrent?_of_stale {more : List DeskStep} {other : Nat}
    (hbound : (start.events place (ops ++ more)).length < twoTo 64)
    (ht : t ∈ start.tickets place ops)
    (hplace : (start.steps ops).place? handle = some place)
    (hstale : (start.steps ops).isCurrent? handle t = some false)
    (hother : (start.steps (ops ++ more)).place? other = some place) :
    (start.steps (ops ++ more)).isCurrent? other t = some false := by
  obtain ⟨before, after, hissued⟩ := exists_of_mem_tickets ht
  have hlater : start.events place (ops ++ more) =
      before ++ .issued t :: (after ++ (start.steps ops).events place more) := by
    rw [events_append, hissued, List.append_assoc, List.cons_append]
  have hfewer : (start.events place ops).length < twoTo 64 := by
    rw [events_append, List.length_append] at hbound
    omega
  rw [isCurrent?_eq_isEmpty hfewer hissued hplace, Option.some.injEq] at hstale
  rw [isCurrent?_eq_isEmpty hbound hlater hother]
  cases after with
  | nil => nomatch hstale
  | cons e after => rfl

/-! ## Which handles share a counter -/

theorem place?_clone (h : d.place? handle = some place) :
    ∃ clone next, d.clone? handle = some (clone, next) ∧ next.place? clone = some place := by
  refine ⟨_, _, clone?_eq h, ?_⟩
  rw [place?_eq_some_iff]
  exact ⟨List.getElem?_concat_length, (place?_eq_some_iff.mp h).2⟩

theorem place?_addCounter (h : d.place? handle = some place) :
    d.addCounter.2.place? d.addCounter.1 ≠ some place := by
  rw [ne_eq, place?_eq_some_iff]
  rintro ⟨hnew, -⟩
  have heq : d.counters.length = place := by
    simpa [addCounter] using hnew
  have hlt := (place?_eq_some_iff.mp h).2
  omega

/-- What is done with other counters is not seen through a handle. -/
theorem unseen_of_apart (hapart : ∀ other, op.handle? = some other → d.place? other ≠ some place)
    (h : d.place? handle = some place) :
    (∀ t, (d.step op).isCurrent? handle t = d.isCurrent? handle t) ∧
      (d.step op).ticket? (.issue handle) = d.ticket? (.issue handle) := by
  have hturn := turn_step d op
  have hkept := hturn.place?_eq handle place h
  have hlatest : (d.step op).latest place = d.latest place := by
    simp [hturn.latest_eq, event?_eq_none hapart]
  refine ⟨fun t => ?_, ?_⟩
  · rw [isCurrent?_eq hkept, isCurrent?_eq h, hlatest]
  · rw [ticket?, ticket?, issue?_eq hkept, issue?_eq h, hlatest]
    rfl

theorem events_issue (h : (start.steps ops).place? handle = some place) :
    ∃ t, (start.steps ops).ticket? (.issue handle) = some t ∧
      start.events place (ops ++ [.issue handle]) = start.events place ops ++ [.issued t] := by
  refine ⟨⟨((start.steps ops).latest place + 1) % twoTo 64⟩, ?_, ?_⟩
  · rw [ticket?, issue?_eq h]
    rfl
  · rw [events_concat, event?_issue h, if_pos rfl, Option.toList_some]

theorem events_invalidate (h : (start.steps ops).place? handle = some place) :
    start.events place (ops ++ [.invalidate handle]) = start.events place ops ++ [.invalidated] := by
  rw [events_concat, event?_invalidate h, if_pos rfl, Option.toList_some]

theorem events_of_apart
    (hapart : ∀ other, op.handle? = some other → (start.steps ops).place? other ≠ some place) :
    start.events place (ops ++ [op]) = start.events place ops := by
  rw [events_concat, event?_eq_none hapart, Option.toList_none, List.append_nil]

/-- What the handles on a counter find after any operations. -/
structure LastIssuedWins (ops : List DeskStep) (place : Nat) : Prop where
  /-- Whatever is issued or invalidated through one of them happens at the counter. -/
  issue_happens : ∀ handle, (start.steps ops).place? handle = some place →
    ∃ t, (start.steps ops).ticket? (.issue handle) = some t ∧
      start.events place (ops ++ [.issue handle]) = start.events place ops ++ [.issued t]
  invalidate_happens : ∀ handle, (start.steps ops).place? handle = some place →
    start.events place (ops ++ [.invalidate handle]) = start.events place ops ++ [.invalidated]
  /-- A ticket is numbered by its place among all that happens there, from one on. -/
  number_eq : ∀ (i : Nat) t,
    (start.events place ops)[i]? = some (.issued t) → t.number = i + 1
  increasing : (start.tickets place ops).Pairwise fun t u => t.number < u.number
  current_iff : ∀ before t after, start.events place ops = before ++ .issued t :: after →
    ∀ handle, (start.steps ops).place? handle = some place →
      (start.steps ops).isCurrent? handle t = some after.isEmpty
  at_most_one : ∀ t ∈ start.tickets place ops, ∀ u ∈ start.tickets place ops,
    ∀ handle, (start.steps ops).place? handle = some place →
      ∀ other, (start.steps ops).place? other = some place →
        (start.steps ops).isCurrent? handle t = some true →
          (start.steps ops).isCurrent? other u = some true → t = u
  stays_stale : ∀ more, (start.events place (ops ++ more)).length < twoTo 64 →
    ∀ t ∈ start.tickets place ops,
      ∀ handle, (start.steps ops).place? handle = some place →
        (start.steps ops).isCurrent? handle t = some false →
          ∀ other, (start.steps (ops ++ more)).place? other = some place →
            (start.steps (ops ++ more)).isCurrent? other t = some false
  /-- A handle stays on its counter, a clone is on the same one, and the handle that comes with a
  fresh counter is not. -/
  clone_shares : ∀ handle, (start.steps ops).place? handle = some place →
    (∀ more, (start.steps (ops ++ more)).place? handle = some place) ∧
    (∃ other next, (start.steps ops).clone? handle = some (other, next) ∧
      next.place? other = some place) ∧
    (start.steps ops).addCounter.2.place? (start.steps ops).addCounter.1 ≠ some place
  /-- What is done with other counters does not happen here, and nothing here is changed by it. -/
  apart : ∀ op, (∀ other, op.handle? = some other → (start.steps ops).place? other ≠ some place) →
    start.events place (ops ++ [op]) = start.events place ops ∧
    ∀ handle, (start.steps ops).place? handle = some place →
      (∀ t, ((start.steps ops).step op).isCurrent? handle t =
        (start.steps ops).isCurrent? handle t) ∧
      ((start.steps ops).step op).ticket? (.issue handle) =
        (start.steps ops).ticket? (.issue handle)

/-- As long as 64 bits hold the number of issues and invalidations upon a counter, through whichever
of its handles, its tickets have increasing numbers, and a handle on it finds a ticket to be current
just if nothing was issued or invalidated after it. -/
theorem last_issued_wins (ops : List DeskStep) (place : Nat)
    (hbound : (start.events place ops).length < twoTo 64) : LastIssuedWins ops place where
  issue_happens handle hplace := events_issue hplace
  invalidate_happens handle hplace := events_invalidate hplace
  number_eq i t hissued := number_eq_of_getElem? hbound hissued
  increasing := pairwise_number_lt hbound
  current_iff before t after hissued handle hplace := isCurrent?_eq_isEmpty hbound hissued hplace
  at_most_one t ht u hu handle hplace other hother hcurrent hcurrent' := by
    have hlast := getLast?_of_isCurrent? hbound ht hplace hcurrent
    have hlast' := getLast?_of_isCurrent? hbound hu hother hcurrent'
    exact CounterEvent.issued.inj (Option.some.inj (hlast.symm.trans hlast'))
  stays_stale more hmore t ht handle hplace hstale other hother :=
    isCurrent?_of_stale hmore ht hplace hstale hother
  clone_shares handle hplace :=
    ⟨fun more => steps_append start ops more ▸ place?_steps hplace more, place?_clone hplace,
      place?_addCounter hplace⟩
  apart op hapart := ⟨events_of_apart hapart, fun handle hplace => unseen_of_apart hapart hplace⟩

/-- A ticket for each of two handles on a counter, with a ticket of another counter between them:
the first is not current any more, nor ever again. -/
theorem last_issued_wins_two_handles :
    let ops : List DeskStep := [.clone 0, .issue 0, .addCounter, .issue 2, .issue 1]
    let s := start.steps ops
    start.events 0 ops = [.issued ⟨1⟩, .issued ⟨2⟩] ∧
      (start.events 0 ops).length < twoTo 64 ∧
      s.isCurrent? 0 ⟨2⟩ = some true ∧ s.isCurrent? 1 ⟨1⟩ = some false ∧
      (start.steps (ops ++ [.invalidate 2, .invalidate 1])).isCurrent? 0 ⟨1⟩ = some false ∧
      (s.step (.invalidate 2)).isCurrent? 0 ⟨2⟩ = some true := by
  intro ops s
  have hevents : start.events 0 ops = [.issued ⟨1⟩, .issued ⟨2⟩] := by decide
  have hbound : (start.events 0 ops).length < twoTo 64 := by decide
  have hwins := last_issued_wins ops 0 hbound
  have hcurrent := hwins.current_iff [.issued ⟨1⟩] ⟨2⟩ [] hevents 0 (by decide)
  have hpassed := hwins.current_iff [] ⟨1⟩ [.issued ⟨2⟩] hevents 1 (by decide)
  refine ⟨hevents, hbound, hcurrent, hpassed, ?_, ?_⟩
  · exact hwins.stays_stale _ (by decide) ⟨1⟩ (by decide) 1 (by decide) hpassed 0 (by decide)
  · have hapart := (hwins.apart (.invalidate 2) fun other hother => ?_).2 0 (by decide)
    · exact (hapart.1 ⟨2⟩).trans hcurrent
    · obtain rfl := Option.some.inj hother
      decide

end Storefront.TicketDesk
