import Storefront.Ticket

/-! # What one operation upon a desk can do

Something happens at a counter when a ticket is issued or the counter is invalidated through one of
its handles. That moves the counter on by one, and all else leaves it as it was. -/

namespace Storefront

/-- What can happen at a counter. -/
inductive CounterEvent where
  | issued (t : Ticket)
  | invalidated
  deriving DecidableEq, Repr

namespace CounterEvent

def ticket? : CounterEvent → Option Ticket
  | .issued t => some t
  | .invalidated => none

theorem ticket?_eq_some_iff {e : CounterEvent} {t : Ticket} :
    e.ticket? = some t ↔ e = .issued t := by
  cases e <;> simp [ticket?]

end CounterEvent

namespace TicketDesk

variable {d : TicketDesk} {place handle : Nat} {op : DeskStep} {t : Ticket}

/-! ## The counter behind a handle -/

/-- The place of the counter that a handle is on. -/
def place? (d : TicketDesk) (handle : Nat) : Option Nat :=
  (d.counter? handle).map Prod.fst

/-- The number that the counter at a place has reached. A counter that is still to be added is at its
start. -/
def latest (d : TicketDesk) (place : Nat) : Nat :=
  (d.counters[place]?.getD Generation.start).latest

theorem place?_eq_some_iff :
    d.place? handle = some place ↔ d.handles[handle]? = some place ∧ place < d.counters.length := by
  cases hhandle : d.handles[handle]? with
  | none => simp [place?, counter?, hhandle]
  | some other =>
      simp only [place?, counter?, hhandle, Option.bind_eq_bind, Option.bind_some, Option.some.injEq]
      by_cases hother : other < d.counters.length
      · simp only [List.getElem?_eq_getElem hother, Option.bind_some, Option.map_some,
          Option.some.injEq]
        exact ⟨fun h => ⟨h, h ▸ hother⟩, And.left⟩
      · rw [List.getElem?_eq_none (Nat.le_of_not_lt hother)]
        refine iff_of_false (fun h => nomatch h) fun h => ?_
        exact hother (h.1 ▸ h.2)

theorem counter?_eq (h : d.place? handle = some place) :
    d.counter? handle = some (place, ⟨d.latest place⟩) := by
  obtain ⟨hhandle, hplace⟩ := place?_eq_some_iff.mp h
  simp [counter?, latest, hhandle, hplace]

theorem issue?_eq (h : d.place? handle = some place) :
    d.issue? handle =
      some (⟨(d.latest place + 1) % twoTo 64⟩, d.put place ⟨d.latest place + 1⟩) := by
  rw [issue?, counter?_eq h]
  rfl

theorem invalidate?_eq (h : d.place? handle = some place) :
    d.invalidate? handle = some (d.put place ⟨d.latest place + 1⟩) := by
  rw [invalidate?, counter?_eq h]
  rfl

theorem isCurrent?_eq (h : d.place? handle = some place) (t : Ticket) :
    d.isCurrent? handle t = some (d.latest place == t.number) := by
  rw [isCurrent?, counter?_eq h]
  rfl

theorem clone?_eq (h : d.place? handle = some place) :
    d.clone? handle = some (d.handles.length, { d with handles := d.handles ++ [place] }) := by
  rw [clone?, counter?_eq h]
  rfl

theorem latest_put (hplace : place < d.counters.length) (g : Generation) (other : Nat) :
    (d.put place g).latest other =
      if place = other then g.latest % twoTo 64 else d.latest other := by
  by_cases heq : place = other
  · subst heq
    simp [latest, put, Generation.inWord, hplace]
  · simp [latest, put, heq]

theorem place?_put (g : Generation) : (d.put place g).place? handle = d.place? handle := by
  ext other
  simp [place?_eq_some_iff, put]

/-- Handles and counters that are added behind the others change nothing for these. -/
theorem place?_of_prefix {next : TicketDesk} (hhandles : d.handles <+: next.handles)
    (hcounters : d.counters.length ≤ next.counters.length) (h : d.place? handle = some place) :
    next.place? handle = some place := by
  rw [place?_eq_some_iff] at h ⊢
  obtain ⟨added, hadded⟩ := hhandles
  have hlt : handle < d.handles.length := (List.getElem?_eq_some_iff.mp h.1).1
  rw [← hadded, List.getElem?_append_left hlt]
  exact ⟨h.1, Nat.lt_of_lt_of_le h.2 hcounters⟩

theorem latest_addCounter (place : Nat) : d.addCounter.2.latest place = d.latest place := by
  rcases Nat.lt_trichotomy place d.counters.length with hlt | heq | hgt
  · simp only [latest, addCounter, List.getElem?_append_left hlt]
  · simp [latest, addCounter, heq]
  · have hnone : (d.counters ++ [Generation.start])[place]? = none :=
      List.getElem?_eq_none (by simp; omega)
    simp only [latest, addCounter, hnone, List.getElem?_eq_none (Nat.le_of_lt hgt)]

/-! ## One operation -/

/-- What an operation does at the counter of a place. -/
def event? (d : TicketDesk) (place : Nat) : DeskStep → Option CounterEvent
  | .issue handle =>
    if d.place? handle = some place then (d.ticket? (.issue handle)).map .issued else none
  | .invalidate handle => if d.place? handle = some place then some .invalidated else none
  | .isCurrent _ _ | .clone _ | .addCounter => none

theorem event?_issue (h : d.place? handle = some place) (other : Nat) :
    d.event? other (.issue handle) =
      if place = other then some (.issued ⟨(d.latest place + 1) % twoTo 64⟩) else none := by
  simp [event?, ticket?, h, issue?_eq h]

theorem event?_invalidate (h : d.place? handle = some place) (other : Nat) :
    d.event? other (.invalidate handle) = if place = other then some .invalidated else none := by
  simp [event?, h]

/-- Nothing happens at a counter through a handle that is not on it. -/
theorem event?_eq_none
    (hapart : ∀ handle, op.handle? = some handle → d.place? handle ≠ some place) :
    d.event? place op = none := by
  cases op with
  | issue handle | invalidate handle => exact if_neg (hapart handle rfl)
  | isCurrent _ _ | clone _ | addCounter => rfl

theorem step_of_place?_eq_none (hop : op.handle? = some handle) (hnone : d.place? handle = none) :
    d.step op = d := by
  have hcounter : d.counter? handle = none := Option.map_eq_none_iff.mp hnone
  cases op with
  | addCounter => nomatch hop
  | isCurrent _ _ => rfl
  | issue handle | invalidate handle | clone handle =>
      obtain rfl := Option.some.inj hop
      simp [step, issue?, invalidate?, clone?, hcounter]

/-- A counter is moved on by what happens at it and by nothing else, a ticket that is handed out has
the number that it is moved on to, and every handle stays on its counter. -/
structure Turn (d : TicketDesk) (op : DeskStep) (next : TicketDesk) : Prop where
  latest_eq : ∀ place, next.latest place =
    if (d.event? place op).isSome then (d.latest place + 1) % twoTo 64 else d.latest place
  number_eq : ∀ place t,
    d.event? place op = some (.issued t) → t.number = (d.latest place + 1) % twoTo 64
  place?_eq : ∀ handle place, d.place? handle = some place → next.place? handle = some place

/-- Where nothing happens at any counter, it is enough that the counters and the handles are kept. -/
theorem turn_of_keeps {next : TicketDesk} (hevent : ∀ place, d.event? place op = none)
    (hlatest : ∀ place, next.latest place = d.latest place)
    (hplace : ∀ handle place, d.place? handle = some place → next.place? handle = some place) :
    Turn d op next := by
  refine ⟨fun place => ?_, fun place t ht => ?_, hplace⟩
  · simp [hevent, hlatest]
  · rw [hevent] at ht
    nomatch ht

theorem turn_of_place?_eq_none (hop : op.handle? = some handle) (hnone : d.place? handle = none) :
    Turn d op (d.step op) := by
  rw [step_of_place?_eq_none hop hnone]
  refine turn_of_keeps (fun place => event?_eq_none ?_) (fun _ => rfl) fun _ _ h => h
  intro other hother hplace
  obtain rfl := Option.some.inj (hop.symm.trans hother)
  exact nomatch hnone.symm.trans hplace

/-- Something happens at one counter, and that counter is moved on. -/
theorem turn_put {e : CounterEvent} (hplace : d.place? handle = some place)
    (hevent : ∀ other, d.event? other op = if place = other then some e else none)
    (hnumber : ∀ t, e = .issued t → t.number = (d.latest place + 1) % twoTo 64) :
    Turn d op (d.put place ⟨d.latest place + 1⟩) := by
  have hlt := (place?_eq_some_iff.mp hplace).2
  refine ⟨fun other => ?_, fun other t ht => ?_, fun handle other h => ?_⟩
  · rw [latest_put hlt, hevent]
    by_cases heq : place = other
    · simp [heq]
    · simp [heq]
  · rw [hevent] at ht
    by_cases heq : place = other
    · subst heq
      rw [if_pos rfl] at ht
      exact hnumber t (Option.some.inj ht)
    · rw [if_neg heq] at ht
      nomatch ht
  · rw [place?_put, h]

theorem turn_issue (handle : Nat) : Turn d (.issue handle) (d.step (.issue handle)) := by
  cases hplace : d.place? handle with
  | none => exact turn_of_place?_eq_none rfl hplace
  | some place =>
      have hstep : d.step (.issue handle) = d.put place ⟨d.latest place + 1⟩ := by
        rw [step, issue?_eq hplace]
        rfl
      rw [hstep]
      refine turn_put hplace (event?_issue hplace) fun t ht => ?_
      cases ht
      rfl

theorem turn_invalidate (handle : Nat) :
    Turn d (.invalidate handle) (d.step (.invalidate handle)) := by
  cases hplace : d.place? handle with
  | none => exact turn_of_place?_eq_none rfl hplace
  | some place =>
      have hstep : d.step (.invalidate handle) = d.put place ⟨d.latest place + 1⟩ := by
        rw [step, invalidate?_eq hplace]
        rfl
      rw [hstep]
      exact turn_put hplace (event?_invalidate hplace) fun t ht => nomatch ht

theorem turn_clone (handle : Nat) : Turn d (.clone handle) (d.step (.clone handle)) := by
  cases hplace : d.place? handle with
  | none => exact turn_of_place?_eq_none rfl hplace
  | some place =>
      have hstep : d.step (.clone handle) = { d with handles := d.handles ++ [place] } := by
        rw [step, clone?_eq hplace]
        rfl
      rw [hstep]
      exact turn_of_keeps (fun _ => rfl) (fun _ => rfl) fun _ _ =>
        place?_of_prefix (List.prefix_append _ _) (Nat.le_refl _)

theorem turn_addCounter : Turn d .addCounter d.addCounter.2 := by
  refine turn_of_keeps (fun _ => rfl) latest_addCounter fun _ _ => ?_
  exact place?_of_prefix (List.prefix_append _ _) (by simp [addCounter])

theorem turn_step (d : TicketDesk) (op : DeskStep) : Turn d op (d.step op) := by
  cases op with
  | issue handle => exact turn_issue handle
  | invalidate handle => exact turn_invalidate handle
  | isCurrent handle t => exact turn_of_keeps (fun _ => rfl) (fun _ => rfl) fun _ _ h => h
  | clone handle => exact turn_clone handle
  | addCounter => exact turn_addCounter

end TicketDesk

end Storefront
