import Storefront.Proofs.History

/-! # Histories as two stacks

The entries of a history and its cursor are two stacks, which the current location lies between:
where one can go back to and where one can go ahead to. Every move does to the history what it does
to the stacks, however many moves there were before it. -/

namespace Storefront.History

/-- A location between those behind it and those ahead of it, the nearest first. -/
structure Zipper where
  behind : List Location
  current : Location
  ahead : List Location
  deriving DecidableEq, Repr

/-- What can be done with a history. -/
inductive Move where
  | push (l : Location)
  | replace (l : Location)
  | back
  | forward
  deriving DecidableEq, Repr

namespace Zipper

def start (initial : Location) : Zipper :=
  ⟨[], initial, []⟩

def push (z : Zipper) (l : Location) : Zipper :=
  ⟨z.current :: z.behind, l, []⟩

def replace (z : Zipper) (l : Location) : Zipper :=
  { z with current := l }

def back? (z : Zipper) : Option Zipper :=
  match z.behind with
  | [] => none
  | l :: behind => some ⟨behind, l, z.current :: z.ahead⟩

def forward? (z : Zipper) : Option Zipper :=
  match z.ahead with
  | [] => none
  | l :: ahead => some ⟨z.current :: z.behind, l, ahead⟩

def size (z : Zipper) : Nat :=
  z.behind.length + 1 + z.ahead.length

/-- What a move leaves, and whether there was anywhere to move to. -/
def move (z : Zipper) : Move → Zipper × Bool
  | .push l => (z.push l, true)
  | .replace l => (z.replace l, true)
  | .back => (z.back?.getD z, z.back?.isSome)
  | .forward => (z.forward?.getD z, z.forward?.isSome)

/-- What moves leave, and what each of them answered. -/
def moves (z : Zipper) : List Move → Zipper × List Bool
  | [] => (z, [])
  | m :: ms => (((z.move m).1.moves ms).1, (z.move m).2 :: ((z.move m).1.moves ms).2)

end Zipper

/-- What a move leaves, and whether there was anywhere to move to. -/
def move (h : History) : Move → History × Bool
  | .push l => (h.push l, true)
  | .replace l => (h.replace l, true)
  | .back => (h.back?.getD h, h.back?.isSome)
  | .forward => (h.forward?.getD h, h.forward?.isSome)

/-- What moves leave, and what each of them answered. -/
def moves (h : History) : List Move → History × List Bool
  | [] => (h, [])
  | m :: ms => (((h.move m).1.moves ms).1, (h.move m).2 :: ((h.move m).1.moves ms).2)

/-- The entries are the stacks with the current location between them, and the cursor is there. -/
structure Shows (h : History) (z : Zipper) : Prop where
  entries_eq : h.entries = z.behind.reverse ++ z.current :: z.ahead
  cursor_eq : h.cursor = z.behind.length

variable {h g : History} {z : Zipper}

/-! ## What is shown -/

theorem Shows.getElem?_cursor (hz : h.Shows z) : h.entries[h.cursor]? = some z.current := by
  have hlength : h.cursor = z.behind.reverse.length := by simp [hz.cursor_eq]
  simp [hz.entries_eq, hlength]

theorem Shows.current_eq (hz : h.Shows z) : h.current = z.current :=
  Option.some.inj (h.getElem?_cursor.symm.trans hz.getElem?_cursor)

theorem Shows.size_eq (hz : h.Shows z) : h.size = z.size := by
  simp only [size, Zipper.size, hz.entries_eq, List.length_append, List.length_reverse,
    List.length_cons]
  omega

/-! ## One move -/

theorem shows_start (initial : Location) : (start initial).Shows (Zipper.start initial) :=
  ⟨rfl, rfl⟩

/-- What was ahead is cut off just behind the current entry. -/
theorem Shows.push (hz : h.Shows z) (l : Location) : (h.push l).Shows (z.push l) := by
  have hlength : (z.behind.reverse ++ [z.current]).length = h.cursor + 1 := by
    simp [hz.cursor_eq]
  have hkept : h.entries.take (h.cursor + 1) = z.behind.reverse ++ [z.current] := by
    rw [hz.entries_eq, List.append_cons, ← hlength, List.take_left]
  constructor
  · calc
      (h.push l).entries = h.entries.take (h.cursor + 1) ++ [l] := rfl
      _ = (z.push l).behind.reverse ++ (z.push l).current :: (z.push l).ahead := by
        simp [hkept, Zipper.push]
  · exact congrArg (· + 1) hz.cursor_eq

theorem Shows.replace (hz : h.Shows z) (l : Location) : (h.replace l).Shows (z.replace l) := by
  have hlength : h.cursor = z.behind.reverse.length := by simp [hz.cursor_eq]
  constructor
  · simp [History.replace, Zipper.replace, hz.entries_eq, hlength]
  · exact hz.cursor_eq

/-- One goes back in the history just if one does between the stacks, and to the same place. -/
theorem Shows.back? (hz : h.Shows z) : Option.Rel Shows h.back? z.back? := by
  have hcursor := hz.cursor_eq
  cases hbehind : z.behind with
  | nil =>
      have hnone : h.back? = none := by
        rw [back?_eq_none_iff, hcursor, hbehind, List.length_nil]
      rw [hnone, Zipper.back?, hbehind]
      exact .none
  | cons l behind =>
      rw [hbehind, List.length_cons] at hcursor
      cases hback : h.back? with
      | none =>
          have hfirst := h.back?_eq_none_iff.mp hback
          omega
      | some g =>
          have hturns := turns_of_back? hback
          rw [Zipper.back?, hbehind]
          refine .some ⟨?_, ?_⟩
          · simp [hturns.entries_eq, hz.entries_eq, hbehind]
          · simp [hturns.cursor_eq, hcursor]

/-- One goes ahead in the history just if one does between the stacks, and to the same place. -/
theorem Shows.forward? (hz : h.Shows z) : Option.Rel Shows h.forward? z.forward? := by
  have hcursor := hz.cursor_eq
  have hsize := hz.size_eq
  cases hahead : z.ahead with
  | nil =>
      have hnone : h.forward? = none := by
        rw [forward?_eq_none_iff, hcursor, hsize, Zipper.size, hahead, List.length_nil]
      rw [hnone, Zipper.forward?, hahead]
      exact .none
  | cons l ahead =>
      rw [Zipper.size, hahead, List.length_cons] at hsize
      cases hforward : h.forward? with
      | none =>
          have hlast := h.forward?_eq_none_iff.mp hforward
          omega
      | some g =>
          have hturns := turns_of_forward? hforward
          rw [Zipper.forward?, hahead]
          refine .some ⟨?_, ?_⟩
          · simp [hturns.entries_eq, hz.entries_eq, hahead]
          · simp [hturns.cursor_eq, hcursor]

/-- Where there is nowhere to move to, both stay. -/
theorem Shows.attempt (hz : h.Shows z) {tried : Option History} {other : Option Zipper}
    (hrel : Option.Rel Shows tried other) :
    (tried.getD h).Shows (other.getD z) ∧ tried.isSome = other.isSome := by
  cases hrel with
  | none => exact ⟨hz, rfl⟩
  | some hmoved => exact ⟨hmoved, rfl⟩

/-- A move leaves the same on both sides, and is answered the same. -/
theorem Shows.move (hz : h.Shows z) (m : Move) :
    (h.move m).1.Shows (z.move m).1 ∧ (h.move m).2 = (z.move m).2 := by
  cases m with
  | push l => exact ⟨hz.push l, rfl⟩
  | replace l => exact ⟨hz.replace l, rfl⟩
  | back => exact hz.attempt hz.back?
  | forward => exact hz.attempt hz.forward?

/-! ## Any moves -/

theorem Shows.moves (hz : h.Shows z) (ms : List Move) :
    (h.moves ms).1.Shows (z.moves ms).1 ∧ (h.moves ms).2 = (z.moves ms).2 := by
  induction ms generalizing h z with
  | nil => exact ⟨hz, rfl⟩
  | cons m ms ih =>
      obtain ⟨hshows, hanswer⟩ := hz.move m
      obtain ⟨hlast, hanswers⟩ := ih hshows
      simp only [History.moves, Zipper.moves]
      exact ⟨hlast, by rw [hanswer, hanswers]⟩

/-! ## Back and ahead again -/

theorem eq_of_entries_eq_of_cursor_eq (hentries : h.entries = g.entries)
    (hcursor : h.cursor = g.cursor) : h = g := by
  cases h
  cases g
  cases hentries
  cases hcursor
  rfl

theorem forward?_of_back? (hback : h.back? = some g) : g.forward? = some h := by
  have hturns := turns_of_back? hback
  have hlt := h.cursor_lt
  have hne : h.cursor ≠ 0 := fun hfirst =>
    Option.some_ne_none g (hback.symm.trans (h.back?_eq_none_iff.mpr hfirst))
  cases hforward : g.forward? with
  | none =>
      have hlast := g.forward?_eq_none_iff.mp hforward
      rw [size, hturns.entries_eq, hturns.cursor_eq] at hlast
      omega
  | some f =>
      have hagain := turns_of_forward? hforward
      congr 1
      apply eq_of_entries_eq_of_cursor_eq
      · rw [hagain.entries_eq, hturns.entries_eq]
      · rw [hagain.cursor_eq, hturns.cursor_eq]
        omega

theorem back?_of_forward? (hforward : h.forward? = some g) : g.back? = some h := by
  have hturns := turns_of_forward? hforward
  cases hback : g.back? with
  | none =>
      have hfirst := g.back?_eq_none_iff.mp hback
      rw [hturns.cursor_eq] at hfirst
      omega
  | some f =>
      have hagain := turns_of_back? hback
      congr 1
      apply eq_of_entries_eq_of_cursor_eq
      · rw [hagain.entries_eq, hturns.entries_eq]
      · rw [hagain.cursor_eq, hturns.cursor_eq]
        omega

/-- Whatever moves are made from a start, the history is at every moment the two stacks that the
same moves make, and every move is answered as there. The cursor stands at an entry, and to go one
entry back and one ahead, or one ahead and one back, leaves the history as it was. -/
theorem moves_follow_zipper (initial : Location) (ms : List Move) :
    let h := ((start initial).moves ms).1
    let z := ((Zipper.start initial).moves ms).1
    ((start initial).moves ms).2 = ((Zipper.start initial).moves ms).2 ∧
    h.current = z.current ∧
    h.size = z.size ∧
    h.entries = z.behind.reverse ++ z.current :: z.ahead ∧
    h.cursor = z.behind.length ∧
    h.entries[h.cursor]? = some z.current ∧
    h.back?.bind forward? = h.back?.map (fun _ => h) ∧
    h.forward?.bind back? = h.forward?.map fun _ => h := by
  intro h z
  obtain ⟨hz, hanswers⟩ := (shows_start initial).moves ms
  refine ⟨hanswers, hz.current_eq, hz.size_eq, hz.entries_eq, hz.cursor_eq, hz.getElem?_cursor,
    ?_, ?_⟩
  · cases hback : h.back? with
    | none => rfl
    | some g => exact forward?_of_back? hback
  · cases hforward : h.forward? with
    | none => rfl
    | some g => exact back?_of_forward? hforward

/-- What is ahead is given up where another location is gone to. -/
example :
    let h := ((start (.atPath "/a")).moves [.push (.atPath "/b"), .push (.atPath "/c"), .back,
      .replace (.atPath "/d"), .push (.atPath "/e"), .forward, .back, .back, .back])
    h.2 = [true, true, true, true, true, false, true, true, false] ∧
      h.1.entries.map Location.path = ["/a", "/d", "/e"] ∧ h.1.cursor = 0 := by
  decide

end Storefront.History
