import Storefront.History

/-! # What a move does to the history

A new entry takes the place of all that was ahead; every other change touches the current entry alone
or nothing but the cursor. -/

namespace Storefront.History

variable {h g : History} {l : Location}

theorem getElem?_cursor (h : History) : h.entries[h.cursor]? = some h.current :=
  List.getElem?_eq_getElem h.cursor_lt

/-- The history goes on from its current entry to another one, and what was ahead is given up. -/
structure Extends (h g : History) : Prop where
  entries_eq : g.entries = h.entries.take (h.cursor + 1) ++ [g.current]
  cursor_eq : g.cursor = h.cursor + 1
  left_eq : g.entries[h.cursor]? = some h.current

/-- No entry but the current one is another, and none is more or less. -/
structure Amends (h g : History) : Prop where
  size_eq : g.size = h.size
  cursor_eq : g.cursor = h.cursor
  entry_eq : ∀ i, i ≠ h.cursor → g.entries[i]? = h.entries[i]?

/-- Another entry is current, and all of them are as they were. -/
structure Turns (h g : History) (cursor : Nat) : Prop where
  entries_eq : g.entries = h.entries
  cursor_eq : g.cursor = cursor

@[simp] theorem current_push (h : History) (l : Location) : (h.push l).current = l := by
  have hlength : (h.entries.take (h.cursor + 1)).length = h.cursor + 1 :=
    List.length_take_of_le h.cursor_lt
  simp only [current, push, List.get_eq_getElem]
  rw [List.getElem_append_right (Nat.le_of_eq hlength)]
  exact List.getElem_singleton _

@[simp] theorem current_replace (h : History) (l : Location) : (h.replace l).current = l :=
  List.getElem_set_self _

theorem extends_push (h : History) (l : Location) : h.Extends (h.push l) := by
  refine ⟨by rw [current_push]; rfl, rfl, ?_⟩
  have hlt : h.cursor < (h.entries.take (h.cursor + 1)).length := by
    rw [List.length_take_of_le h.cursor_lt]
    exact Nat.lt_succ_self _
  rw [push, List.getElem?_append_left hlt, List.getElem?_take_of_lt (Nat.lt_succ_self _),
    getElem?_cursor]

theorem amends_replace (h : History) (l : Location) : h.Amends (h.replace l) :=
  ⟨List.length_set, rfl, fun _ hi => List.getElem?_set_ne hi.symm⟩

theorem back?_eq_none_iff (h : History) : h.back? = none ↔ h.cursor = 0 := by
  rw [back?]
  split <;> simp [*]

theorem turns_of_back? (hback : h.back? = some g) : h.Turns g (h.cursor - 1) := by
  unfold back? at hback
  split at hback
  · cases hback
  · cases hback
    exact ⟨rfl, rfl⟩

theorem forward?_eq_none_iff (h : History) : h.forward? = none ↔ h.cursor + 1 = h.size := by
  have hlt := h.cursor_lt
  rw [forward?, size]
  split
  · exact iff_of_false nofun (by omega)
  · exact iff_of_true rfl (by omega)

theorem turns_of_forward? (hforward : h.forward? = some g) : h.Turns g (h.cursor + 1) := by
  unfold forward? at hforward
  split at hforward
  · cases hforward
    exact ⟨rfl, rfl⟩
  · cases hforward

end Storefront.History
