import Mathlib.Data.List.TakeWhile
import Storefront.Proofs.Location.Parameters

/-! # Parameters as an ordered multimap

A key has a list of values, and an edit changes the list of its own key alone. The pairs of all
other keys keep their order and their places among each other, however many edits are made. -/

namespace Storefront.Location

/-- The key whose values an edit changes. -/
def Edit.key : Edit → String
  | .set key _ => key
  | .append key _ => key
  | .delete key => key

/-- What an edit makes of the values of a key. -/
def Edit.onValues (key : String) (values : List String) : Edit → List String
  | .set k value => if k = key then [value] else values
  | .append k value => if k = key then values ++ [value] else values
  | .delete k => if k = key then [] else values

/-! ## The pairs of other keys -/

variable {key : String} {ps qs : List (String × String)}

/-- Pairs that agree in all but one key agree in every choice without that key. -/
theorem filter_eq_of_filter_ne_eq
    (h : (ps.filter fun p => p.1 != key) = qs.filter fun p => p.1 != key)
    {chosen : String × String → Bool} (hchosen : ∀ p, chosen p = true → p.1 ≠ key) :
    ps.filter chosen = qs.filter chosen := by
  have hwithin : ∀ rs : List (String × String),
      rs.filter chosen = (rs.filter fun p => p.1 != key).filter chosen := by
    intro rs
    rw [List.filter_filter]
    apply List.filter_congr
    intro p _
    by_cases hp : chosen p = true
    · simp [hp, hchosen p hp]
    · simp [hp]
  rw [hwithin ps, hwithin qs, h]

/-- A value that is set stands where the first pair of its key stood, or last. -/
theorem pairs_set (l : Location) (key value : String) :
    (l.set key value).pairs =
      (l.pairs.takeWhile fun p => p.1 != key) ++
        (key, value) :: (l.pairs.dropWhile fun p => p.1 != key).filter fun p => p.1 != key := by
  rcases lacks_or_exists_first key l.pairs with hlacks | ⟨front, old, back, hpairs, hlacks⟩
  · have hall : ∀ p ∈ l.pairs, (p.1 != key) = true := fun p hp => bne_iff_ne.mpr (hlacks p hp)
    rw [pairs_set_of_lacks hlacks, List.takeWhile_eq_self_iff.mpr hall,
      List.dropWhile_eq_nil_iff.mpr hall, List.filter_nil]
  · have hall : ∀ p ∈ front, (p.1 != key) = true := fun p hp => bne_iff_ne.mpr (hlacks p hp)
    rw [pairs_set_of_first hpairs hlacks, hpairs, List.takeWhile_append_of_pos hall,
      List.dropWhile_append_of_pos hall]
    simp

theorem filter_ne_set (l : Location) (key value : String) :
    ((l.set key value).pairs.filter fun p => p.1 != key) =
      l.pairs.filter fun p => p.1 != key := by
  calc
    ((l.set key value).pairs.filter fun p => p.1 != key) =
        (l.pairs.takeWhile fun p => p.1 != key).filter (fun p => p.1 != key) ++
          (l.pairs.dropWhile fun p => p.1 != key).filter fun p => p.1 != key := by
      simp [pairs_set]
    _ = l.pairs.filter fun p => p.1 != key := by
      rw [← List.filter_append, List.takeWhile_append_dropWhile]

/-- An edit leaves the pairs of all other keys as they are, and in their order. -/
theorem filter_ne_edit (l : Location) (e : Edit) :
    ((l.edit e).pairs.filter fun p => p.1 != e.key) = l.pairs.filter fun p => p.1 != e.key := by
  cases e with
  | set key value => exact l.filter_ne_set key value
  | append key value => simp [edit, Edit.key]
  | delete key => simp [edit, Edit.key]

/-- Of the keys that no edit names all pairs are kept, and in their order. -/
theorem filter_unnamed_edits (l : Location) {es : List Edit} {keys : List String}
    (hkeys : ∀ e ∈ es, e.key ∈ keys) :
    ((l.edits es).pairs.filter fun p => p.1 ∉ keys) = l.pairs.filter fun p => p.1 ∉ keys := by
  induction es generalizing l with
  | nil => rfl
  | cons e es ih =>
      rw [List.forall_mem_cons] at hkeys
      have hunnamed : ∀ p : String × String, decide (p.1 ∉ keys) = true → p.1 ≠ e.key := by
        intro p hp heq
        exact of_decide_eq_true hp (heq ▸ hkeys.1)
      calc
        ((l.edits (e :: es)).pairs.filter fun p => p.1 ∉ keys) =
            (l.edit e).pairs.filter fun p => p.1 ∉ keys := ih (l.edit e) hkeys.2
        _ = l.pairs.filter fun p => p.1 ∉ keys :=
            filter_eq_of_filter_ne_eq (l.filter_ne_edit e) hunnamed

/-! ## The values of a key -/

theorem getAll_set (l : Location) (key value : String) :
    (l.set key value).getAll key = [value] := by
  have hbefore : ∀ p ∈ l.pairs.takeWhile fun p => p.1 != key, ¬(p.1 == key) = true := by
    intro p hp
    have hne := List.mem_takeWhile_imp hp
    simpa using hne
  rw [getAll, pairs_set, List.filter_append, List.filter_eq_nil_iff.mpr hbefore]
  simp [List.filter_filter]

theorem getAll_append (l : Location) (key value : String) :
    (l.append key value).getAll key = l.getAll key ++ [value] := by
  simp [getAll]

theorem getAll_delete (l : Location) (key : String) : (l.delete key).getAll key = [] := by
  simp [getAll, List.filter_filter]

theorem getAll_edit_of_ne (l : Location) {e : Edit} (hkey : e.key ≠ key) :
    (l.edit e).getAll key = l.getAll key := by
  have hother : ∀ p : String × String, (p.1 == key) = true → p.1 ≠ e.key := by
    intro p hp
    rw [beq_iff_eq.mp hp]
    exact hkey.symm
  rw [getAll, getAll, filter_eq_of_filter_ne_eq (l.filter_ne_edit e) hother]

theorem getAll_edit (l : Location) (e : Edit) (key : String) :
    (l.edit e).getAll key = e.onValues key (l.getAll key) := by
  by_cases hkey : e.key = key
  · subst hkey
    cases e with
    | set key value => simp [edit, Edit.key, Edit.onValues, getAll_set]
    | append key value => simp [edit, Edit.key, Edit.onValues, getAll_append]
    | delete key => simp [edit, Edit.key, Edit.onValues, getAll_delete]
  · rw [l.getAll_edit_of_ne hkey]
    cases e <;> simp_all [Edit.key, Edit.onValues]

theorem getAll_edits (l : Location) (es : List Edit) (key : String) :
    (l.edits es).getAll key = es.foldl (Edit.onValues key) (l.getAll key) := by
  induction es generalizing l with
  | nil => rfl
  | cons e es ih =>
      calc
        (l.edits (e :: es)).getAll key = es.foldl (Edit.onValues key) ((l.edit e).getAll key) :=
          ih (l.edit e)
        _ = (e :: es).foldl (Edit.onValues key) (l.getAll key) := by
          rw [getAll_edit, List.foldl_cons]

/-- Edits make of the values of every key what they make of a list of its own, and leave the path
alone. Whatever edits there were, a value that is set is the only one of its key and stands where
the first one stood among the pairs of other keys, or last; a value that is added is the last one of
its key, and of a key that is deleted none is left. No edit touches the pairs of another key or
their order, and the first value of a key is what is found under it. -/
theorem edits_act_on_values (l : Location) (es : List Edit) :
    let m := l.edits es
    m.path = l.path ∧
    (∀ key, m.getAll key = es.foldl (Edit.onValues key) (l.getAll key)) ∧
    ((m.pairs.filter fun p => p.1 ∉ es.map Edit.key) =
      l.pairs.filter fun p => p.1 ∉ es.map Edit.key) ∧
    (∀ key, m.get? key = (m.getAll key).head?) ∧
    (∀ key value, (m.set key value).getAll key = [value] ∧
      (m.set key value).pairs = (m.pairs.takeWhile fun p => p.1 != key) ++
        (key, value) :: (m.pairs.dropWhile fun p => p.1 != key).filter fun p => p.1 != key) ∧
    (∀ key value, (m.append key value).getAll key = m.getAll key ++ [value]) ∧
    (∀ key, (m.delete key).getAll key = []) ∧
    ∀ e, (m.edit e).path = m.path ∧
      ((m.edit e).pairs.filter fun p => p.1 != e.key) = m.pairs.filter fun p => p.1 != e.key := by
  intro m
  refine ⟨l.path_edits es, l.getAll_edits es, ?_, m.get?_eq_head?_getAll,
    fun key value => ⟨m.getAll_set key value, m.pairs_set key value⟩, m.getAll_append,
    m.getAll_delete, fun e => ⟨m.path_edits [e], m.filter_ne_edit e⟩⟩
  exact l.filter_unnamed_edits fun e he => List.mem_map_of_mem he

/-- A value that is set takes the place of the first one. -/
example :
    let l : Location := ⟨"/", [("page", "2"), ("q", "a"), ("sort", "up"), ("q", "b")]⟩
    (l.edits [.append "q" "c", .delete "sort", .set "q" "d", .append "q" "e"]).pairs =
      [("page", "2"), ("q", "d"), ("q", "e")] := by
  decide

end Storefront.Location
