import Storefront.Location

/-! # Parameters of a location

What setting, adding and deleting a parameter makes of the pairs. A value that is set takes the place
of the first pair of its key; no pair of another key is touched or moved. -/

namespace Storefront.Location

variable {key value : String} {l : Location}

theorem eq_of_path_eq_of_pairs_eq {l m : Location} (hpath : l.path = m.path)
    (hpairs : l.pairs = m.pairs) : l = m := by
  cases l
  cases m
  cases hpath
  cases hpairs
  rfl

/-! ## Paths -/

@[simp] theorem path_append (l : Location) (key value : String) : (l.append key value).path = l.path :=
  rfl

@[simp] theorem path_delete (l : Location) (key : String) : (l.delete key).path = l.path :=
  rfl

@[simp] theorem path_set (l : Location) (key value : String) : (l.set key value).path = l.path := by
  unfold set
  split <;> rfl

/-! ## Pairs -/

@[simp] theorem pairs_append (l : Location) (key value : String) :
    (l.append key value).pairs = l.pairs ++ [(key, value)] :=
  rfl

@[simp] theorem pairs_delete (l : Location) (key : String) :
    (l.delete key).pairs = l.pairs.filter fun p => p.1 != key :=
  rfl

/-- No pair has this key. -/
def Lacks (key : String) (ps : List (String × String)) : Prop :=
  ∀ p ∈ ps, p.1 ≠ key

theorem lacks_nil (key : String) : Lacks key [] :=
  fun _ hp => absurd hp List.not_mem_nil

theorem lacks_cons_iff {p : String × String} {ps : List (String × String)} :
    Lacks key (p :: ps) ↔ p.1 ≠ key ∧ Lacks key ps :=
  List.forall_mem_cons

/-- Pairs either lack a key or have a first one of it. -/
theorem lacks_or_exists_first (key : String) (ps : List (String × String)) :
    Lacks key ps ∨ ∃ front value back, ps = front ++ (key, value) :: back ∧ Lacks key front := by
  induction ps with
  | nil => exact .inl (lacks_nil key)
  | cons p ps ih =>
      by_cases hp : p.1 = key
      · exact .inr ⟨[], p.2, ps, by simp [← hp], lacks_nil key⟩
      · rcases ih with hlacks | ⟨front, value, back, rfl, hfront⟩
        · exact .inl (lacks_cons_iff.mpr ⟨hp, hlacks⟩)
        · exact .inr ⟨p :: front, value, back, rfl, lacks_cons_iff.mpr ⟨hp, hfront⟩⟩

theorem any_eq_false_of_lacks {ps : List (String × String)} (h : Lacks key ps) :
    (ps.any fun p => p.1 == key) = false := by
  simpa [Lacks] using h

theorem filter_ne_of_lacks {ps : List (String × String)} (h : Lacks key ps) :
    (ps.filter fun p => p.1 != key) = ps :=
  List.filter_eq_self.mpr fun p hp => bne_iff_ne.mpr (h p hp)

theorem filter_eq_nil_of_lacks {ps : List (String × String)} (h : Lacks key ps) :
    (ps.filter fun p => p.1 == key) = [] :=
  List.filter_eq_nil_iff.mpr fun p hp => by simpa using h p hp

theorem setFirst_append_cons {front : List (String × String)} (h : Lacks key front) (old : String)
    (back : List (String × String)) :
    setFirst key value (front ++ (key, old) :: back) =
      front ++ (key, value) :: back.filter fun p => p.1 != key := by
  induction front with
  | nil => simp [setFirst]
  | cons p front ih =>
      obtain ⟨hp, hfront⟩ := lacks_cons_iff.mp h
      simp [setFirst, hp, ih hfront]

/-- A key that was not there comes last. -/
theorem pairs_set_of_lacks (h : Lacks key l.pairs) (value : String) :
    (l.set key value).pairs = l.pairs ++ [(key, value)] := by
  rw [set, any_eq_false_of_lacks h]
  rfl

/-- The first pair of the key takes the value, and no later one stays. -/
theorem pairs_set_of_first {front back : List (String × String)} {old : String}
    (hpairs : l.pairs = front ++ (key, old) :: back) (h : Lacks key front) (value : String) :
    (l.set key value).pairs = front ++ (key, value) :: back.filter fun p => p.1 != key := by
  have hany : (l.pairs.any fun p => p.1 == key) = true := by simp [hpairs]
  rw [set, if_pos hany, hpairs]
  exact setFirst_append_cons h old back

/-! ## Edits -/

/-- A change of the parameters. -/
inductive Edit where
  | set (key value : String)
  | append (key value : String)
  | delete (key : String)
  deriving DecidableEq, Repr

def edit (l : Location) : Edit → Location
  | .set key value => l.set key value
  | .append key value => l.append key value
  | .delete key => l.delete key

def edits (l : Location) (es : List Edit) : Location :=
  es.foldl edit l

@[simp] theorem path_edits (l : Location) (es : List Edit) : (l.edits es).path = l.path := by
  induction es generalizing l with
  | nil => rfl
  | cons e es ih =>
      have hedit : (l.edit e).path = l.path := by cases e <;> simp [edit]
      exact (ih (l.edit e)).trans hedit

/-! ## Values -/

theorem get?_eq_head?_getAll (l : Location) (key : String) : l.get? key = (l.getAll key).head? := by
  rw [get?, getAll, List.head?_map, List.head?_filter]

end Storefront.Location
