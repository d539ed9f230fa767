import Storefront.Http.Timeout

/-! # Which numbers of seconds are timeouts

A timeout is counted in nanoseconds, so a number of seconds may be too small for one, though it is
positive, and too large for one, though it is finite. -/

namespace Storefront

namespace Binary64

theorem ratio_snd_pos (x : Binary64) : 0 < x.ratio.2 := by
  unfold ratio
  split
  · exact Nat.zero_lt_one
  · exact Nat.pow_pos Nat.zero_lt_two

/-- What is rounded to nothing is at most a half. -/
theorem roundQuotient_pos_iff {num den : Nat} (hden : 0 < den) :
    0 < roundQuotient num den ↔ den < 2 * num := by
  rcases Nat.lt_or_ge num den with hlt | hge
  · have hq : num / den = 0 := Nat.div_eq_of_lt hlt
    have hr : num % den = num := Nat.mod_eq_of_lt hlt
    simp only [roundQuotient, hq, hr]
    by_cases h : den < 2 * num <;> simp [h]
  · have hq : 0 < num / den := Nat.div_pos hge hden
    have hpos : 0 < roundQuotient num den := by
      unfold roundQuotient
      dsimp only
      split
      · exact Nat.succ_pos _
      · exact hq
    exact iff_of_true hpos (by omega)

end Binary64

namespace Http.Timeout

/-- More than half a nanosecond, and less than `2 ^ 64` seconds. -/
def Spans (x : Binary64) : Prop :=
  x.ratio.2 < 2 * (x.ratio.1 * tenTo 9) ∧ x.ratio.1 < twoTo 64 * x.ratio.2

instance (x : Binary64) : Decidable (Spans x) :=
  inferInstanceAs (Decidable (_ ∧ _))

theorem exists_ofSeconds?_iff (x : Binary64) :
    (∃ t, ofSeconds? x = some t) ↔ x.isFinite = true ∧ x.isNegative = false ∧ Spans x := by
  rw [← Option.isSome_iff_exists, ofSeconds?, Spans,
    ← Binary64.roundQuotient_pos_iff x.ratio_snd_pos]
  split
  · rename_i hrefused
    rw [Bool.or_eq_true, Bool.not_eq_true'] at hrefused
    rcases hrefused with hrefused | hrefused <;> simp [hrefused]
  · rename_i hkept
    rw [Bool.or_eq_true, not_or, Bool.not_eq_true', Bool.not_eq_false, Bool.not_eq_true] at hkept
    dsimp only
    split
    · rename_i hpos
      split
      · rename_i hlt
        exact iff_of_true rfl ⟨hkept.1, hkept.2, hpos, hlt⟩
      · rename_i hge
        exact iff_of_false (by simp) fun h => hge h.2.2.2
    · rename_i hzero
      exact iff_of_false (by simp) fun h => hzero h.2.2.1

end Http.Timeout

end Storefront
