import Storefront.Proofs.Json.Alone
import Storefront.Proofs.Json.Written

/-! # Written numbers

A whole number that fits 64 bits is written as its decimal digits and read back as itself. A
floating-point number is always written with a point or an exponent, so that whatever is read back
is a floating-point number too; that it is the same one is what `ReadsBack` says. -/

namespace Storefront.Json

variable {depth : Nat}

/-! ## Whole numbers -/

theorem head_toDigits_ne_zero {n : Nat} (hn : n ≠ 0) {cs : List Char} :
    Nat.toDigits 10 n ≠ '0' :: cs := by
  induction n using Nat.strongRecOn generalizing cs with
  | ind n ih =>
      rw [Nat.toDigits_eq_if (by decide)]
      split
      · intro heq
        exact hn (Nat.digitChar_eq_zero.mp (List.cons.inj heq).1)
      · intro heq
        cases hdigits : Nat.toDigits 10 (n / 10) with
        | nil => exact Nat.toDigits_ne_nil hdigits
        | cons c more =>
            rw [hdigits, List.cons_append] at heq
            rw [(List.cons.inj heq).1] at hdigits
            exact ih (n / 10) (by omega) (by omega) hdigits

theorem exists_digits_toDigits (n : Nat) :
    ∃ ds : Digits, ds.text = Nat.toDigits 10 n ∧ (ds.first = '0' → ds.more = []) := by
  cases hdigits : Nat.toDigits 10 n with
  | nil => exact absurd hdigits Nat.toDigits_ne_nil
  | cons c cs =>
      have hall : ∀ d ∈ c :: cs, d.isDigit = true := by
        rw [← hdigits]
        exact fun d hd => Nat.isDigit_of_mem_toDigits (by decide) (by decide) hd
      refine ⟨⟨c, cs, hall⟩, rfl, ?_⟩
      rintro rfl
      by_cases hn : n = 0
      · subst hn
        exact (List.cons.inj hdigits).2.symm
      · exact absurd hdigits (head_toDigits_ne_zero hn)

theorem le_ofDigitChars (cs : List Char) (n : Nat) : n ≤ Nat.ofDigitChars 10 cs n := by
  induction cs generalizing n with
  | nil => exact Nat.le_refl n
  | cons c cs ih =>
      rw [Nat.ofDigitChars_cons]
      have hle := ih (10 * n + (c.toNat - '0'.toNat))
      omega

/-- Digits whose number fits are all added. -/
theorem accumulate_of_lt {cs : List Char} {significand : Nat}
    (h : Nat.ofDigitChars 10 cs significand < twoTo 64) (added : Nat) :
    accumulate significand added cs =
      (Nat.ofDigitChars 10 cs significand, added + cs.length, []) := by
  induction cs generalizing significand added with
  | nil => rfl
  | cons c cs ih =>
      rw [Nat.ofDigitChars_cons] at h
      have hnext : significand * 10 + digit c = 10 * significand + (c.toNat - '0'.toNat) := by
        rw [Nat.mul_comm]
        rfl
      have hfits : fits significand (digit c) = true := by
        rw [fits, decide_eq_true_eq, hnext]
        exact Nat.lt_of_le_of_lt (le_ofDigitChars cs _) h
      rw [accumulate, if_pos hfits, hnext, ih h, Nat.ofDigitChars_cons, List.length_cons,
        Nat.add_assoc, Nat.add_comm 1]

/-- A number that is written with digits only. -/
def NumberText.ofDigits (negative : Bool) (ds : Digits) (h : ds.first = '0' → ds.more = []) :
    NumberText :=
  ⟨negative, ds, h, none, none⟩

theorem number?_ofDigits {negative : Bool} {ds : Digits} {h : ds.first = '0' → ds.more = []}
    {n : Nat} (htext : ds.text = Nat.toDigits 10 n) (hn : n < twoTo 64) :
    (NumberText.ofDigits negative ds h).number? =
      (wholeNumber negative n [] []).toOption.map Prod.fst := by
  have hvalue : Nat.ofDigitChars 10 ds.text 0 = n := by
    rw [htext]
    exact Nat.ofDigitChars_ten_toDigits
  have haccumulate := accumulate_of_lt (hvalue.symm ▸ hn) 0
  rw [hvalue] at haccumulate
  rw [NumberText.number?, ← List.append_nil (NumberText.unsigned _), number_unsigned _ delimits_nil]
  simp only [NumberText.ofDigits, haccumulate, NumberText.tail, Option.elim, List.append_nil,
    wholeTail_of_delimits delimits_nil]

theorem standsFor_natural {n : Nat} (hn : n < twoTo 64) (depth : Nat) :
    StandsFor depth (Nat.toDigits 10 n) (.number (.natural n)) := by
  obtain ⟨ds, htext, hzero⟩ := exists_digits_toDigits n
  refine ⟨.number (.ofDigits false ds hzero), ?_, ?_⟩
  · simp [Tree.text, NumberText.text, NumberText.ofDigits, NumberText.unsigned, NumberText.tail,
      htext]
  · rw [Tree.value?, number?_ofDigits htext hn]
    rfl

theorem standsFor_negative {n : Nat} (hpos : 0 < n) (hn : n ≤ twoTo 63) (depth : Nat) :
    StandsFor depth ('-' :: Nat.toDigits 10 n) (.number (.negative n)) := by
  obtain ⟨ds, htext, hzero⟩ := exists_digits_toDigits n
  have hlt : n < twoTo 64 := Nat.lt_of_le_of_lt hn (by decide)
  have hfits : (n == 0 || decide (n > twoTo 63)) = false := by
    simp [Nat.ne_of_gt hpos, hn]
  refine ⟨.number (.ofDigits true ds hzero), ?_, ?_⟩
  · simp [Tree.text, NumberText.text, NumberText.ofDigits, NumberText.unsigned, NumberText.tail,
      htext]
  · rw [Tree.value?, number?_ofDigits htext hlt, wholeNumber]
    simp only [hfits]
    rfl

/-! ## Floating-point numbers -/

/-- Nothing but floating-point numbers is read. -/
def Floats (read : Except Failure (Number × List Char)) : Prop :=
  ∀ n rest, read = .ok (n, rest) → ∃ x, n = .float x

theorem floats_ok (x : Binary64) (rest : List Char) : Floats (.ok (.float x, rest)) := by
  intro n rest' h
  exact ⟨x, (Prod.mk.inj (Except.ok.inj h)).1.symm⟩

theorem floats_fail (failure : Failure) : Floats (.error failure) :=
  fun _ _ h => nomatch h

variable (negative : Bool) (significand : Nat) (exponent : Int)

theorem floats_float (rest : List Char) : Floats (float negative significand exponent rest) := by
  rw [float]
  split
  · exact floats_ok _ _
  · exact floats_fail _

theorem floats_exponentTail (e : Exponent) :
    Floats (exponentTail negative significand exponent (e.sign.text ++ e.digits.text)) := by
  have htext : exponentTail negative significand exponent (e.sign.text ++ (e.digits.text ++ [])) =
      exponentDigitsTail negative significand exponent e.sign.isMinus e.digits.text [] :=
    exponentTail_text e delimits_nil.endsDigits
  rw [List.append_nil] at htext
  rw [htext, exponentDigitsTail]
  dsimp only
  split
  · exact floats_float _ _ _ _
  · split
    · exact floats_fail _
    · exact floats_ok _ _

theorem floats_afterPlaces (e? : Option Exponent) :
    Floats (afterPlaces negative significand exponent (e?.elim [] Exponent.text)) := by
  cases e? with
  | none => exact floats_float _ _ _ _
  | some e =>
      have hexponent := floats_exponentTail negative significand exponent e
      cases hcapital : e.capital <;> simpa [Exponent.text, hcapital, afterPlaces] using hexponent

theorem floats_places (ds : Digits) (e? : Option Exponent) :
    Floats (places negative significand exponent (ds.text ++ e?.elim [] Exponent.text)) := by
  have hends := endsDigits_exponent delimits_nil e?
  rw [List.append_nil] at hends
  unfold places
  rw [takeDigits_text ds hends]
  exact floats_afterPlaces _ _ _ e?

/-- A number that is written with a point or an exponent is no whole number. -/
theorem exists_float_of_number? {n : NumberText} (hn : n.places ≠ none ∨ n.exponent ≠ none)
    {x : Number} (h : n.number? = some x) : ∃ y, x = .float y := by
  have htail : Floats (wholeTail n.negative (accumulate 0 0 n.whole.text).1
      (accumulate 0 0 n.whole.text).2.2 n.tail) := by
    rw [NumberText.tail]
    cases hplaces : n.places with
    | some ds => exact floats_places _ _ _ ds n.exponent
    | none =>
        cases hexponent : n.exponent with
        | none => exact absurd hn (by simp [hplaces, hexponent])
        | some e =>
            have hfloats := floats_exponentTail n.negative (accumulate 0 0 n.whole.text).1
              (accumulate 0 0 n.whole.text).2.2.length e
            cases hcapital : e.capital <;> simpa [Exponent.text, hcapital, wholeTail] using hfloats
  rw [NumberText.number?, ← List.append_nil n.unsigned, number_unsigned n delimits_nil,
    List.append_nil, Option.map_eq_some_iff] at h
  obtain ⟨⟨y, rest⟩, hread, rfl⟩ := h
  exact htail y rest (toOption_eq_some_iff.mp hread)

end Storefront.Json

namespace Storefront.Binary64

/-- A character that numbers are written with. -/
def isNumeral (c : Char) : Bool :=
  c.isDigit || ['-', '+', '.', 'e'].contains c

theorem isNumeral_of_isDigit {c : Char} (h : c.isDigit = true) : isNumeral c = true := by
  rw [isNumeral, h, Bool.true_or]

theorem isNumeral_digitsOf (n : Nat) : ∀ c ∈ digitsOf n, isNumeral c = true :=
  fun _ hc => isNumeral_of_isDigit (Nat.isDigit_of_mem_toDigits (by decide) (by decide) hc)

theorem isNumeral_replicate_zero (n : Nat) : ∀ c ∈ List.replicate n '0', isNumeral c = true := by
  intro c hc
  rw [List.eq_of_mem_replicate hc]
  rfl

theorem isNumeral_pointed {digits : List Char} (h : ∀ c ∈ digits, isNumeral c = true)
    (places : Nat) : ∀ c ∈ pointed digits places, isNumeral c = true := by
  unfold pointed
  dsimp only
  split
  · exact h
  · have hpadded := List.forall_mem_append.mpr
      ⟨isNumeral_replicate_zero (places + 1 - digits.length), h⟩
    refine List.forall_mem_append.mpr ⟨fun c hc => hpadded c (List.mem_of_mem_take hc),
      List.forall_mem_cons.mpr ⟨rfl, fun c hc => hpadded c (List.mem_of_mem_drop hc)⟩⟩

theorem isNumeral_positional (d : Decimal) : ∀ c ∈ d.positional, isNumeral c = true := by
  unfold Decimal.positional
  split
  · exact List.forall_mem_append.mpr ⟨isNumeral_digitsOf _, isNumeral_replicate_zero _⟩
  · exact isNumeral_pointed (isNumeral_digitsOf _) _

theorem isNumeral_toString (i : Int) : ∀ c ∈ (toString i).toList, isNumeral c = true := by
  cases i with
  | ofNat n =>
      have htext : (toString (Int.ofNat n)).toList = digitsOf n := Nat.toList_repr
      rw [htext]
      exact isNumeral_digitsOf n
  | negSucc n =>
      have htext : (toString (Int.negSucc n)).toList = '-' :: digitsOf (n + 1) := by
        change ("-" ++ Nat.repr (n + 1)).toList = _
        rw [String.toList_append, Nat.toList_repr]
        rfl
      rw [htext]
      exact List.forall_mem_cons.mpr ⟨rfl, isNumeral_digitsOf _⟩

theorem isNumeral_dataText {x : Binary64} (hfinite : x.isFinite = true) :
    ∀ c ∈ x.dataText.toList, isNumeral c = true := by
  have hsign : ∀ c ∈ x.signOf, isNumeral c = true := by
    unfold signOf
    split
    · exact List.forall_mem_singleton.mpr rfl
    · exact List.forall_mem_nil _
  unfold dataText
  rw [if_neg (by rw [hfinite]; decide)]
  dsimp only
  split
  · rw [String.toList_ofList]
    exact List.forall_mem_append.mpr ⟨hsign, by simp [isNumeral]⟩
  · rw [String.toList_ofList]
    refine List.forall_mem_append.mpr ⟨hsign, ?_⟩
    split
    · exact List.forall_mem_append.mpr ⟨isNumeral_positional _, by simp [isNumeral]⟩
    · split
      · exact isNumeral_positional _
      · refine List.forall_mem_append.mpr ⟨List.forall_mem_append.mpr
          ⟨?_, List.forall_mem_cons.mpr ⟨rfl, ?_⟩⟩, isNumeral_toString _⟩
        · have hdigits := isNumeral_digitsOf x.shortest.digits
          split
          · rename_i hsingle
            rwa [hsingle] at hdigits
          · rename_i hcons
            rw [hcons, List.forall_mem_cons] at hdigits
            exact List.forall_mem_cons.mpr ⟨hdigits.1, List.forall_mem_cons.mpr ⟨rfl, hdigits.2⟩⟩
          · exact List.forall_mem_nil _
        · split <;> simp [isNumeral]

/-- A finite number is written with a point or an exponent. -/
theorem mem_dataText {x : Binary64} (hfinite : x.isFinite = true) :
    '.' ∈ x.dataText.toList ∨ 'e' ∈ x.dataText.toList := by
  unfold dataText
  rw [if_neg (by rw [hfinite]; decide)]
  dsimp only
  split
  · rw [String.toList_ofList]
    exact .inl (List.mem_append_right _ (by decide))
  · rw [String.toList_ofList]
    split
    · exact .inl (List.mem_append_right _ (List.mem_append_right _ (by decide)))
    · rename_i hlong
      split
      · rename_i hshort
        refine .inl (List.mem_append_right _ ?_)
        unfold Decimal.positional
        split
        · rename_i e hexponent
          simp only [Bool.and_eq_true, decide_eq_true_eq] at hlong hshort
          exact absurd ⟨hexponent ▸ Int.natCast_nonneg e, hshort.2⟩ hlong
        · unfold pointed
          rw [if_neg (Nat.succ_ne_zero _)]
          exact List.mem_append_right _ List.mem_cons_self
      · exact .inr (List.mem_append_right _
          (List.mem_append_left _ (List.mem_append_right _ List.mem_cons_self)))

theorem eq_zero_of_isZero {x : Binary64} (h : x.isZero = true) : ∃ negative, x = zero negative := by
  have hsignificand : x.significand = 0 := by
    rw [isZero, Bool.and_eq_true, beq_iff_eq] at h
    exact h.2
  have hfields : x.exponent = 0 ∧ x.fraction = 0 := by
    have hpower : 0 < twoTo 52 := by decide
    rw [significand] at hsignificand
    split at hsignificand
    · exact ⟨‹_›, hsignificand⟩
    · omega
  have hexponent : x.bits.toNat / 2 ^ 52 % 2 ^ 11 = 0 := hfields.1
  have hfraction : x.bits.toNat % 2 ^ 52 = 0 := hfields.2
  have hlt : x.bits.toNat < 2 ^ 64 := x.bits.toNat_lt
  have hbits : x.bits.toNat = 0 ∨ x.bits.toNat = 2 ^ 63 := by omega
  rcases hbits with hbits | hbits
  · exact ⟨false, congrArg mk (UInt64.toNat_inj.mp hbits)⟩
  · exact ⟨true, congrArg mk (UInt64.toNat_inj.mp hbits)⟩

end Storefront.Binary64

namespace Storefront.Json

theorem number_of_value? {t : Tree} {n : Number} (h : t.value? depth = some (.number n)) :
    ∃ text, t = .number text ∧ text.number? = some n := by
  cases t with
  | number text =>
      obtain ⟨m, hm, heq⟩ := Option.map_eq_some_iff.mp h
      obtain rfl := Value.number.inj heq
      exact ⟨text, rfl, hm⟩
  | array gap items => cases depth <;> simp [Tree.value?] at h
  | object gap members => cases depth <;> simp [Tree.value?] at h
  | _ => simp [Tree.value?] at h

/-- A number without a point and an exponent is written without their letters. -/
theorem not_mem_text {n : NumberText} (h : ¬ (n.places ≠ none ∨ n.exponent ≠ none)) {c : Char}
    (hdigit : c.isDigit = false) (hsign : c ≠ '-') : c ∉ n.text := by
  simp only [not_or, not_not] at h
  have hwhole : ∀ d ∈ n.whole.text, d.isDigit = true := n.whole.isDigit
  intro hmem
  rw [NumberText.text, NumberText.unsigned, NumberText.tail, h.1, h.2] at hmem
  simp only [Option.elim, List.append_nil, List.mem_append] at hmem
  rcases hmem with hmem | hmem
  · split at hmem
    · exact hsign (List.mem_singleton.mp hmem)
    · cases hmem
  · exact Bool.false_ne_true (hdigit.symm.trans (hwhole c hmem))

/-- What a finite number is written as stands for the number that is read back. -/
theorem standsFor_writeFloat {x : Binary64} (hfinite : x.isFinite = true) {n : Number}
    (h : ended (value depthLimit (writeFloat x)) = .ok (.number n)) :
    (∃ y, n = .float y) ∧ ∀ depth, StandsFor depth (writeFloat x) (.number n) := by
  obtain ⟨before, t, after, htext, halone⟩ :=
    (takesValues_value depthLimit).ended_eq_ok_iff.mp h
  rw [(value_text t depthLimit).alone?_eq] at halone
  obtain ⟨text, rfl, hnumber⟩ := number_of_value? halone
  have hwritten : writeFloat x = x.dataText.toList := if_pos hfinite
  have hgap : ∀ gap : Gap, (∀ c ∈ gap.chars, c ∈ writeFloat x) → gap.chars = [] := by
    intro gap hmem
    have hspaces : ∀ c ∈ [' ', '\t', '\n', '\r'], Binary64.isNumeral c = false := by
      simp [Binary64.isNumeral]
    refine List.eq_nil_iff_forall_not_mem.mpr fun c hc => ?_
    have hnumeral := Binary64.isNumeral_dataText hfinite c (hwritten ▸ hmem c hc)
    exact Bool.false_ne_true ((hspaces c (gap.blank c hc)).symm.trans hnumeral)
  have hbefore : before.chars = [] := hgap before (by simp +contextual [htext])
  have hafter : after.chars = [] := hgap after (by simp +contextual [htext])
  rw [hbefore, hafter, List.nil_append, List.append_nil, Tree.text] at htext
  refine ⟨exists_float_of_number? ?_ hnumber,
    fun depth => ⟨.number text, htext.symm, by rw [Tree.value?, hnumber, Option.map_some]⟩⟩
  by_contra hnone
  have hletter := Binary64.mem_dataText hfinite
  rw [← hwritten, htext] at hletter
  exact hletter.elim (not_mem_text hnone (by decide) (by decide))
    (not_mem_text hnone (by decide) (by decide))

/-- What a number is written as is read as a number equal to it. -/
def ReadsBack (x : Binary64) : Prop :=
  ∃ n, ended (value depthLimit (writeFloat x)) = .ok (.number n) ∧ n.toBinary64.equals x = true

/-- Whether a text holds a number equal to a given one. -/
def holdsNumber (cs : List Char) (x : Binary64) : Bool :=
  match ended (value depthLimit cs) with
  | .ok (.number n) => n.toBinary64.equals x
  | _ => false

theorem holdsNumber_writeFloat_iff (x : Binary64) :
    holdsNumber (writeFloat x) x = true ↔ ReadsBack x := by
  rw [ReadsBack, holdsNumber]
  split
  · rename_i n hread
    simp [hread]
  · rename_i hother
    exact iff_of_false Bool.false_ne_true fun ⟨n, hread, _⟩ => hother n hread

instance (x : Binary64) : Decidable (ReadsBack x) :=
  decidable_of_iff _ (holdsNumber_writeFloat_iff x)

theorem standsFor_float {x : Binary64} (hfinite : x.isFinite = true) (h : ReadsBack x)
    (depth : Nat) : StandsFor depth (writeFloat x) (.number (.float x)) := by
  by_cases hzero : x.isZero = true
  · -- the two zeros are equal and written apart
    obtain ⟨negative, rfl⟩ := Binary64.eq_zero_of_isZero hzero
    have hread : ended (value depthLimit (writeFloat (.zero negative))) =
        .ok (.number (.float (.zero negative))) := by
      cases negative <;> with_unfolding_all rfl
    exact (standsFor_writeFloat hfinite hread).2 depth
  · obtain ⟨n, hread, hequals⟩ := h
    obtain ⟨⟨y, rfl⟩, hstands⟩ := standsFor_writeFloat hfinite hread
    have hsame : y = x := by
      simp only [Binary64.equals, Number.toBinary64, hzero, Bool.and_false, Bool.or_false,
        Bool.and_eq_true, beq_iff_eq] at hequals
      exact hequals.2
    subst hsame
    exact hstands depth

/-- A number that JSON texts can hold as it is: one of 64 bits, with a sign only if it is below
zero, or a finite one. -/
def Number.Valid : Number → Prop
  | .natural n => n < twoTo 64
  | .negative n => 0 < n ∧ n ≤ twoTo 63
  | .float x => x.isFinite = true

theorem standsFor_writeNumber {n : Number} (hvalid : n.Valid)
    (hreads : ∀ x, n = .float x → ReadsBack x) (depth : Nat) :
    StandsFor depth (writeNumber n) (.number n) := by
  cases n with
  | natural n =>
      have htext : writeNumber (.natural n) = Nat.toDigits 10 n := Nat.toList_repr
      rw [htext]
      exact standsFor_natural hvalid depth
  | negative n =>
      have htext : writeNumber (.negative n) = '-' :: Nat.toDigits 10 n := by
        rw [writeNumber, Number.text, String.toList_append, Nat.toList_repr]
        · rfl
        · exact fun _ h => nomatch h
      rw [htext]
      exact standsFor_negative hvalid.1 hvalid.2 depth
  | float x => exact standsFor_float hvalid (hreads x rfl) depth

end Storefront.Json
