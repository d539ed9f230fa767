import Storefront.Json.Skipper
import Storefront.Proofs.Json.Front

/-! # Passing over what can be read

Where a value can be read, passing over it gets to the same text behind it. What is asked of the
text on the way is less, so the converse fails. -/

namespace Storefront.Json

variable {cs rest behind : List Char}

/-! ## Strings -/

theorem length_of_hex4 {n : Nat} (h : hex4 cs = .ok (n, rest)) : rest.length < cs.length := by
  unfold hex4 at h
  split at h
  · split at h
    · cases h
      simp only [List.length_cons]
      omega
    · nomatch h
  · split at h <;> nomatch h

/-- The second half of a pair is an escape of its own. -/
theorem escape_of_lowHalf {high : Nat} {c : Char} (h : lowHalf high cs = .ok (c, rest)) :
    ∃ behind, cs = '\\' :: behind ∧ Skip.escape behind = .ok rest ∧
      rest.length < behind.length := by
  unfold lowHalf at h
  split at h
  · nomatch h
  · split at h
    · nomatch h
    · rename_i digits
      obtain ⟨⟨low, after⟩, hhex, h⟩ := exists_of_bind_eq_ok h
      dsimp only at h
      split at h
      · obtain ⟨-, rfl⟩ := Prod.mk.inj (Except.ok.inj h)
        refine ⟨_, rfl, ?_, Nat.lt_succ_of_lt (length_of_hex4 hhex)⟩
        simp only [Skip.escape, hhex]
        rfl
      · nomatch h
    · nomatch h
  · nomatch h

/-- An escape that is read is passed over, as one or as two of them. -/
theorem skip_escape {c : Char} (h : escape cs = .ok (c, rest)) :
    ∃ mid, Skip.escape cs = .ok mid ∧ mid.length < cs.length ∧
      (mid = rest ∨ ∃ behind, mid = '\\' :: behind ∧ Skip.escape behind = .ok rest ∧
        rest.length < behind.length) := by
  unfold escape at h
  split at h
  case h_1 => nomatch h
  case h_10 digits =>
    obtain ⟨⟨n, after⟩, hhex, h⟩ := exists_of_bind_eq_ok h
    have hskip : Skip.escape ('u' :: digits) = .ok after := by
      simp only [Skip.escape, hhex]
      rfl
    refine ⟨after, hskip, Nat.lt_succ_of_lt (length_of_hex4 hhex), ?_⟩
    dsimp only at h
    split at h
    · nomatch h
    · split at h
      · exact .inr (escape_of_lowHalf h)
      · obtain ⟨-, rfl⟩ := Prod.mk.inj (Except.ok.inj h)
        exact .inl rfl
  case h_11 => nomatch h
  all_goals
    cases h
    exact ⟨_, rfl, Nat.lt_succ_self _, .inl rfl⟩

theorem skip_stringChars {fuel : Nat} (more : Nat) {out : List Char}
    (h : stringChars fuel cs = .ok (out, rest)) (hmore : cs.length < more) :
    Skip.stringTail more cs = .ok rest ∧ rest.length < cs.length := by
  induction fuel generalizing cs out more with
  | zero => nomatch h
  | succ fuel ih =>
      obtain ⟨more, rfl⟩ := Nat.exists_eq_succ_of_ne_zero (Nat.ne_of_gt (Nat.zero_lt_of_lt hmore))
      unfold stringChars at h
      split at h
      · nomatch h
      · cases h
        exact ⟨rfl, Nat.lt_succ_self _⟩
      · rename_i text
        rw [List.length_cons] at hmore
        obtain ⟨⟨c, after⟩, hescape, h⟩ := exists_of_bind_eq_ok h
        obtain ⟨⟨chars, last⟩, hchars, h⟩ := exists_of_bind_eq_ok h
        obtain ⟨-, rfl⟩ := Prod.mk.inj (Except.ok.inj h)
        obtain ⟨mid, hmid, hlt, hcases⟩ := skip_escape hescape
        have hstep : Skip.stringTail (more + 1) ('\\' :: text) = Skip.stringTail more mid := by
          simp only [Skip.stringTail, hmid]
          rfl
        rw [hstep]
        rcases hcases with rfl | ⟨second, rfl, hsecond, hlt'⟩
        · obtain ⟨hskip, hlast⟩ := ih more hchars (by omega)
          exact ⟨hskip, by simp only [List.length_cons]; omega⟩
        · -- a pair of escapes takes one more step
          rw [List.length_cons] at hlt
          obtain ⟨more, rfl⟩ := Nat.exists_eq_succ_of_ne_zero (n := more) (by omega)
          obtain ⟨hskip, hlast⟩ := ih more hchars (by omega)
          refine ⟨?_, by simp only [List.length_cons]; omega⟩
          simp only [Skip.stringTail, hsecond]
          exact hskip
      · rename_i c text hquote hslash
        rw [List.length_cons] at hmore
        split at h
        · nomatch h
        · rename_i hcontrol
          obtain ⟨⟨chars, last⟩, hchars, h⟩ := exists_of_bind_eq_ok h
          obtain ⟨-, rfl⟩ := Prod.mk.inj (Except.ok.inj h)
          obtain ⟨hskip, hlast⟩ := ih more hchars (by omega)
          refine ⟨?_, Nat.lt_succ_of_lt hlast⟩
          rw [Skip.stringTail, if_neg hcontrol]
          · exact hskip
          · exact hquote
          · exact hslash

theorem skip_stringTail {s : String} (h : stringTail cs = .ok (s, rest)) :
    Skip.stringTail (cs.length + 1) cs = .ok rest ∧ rest.length < cs.length := by
  obtain ⟨⟨out, last⟩, hchars, h⟩ := exists_of_bind_eq_ok h
  obtain ⟨-, rfl⟩ := Prod.mk.inj (Except.ok.inj h)
  exact skip_stringChars _ hchars (Nat.lt_succ_self _)

/-! ## Numbers -/

section Numbers

variable {negative : Bool} {significand : Nat} {exponent : Int} {n : Number} {c : Char}
  {digits : List Char}

theorem isDigit_of_takeDigits (h : (takeDigits (c :: digits)).1 ≠ []) : c.isDigit = true := by
  by_contra hnot
  rw [takeDigits, List.takeWhile_cons_of_neg hnot] at h
  exact h rfl

theorem behind_takeDigits (hdigit : c.isDigit = true) :
    (takeDigits (c :: digits)).2 = digits.dropWhile Char.isDigit :=
  List.dropWhile_cons_of_pos hdigit

/-- An exponent without its sign. -/
def unsigned (cs : List Char) : List Char :=
  match cs with
  | '-' :: rest => rest
  | '+' :: rest => rest
  | cs => cs

theorem length_unsigned_le (cs : List Char) : (unsigned cs).length ≤ cs.length := by
  unfold unsigned
  split
  · exact Nat.le_succ _
  · exact Nat.le_succ _
  · exact Nat.le_refl _

theorem eq_of_float (h : float negative significand exponent cs = .ok (n, rest)) :
    rest = cs := by
  unfold float at h
  split at h
  · exact (Prod.mk.inj (Except.ok.inj h)).2.symm
  · nomatch h

theorem eq_of_refused_or_read {p : Prop} [Decidable p] {failure : Failure} {m n : Number}
    (h : (if p then .error failure else .ok (m, cs)) = Except.ok (n, rest)) : rest = cs := by
  split at h
  · nomatch h
  · exact (Prod.mk.inj (Except.ok.inj h)).2.symm

/-- What is read of an exponent is a digit and all digits behind it. -/
theorem unsigned_of_exponentTail
    (h : exponentTail negative significand exponent cs = .ok (n, rest)) :
    ∃ c digits, unsigned cs = c :: digits ∧ c.isDigit = true ∧
      rest = digits.dropWhile Char.isDigit := by
  unfold exponentTail at h
  dsimp only at h
  split at h
  · cases h
  · rename_i c digits heq
    have hunsigned : unsigned cs = c :: digits := by
      rw [← heq]
      grind [unsigned]
    rw [heq] at h
    split at h
    · cases h
    · rename_i hdigit
      rw [Bool.not_eq_true, Bool.not_eq_false'] at hdigit
      refine ⟨c, digits, hunsigned, hdigit, ?_⟩
      rw [behind_takeDigits hdigit] at h
      split at h
      · exact eq_of_float h
      · exact eq_of_refused_or_read h

theorem exponent_of_unsigned (h : unsigned cs = c :: digits)
    (hdigit : c.isDigit = true) : Skip.exponent cs = .ok (digits.dropWhile Char.isDigit) := by
  rcases cs with _ | ⟨sign, text⟩
  · cases h
  · by_cases hminus : sign = '-'
    · subst hminus
      obtain rfl : text = c :: digits := h
      exact if_pos hdigit
    · by_cases hplus : sign = '+'
      · subst hplus
        obtain rfl : text = c :: digits := h
        exact if_pos hdigit
      · have hsame : unsigned (sign :: text) = sign :: text := by simp [unsigned, hminus, hplus]
        obtain ⟨rfl, rfl⟩ := List.cons.inj (hsame.symm.trans h)
        simp [Skip.exponent, hminus, hplus, hdigit]

theorem skip_exponentTail
    (h : exponentTail negative significand exponent cs = .ok (n, rest)) :
    Skip.exponent cs = .ok rest ∧ rest.length < cs.length := by
  obtain ⟨c, digits, hunsigned, hdigit, rfl⟩ := unsigned_of_exponentTail h
  constructor
  · exact exponent_of_unsigned hunsigned hdigit
  · have hle := length_unsigned_le cs
    have hdrop := List.length_dropWhile_le Char.isDigit digits
    rw [hunsigned, List.length_cons] at hle
    omega

/-- Behind digits that no exponent follows there is nothing to pass over. -/
theorem afterDigits_eq_ok (hlower : ∀ rest, cs = 'e' :: rest → False)
    (hupper : ∀ rest, cs = 'E' :: rest → False) : Skip.afterDigits cs = .ok cs := by
  unfold Skip.afterDigits
  split
  · exact (hlower _ rfl).elim
  · exact (hupper _ rfl).elim
  · rfl

theorem skip_afterPlaces
    (h : afterPlaces negative significand exponent cs = .ok (n, rest)) :
    Skip.afterDigits cs = .ok rest ∧ rest.length ≤ cs.length := by
  unfold afterPlaces at h
  split at h
  · obtain ⟨hskip, hlt⟩ := skip_exponentTail h
    exact ⟨hskip, Nat.le_of_lt (Nat.lt_succ_of_lt hlt)⟩
  · obtain ⟨hskip, hlt⟩ := skip_exponentTail h
    exact ⟨hskip, Nat.le_of_lt (Nat.lt_succ_of_lt hlt)⟩
  · rename_i hlower hupper
    obtain rfl := eq_of_float h
    exact ⟨afterDigits_eq_ok hlower hupper, Nat.le_refl _⟩

theorem skip_places
    (h : places negative significand exponent cs = .ok (n, rest)) :
    cs.head?.any Char.isDigit = true ∧ Skip.afterDigits (cs.dropWhile Char.isDigit) = .ok rest ∧
      rest.length < cs.length := by
  unfold places at h
  dsimp only at h
  split at h
  · split at h <;> nomatch h
  · rename_i hdigits
    cases cs with
    | nil => exact (hdigits rfl).elim
    | cons c digits =>
        have hdigit := isDigit_of_takeDigits fun hnil => hdigits (List.isEmpty_iff.mpr hnil)
        obtain ⟨hskip, hle⟩ := skip_afterPlaces h
        have hshort := List.length_dropWhile_le Char.isDigit digits
        rw [behind_takeDigits hdigit] at hskip hle
        rw [List.dropWhile_cons_of_pos hdigit, List.length_cons]
        exact ⟨hdigit, hskip, by omega⟩

/-- What is passed over behind the digits of a number. -/
def fraction (cs : List Char) : Except Failure (List Char) :=
  match cs with
  | '.' :: places =>
    if (places.head?.any Char.isDigit) then Skip.afterDigits (places.dropWhile Char.isDigit)
    else failAhead .badNumber places
  | rest => Skip.afterDigits rest

theorem fraction_eq_ok (hpoint : ∀ rest, cs = '.' :: rest → False)
    (hlower : ∀ rest, cs = 'e' :: rest → False) (hupper : ∀ rest, cs = 'E' :: rest → False) :
    fraction cs = .ok cs := by
  unfold fraction
  split
  · exact (hpoint _ rfl).elim
  · exact afterDigits_eq_ok hlower hupper

/-- A number is passed over by its digits, which may start with a zero only if it is alone. -/
theorem skip_number_eq (hdigit : c.isDigit = true)
    (hzero : c = '0' → cs.head?.any Char.isDigit = false) :
    Skip.number (c :: cs) = fraction (cs.dropWhile Char.isDigit) := by
  unfold Skip.number
  by_cases hc : c = '0'
  · subst hc
    cases cs with
    | nil => rfl
    | cons d cs =>
        have hd : d.isDigit = false := hzero rfl
        have hdrop : (d :: cs).dropWhile Char.isDigit = d :: cs :=
          List.dropWhile_cons_of_neg (by rw [hd]; exact Bool.false_ne_true)
        rw [hdrop]
        simp only [hd]
        rfl
  · simp only [hdigit, if_true]
    rfl

/-- What is read as a number starts with a digit, and with a zero only if that stands alone. -/
theorem head_of_number (h : number negative cs = .ok (n, rest)) :
    ∃ c digits, cs = c :: digits ∧ c.isDigit = true ∧
      (c = '0' → digits.head?.any Char.isDigit = false) := by
  unfold number at h
  dsimp only at h
  split at h
  · split at h <;> nomatch h
  · nomatch h
  · rename_i hnil hzero
    cases cs with
    | nil => exact (hnil rfl).elim
    | cons c digits =>
        have hdigit := isDigit_of_takeDigits hnil
        refine ⟨c, digits, rfl, hdigit, ?_⟩
        rintro rfl
        cases digits with
        | nil => rfl
        | cons d digits =>
            by_contra hd
            have hd : d.isDigit = true := by simpa using hd
            rw [takeDigits, List.takeWhile_cons_of_pos hdigit, List.takeWhile_cons_of_pos hd]
              at hzero
            exact hzero _ _ rfl

theorem fraction_of_number
    (h : number negative cs = .ok (n, rest)) :
    fraction (takeDigits cs).2 = .ok rest ∧ rest.length ≤ (takeDigits cs).2.length := by
  unfold number at h
  dsimp only at h
  split at h
  · split at h <;> nomatch h
  · nomatch h
  · generalize (takeDigits cs).2 = behind at h ⊢
    split at h
    · rename_i read heq
      split at heq
      · obtain rfl := Option.some.inj heq
        obtain ⟨hhead, hskip, hlt⟩ := skip_places h
        exact ⟨(if_pos hhead).trans hskip, Nat.le_succ_of_le (Nat.le_of_lt hlt)⟩
      · obtain rfl := Option.some.inj heq
        obtain ⟨hskip, hlt⟩ := skip_exponentTail h
        exact ⟨hskip, Nat.le_succ_of_le (Nat.le_of_lt hlt)⟩
      · obtain rfl := Option.some.inj heq
        obtain ⟨hskip, hlt⟩ := skip_exponentTail h
        exact ⟨hskip, Nat.le_succ_of_le (Nat.le_of_lt hlt)⟩
      · nomatch heq
    · rename_i heq
      split at heq
      case h_4 hpoint hlower hupper =>
        have hrest : rest = behind := by
          split at h
          · exact eq_of_float h
          · split at h
            · exact (Prod.mk.inj (Except.ok.inj h)).2.symm
            · split at h <;> exact (Prod.mk.inj (Except.ok.inj h)).2.symm
        subst hrest
        exact ⟨fraction_eq_ok hpoint hlower hupper, Nat.le_refl _⟩
      all_goals nomatch heq

/-- A number that is read is passed over. -/
theorem skip_number (h : number negative cs = .ok (n, rest)) :
    Skip.number cs = .ok rest ∧ rest.length < cs.length := by
  obtain ⟨hskip, hle⟩ := fraction_of_number h
  obtain ⟨c, digits, rfl, hdigit, hzero⟩ := head_of_number h
  have hshort := List.length_dropWhile_le Char.isDigit digits
  rw [behind_takeDigits hdigit] at hskip hle
  rw [skip_number_eq hdigit hzero, List.length_cons]
  exact ⟨hskip, by omega⟩

end Numbers

/-! ## Values -/

theorem length_word_le {letters : List Char} (h : word letters cs = .ok rest) :
    rest.length ≤ cs.length := by
  induction letters generalizing cs with
  | nil =>
      obtain rfl := Except.ok.inj h
      exact Nat.le_refl _
  | cons w letters ih =>
      cases cs with
      | nil => nomatch h
      | cons c cs =>
          rw [word] at h
          split at h
          · exact Nat.le_succ_of_le (ih h)
          · nomatch h

theorem length_colon_lt (h : colon cs = .ok rest) : rest.length < cs.length := by
  unfold colon at h
  split at h
  · nomatch h
  · rename_i hskip
    obtain rfl := Except.ok.inj h
    exact length_lt_of_skipSpace hskip
  · nomatch h

namespace Skip

variable {stage stage' : Stage} {frames outer : List Frame} {out text mid after : List Char}
  {first : Bool}

/-! ## Runs -/

/-- How much fuel a run takes beside two for each character. -/
def Stage.slack : Stage → Nat
  | value => 1
  | between _ => 2

/-- With fuel enough for the text, a run from here gets to `out`. -/
def Ends (stage : Stage) (frames : List Frame) (cs out : List Char) : Prop :=
  ∀ fuel, 2 * cs.length + stage.slack ≤ fuel → run fuel stage frames cs = .ok out

theorem Stage.slack_pos (stage : Stage) : 0 < stage.slack := by
  cases stage <;> exact Nat.succ_pos _

/-- A run gets to where it gets to from its next step, if that needs less fuel. -/
theorem Ends.of_step {frames' : List Frame} {cs' : List Char}
    (hrun : ∀ fuel, run (fuel + 2) stage frames cs = run (fuel + 1) stage' frames' cs')
    (hless : 2 * cs'.length + stage'.slack < 2 * cs.length + stage.slack)
    (h : Ends stage' frames' cs' out) : Ends stage frames cs out := by
  intro fuel hfuel
  have hpos := stage'.slack_pos
  obtain ⟨fuel, rfl⟩ : ∃ fewer, fuel = fewer + 2 := ⟨fuel - 2, by omega⟩
  rw [hrun]
  exact h (fuel + 1) (by omega)

theorem ends_nil (comma : Bool) (cs : List Char) : Ends (.between comma) [] cs cs := by
  intro fuel hfuel
  have hfuel : 2 * cs.length + 2 ≤ fuel := hfuel
  obtain ⟨fuel, rfl⟩ : ∃ fewer, fuel = fewer + 1 := ⟨fuel - 1, by omega⟩
  rfl

/-- Behind a value that nothing encloses a run is over, as it is where it goes on. -/
theorem resume (fuel : Nat) (frames : List Frame) (rest : List Char) :
    (if frames.isEmpty then .ok rest else run (fuel + 1) (.between true) frames rest) =
      run (fuel + 1) (.between true) frames rest := by
  cases frames <;> rfl

/-- The value in front of a text is passed over: wherever a run gets to from behind the value, it
gets to from before it. -/
structure Passes (cs rest : List Char) : Prop where
  lt : rest.length < cs.length
  ends : ∀ {frames out}, Ends (.between true) frames rest out → Ends .value frames cs out

theorem passes_of_scalar (hlt : rest.length < cs.length)
    (hrun : ∀ fuel frames, run (fuel + 2) .value frames cs =
      run (fuel + 1) (.between true) frames rest) : Passes cs rest :=
  ⟨hlt, fun hends => hends.of_step (hrun · _) (by simp only [Stage.slack]; omega)⟩

/-- What is in a list or an object is passed over up to its end, in the course of what encloses
it. -/
structure Closes (frame : Frame) (first : Bool) (cs rest : List Char) : Prop where
  lt : rest.length < cs.length
  ends : ∀ {outer out}, Ends (.between true) outer rest out →
    Ends (.between (!first)) (frame :: outer) cs out

theorem passes_of_frame {frame : Frame} (hlt : text.length < cs.length)
    (hrun : ∀ fuel frames, run (fuel + 2) .value frames cs =
      run (fuel + 1) (.between false) (frame :: frames) text)
    (h : Closes frame true text rest) : Passes cs rest :=
  ⟨Nat.lt_trans h.lt hlt, fun hends =>
    (h.ends hends).of_step (hrun · _) (by simp only [Stage.slack]; omega)⟩

/-! ## Lists -/

theorem run_list_close (h : itemFront first cs = .ok (.close rest)) (fuel : Nat)
    (outer : List Frame) :
    run (fuel + 2) (.between (!first)) (.list :: outer) cs =
      run (fuel + 1) (.between true) outer rest := by
  rw [← resume]
  simp [run, skipSpace_of_itemFront_close h, Frame.isEnd]

theorem run_list_more (h : itemFront first cs = .ok (.more text)) (fuel : Nat)
    (outer : List Frame) :
    run (fuel + 2) (.between (!first)) (.list :: outer) cs =
      run (fuel + 1) .value (.list :: outer) text := by
  obtain ⟨c, behind, hskip, hend, htext⟩ := skipSpace_of_itemFront_more h
  cases first with
  | true =>
      obtain rfl := htext
      simp [run, hskip, Frame.isEnd, hend]
  | false =>
      obtain ⟨rfl, rfl⟩ := htext
      simp [run, hskip]

theorem closes_list_close (h : itemFront first cs = .ok (.close rest)) :
    Closes .list first cs rest :=
  ⟨length_lt_of_skipSpace (skipSpace_of_itemFront_close h), fun hends =>
    have hlt := length_lt_of_skipSpace (skipSpace_of_itemFront_close h)
    hends.of_step (run_list_close h · _) (by simp only [Stage.slack]; omega)⟩

theorem closes_list_more (h : itemFront first cs = .ok (.more text)) (hpasses : Passes text mid)
    (hcloses : Closes .list false mid rest) : Closes .list first cs rest := by
  have hle := length_of_itemFront_more h
  refine ⟨Nat.lt_of_lt_of_le (Nat.lt_trans hcloses.lt hpasses.lt) hle, fun hends => ?_⟩
  exact (hpasses.ends (hcloses.ends hends)).of_step (run_list_more h · _)
    (by simp only [Stage.slack]; omega)

theorem closes_of_items {α : Type} {item : Reader α} {fuel : Nat} {xs : List α}
    (hitem : ∀ cs x rest, item cs = .ok (x, rest) → Passes cs rest)
    (h : items item fuel first cs = .ok (xs, rest)) : Closes .list first cs rest := by
  induction fuel generalizing first cs xs with
  | zero => nomatch h
  | succ fuel ih =>
      rw [items_succ] at h
      obtain ⟨front, hfront, h⟩ := exists_of_bind_eq_ok h
      cases front with
      | close behind =>
          obtain ⟨-, rfl⟩ := Prod.mk.inj (Except.ok.inj h)
          exact closes_list_close hfront
      | more text =>
          obtain ⟨⟨x, mid⟩, hread, h⟩ := exists_of_bind_eq_ok h
          obtain ⟨⟨xs, last⟩, hitems, h⟩ := exists_of_bind_eq_ok h
          obtain ⟨-, rfl⟩ := Prod.mk.inj (Except.ok.inj h)
          exact closes_list_more hfront (hitem text x mid hread) (ih hitems)

/-! ## Objects -/

theorem run_object_close (h : memberFront first cs = .ok (.close rest)) (fuel : Nat)
    (outer : List Frame) :
    run (fuel + 2) (.between (!first)) (.object :: outer) cs =
      run (fuel + 1) (.between true) outer rest := by
  rw [← resume]
  simp [run, skipSpace_of_memberFront_close h, Frame.isEnd]

theorem key_eq_ok (hskip : skipSpace cs = '"' :: text)
    (hkey : stringTail (text.length + 1) text = .ok mid) (hcolon : colon mid = .ok after) :
    key cs = .ok after := by
  rw [key, hskip]
  simp only [hkey]
  exact hcolon

theorem run_object_more (h : memberFront first cs = .ok (.more text))
    (hkey : stringTail (text.length + 1) text = .ok mid) (hcolon : colon mid = .ok after)
    (fuel : Nat) (outer : List Frame) :
    run (fuel + 1) (.between (!first)) (.object :: outer) cs =
      run fuel .value (.object :: outer) after := by
  obtain ⟨c, behind, hskip, hend, htext⟩ := skipSpace_of_memberFront_more h
  cases first with
  | true =>
      have htext : c :: behind = '"' :: text := htext
      have hcs : skipSpace (c :: behind) = '"' :: text := by
        rw [← hskip, skipSpace_skipSpace, hskip, htext]
      have hafter : key (c :: behind) = .ok after := key_eq_ok hcs hkey hcolon
      rw [run, hskip]
      simp [Frame.isEnd, hend, hafter]
      rfl
  | false =>
      obtain ⟨rfl, hbehind⟩ := htext
      have hafter : key behind = .ok after := key_eq_ok hbehind hkey hcolon
      rw [run, hskip]
      simp [hafter]
      rfl

theorem closes_object_close (h : memberFront first cs = .ok (.close rest)) :
    Closes .object first cs rest :=
  ⟨length_lt_of_skipSpace (skipSpace_of_memberFront_close h), fun hends =>
    have hlt := length_lt_of_skipSpace (skipSpace_of_memberFront_close h)
    hends.of_step (run_object_close h · _) (by simp only [Stage.slack]; omega)⟩

theorem closes_object_more {start : List Char} (h : memberFront first cs = .ok (.more text))
    (hkey : stringTail (text.length + 1) text = .ok mid) (hshort : mid.length < text.length)
    (hcolon : colon mid = .ok start) (hpasses : Passes start after)
    (hcloses : Closes .object false after rest) : Closes .object first cs rest := by
  have hlt : start.length < cs.length := Nat.lt_trans (length_colon_lt hcolon)
    (Nat.lt_trans hshort (length_of_memberFront_more h))
  refine ⟨Nat.lt_trans (Nat.lt_trans hcloses.lt hpasses.lt) hlt, fun hends => ?_⟩
  exact (hpasses.ends (hcloses.ends hends)).of_step
    (fun fuel => run_object_more h hkey hcolon (fuel + 1) _) (by simp only [Stage.slack]; omega)

theorem closes_of_members {σ : Type} {member : σ → String → Reader σ} {fuel : Nat} {acc read : σ}
    (hmember : ∀ acc key cs read rest, member acc key cs = .ok (read, rest) →
      ∃ mid, colon cs = .ok mid ∧ Passes mid rest)
    (h : members member fuel first acc cs = .ok (read, rest)) : Closes .object first cs rest := by
  induction fuel generalizing first cs acc with
  | zero => nomatch h
  | succ fuel ih =>
      rw [members_succ] at h
      obtain ⟨front, hfront, h⟩ := exists_of_bind_eq_ok h
      cases front with
      | close behind =>
          obtain ⟨-, rfl⟩ := Prod.mk.inj (Except.ok.inj h)
          exact closes_object_close hfront
      | more text =>
          obtain ⟨⟨key, mid⟩, hkey, h⟩ := exists_of_bind_eq_ok h
          obtain ⟨⟨next, after⟩, hnext, h⟩ := exists_of_bind_eq_ok h
          obtain ⟨start, hcolon, hpasses⟩ := hmember acc key mid next after hnext
          obtain ⟨hkey, hshort⟩ := skip_stringTail hkey
          exact closes_object_more hfront hkey hshort hcolon hpasses (ih h)

/-! ## Any value -/

/-- A value is passed over if the lists and objects in it are, which may be less deep. -/
theorem passes_of_value_of_deeper {depth : Nat} {v : Value}
    (hdeeper : ∀ deep, depth = deep + 1 → ∀ cs v rest, value deep cs = .ok (v, rest) →
      Passes cs rest)
    (h : value depth cs = .ok (v, rest)) : Passes cs rest := by
  unfold value at h
  split at h
  case h_1 => cases h
  case h_2 text hskip | h_3 text hskip | h_4 text hskip =>
    obtain ⟨after, hword, h⟩ := exists_of_bind_eq_ok h
    obtain ⟨-, rfl⟩ := Prod.mk.inj (Except.ok.inj h)
    have hlt := Nat.lt_of_le_of_lt (length_word_le hword) (length_lt_of_skipSpace hskip)
    refine passes_of_scalar hlt fun fuel frames => ?_
    rw [← resume, run, hskip]
    simp only [hword]
    rfl
  case h_5 text hskip =>
    obtain ⟨⟨n, after⟩, hnumber, h⟩ := exists_of_bind_eq_ok h
    obtain ⟨-, rfl⟩ := Prod.mk.inj (Except.ok.inj h)
    obtain ⟨hnumber, hlt⟩ := skip_number hnumber
    refine passes_of_scalar (Nat.lt_trans hlt (length_lt_of_skipSpace hskip)) fun fuel frames => ?_
    rw [← resume, run, hskip]
    simp only [hnumber]
    rfl
  case h_6 text hskip =>
    obtain ⟨⟨s, after⟩, hstring, h⟩ := exists_of_bind_eq_ok h
    obtain ⟨-, rfl⟩ := Prod.mk.inj (Except.ok.inj h)
    obtain ⟨hstring, hlt⟩ := skip_stringTail hstring
    refine passes_of_scalar (Nat.lt_trans hlt (length_lt_of_skipSpace hskip)) fun fuel frames => ?_
    rw [← resume, run, hskip]
    simp only [hstring]
    rfl
  case h_7 text hskip =>
    split at h
    · cases h
    · rename_i deep
      obtain ⟨⟨xs, after⟩, hitems, h⟩ := exists_of_bind_eq_ok h
      obtain ⟨-, rfl⟩ := Prod.mk.inj (Except.ok.inj h)
      refine passes_of_frame (length_lt_of_skipSpace hskip) (fun fuel frames => ?_)
        (closes_of_items (hdeeper deep rfl) hitems)
      rw [run, hskip]
      rfl
  case h_8 text hskip =>
    split at h
    · cases h
    · rename_i deep
      obtain ⟨⟨ms, after⟩, hmembers, h⟩ := exists_of_bind_eq_ok h
      obtain ⟨-, rfl⟩ := Prod.mk.inj (Except.ok.inj h)
      refine passes_of_frame (length_lt_of_skipSpace hskip) (fun fuel frames => ?_)
        (closes_of_members (fun acc key cs read rest hmember => ?_) hmembers)
      · rw [run, hskip]
        rfl
      · obtain ⟨mid, hcolon, hmember⟩ := exists_of_bind_eq_ok hmember
        obtain ⟨⟨v, last⟩, hvalue, hmember⟩ := exists_of_bind_eq_ok hmember
        obtain ⟨-, rfl⟩ := Prod.mk.inj (Except.ok.inj hmember)
        exact ⟨mid, hcolon, hdeeper deep rfl mid v last hvalue⟩
  case h_9 c text _ _ _ _ _ _ _ hskip =>
    split at h
    · rename_i hdigit
      obtain ⟨⟨n, after⟩, hnumber, h⟩ := exists_of_bind_eq_ok h
      obtain ⟨-, rfl⟩ := Prod.mk.inj (Except.ok.inj h)
      obtain ⟨hnumber, hlt⟩ := skip_number hnumber
      have hle := length_lt_of_skipSpace hskip
      refine passes_of_scalar (Nat.lt_of_lt_of_le hlt hle) fun fuel frames => ?_
      rw [← resume]
      simp [run, hskip, hdigit, hnumber]
      rfl
    · cases h

theorem passes_of_value {depth : Nat} {v : Value} (h : value depth cs = .ok (v, rest)) :
    Passes cs rest := by
  induction depth generalizing cs v rest with
  | zero =>
      refine passes_of_value_of_deeper (fun deep hdeep => ?_) h
      exact absurd hdeep.symm (Nat.succ_ne_zero deep)
  | succ depth ih =>
      refine passes_of_value_of_deeper (fun deep hdeep cs v rest hvalue => ?_) h
      obtain rfl := Nat.succ.inj hdeep
      exact ih hvalue

end Skip

/-- Where a value can be read, passing over it gets to the text behind it. -/
theorem skipValue_of_value {depth : Nat} {v : Value} (h : value depth cs = .ok (v, rest)) :
    skipValue cs = .ok rest :=
  (Skip.passes_of_value h).ends (Skip.ends_nil true rest) _ (Nat.le_succ _)

end Storefront.Json
