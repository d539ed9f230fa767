import Storefront.Proofs.Json.Grammar
import Storefront.Proofs.Json.Skipper

/-! # Reading strings and numbers as they are written

A string is read as what it stands for, and refused if it stands for nothing. A number that nothing
follows which could belong to it is read as it is by itself. Both are always passed over. -/

namespace Storefront.Json

variable {rest : List Char} {fuel high : Nat}

/-! ## Strings -/

theorem hex4_text (u : CodeUnit) (rest : List Char) :
    hex4 (u.text ++ rest) = .ok (u.number, rest) := by
  obtain ⟨⟨a, x, ha⟩, ⟨b, y, hb⟩, ⟨c, z, hc⟩, ⟨d, w, hd⟩⟩ := u
  simp only [hex4, CodeUnit.text, CodeUnit.number, List.cons_append, List.nil_append, ha, hb, hc,
    hd]

theorem escape_letter (e : ShortEscape) (rest : List Char) :
    escape (e.letter :: rest) = .ok (e.char, rest) := by
  cases e <;> rfl

theorem skip_escape_letter (e : ShortEscape) (rest : List Char) :
    Skip.escape (e.letter :: rest) = .ok rest := by
  cases e <;> rfl

theorem skip_escape_unit (u : CodeUnit) (rest : List Char) :
    Skip.escape ('u' :: (u.text ++ rest)) = .ok rest := by
  simp only [Skip.escape, hex4_text]
  rfl

/-- The text of a string behind its opening quote, and what follows it. -/
def stringEnd (s : List Piece) (rest : List Char) : List Char :=
  s.flatMap Piece.text ++ '"' :: rest

theorem stringEnd_cons (p : Piece) (s : List Piece) (rest : List Char) :
    stringEnd (p :: s) rest = p.text ++ stringEnd s rest := by
  rw [stringEnd, List.flatMap_cons, List.append_assoc]
  rfl

theorem stringEnd_unit (u : CodeUnit) (s : List Piece) (rest : List Char) :
    stringEnd (.unit u :: s) rest = '\\' :: 'u' :: (u.text ++ stringEnd s rest) :=
  stringEnd_cons (.unit u) s rest

theorem skip_stringEnd (s : List Piece) (hfuel : s.length < fuel) (rest : List Char) :
    Skip.stringTail fuel (stringEnd s rest) = .ok rest := by
  induction s generalizing fuel with
  | nil =>
      obtain ⟨fuel, rfl⟩ := Nat.exists_eq_succ_of_ne_zero (Nat.ne_of_gt hfuel)
      rfl
  | cons p s ih =>
      obtain ⟨fuel, rfl⟩ := Nat.exists_eq_succ_of_ne_zero (Nat.ne_of_gt (Nat.zero_lt_of_lt hfuel))
      have hrest := ih (Nat.lt_of_succ_lt_succ hfuel)
      rw [stringEnd_cons]
      cases p with
      | plain c ok =>
          obtain ⟨hcontrol, hquote, hslash⟩ := ok
          rw [Piece.text, List.singleton_append, Skip.stringTail, if_neg (Nat.not_lt.mpr hcontrol)]
          · exact hrest
          · exact hquote
          · exact hslash
      | short e =>
          simp only [Piece.text, List.cons_append, List.nil_append, Skip.stringTail,
            skip_escape_letter]
          exact hrest
      | unit u =>
          simp only [Piece.text, List.cons_append, Skip.stringTail, skip_escape_unit]
          exact hrest

/-- Half of a pair needs an escape of its own behind it. -/
theorem lowHalf_refused {s : List Piece} (hs : ∀ v more, s = .unit v :: more → False) (high : Nat)
    (rest : List Char) : (lowHalf high (stringEnd s rest)).toOption = none := by
  rcases s with _ | ⟨p, s⟩
  · rfl
  · rw [stringEnd_cons]
    cases p with
    | plain c ok =>
        obtain ⟨-, -, hslash⟩ := ok
        simp [Piece.text, lowHalf, hslash, failAhead, Except.toOption]
    | short e => cases e <;> rfl
    | unit v => exact (hs v s rfl).elim

theorem lowHalf_unit (v : CodeUnit) (high : Nat) (rest : List Char) :
    (lowHalf high ('\\' :: 'u' :: (v.text ++ rest))).toOption =
      if isLowSurrogate v.number then
        some (Char.ofNat ((high - 0xD800) * 0x400 + (v.number - 0xDC00) + 0x10000), rest)
      else none := by
  simp only [lowHalf, hex4_text, bind, Except.bind]
  split <;> rfl

theorem escape_unit (u : CodeUnit) (cs : List Char) :
    escape ('u' :: (u.text ++ cs)) =
      if isLowSurrogate u.number then fail .loneSurrogate cs
      else if isHighSurrogate u.number then lowHalf u.number cs
      else .ok (Char.ofNat u.number, cs) := by
  simp only [escape, hex4_text]
  rfl

/-- A character and what the rest of the string is read as. -/
theorem stringChars_of_step {cs mid : List Char} {c : Char}
    (hstep : stringChars (fuel + 1) cs =
      (stringChars fuel mid).bind fun read => .ok (c :: read.1, read.2))
    {chars : Option (List Char)} (h : (stringChars fuel mid).toOption = chars.map (·, rest)) :
    (stringChars (fuel + 1) cs).toOption = (chars.map (c :: ·)).map (·, rest) := by
  rw [hstep, toOption_bind, h]
  cases chars <;> rfl

theorem stringChars_of_escape {cs mid : List Char} {c : Char} (hescape : escape cs = .ok (c, mid))
    {chars : Option (List Char)} (h : (stringChars fuel mid).toOption = chars.map (·, rest)) :
    (stringChars (fuel + 1) ('\\' :: cs)).toOption = (chars.map (c :: ·)).map (·, rest) := by
  refine stringChars_of_step ?_ h
  simp only [stringChars, hescape]
  rfl

theorem stringChars_of_escape_refused {cs : List Char} (h : (escape cs).toOption = none)
    (fuel : Nat) : (stringChars fuel ('\\' :: cs)).toOption = none := by
  obtain ⟨failure, h⟩ := toOption_eq_none_iff.mp h
  cases fuel with
  | zero => rfl
  | succ fuel =>
      simp only [stringChars, h]
      rfl

/-- The characters of a string are read as what they stand for. -/
theorem stringChars_text (s : List Piece) (hfuel : s.length < fuel) (rest : List Char) :
    (stringChars fuel (stringEnd s rest)).toOption = (chars? s).map (·, rest) := by
  -- a pair of surrogates takes two pieces and one step, so the fuel only has to be enough
  fun_induction chars? s generalizing fuel with
  | case1 =>
      obtain ⟨fuel, rfl⟩ := Nat.exists_eq_succ_of_ne_zero (Nat.ne_of_gt hfuel)
      rfl
  | case2 c ok s ih =>
      obtain ⟨fuel, rfl⟩ := Nat.exists_eq_succ_of_ne_zero (Nat.ne_of_gt (Nat.zero_lt_of_lt hfuel))
      obtain ⟨hcontrol, hquote, hslash⟩ := ok
      refine stringChars_of_step ?_ (ih (Nat.lt_of_succ_lt_succ hfuel))
      rw [stringEnd_cons, Piece.text, List.singleton_append, stringChars,
        if_neg (Nat.not_lt.mpr hcontrol)]
      · rfl
      · exact hquote
      · exact hslash
  | case3 e s ih =>
      obtain ⟨fuel, rfl⟩ := Nat.exists_eq_succ_of_ne_zero (Nat.ne_of_gt (Nat.zero_lt_of_lt hfuel))
      exact stringChars_of_escape (escape_letter e _) (ih (Nat.lt_of_succ_lt_succ hfuel))
  | case4 u s hlow =>
      rw [stringEnd_unit]
      refine stringChars_of_escape_refused ?_ fuel
      rw [escape_unit, if_pos hlow]
      rfl
  | case5 u hlow hhigh v s hpair ih =>
      obtain ⟨fuel, rfl⟩ := Nat.exists_eq_succ_of_ne_zero (Nat.ne_of_gt (Nat.zero_lt_of_lt hfuel))
      have hescape : escape ('u' :: (u.text ++ stringEnd (.unit v :: s) rest)) =
          .ok (Char.ofNat ((u.number - 0xD800) * 0x400 + (v.number - 0xDC00) + 0x10000),
            stringEnd s rest) := by
        rw [escape_unit, if_neg hlow, if_pos hhigh, stringEnd_unit, ← toOption_eq_some_iff,
          lowHalf_unit, if_pos hpair]
      rw [stringEnd_unit]
      exact stringChars_of_escape hescape (ih (Nat.lt_of_succ_lt (Nat.lt_of_succ_lt_succ hfuel)))
  | case6 u hlow hhigh v s hpair =>
      rw [stringEnd_unit]
      refine stringChars_of_escape_refused ?_ fuel
      rw [escape_unit, if_neg hlow, if_pos hhigh, stringEnd_unit, lowHalf_unit, if_neg hpair]
  | case7 u s hlow hhigh hnot =>
      rw [stringEnd_unit]
      refine stringChars_of_escape_refused ?_ fuel
      rw [escape_unit, if_neg hlow, if_pos hhigh]
      exact lowHalf_refused hnot _ rest
  | case8 u s hlow hhigh ih =>
      obtain ⟨fuel, rfl⟩ := Nat.exists_eq_succ_of_ne_zero (Nat.ne_of_gt (Nat.zero_lt_of_lt hfuel))
      have hescape : escape ('u' :: (u.text ++ stringEnd s rest)) =
          .ok (Char.ofNat u.number, stringEnd s rest) := by
        rw [escape_unit, if_neg hlow, if_neg hhigh]
      rw [stringEnd_unit]
      exact stringChars_of_escape hescape (ih (Nat.lt_of_succ_lt_succ hfuel))

theorem length_lt_stringEnd (s : List Piece) (rest : List Char) :
    s.length < (stringEnd s rest).length + 1 := by
  induction s with
  | nil => exact Nat.succ_pos _
  | cons p s ih =>
      have hp : 0 < p.text.length := by cases p <;> exact Nat.succ_pos _
      rw [stringEnd_cons, List.length_append, List.length_cons]
      omega

/-- A string is read as what it stands for. -/
theorem stringTail_text (s : List Piece) (rest : List Char) :
    (stringTail (stringEnd s rest)).toOption = (string? s).map (·, rest) := by
  refine (toOption_bind _ _).trans ?_
  rw [stringChars_text s (length_lt_stringEnd s rest), string?]
  cases chars? s <;> rfl

/-! ## Numbers -/

/-- A text that cannot go on with a number in front of it. -/
def Delimits (rest : List Char) : Prop :=
  ∀ c ∈ rest.head?, c.isDigit = false ∧ c ≠ '.' ∧ c ≠ 'e' ∧ c ≠ 'E'

theorem delimits_nil : Delimits [] :=
  fun _ hc => nomatch hc

theorem delimits_cons {c : Char} (hdigit : c.isDigit = false) (hpoint : c ≠ '.') (hlower : c ≠ 'e')
    (hupper : c ≠ 'E') (rest : List Char) : Delimits (c :: rest) := by
  intro d hd
  obtain rfl := Option.mem_some.mp hd
  exact ⟨hdigit, hpoint, hlower, hupper⟩

section Numbers

variable {negative : Bool} {significand : Nat} {exponent : Int} {cs : List Char}

/-- A text that digits in front of it end at. -/
def EndsDigits (cs : List Char) : Prop :=
  ∀ c ∈ cs.head?, c.isDigit = false

theorem Delimits.endsDigits (h : Delimits rest) : EndsDigits rest :=
  fun c hc => (h c hc).1

theorem endsDigits_exponent (h : Delimits rest) (e? : Option Exponent) :
    EndsDigits (e?.elim [] Exponent.text ++ rest) := by
  cases e? with
  | none => exact h.endsDigits
  | some e =>
      intro c hc
      obtain rfl := Option.mem_some.mp hc
      cases e.capital <;> rfl

theorem endsDigits_tail (h : Delimits rest) (n : NumberText) : EndsDigits (n.tail ++ rest) := by
  rw [NumberText.tail, List.append_assoc]
  cases n.places with
  | none => exact endsDigits_exponent h n.exponent
  | some ds =>
      intro c hc
      obtain rfl := Option.mem_some.mp hc
      rfl

theorem takeDigits_text (ds : Digits) (h : EndsDigits cs) :
    takeDigits (ds.text ++ cs) = (ds.text, cs) := by
  have hstop : cs.takeWhile Char.isDigit = [] ∧ cs.dropWhile Char.isDigit = cs := by
    cases cs with
    | nil => exact ⟨rfl, rfl⟩
    | cons c cs =>
        have hc : c.isDigit = false := h c rfl
        simp [hc]
  have hdigits : ∀ c ∈ ds.text, c.isDigit = true := ds.isDigit
  rw [takeDigits, List.takeWhile_append_of_pos hdigits, List.dropWhile_append_of_pos hdigits,
    hstop.1, hstop.2, List.append_nil]

theorem ne_of_isDigit {c d : Char} (hc : c.isDigit = true) (hd : d.isDigit = false) : c ≠ d := by
  rintro rfl
  exact Bool.noConfusion (hc.symm.trans hd)

theorem Digits.isDigit_first (ds : Digits) : ds.first.isDigit = true :=
  ds.isDigit _ List.mem_cons_self

theorem Digits.first_ne_sign (ds : Digits) : ds.first ≠ '-' ∧ ds.first ≠ '+' :=
  ⟨ne_of_isDigit ds.isDigit_first rfl, ne_of_isDigit ds.isDigit_first rfl⟩

/-- What is read of a text is the same whatever stands behind it that cannot belong to it. -/
def Settled (read : Reader Number) (text : List Char) : Prop :=
  ∃ x? : Option Number, ∀ rest, Delimits rest → (read (text ++ rest)).toOption = x?.map (·, rest)

theorem settled_float (negative : Bool) (significand : Nat) (exponent : Int) :
    Settled (float negative significand exponent) [] := by
  refine ⟨(scaled negative significand exponent).map .float, fun rest _ => ?_⟩
  rw [List.nil_append, float]
  cases scaled negative significand exponent <;> rfl

/-- The digits of an exponent, behind its sign. -/
def exponentDigitsTail (negative : Bool) (significand : Nat) (exponent : Int) (down : Bool)
    (digits rest : List Char) : Except Failure (Number × List Char) :=
  let (value, excess) := exponentDigits 0 digits
  if excess.isEmpty then
    float negative significand (if down then exponent - value else exponent + value) rest
  else if significand != 0 && !down then fail .numberRange (excess.drop 1 ++ rest)
  else .ok (.float (Binary64.zero negative), rest)

def ExponentSign.isMinus : ExponentSign → Bool
  | minus => true
  | _ => false

theorem exponentTail_text (e : Exponent) (h : EndsDigits cs) :
    exponentTail negative significand exponent (e.sign.text ++ (e.digits.text ++ cs)) =
      exponentDigitsTail negative significand exponent e.sign.isMinus e.digits.text cs := by
  obtain ⟨capital, sign, ds⟩ := e
  have hfirst := ds.isDigit_first
  have hsigns := ds.first_ne_sign
  have htext : ds.text ++ cs = ds.first :: (ds.more ++ cs) := rfl
  have htake := takeDigits_text ds h
  rw [htext] at htake ⊢
  cases sign with
  | none =>
      simp [exponentTail, ExponentSign.text, ExponentSign.isMinus, exponentDigitsTail, hfirst,
        htake, hsigns]
  | plus | minus =>
      simp [exponentTail, ExponentSign.text, ExponentSign.isMinus, exponentDigitsTail, hfirst,
        htake]

theorem settled_exponentTail (negative : Bool) (significand : Nat) (exponent : Int)
    (e : Exponent) :
    Settled (exponentTail negative significand exponent) (e.sign.text ++ e.digits.text) := by
  have htext : ∀ rest, Delimits rest →
      exponentTail negative significand exponent (e.sign.text ++ e.digits.text ++ rest) =
        exponentDigitsTail negative significand exponent e.sign.isMinus e.digits.text rest := by
    intro rest hrest
    rw [List.append_assoc, exponentTail_text e hrest.endsDigits]
  by_cases hall : (exponentDigits 0 e.digits.text).2.isEmpty = true
  · obtain ⟨x?, hfloat⟩ := settled_float negative significand
      (if e.sign.isMinus then exponent - (exponentDigits 0 e.digits.text).1
        else exponent + (exponentDigits 0 e.digits.text).1)
    refine ⟨x?, fun rest hrest => ?_⟩
    rw [htext rest hrest, exponentDigitsTail]
    exact (congrArg Except.toOption (if_pos hall)).trans (hfloat rest hrest)
  · by_cases hhuge : (significand != 0 && !e.sign.isMinus) = true
    · refine ⟨none, fun rest hrest => ?_⟩
      rw [htext rest hrest, exponentDigitsTail]
      exact congrArg Except.toOption ((if_neg hall).trans (if_pos hhuge))
    · refine ⟨some (.float (Binary64.zero negative)), fun rest hrest => ?_⟩
      rw [htext rest hrest, exponentDigitsTail]
      exact congrArg Except.toOption ((if_neg hall).trans (if_neg hhuge))

theorem settled_afterPlaces (negative : Bool) (significand : Nat) (exponent : Int)
    (e? : Option Exponent) :
    Settled (afterPlaces negative significand exponent) (e?.elim [] Exponent.text) := by
  cases e? with
  | none =>
      obtain ⟨x?, hfloat⟩ := settled_float negative significand exponent
      refine ⟨x?, fun rest hrest => ?_⟩
      have hnone : afterPlaces negative significand exponent rest =
          float negative significand exponent rest := by
        unfold afterPlaces
        split
        · exact ((hrest _ rfl).2.2.1 rfl).elim
        · exact ((hrest _ rfl).2.2.2 rfl).elim
        · rfl
      exact (congrArg Except.toOption hnone).trans (hfloat rest hrest)
  | some e =>
      obtain ⟨x?, hexponent⟩ := settled_exponentTail negative significand exponent e
      refine ⟨x?, fun rest hrest => ?_⟩
      rw [← hexponent rest hrest]
      cases hcapital : e.capital <;> simp [Exponent.text, hcapital, afterPlaces]

theorem settled_places (negative : Bool) (significand : Nat) (exponent : Int) (ds : Digits)
    (e? : Option Exponent) :
    Settled (places negative significand exponent) (ds.text ++ e?.elim [] Exponent.text) := by
  obtain ⟨x?, hafter⟩ := settled_afterPlaces negative (accumulate significand 0 ds.text).1
    (exponent - (accumulate significand 0 ds.text).2.1) e?
  refine ⟨x?, fun rest hrest => ?_⟩
  unfold places
  rw [← hafter rest hrest, List.append_assoc, takeDigits_text ds (endsDigits_exponent hrest e?)]
  rfl

/-- A number of digits only, which came to `value` without those in `excess`. -/
def wholeNumber (negative : Bool) (value : Nat) (excess : List Char) (cs : List Char) :
    Except Failure (Number × List Char) :=
  if !excess.isEmpty then float negative value excess.length cs
  else if !negative then .ok (.natural value, cs)
  else if value == 0 || value > twoTo 63 then .ok (.float (Binary64.ofRatio true value 1), cs)
  else .ok (.negative value, cs)

theorem settled_wholeNumber (negative : Bool) (value : Nat) (excess : List Char) :
    Settled (wholeNumber negative value excess) [] := by
  by_cases hexcess : (!excess.isEmpty) = true
  · obtain ⟨x?, hfloat⟩ := settled_float negative value excess.length
    refine ⟨x?, fun rest hrest => ?_⟩
    exact (congrArg Except.toOption (if_pos hexcess)).trans (hfloat rest hrest)
  · refine ⟨some (if !negative then .natural value
      else if value == 0 || value > twoTo 63 then .float (Binary64.ofRatio true value 1)
      else .negative value), fun rest _ => ?_⟩
    rw [List.nil_append, wholeNumber, if_neg hexcess]
    split
    · rfl
    · split <;> rfl

/-- A number behind the digits in front of the point. -/
def wholeTail (negative : Bool) (value : Nat) (excess : List Char) (cs : List Char) :
    Except Failure (Number × List Char) :=
  let fraction := match cs with
    | '.' :: after => some (places negative value excess.length after)
    | 'e' :: after => some (exponentTail negative value excess.length after)
    | 'E' :: after => some (exponentTail negative value excess.length after)
    | _ => none
  match fraction with
  | some read => read
  | none => wholeNumber negative value excess cs

theorem wholeTail_of_delimits {value : Nat} {excess : List Char} (h : Delimits rest) :
    wholeTail negative value excess rest = wholeNumber negative value excess rest := by
  unfold wholeTail
  split
  · exact ((h _ rfl).2.1 rfl).elim
  · exact ((h _ rfl).2.2.1 rfl).elim
  · exact ((h _ rfl).2.2.2 rfl).elim
  · rfl

theorem settled_wholeTail (negative : Bool) (value : Nat) (excess : List Char) (n : NumberText) :
    Settled (wholeTail negative value excess) n.tail := by
  rw [NumberText.tail]
  cases n.places with
  | some ds => exact settled_places negative value excess.length ds n.exponent
  | none =>
      cases n.exponent with
      | some e =>
          obtain ⟨x?, hexponent⟩ := settled_exponentTail negative value excess.length e
          refine ⟨x?, fun rest hrest => ?_⟩
          rw [← hexponent rest hrest]
          cases hcapital : e.capital <;> simp [Exponent.text, hcapital, wholeTail]
      | none =>
          obtain ⟨x?, hwhole⟩ := settled_wholeNumber negative value excess
          refine ⟨x?, fun rest hrest => ?_⟩
          exact (congrArg Except.toOption (wholeTail_of_delimits hrest)).trans (hwhole rest hrest)

theorem number_unsigned (n : NumberText) (h : Delimits rest) :
    number negative (n.unsigned ++ rest) =
      wholeTail negative (accumulate 0 0 n.whole.text).1 (accumulate 0 0 n.whole.text).2.2
        (n.tail ++ rest) := by
  unfold number
  rw [NumberText.unsigned, List.append_assoc, takeDigits_text n.whole (endsDigits_tail h n)]
  dsimp only
  split
  · rename_i hnil
    nomatch hnil
  · rename_i hzero
    obtain ⟨hfirst, hmore⟩ := List.cons.inj hzero
    rw [n.noLeadingZero hfirst] at hmore
    nomatch hmore
  · rfl

/-- A number is read as it is by itself. -/
theorem number_text (n : NumberText) (h : Delimits rest) :
    (number n.negative (n.unsigned ++ rest)).toOption = n.number?.map (·, rest) := by
  obtain ⟨x?, hsettled⟩ := settled_wholeTail n.negative (accumulate 0 0 n.whole.text).1
    (accumulate 0 0 n.whole.text).2.2 n
  have halone : (number n.negative n.unsigned).toOption = x?.map (·, []) := by
    rw [← List.append_nil n.unsigned, number_unsigned n delimits_nil]
    exact hsettled [] delimits_nil
  rw [number_unsigned n h, hsettled rest h, NumberText.number?, halone]
  cases x? <;> rfl

/-! ### Passing over numbers -/

theorem dropWhile_digits (ds : Digits) (h : EndsDigits cs) :
    (ds.more ++ cs).dropWhile Char.isDigit = cs := by
  have hall : (ds.text ++ cs).dropWhile Char.isDigit = cs :=
    congrArg Prod.snd (takeDigits_text ds h)
  rwa [Digits.text, List.cons_append,
    List.dropWhile_cons_of_pos ds.isDigit_first] at hall

theorem skip_exponent_text (e : Exponent) (h : EndsDigits cs) :
    Skip.exponent (e.sign.text ++ (e.digits.text ++ cs)) = .ok cs := by
  obtain ⟨capital, sign, ds⟩ := e
  have hunsigned : unsigned (sign.text ++ (ds.text ++ cs)) = ds.first :: (ds.more ++ cs) := by
    cases sign with
    | none => simp [ExponentSign.text, Digits.text, unsigned, ds.first_ne_sign]
    | plus | minus => rfl
  rw [exponent_of_unsigned hunsigned ds.isDigit_first, dropWhile_digits ds h]

theorem skip_afterDigits_text (e? : Option Exponent) (h : Delimits rest) :
    Skip.afterDigits (e?.elim [] Exponent.text ++ rest) = .ok rest := by
  cases e? with
  | none =>
      refine afterDigits_eq_ok ?_ ?_
      · rintro _ rfl
        exact (h _ rfl).2.2.1 rfl
      · rintro _ rfl
        exact (h _ rfl).2.2.2 rfl
  | some e =>
      have hskip := skip_exponent_text e h.endsDigits
      cases hcapital : e.capital <;> simp [Exponent.text, hcapital, Skip.afterDigits, hskip]

theorem fraction_tail (n : NumberText) (h : Delimits rest) :
    fraction (n.tail ++ rest) = .ok rest := by
  have hexponent := skip_afterDigits_text n.exponent h
  rw [NumberText.tail, List.append_assoc]
  cases n.places with
  | none =>
      have hpoint : ∀ cs, n.exponent.elim [] Exponent.text ++ rest ≠ '.' :: cs := by
        intro cs heq
        cases he : n.exponent with
        | none =>
            rw [he] at heq
            exact (h '.' (congrArg List.head? heq)).2.1 rfl
        | some e =>
            rw [he] at heq
            have hletter := (List.cons.inj heq).1
            cases hcapital : e.capital <;> rw [hcapital] at hletter <;> nomatch hletter
      rw [← hexponent]
      unfold fraction
      split
      · exact (hpoint _ ‹_›).elim
      · rfl
  | some ds =>
      refine (if_pos ds.isDigit_first).trans ?_
      have htake := takeDigits_text ds (endsDigits_exponent h n.exponent)
      exact (congrArg Skip.afterDigits (congrArg Prod.snd htake)).trans hexponent

/-- A number is passed over, whether or not it is in range. -/
theorem skip_number_text (n : NumberText) (h : Delimits rest) :
    Skip.number (n.unsigned ++ rest) = .ok rest := by
  have htail := endsDigits_tail h n
  have hzero : n.whole.first = '0' →
      (n.whole.more ++ (n.tail ++ rest)).head?.any Char.isDigit = false := by
    intro heq
    rw [n.noLeadingZero heq, List.nil_append]
    cases hhead : (n.tail ++ rest).head? with
    | none => rfl
    | some c => exact htail c hhead
  rw [NumberText.unsigned, List.append_assoc]
  exact (skip_number_eq n.whole.isDigit_first hzero).trans
    ((congrArg fraction (dropWhile_digits n.whole htail)).trans (fraction_tail n h))

end Numbers

end Storefront.Json
