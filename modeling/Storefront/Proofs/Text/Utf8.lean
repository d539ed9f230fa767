import Storefront.Text.Utf8

/-! # Reading undoes writing -/

namespace Storefront.Text

namespace Utf8

/-! ## One character -/

/-- A byte in a pending character's range is taken into the character. -/
theorem decodeFrom_pending (p : Pending) (b : UInt8) (bs : List UInt8)
    (hlow : p.low.toNat ≤ b.toNat) (hhigh : b.toNat ≤ p.high.toNat) :
    decodeFrom (some p) (b :: bs) =
      if p.need ≤ 1 then Char.ofNat (p.bits * 64 + b.toNat % 64) :: decodeFrom none bs
      else decodeFrom (some ⟨p.need - 1, p.bits * 64 + b.toNat % 64, 0x80, 0xBF⟩) bs := by
  have hrange : (p.low ≤ b && b ≤ p.high) = true := by
    simp [UInt8.le_iff_toNat_le, hlow, hhigh]
  simp only [decodeFrom, step, hrange, if_true]
  split <;> simp

theorem decodeFrom_lead {b : UInt8} {p : Pending} (h : lead b = .pending p) (bs : List UInt8) :
    decodeFrom none (b :: bs) = decodeFrom (some p) bs := by
  simp [decodeFrom, step, h]

/-- The byte that carries the low six bits of `n` behind a lead byte. -/
def tail (n : Nat) : UInt8 :=
  UInt8.ofNat (n % 0x40 + 0x80)

theorem toNat_tail (n : Nat) : (tail n).toNat = n % 64 + 128 :=
  UInt8.toNat_ofNat_of_lt' (by simp [UInt8.size]; omega)

theorem decodeFrom_tail_last {bits n : Nat} {low high : UInt8} (bs : List UInt8)
    (hlow : low.toNat ≤ n % 64 + 128) (hhigh : n % 64 + 128 ≤ high.toNat) (hbits : bits = n / 64) :
    decodeFrom (some ⟨1, bits, low, high⟩) (tail n :: bs) = Char.ofNat n :: decodeFrom none bs := by
  rw [decodeFrom_pending _ _ _ (by simpa [toNat_tail]) (by simpa [toNat_tail])]
  have hn : bits * 64 + (tail n).toNat % 64 = n := by rw [toNat_tail]; omega
  simp [hn]

theorem decodeFrom_tail {need bits n : Nat} {low high : UInt8} (bs : List UInt8)
    (hlow : low.toNat ≤ n % 64 + 128) (hhigh : n % 64 + 128 ≤ high.toNat) (hbits : bits = n / 64) :
    decodeFrom (some ⟨need + 2, bits, low, high⟩) (tail n :: bs) =
      decodeFrom (some ⟨need + 1, n, 0x80, 0xBF⟩) bs := by
  rw [decodeFrom_pending _ _ _ (by simpa [toNat_tail]) (by simpa [toNat_tail])]
  have hn : bits * 64 + (tail n).toNat % 64 = n := by rw [toNat_tail]; omega
  simp [hn]

theorem lead_ofNat {n : Nat} (h : n < 256) :
    lead (UInt8.ofNat n) =
      if n < 0x80 then .char (Char.ofNat n)
      else if n < 0xC2 then .malformed
      else if n < 0xE0 then .pending ⟨1, n % 32, 0x80, 0xBF⟩
      else if n = 0xE0 then .pending ⟨2, 0, 0xA0, 0xBF⟩
      else if n = 0xED then .pending ⟨2, 13, 0x80, 0x9F⟩
      else if n < 0xF0 then .pending ⟨2, n % 16, 0x80, 0xBF⟩
      else if n = 0xF0 then .pending ⟨3, 0, 0x90, 0xBF⟩
      else if n < 0xF4 then .pending ⟨3, n % 8, 0x80, 0xBF⟩
      else if n = 0xF4 then .pending ⟨3, 4, 0x80, 0x8F⟩
      else .malformed := by
  have hn : (UInt8.ofNat n).toNat = n := UInt8.toNat_ofNat_of_lt' h
  have hlt : ∀ m : UInt8, (UInt8.ofNat n < m) = (n < m.toNat) := by
    intro m
    rw [UInt8.lt_iff_toNat_lt, hn]
  have heq : ∀ m : UInt8, (UInt8.ofNat n == m) = decide (n = m.toNat) := by
    intro m
    rw [Bool.eq_iff_iff, beq_iff_eq, decide_eq_true_iff, ← UInt8.toNat_inj, hn]
  simp only [lead, hlt, heq, hn, decide_eq_true_eq, UInt8.toNat_ofNat, Nat.reduceMod, Nat.reducePow]

/-- The lead byte of a character of two, three or four bytes, and the range it leaves to the next
byte. -/
theorem lead_two {n : Nat} (h : 0x80 ≤ n) (h' : n ≤ 0x7FF) :
    lead (UInt8.ofNat (n / 64 % 0x20 + 0xC0)) = .pending ⟨1, n / 64, 0x80, 0xBF⟩ := by
  rw [lead_ofNat (by omega), if_neg (by omega), if_neg (by omega), if_pos (by omega)]
  congr 2
  omega

theorem lead_three {n : Nat} (h : 0x800 ≤ n) (h' : n ≤ 0xFFFF) (hs : n < 0xD800 ∨ 0xDFFF < n) :
    ∃ low high : UInt8,
      lead (UInt8.ofNat (n / 4096 % 0x10 + 0xE0)) = .pending ⟨2, n / 4096, low, high⟩ ∧
      low.toNat ≤ n / 64 % 64 + 128 ∧ n / 64 % 64 + 128 ≤ high.toNat := by
  rw [lead_ofNat (by omega), if_neg (by omega), if_neg (by omega), if_neg (by omega)]
  by_cases h0 : n < 0x1000
  · refine ⟨0xA0, 0xBF, ?_, ?_⟩
    · rw [if_pos (by omega), show n / 4096 = 0 by omega]
    · simp only [UInt8.reduceToNat]
      omega
  · rw [if_neg (by omega)]
    by_cases hD : n / 4096 = 13
    · refine ⟨0x80, 0x9F, ?_, ?_⟩
      · rw [if_pos (by omega), hD]
      · simp only [UInt8.reduceToNat]
        omega
    · refine ⟨0x80, 0xBF, ?_, ?_⟩
      · rw [if_neg (by omega), if_pos (by omega)]
        congr 2
        omega
      · simp only [UInt8.reduceToNat]
        omega

theorem lead_four {n : Nat} (h : 0x10000 ≤ n) (h' : n < 0x110000) :
    ∃ low high : UInt8,
      lead (UInt8.ofNat (n / 262144 % 0x08 + 0xF0)) = .pending ⟨3, n / 262144, low, high⟩ ∧
      low.toNat ≤ n / 4096 % 64 + 128 ∧ n / 4096 % 64 + 128 ≤ high.toNat := by
  rw [lead_ofNat (by omega), if_neg (by omega), if_neg (by omega), if_neg (by omega),
    if_neg (by omega),
    if_neg (by omega), if_neg (by omega)]
  by_cases h0 : n < 0x40000
  · refine ⟨0x90, 0xBF, ?_, ?_⟩
    · rw [if_pos (by omega), show n / 262144 = 0 by omega]
    · simp only [UInt8.reduceToNat]
      omega
  · rw [if_neg (by omega)]
    by_cases h4 : n < 0x100000
    · refine ⟨0x80, 0xBF, ?_, ?_⟩
      · rw [if_pos (by omega)]
        congr 2
        omega
      · simp only [UInt8.reduceToNat]
        omega
    · refine ⟨0x80, 0x8F, ?_, ?_⟩
      · rw [if_neg (by omega), if_pos (by omega), show n / 262144 = 4 by omega]
      · simp only [UInt8.reduceToNat]
        omega

/-- The bytes of a character are read back as the character, whatever follows. -/
theorem decodeFrom_utf8EncodeChar (c : Char) (bs : List UInt8) :
    decodeFrom none (String.utf8EncodeChar c ++ bs) = c :: decodeFrom none bs := by
  obtain ⟨n, hn⟩ : ∃ n, c.val.toNat = n := ⟨_, rfl⟩
  have hc : Char.ofNat n = c := hn ▸ Char.ofNat_toNat c
  have hvalid : n < 0xD800 ∨ (0xDFFF < n ∧ n < 0x110000) := hn ▸ c.valid
  unfold String.utf8EncodeChar
  simp only [hn]
  change decodeFrom none ((if n ≤ 0x7F then [UInt8.ofNat n]
    else if n ≤ 0x7FF then [UInt8.ofNat (n / 64 % 0x20 + 0xC0), tail n]
    else if n ≤ 0xFFFF then [UInt8.ofNat (n / 4096 % 0x10 + 0xE0), tail (n / 64), tail n]
    else [UInt8.ofNat (n / 262144 % 0x08 + 0xF0), tail (n / 4096), tail (n / 64), tail n]) ++
      bs) = _
  have hlow : (0x80 : UInt8).toNat ≤ n % 64 + 128 := by simp
  have hhigh : n % 64 + 128 ≤ (0xBF : UInt8).toNat := by simp only [UInt8.reduceToNat]; omega
  have hlow' : (0x80 : UInt8).toNat ≤ n / 64 % 64 + 128 := by simp
  have hhigh' : n / 64 % 64 + 128 ≤ (0xBF : UInt8).toNat := by simp only [UInt8.reduceToNat]; omega
  by_cases h1 : n ≤ 0x7F
  · have hlead : lead (UInt8.ofNat n) = .char (Char.ofNat n) := by
      rw [lead_ofNat (by omega), if_pos (by omega)]
    simp [h1, decodeFrom, step, hlead, hc]
  by_cases h2 : n ≤ 0x7FF
  · rw [if_neg h1, if_pos h2, List.cons_append, decodeFrom_lead (lead_two (by omega) h2),
      List.cons_append, decodeFrom_tail_last _ hlow hhigh rfl, hc, List.nil_append]
  by_cases h3 : n ≤ 0xFFFF
  · obtain ⟨low, high, hlead, hl, hh⟩ := lead_three (by omega) h3 (by omega)
    rw [if_neg h1, if_neg h2, if_pos h3, List.cons_append, decodeFrom_lead hlead, List.cons_append,
      decodeFrom_tail _ hl hh (by omega), List.cons_append, decodeFrom_tail_last _ hlow hhigh rfl,
      hc, List.nil_append]
  · obtain ⟨low, high, hlead, hl, hh⟩ := lead_four (n := n) (by omega) (by omega)
    rw [if_neg h1, if_neg h2, if_neg h3, List.cons_append, decodeFrom_lead hlead, List.cons_append,
      decodeFrom_tail _ hl hh (by omega), List.cons_append,
      decodeFrom_tail _ hlow' hhigh' (by omega), List.cons_append,
      decodeFrom_tail_last _ hlow hhigh rfl, hc, List.nil_append]

end Utf8

/-! ## A text -/

@[simp] theorem utf8_nil : utf8 [] = [] :=
  rfl

@[simp] theorem utf8_append (cs ds : List Char) : utf8 (cs ++ ds) = utf8 cs ++ utf8 ds :=
  List.flatMap_append

/-- An ASCII character is one byte. -/
theorem utf8_cons_of_ascii {c : Char} (h : c.toNat < 0x80) (cs : List Char) :
    utf8 (c :: cs) = UInt8.ofNat c.toNat :: utf8 cs := by
  have hc : c.val.toNat ≤ 0x7F := Nat.le_of_lt_succ h
  simp only [utf8, List.flatMap_cons, String.utf8EncodeChar, hc, if_true]
  rfl

theorem decodeFrom_utf8_append (cs : List Char) (bs : List UInt8) :
    Utf8.decodeFrom none (utf8 cs ++ bs) = cs ++ Utf8.decodeFrom none bs := by
  induction cs with
  | nil => rfl
  | cons c cs ih =>
      rw [utf8, List.flatMap_cons, List.append_assoc, Utf8.decodeFrom_utf8EncodeChar]
      exact congrArg (List.cons c) ih

/-- Reading undoes writing: no text is lost in its bytes. -/
theorem decodeLossy_utf8 (cs : List Char) : decodeLossy (utf8 cs) = cs := by
  simpa [decodeLossy, Utf8.decodeFrom] using decodeFrom_utf8_append cs []

theorem decodeStrict?_utf8 (cs : List Char) : decodeStrict? (utf8 cs) = some cs := by
  rw [decodeStrict?, decodeLossy_utf8, if_pos (beq_self_eq_true _)]

end Storefront.Text
