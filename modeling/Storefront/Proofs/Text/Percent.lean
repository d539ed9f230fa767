import Storefront.Proofs.Text.Form

/-! # What encoded texts are made of

A percent-encoded text consists of characters that stand for themselves and of escapes, so what
holds of these holds of every character of it. -/

namespace Storefront.Text

/-- What holds of the numbers below 128 as characters holds of every ASCII character. -/
theorem forall_ascii {p : Char → Prop} (h : ∀ n < 0x80, p (Char.ofNat n)) {c : Char}
    (hc : c.toNat < 0x80) : p c :=
  Char.ofNat_toNat c ▸ h c.toNat hc

/-! ## Bytes of characters -/

/-- No byte of a character outside ASCII is an ASCII byte. -/
theorem le_of_mem_utf8EncodeChar {c : Char} (h : 0x80 ≤ c.toNat) {b : UInt8}
    (hb : b ∈ String.utf8EncodeChar c) : 0x80 ≤ b.toNat := by
  have hne : ¬ c.val.toNat ≤ 0x7F := Nat.not_le.mpr h
  have hofNat : ∀ n < 0x40, ∀ m, 0x80 ≤ m → m + n < 256 → 0x80 ≤ (UInt8.ofNat (n + m)).toNat := by
    intro n _ m hm hlt
    rw [UInt8.toNat_ofNat_of_lt' (by simp only [UInt8.size]; omega)]
    omega
  unfold String.utf8EncodeChar at hb
  simp only [hne, if_false] at hb
  split at hb
  · simp only [List.mem_cons, List.not_mem_nil, or_false] at hb
    rcases hb with rfl | rfl <;> exact hofNat _ (by omega) _ (by omega) (by omega)
  · split at hb
    · simp only [List.mem_cons, List.not_mem_nil, or_false] at hb
      rcases hb with rfl | rfl | rfl <;> exact hofNat _ (by omega) _ (by omega) (by omega)
    · simp only [List.mem_cons, List.not_mem_nil, or_false] at hb
      rcases hb with rfl | rfl | rfl | rfl <;> exact hofNat _ (by omega) _ (by omega) (by omega)

/-- An ASCII byte of a text is one of its characters. -/
theorem mem_of_mem_utf8 {cs : List Char} {b : UInt8} (h : b ∈ utf8 cs) (hb : b.toNat < 0x80) :
    Char.ofNat b.toNat ∈ cs := by
  obtain ⟨c, hc, hmem⟩ := List.mem_flatMap.mp h
  by_cases hascii : c.toNat < 0x80
  · have hsingle : String.utf8EncodeChar c = [UInt8.ofNat c.toNat] := by
      simpa [utf8] using utf8_cons_of_ascii hascii []
    rw [hsingle, List.mem_singleton] at hmem
    subst hmem
    rwa [UInt8.toNat_ofNat_of_lt' (by simp only [UInt8.size]; omega), Char.ofNat_toNat]
  · have hle := le_of_mem_utf8EncodeChar (Nat.le_of_not_lt hascii) hmem
    omega

namespace Percent

variable {p : Char → Prop} {keep : Char → Bool}

/-- A byte that stands for itself is an ASCII character. -/
theorem of_kept {b : UInt8} (h : (b < 0x80 && keep (Char.ofNat b.toNat)) = true) :
    (Char.ofNat b.toNat).toNat = b.toNat ∧ b.toNat < 0x80 ∧ keep (Char.ofNat b.toNat) = true := by
  simp only [Bool.and_eq_true, decide_eq_true_eq] at h
  have hlt : b.toNat < 0x80 := UInt8.lt_iff_toNat_lt.mp h.1
  exact ⟨Form.toNat_ofNat_of_ascii hlt, hlt, h.2⟩

/-- What holds of a percent sign and of the digits holds of every character of an escape. -/
theorem forall_mem_escape (hsign : p '%') (hdigit : ∀ n < 16, p (hexDigit n)) (b : UInt8) :
    ∀ c ∈ escape b, p c := by
  have hb : b.toNat < 256 := b.toNat_lt
  intro c hc
  simp only [escape, List.mem_cons, List.not_mem_nil, or_false] at hc
  rcases hc with rfl | rfl | rfl
  · exact hsign
  · exact hdigit _ (by omega)
  · exact hdigit _ (by omega)

theorem forall_mem_encode (hsign : p '%') (hdigit : ∀ n < 16, p (hexDigit n)) {cs : List Char}
    (hkept : ∀ c ∈ cs, c.toNat < 0x80 → keep c = true → p c) : ∀ c ∈ encode keep cs, p c := by
  intro c hc
  obtain ⟨b, hb, hmem⟩ := List.mem_flatMap.mp hc
  split at hmem
  · rename_i hkeep
    obtain ⟨hchar, hlt, hkeep⟩ := of_kept hkeep
    rw [List.mem_singleton.mp hmem]
    exact hkept _ (mem_of_mem_utf8 hb hlt) (hchar.symm ▸ hlt) hkeep
  · exact forall_mem_escape hsign hdigit b c hmem

/-- A text of ASCII characters that all stand for themselves is its own encoding. -/
theorem encode_eq_self {cs : List Char} (h : ∀ c ∈ cs, c.toNat < 0x80 ∧ keep c = true) :
    encode keep cs = cs := by
  induction cs with
  | nil => rfl
  | cons c cs ih =>
      obtain ⟨hascii, hkeep⟩ := h c List.mem_cons_self
      have hbyte : (UInt8.ofNat c.toNat).toNat = c.toNat :=
        UInt8.toNat_ofNat_of_lt' (by simp only [UInt8.size]; omega)
      have hlt : UInt8.ofNat c.toNat < 0x80 := UInt8.lt_iff_toNat_lt.mpr (hbyte.symm ▸ hascii)
      have ih := ih fun d hd => h d (List.mem_cons_of_mem _ hd)
      rw [encode, encodeBytes] at ih ⊢
      rw [utf8_cons_of_ascii hascii, List.flatMap_cons, ih, hbyte, Char.ofNat_toNat]
      simp [hlt, hkeep]

/-! ### Reading back -/

theorem decode_utf8_encodeBytes (hkeep : keep '%' = false) (bs : List UInt8) :
    decode (utf8 (encodeBytes keep bs)) = bs := by
  induction bs with
  | nil => rfl
  | cons b bs ih =>
      rw [encodeBytes, List.flatMap_cons, utf8_append]
      split
      · rename_i hkept
        obtain ⟨hchar, hlt, hkept⟩ := of_kept hkept
        have hne : b ≠ 0x25 := by
          rintro rfl
          exact Bool.false_ne_true (hkeep.symm.trans hkept)
        rw [utf8_cons_of_ascii (by omega), hchar, UInt8.ofNat_toNat, utf8_nil,
          List.singleton_append, decode_cons_of_ne hne]
        exact congrArg (List.cons b) ih
      · rw [decode_utf8_escape_append]
        exact congrArg (List.cons b) ih

/-- Every percent sign has two hexadecimal digits behind it. -/
def WholeEscapes (cs : List Char) : Prop :=
  ∀ before after, cs = before ++ '%' :: after →
    ∃ h l rest, after = h :: l :: rest ∧ (hexValue h).isSome ∧ (hexValue l).isSome

theorem WholeEscapes.cons_of_ne {c : Char} {cs : List Char} (h : WholeEscapes cs) (hc : c ≠ '%') :
    WholeEscapes (c :: cs) := by
  intro before after heq
  cases before with
  | nil => exact absurd (List.cons.inj heq).1 hc
  | cons d before => exact h before after (List.cons.inj heq).2

theorem WholeEscapes.escape_append {cs : List Char} (h : WholeEscapes cs) (b : UInt8) :
    WholeEscapes (escape b ++ cs) := by
  have hb : b.toNat < 256 := b.toNat_lt
  have hdigit : ∀ n < 16, (hexValue (hexDigit n)).isSome := by
    intro n hn
    rw [hexValue_hexDigit hn]
    rfl
  have hne : ∀ n < 16, hexDigit n ≠ '%' := by
    intro n hn heq
    have hvalue := hdigit n hn
    rw [heq] at hvalue
    exact absurd hvalue (by decide)
  intro before after heq
  cases before with
  | nil =>
      obtain rfl := (List.cons.inj heq).2
      exact ⟨_, _, cs, rfl, hdigit _ (by omega), hdigit _ (by omega)⟩
  | cons d before =>
      exact ((h.cons_of_ne (hne _ (by omega))).cons_of_ne (hne _ (by omega))) before after
        (List.cons.inj heq).2

theorem wholeEscapes_encodeBytes (hkeep : keep '%' = false) (bs : List UInt8) :
    WholeEscapes (encodeBytes keep bs) := by
  induction bs with
  | nil =>
      intro before after heq
      exact nomatch (List.append_eq_nil_iff.mp heq.symm).2
  | cons b bs ih =>
      rw [encodeBytes, List.flatMap_cons]
      split
      · rename_i hkept
        refine ih.cons_of_ne fun heq => ?_
        rw [heq, hkeep, Bool.and_false] at hkept
        exact Bool.false_ne_true hkept
      · exact ih.escape_append b

end Percent

namespace Form

variable {p : Char → Prop}

/-- What holds of the bytes that stand for themselves, of escapes and of the signs of the format
holds of every character of a written list of pairs. -/
theorem forall_mem_encode (hsign : p '%') (hdigit : ∀ n < 16, p (hexDigit n))
    (hplain : ∀ c, c.toNat < 0x80 → plain c = true → p c) (hspace : p '+') (hand : p '&')
    (heq : p '=') (ps : List (String × String)) : ∀ c ∈ encode ps, p c := by
  have htext : ∀ s : String, ∀ c ∈ encodeText s, p c := by
    intro s c hc
    obtain ⟨b, -, hmem⟩ := List.mem_flatMap.mp hc
    unfold encodeByte at hmem
    split at hmem
    · rwa [List.mem_singleton.mp hmem]
    split at hmem
    · rename_i hkeep
      obtain ⟨hchar, hlt, hkeep⟩ := Percent.of_kept hkeep
      rw [List.mem_singleton.mp hmem]
      exact hplain _ (hchar.symm ▸ hlt) hkeep
    · exact Percent.forall_mem_escape hsign hdigit b c hmem
  have hpair : ∀ q : String × String, ∀ c ∈ encodePair q, p c := by
    intro q c hc
    rcases List.mem_append.mp hc with hc | hc
    · exact htext _ c hc
    rcases List.mem_cons.mp hc with rfl | hc
    · exact heq
    · exact htext _ c hc
  intro c hc
  induction ps with
  | nil => exact absurd hc List.not_mem_nil
  | cons q ps ih =>
      cases ps with
      | nil => exact hpair q c hc
      | cons r ps =>
          rcases List.mem_append.mp hc with hc | hc
          · exact hpair q c hc
          rcases List.mem_cons.mp hc with rfl | hc
          · exact hand
          · exact ih hc

/-- Where neither stands for itself, a plus sign and a percent sign are told from what they stand
for in a form. -/
theorem decodeText_utf8_encode {keep : Char → Bool} (hplus : keep '+' = false)
    (hsign : keep '%' = false) (s : String) :
    decodeText (utf8 (Percent.encode keep s.toList)) = s := by
  have hchars : ∀ c ∈ Percent.encode keep s.toList, c ≠ '+' := by
    refine Percent.forall_mem_encode (by decide) (by decide) fun c _ _ hkept heq => ?_
    rw [heq, hplus] at hkept
    exact Bool.false_ne_true hkept
  have hbytes : (utf8 (Percent.encode keep s.toList)).map spaced =
      utf8 (Percent.encode keep s.toList) := by
    refine (List.map_congr_left fun b hb => ?_).trans (List.map_id _)
    refine if_neg fun heq => ?_
    rw [beq_iff_eq.mp heq] at hb
    exact hchars _ (mem_of_mem_utf8 hb (by decide)) rfl
  change String.ofList (decodeLossy (Percent.decode
    ((utf8 (Percent.encode keep s.toList)).map spaced))) = s
  rw [hbytes, Percent.encode, Percent.decode_utf8_encodeBytes hsign, decodeLossy_utf8,
    String.ofList_toList]

end Form

end Storefront.Text
