import Storefront.Proofs.Text.Utf8
import Storefront.Text.Form

/-! # Form-urlencoded pairs are read back

An encoded text holds neither `&` nor `=`, so the pieces between them are the encoded texts, and
each of them is read back by itself. -/

namespace Storefront.Text

/-! ## Escapes -/

namespace Percent

theorem decode_cons_of_ne {b : UInt8} (h : b ≠ 0x25) (bs : List UInt8) :
    decode (b :: bs) = b :: decode bs := by
  rw [decode.eq_def]
  split
  · rename_i heq
    exact absurd (List.cons.inj heq).1 h
  · rename_i heq
    obtain ⟨rfl, rfl⟩ := List.cons.inj heq
    rfl
  · rename_i heq
    exact absurd heq (List.cons_ne_nil _ _)

theorem toNat_hexDigit {n : Nat} (h : n < 16) :
    (hexDigit n).toNat = if n < 10 then 0x30 + n else 0x37 + n := by
  have hall : ∀ m ∈ List.range 16,
      (hexDigit m).toNat = if m < 10 then 0x30 + m else 0x37 + m := by decide
  exact hall n (List.mem_range.mpr h)

/-- The bytes of an escape. -/
theorem utf8_escape (b : UInt8) :
    utf8 (escape b) =
      [0x25, UInt8.ofNat (hexDigit (b.toNat / 16)).toNat,
        UInt8.ofNat (hexDigit (b.toNat % 16)).toNat] := by
  have hb : b.toNat < 256 := b.toNat_lt
  have hdigit : ∀ n < 16, (hexDigit n).toNat < 0x80 := by
    intro n hn
    rw [toNat_hexDigit hn]
    split <;> omega
  rw [escape, utf8_cons_of_ascii (by decide), utf8_cons_of_ascii (hdigit _ (by omega)),
    utf8_cons_of_ascii (hdigit _ (by omega)), utf8_nil]
  rfl

theorem decode_utf8_escape_append (b : UInt8) (bs : List UInt8) :
    decode (utf8 (escape b) ++ bs) = b :: decode bs := by
  have hb : b.toNat < 256 := b.toNat_lt
  have hchar : ∀ n < 16, Char.ofNat (UInt8.ofNat (hexDigit n).toNat).toNat = hexDigit n := by
    intro n hn
    rw [UInt8.toNat_ofNat_of_lt'
      (by rw [toNat_hexDigit hn]; simp only [UInt8.size]; split <;> omega),
      Char.ofNat_toNat]
  simp only [utf8_escape, List.cons_append, List.nil_append, decode]
  rw [hchar _ (by omega), hchar _ (by omega), hexValue_hexDigit (by omega),
    hexValue_hexDigit (by omega)]
  simp only [List.cons.injEq, and_true]
  rw [Nat.div_add_mod' b.toNat 16, UInt8.ofNat_toNat]

end Percent

namespace Form

/-! ## One byte -/

/-- What reading does to a byte before it undoes escapes. -/
def spaced (b : UInt8) : UInt8 :=
  if b == 0x2B then 0x20 else b

theorem toNat_ofNat_of_ascii {n : Nat} (h : n < 0x80) : (Char.ofNat n).toNat = n := by
  have hvalid : n.isValidChar := .inl (by omega)
  rw [Char.ofNat, dif_pos hvalid]
  rfl

/-- The bytes of a byte's written form: a plus sign, the byte itself or an escape. -/
theorem utf8_encodeByte_cases (b : UInt8) :
    (b = 0x20 ∧ utf8 (encodeByte b) = [0x2B]) ∨
    (plain (Char.ofNat b.toNat) ∧ utf8 (encodeByte b) = [b]) ∨
    utf8 (encodeByte b) = utf8 (Percent.escape b) := by
  by_cases hspace : b = 0x20
  · subst hspace
    exact .inl ⟨rfl, by decide⟩
  by_cases hplain : b < 0x80 ∧ plain (Char.ofNat b.toNat)
  · have hlt : b.toNat < 0x80 := UInt8.lt_iff_toNat_lt.mp hplain.1
    have hchar : (Char.ofNat b.toNat).toNat = b.toNat := toNat_ofNat_of_ascii hlt
    refine .inr (.inl ⟨hplain.2, ?_⟩)
    simp only [encodeByte, beq_iff_eq, hspace, if_false, hplain.1, hplain.2, decide_true,
      Bool.and_self, if_true]
    rw [utf8_cons_of_ascii (by omega), hchar, UInt8.ofNat_toNat, utf8_nil]
  · refine .inr (.inr ?_)
    rw [encodeByte, if_neg (by simpa using hspace), if_neg (by simpa using hplain)]

theorem plain_ne {b x : UInt8} (hb : plain (Char.ofNat b.toNat))
    (hx : plain (Char.ofNat x.toNat) = false) :
    b ≠ x := by
  rintro rfl
  simp [hb] at hx

theorem hexDigit_byte_ne {n : Nat} (h : n < 16) {x : UInt8} (hx : x.toNat < 0x30 ∨ x.toNat = 0x3D) :
    UInt8.ofNat (hexDigit n).toNat ≠ x := by
  intro heq
  have hn := congrArg UInt8.toNat heq
  rw [Percent.toNat_hexDigit h, UInt8.toNat_ofNat_of_lt'
    (by simp only [UInt8.size]; split <;> omega)] at hn
  split at hn <;> omega

/-- No byte is written with a sign of the format. -/
theorem mem_utf8_encodeByte {b x : UInt8} (h : x ∈ utf8 (encodeByte b)) : x ≠ 0x26 ∧ x ≠ 0x3D := by
  have hb : b.toNat < 256 := b.toNat_lt
  rcases utf8_encodeByte_cases b with ⟨-, heq⟩ | ⟨hplain, heq⟩ | heq
  · rw [heq, List.mem_singleton] at h
    subst h
    decide
  · rw [heq, List.mem_singleton] at h
    subst h
    exact ⟨plain_ne hplain (by decide), plain_ne hplain (by decide)⟩
  · rw [heq, Percent.utf8_escape] at h
    simp only [List.mem_cons, List.not_mem_nil, or_false] at h
    rcases h with rfl | rfl | rfl
    · decide
    · exact ⟨hexDigit_byte_ne (by omega) (.inl (by decide)),
        hexDigit_byte_ne (by omega) (.inr (by decide))⟩
    · exact ⟨hexDigit_byte_ne (by omega) (.inl (by decide)),
        hexDigit_byte_ne (by omega) (.inr (by decide))⟩

theorem spaced_of_ne {b : UInt8} (h : b ≠ 0x2B) : spaced b = b := by
  simp [spaced, h]

theorem map_spaced_utf8_escape (b : UInt8) :
    (utf8 (Percent.escape b)).map spaced = utf8 (Percent.escape b) := by
  have hb : b.toNat < 256 := b.toNat_lt
  simp only [Percent.utf8_escape, List.map_cons, List.map_nil]
  rw [spaced_of_ne (b := 0x25) (by decide),
    spaced_of_ne (hexDigit_byte_ne (by omega) (.inl (by decide))),
    spaced_of_ne (hexDigit_byte_ne (by omega) (.inl (by decide)))]

theorem decode_utf8_encodeByte_append (b : UInt8) (bs : List UInt8) :
    Percent.decode ((utf8 (encodeByte b)).map spaced ++ bs) = b :: Percent.decode bs := by
  rcases utf8_encodeByte_cases b with ⟨rfl, heq⟩ | ⟨hplain, heq⟩ | heq
  · rw [heq]
    exact Percent.decode_cons_of_ne (by decide) bs
  · rw [heq, List.map_singleton, spaced_of_ne (plain_ne hplain (by decide))]
    exact Percent.decode_cons_of_ne (plain_ne hplain (by decide)) bs
  · rw [heq, map_spaced_utf8_escape]
    exact Percent.decode_utf8_escape_append b bs

/-! ## One text -/

theorem mem_utf8_encodeText {s : String} {x : UInt8} (h : x ∈ utf8 (encodeText s)) :
    x ≠ 0x26 ∧ x ≠ 0x3D := by
  rw [encodeText, utf8, List.flatMap_assoc] at h
  obtain ⟨b, -, hx⟩ := List.mem_flatMap.mp h
  exact mem_utf8_encodeByte hx

theorem decode_utf8_flatMap_encodeByte (bs : List UInt8) :
    Percent.decode ((utf8 (bs.flatMap encodeByte)).map spaced) = bs := by
  induction bs with
  | nil => rfl
  | cons b bs ih =>
      rw [List.flatMap_cons, utf8_append, List.map_append, decode_utf8_encodeByte_append, ih]

theorem decodeText_utf8_encodeText (s : String) : decodeText (utf8 (encodeText s)) = s := by
  have h : Percent.decode ((utf8 (encodeText s)).map spaced) = utf8 s.toList :=
    decode_utf8_flatMap_encodeByte (utf8 s.toList)
  change String.ofList (decodeLossy (Percent.decode ((utf8 (encodeText s)).map spaced))) = s
  rw [h, decodeLossy_utf8, String.ofList_toList]

/-! ## One pair -/

theorem utf8_encodePair (p : String × String) :
    utf8 (encodePair p) = utf8 (encodeText p.1) ++ 0x3D :: utf8 (encodeText p.2) := by
  rw [encodePair, utf8_append, utf8_cons_of_ascii (by decide)]
  rfl

theorem not_mem_utf8_encodePair (p : String × String) : 0x26 ∉ utf8 (encodePair p) := by
  intro h
  rw [utf8_encodePair, List.mem_append, List.mem_cons] at h
  rcases h with h | h | h
  · exact (mem_utf8_encodeText h).1 rfl
  · exact absurd h (by decide)
  · exact (mem_utf8_encodeText h).1 rfl

theorem decodePair_utf8_encodePair (p : String × String) :
    decodePair (utf8 (encodePair p)) = p := by
  have hkey : ∀ x ∈ utf8 (encodeText p.1), (x != 0x3D) = true := by
    intro x hx
    simpa using (mem_utf8_encodeText hx).2
  rw [utf8_encodePair, decodePair, List.takeWhile_append_of_pos hkey,
    List.dropWhile_append_of_pos hkey]
  simp [decodeText_utf8_encodeText]

/-! ## All pairs -/

theorem pieces_of_not_mem {sep : UInt8} {bs : List UInt8} (h : sep ∉ bs) :
    pieces sep bs = [bs] := by
  induction bs with
  | nil => rfl
  | cons b bs ih =>
      have hb : (b == sep) = false := by
        simpa using fun heq : b = sep => h (heq ▸ List.mem_cons_self)
      simp only [pieces, hb, ih (fun hmem => h (List.mem_cons_of_mem _ hmem)), Bool.false_eq_true,
        if_false]

theorem pieces_append_cons {sep : UInt8} {bs : List UInt8} (h : sep ∉ bs) (cs : List UInt8) :
    pieces sep (bs ++ sep :: cs) = bs :: pieces sep cs := by
  induction bs with
  | nil => simp [pieces]
  | cons b bs ih =>
      have hb : (b == sep) = false := by
        simpa using fun heq : b = sep => h (heq ▸ List.mem_cons_self)
      simp only [List.cons_append, pieces, hb, ih (fun hmem => h (List.mem_cons_of_mem _ hmem)),
        Bool.false_eq_true, if_false]

theorem pieces_utf8_encode (p : String × String) (ps : List (String × String)) :
    pieces 0x26 (utf8 (encode (p :: ps))) = (p :: ps).map fun p => utf8 (encodePair p) := by
  induction ps generalizing p with
  | nil => exact pieces_of_not_mem (not_mem_utf8_encodePair p)
  | cons q ps ih =>
      have hsep : utf8 (encode (p :: q :: ps)) =
          utf8 (encodePair p) ++ 0x26 :: utf8 (encode (q :: ps)) := by
        rw [encode, utf8_append, utf8_cons_of_ascii (by decide)]
        rfl
      rw [hsep, pieces_append_cons (not_mem_utf8_encodePair p), ih q, List.map_cons (l := q :: ps)]

/-- Reading undoes writing: no pair, no order and no repetition is lost. -/
theorem decode_utf8_encode (ps : List (String × String)) : decode (utf8 (encode ps)) = ps := by
  cases ps with
  | nil => rfl
  | cons p ps =>
      have hne : ∀ piece ∈ (p :: ps).map fun p => utf8 (encodePair p), (!piece.isEmpty) = true := by
        intro piece hmem
        obtain ⟨q, -, rfl⟩ := List.mem_map.mp hmem
        simp [utf8_encodePair]
      rw [decode, pieces_utf8_encode, List.filter_eq_self.mpr hne, List.map_map]
      exact List.map_id'' (fun q => decodePair_utf8_encodePair q) (p :: ps)

theorem encode_injective : Function.Injective encode := by
  intro ps qs h
  rw [← decode_utf8_encode ps, ← decode_utf8_encode qs, h]

end Form

end Storefront.Text
