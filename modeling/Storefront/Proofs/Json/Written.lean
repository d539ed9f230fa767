import Mathlib.Data.List.Forall2
import Storefront.Json.Writer
import Storefront.Proofs.Json.Trees

/-! # What is written

Whatever is written is a text of the grammar, without white space between its tokens, and it stands
for what it was written for: a string for its characters, each written plainly or as an escape, a
list for its items and an object for its members. -/

namespace Storefront.Json

open Storefront.Text

/-! ## Characters -/

theorem hexValue_hexDigitLower {n : Nat} (h : n < 16) : hexValue (hexDigitLower n) = some n := by
  have hall : ∀ m ∈ List.range 16, hexValue (hexDigitLower m) = some m := by decide
  exact hall n (List.mem_range.mpr h)

def HexDigit.lower (n : Nat) (h : n < 16) : HexDigit :=
  ⟨hexDigitLower n, n, hexValue_hexDigitLower h⟩

def CodeUnit.ofControl (c : Char) (h : c.toNat < 0x20) : CodeUnit :=
  ⟨.lower 0 (by omega), .lower 0 (by omega), .lower (c.toNat / 16) (by omega),
    .lower (c.toNat % 16) (by omega)⟩

theorem number_ofControl {c : Char} (h : c.toNat < 0x20) :
    (CodeUnit.ofControl c h).number = c.toNat := by
  simp only [CodeUnit.ofControl, CodeUnit.number, HexDigit.lower]
  omega

/-- The escape of one letter that a character is written with. -/
def ShortEscape.of? (c : Char) : Option ShortEscape :=
  [quote, backslash, backspace, formFeed, lineFeed, carriageReturn, tab].find? fun e => e.char == c

theorem ShortEscape.of?_eq_some {c : Char} {e : ShortEscape} (h : of? c = some e) :
    e.char = c ∧ writeChar c = ['\\', e.letter] := by
  unfold of? at h
  have hmem := List.mem_of_find?_eq_some h
  obtain rfl : e.char = c := by simpa using List.find?_some h
  refine ⟨rfl, ?_⟩
  cases e with
  | slash => simp at hmem
  | _ => rfl

theorem ShortEscape.of?_eq_none {c : Char} (h : of? c = none) :
    c ≠ '"' ∧ c ≠ '\\' ∧
      writeChar c = if c.toNat < 0x20 then
        ['\\', 'u', '0', '0', hexDigitLower (c.toNat / 16), hexDigitLower (c.toNat % 16)]
      else [c] := by
  have hother := List.find?_eq_none.mp h
  simp only [List.forall_mem_cons, beq_iff_eq, ShortEscape.char] at hother
  obtain ⟨hquote, hslash, hbackspace, hform, hline, hreturn, htab, -⟩ := hother
  refine ⟨Ne.symm hquote, Ne.symm hslash, ?_⟩
  unfold writeChar
  split
  all_goals first | contradiction | rfl

/-- A character as it is written in a string. -/
def Piece.ofChar (c : Char) : Piece :=
  match h : ShortEscape.of? c with
  | some e => .short e
  | none =>
    if hcontrol : c.toNat < 0x20 then .unit (.ofControl c hcontrol)
    else
      have hother := ShortEscape.of?_eq_none h
      .plain c ⟨Nat.le_of_not_lt hcontrol, hother.1, hother.2.1⟩

theorem text_ofChar (c : Char) : (Piece.ofChar c).text = writeChar c := by
  unfold Piece.ofChar
  split
  · rename_i e h
    rw [(ShortEscape.of?_eq_some h).2]
    rfl
  · rename_i h
    refine Eq.trans ?_ (ShortEscape.of?_eq_none h).2.2.symm
    split <;> rfl

/-- A written character stands for itself. -/
theorem chars?_ofChar (c : Char) (s : List Piece) :
    chars? (Piece.ofChar c :: s) = (chars? s).map (c :: ·) := by
  unfold Piece.ofChar
  split
  · rename_i e h
    rw [chars?, (ShortEscape.of?_eq_some h).1]
  · split
    · rename_i hcontrol
      have hlow : isLowSurrogate c.toNat = false := by simp [isLowSurrogate]; omega
      have hhigh : isHighSurrogate c.toNat = false := by simp [isHighSurrogate]; omega
      conv => lhs; rw [chars?.eq_def]
      simp only [number_ofControl, hlow, hhigh, Bool.false_eq_true, if_false, Char.ofNat_toNat]
    · rw [chars?]

/-! ## Strings, lists and objects -/

/-- A string as it is written, between its quotes. -/
def Piece.ofString (s : String) : List Piece :=
  s.toList.map Piece.ofChar

theorem quotedText_ofString (s : String) : quotedText (Piece.ofString s) = writeString s := by
  simp only [quotedText, writeString, Piece.ofString, List.flatMap_map, text_ofChar]

/-- A written string stands for itself. -/
theorem string?_ofString (s : String) : string? (Piece.ofString s) = some s := by
  have hchars : ∀ cs : List Char, chars? (cs.map Piece.ofChar) = some cs := by
    intro cs
    induction cs with
    | nil => rfl
    | cons c cs ih => rw [List.map_cons, chars?_ofChar, ih, Option.map_some]
  rw [string?, Piece.ofString, hchars, Option.map_some, String.ofList_toList]

def Tree.ofString (s : String) : Tree :=
  .string (Piece.ofString s)

def Tree.ofList (items : List Tree) : Tree :=
  .array .none (.ofList items)

def Tree.ofMembers (ms : List (String × Tree)) : Tree :=
  .object .none (.ofList (ms.map fun m => (Piece.ofString m.1, m.2)))

theorem joined_cons (x : List Char) (xs : List (List Char)) :
    joined (x :: xs) = x ++ xs.flatMap (',' :: ·) := by
  induction xs generalizing x with
  | nil => simp [joined]
  | cons y xs ih => rw [joined, ih, List.flatMap_cons]; rfl

theorem text_itemsOfList (ts : List Tree) :
    (Items.ofList ts).text false = (ts.map Tree.text).flatMap (',' :: ·) := by
  induction ts with
  | nil => rfl
  | cons t ts ih => simp [Items.ofList, Items.text, comma, Gap.none, ih]

theorem text_membersOfList (ms : List (List Piece × Tree)) :
    (Members.ofList ms).text false =
      (ms.map fun m => quotedText m.1 ++ ':' :: m.2.text).flatMap (',' :: ·) := by
  induction ms with
  | nil => rfl
  | cons m ms ih => simp [Members.ofList, Members.text, comma, Gap.none, ih]

theorem text_ofString (s : String) : (Tree.ofString s).text = writeString s := by
  rw [Tree.ofString, Tree.text, quotedText_ofString]

theorem text_ofList (ts : List Tree) : (Tree.ofList ts).text = writeList (ts.map Tree.text) := by
  cases ts with
  | nil => rfl
  | cons t ts =>
      simp [Tree.ofList, Tree.text, Items.ofList, Items.text, text_itemsOfList, writeList,
        joined_cons, comma, Gap.none]

theorem text_ofMembers (ms : List (String × Tree)) :
    (Tree.ofMembers ms).text = writeObject (ms.map fun m => (m.1, m.2.text)) := by
  cases ms with
  | nil => rfl
  | cons m ms =>
      simp [Tree.ofMembers, Tree.text, Members.ofList, Members.text, text_membersOfList,
        writeObject, joined_cons, comma, Gap.none, quotedText_ofString, Function.comp_def]

/-! ## What is written stands for a value -/

/-- A text without white space around it that stands for a value. -/
def StandsFor (depth : Nat) (cs : List Char) (v : Value) : Prop :=
  ∃ t : Tree, t.text = cs ∧ t.value? depth = some v

variable {depth : Nat} {css : List (List Char)} {vs : List Value}
  {ms : List (String × List Char)} {entries : List (String × Value)}

theorem StandsFor.ended {cs : List Char} {v : Value} (h : StandsFor depth cs v) :
    ended (value depth cs) = .ok v := by
  obtain ⟨t, rfl, hvalue⟩ := h
  have hread : (value depth (t.text ++ [])).toOption = (t.value? depth).map (·, []) :=
    value_text t depth [] delimits_nil
  rw [hvalue, Option.map_some, List.append_nil] at hread
  exact ended_eq_ok_iff.mpr ⟨[], toOption_eq_some_iff.mp hread, rfl⟩

theorem standsFor_null (depth : Nat) : StandsFor depth (write .null) .null :=
  ⟨.null, by rw [write, Tree.text], by rw [Tree.value?]⟩

theorem standsFor_string (depth : Nat) (s : String) :
    StandsFor depth (writeString s) (.string s) :=
  ⟨.ofString s, text_ofString s, by rw [Tree.ofString, Tree.value?, string?_ofString]; rfl⟩

theorem mapM_eq_some_iff_forall₂ {α β : Type} {f : α → Option β} {xs : List α} {ys : List β} :
    xs.mapM f = some ys ↔ List.Forall₂ (fun x y => f x = some y) xs ys := by
  induction xs generalizing ys with
  | nil => cases ys <;> simp
  | cons x xs ih =>
      rw [List.mapM_cons]
      cases hx : f x with
      | none => cases ys <;> simp [hx]
      | some y =>
          cases hxs : xs.mapM f with
          | none => cases ys <;> simp [hx, ← ih, hxs]
          | some more => cases ys <;> simp [hx, ← ih, hxs]

theorem standsFor_list (h : List.Forall₂ (StandsFor depth) css vs) :
    StandsFor (depth + 1) (writeList css) (.array vs) := by
  have htrees : ∃ ts : List Tree, ts.map Tree.text = css ∧
      List.Forall₂ (fun t v => t.value? depth = some v) ts vs := by
    induction h with
    | nil => exact ⟨[], rfl, .nil⟩
    | cons hitem _ ih =>
        obtain ⟨t, rfl, hvalue⟩ := hitem
        obtain ⟨ts, rfl, hvalues⟩ := ih
        exact ⟨t :: ts, rfl, .cons hvalue hvalues⟩
  obtain ⟨ts, rfl, hvalues⟩ := htrees
  refine ⟨.ofList ts, text_ofList ts, ?_⟩
  rw [Tree.ofList, Tree.value?, Items.values?_eq_mapM, Items.toList_ofList,
    mapM_eq_some_iff_forall₂.mpr hvalues, Option.map_some]

/-- An object whose members are written one by one stands for an object of what they stand for. -/
theorem standsFor_object
    (h : List.Forall₂ (fun m entry => m.1 = entry.1 ∧ StandsFor depth m.2 entry.2) ms entries) :
    StandsFor (depth + 1) (writeObject ms) (.object entries) := by
  have htrees : ∃ ts : List (String × Tree), (ts.map fun m => (m.1, m.2.text)) = ms ∧
      List.Forall₂ (fun m entry => (m.2.value? depth).map (m.1, ·) = some entry) ts entries := by
    induction h with
    | nil => exact ⟨[], rfl, .nil⟩
    | @cons m entry _ _ hmember _ ih =>
        obtain ⟨key, v⟩ := entry
        obtain ⟨hkey, t, htext, hvalue⟩ := hmember
        obtain ⟨ts, rfl, hvalues⟩ := ih
        refine ⟨(key, t) :: ts, ?_, .cons (by rw [hvalue, Option.map_some]) hvalues⟩
        rw [List.map_cons, htext, ← hkey]
  obtain ⟨ts, rfl, hvalues⟩ := htrees
  refine ⟨.ofMembers ts, text_ofMembers ts, ?_⟩
  rw [Tree.ofMembers, Tree.value?, Members.values?_eq_mapM, Members.toList_ofList,
    mapM_eq_some_iff_forall₂.mpr, Option.map_some]
  refine List.forall₂_map_left_iff.mpr (hvalues.imp fun m entry hentry => ?_)
  rw [memberValue?, string?_ofString, Option.bind_some, hentry]

end Storefront.Json
