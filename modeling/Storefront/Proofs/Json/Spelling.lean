import Storefront.Proofs.Json.Trees

/-! # What is passed over is a text

Passing over a value takes nothing off the front of a text but white space and one text of the
grammar. So whatever a reader takes that can be passed over is such a text as well. -/

namespace Storefront.Json

open Storefront.Text

variable {cs rest text mid behind : List Char}

/-! ## White space and words -/

theorem exists_gap (cs : List Char) : ∃ gap : Gap, cs = gap.chars ++ skipSpace cs := by
  refine ⟨⟨cs.takeWhile isSpace, fun c hc => ?_⟩, List.takeWhile_append_dropWhile.symm⟩
  have hspace : isSpace c = true := List.mem_takeWhile_imp hc
  simp only [isSpace, Bool.or_eq_true, beq_iff_eq] at hspace
  rcases hspace with ((rfl | rfl) | rfl) | rfl <;> decide

/-- What stands behind white space, with the white space. -/
theorem exists_gap_of_skipSpace (h : skipSpace cs = text) : ∃ gap : Gap, cs = gap.chars ++ text :=
  h ▸ exists_gap cs

def Gap.append (before after : Gap) : Gap :=
  ⟨before.chars ++ after.chars, fun c hc =>
    (List.mem_append.mp hc).elim (before.blank c) (after.blank c)⟩

theorem eq_of_word {letters : List Char} (h : word letters cs = .ok rest) :
    cs = letters ++ rest := by
  induction letters generalizing cs with
  | nil =>
      obtain rfl := Except.ok.inj h
      rfl
  | cons w letters ih =>
      cases cs with
      | nil => cases h
      | cons c cs =>
          rw [word] at h
          split at h
          · rename_i heq
            obtain rfl := beq_iff_eq.mp heq
            rw [ih h, List.cons_append]
          · cases h

theorem exists_gap_of_colon (h : colon cs = .ok rest) :
    ∃ gap : Gap, cs = gap.chars ++ ':' :: rest := by
  unfold colon at h
  split at h
  · cases h
  · rename_i hskip
    obtain rfl := Except.ok.inj h
    exact exists_gap_of_skipSpace hskip
  · cases h

/-! ## Strings -/

theorem exists_codeUnit {n : Nat} (h : hex4 cs = .ok (n, rest)) :
    ∃ u : CodeUnit, cs = u.text ++ rest := by
  unfold hex4 at h
  split at h
  · rename_i a b c d more
    split at h
    · rename_i w x y z ha hb hc hd
      obtain ⟨-, rfl⟩ := Prod.mk.inj (Except.ok.inj h)
      exact ⟨⟨⟨a, w, ha⟩, ⟨b, x, hb⟩, ⟨c, y, hc⟩, ⟨d, z, hd⟩⟩, rfl⟩
    · cases h
  · split at h <;> nomatch h

theorem exists_shortEscape {c : Char}
    (h : (c == '"' || c == '\\' || c == '/' || c == 'b' || c == 'f' || c == 'n' || c == 'r' ||
      c == 't') = true) : ∃ e : ShortEscape, e.letter = c := by
  simp only [Bool.or_eq_true, beq_iff_eq] at h
  rcases h with ((((((rfl | rfl) | rfl) | rfl) | rfl) | rfl) | rfl) | rfl
  · exact ⟨.quote, rfl⟩
  · exact ⟨.backslash, rfl⟩
  · exact ⟨.slash, rfl⟩
  · exact ⟨.backspace, rfl⟩
  · exact ⟨.formFeed, rfl⟩
  · exact ⟨.lineFeed, rfl⟩
  · exact ⟨.carriageReturn, rfl⟩
  · exact ⟨.tab, rfl⟩

/-- An escape is one piece of a string. -/
theorem exists_piece_of_escape (h : Skip.escape cs = .ok rest) :
    ∃ p : Piece, '\\' :: cs = p.text ++ rest := by
  unfold Skip.escape at h
  split at h
  · cases h
  · obtain ⟨⟨n, after⟩, hhex, h⟩ := exists_of_bind_eq_ok h
    obtain rfl := Except.ok.inj h
    obtain ⟨u, rfl⟩ := exists_codeUnit hhex
    exact ⟨.unit u, rfl⟩
  · split at h
    · rename_i hletter
      obtain rfl := Except.ok.inj h
      obtain ⟨e, rfl⟩ := exists_shortEscape hletter
      exact ⟨.short e, rfl⟩
    · cases h

theorem exists_pieces {fuel : Nat} (h : Skip.stringTail fuel cs = .ok rest) :
    ∃ s, cs = stringEnd s rest := by
  induction fuel generalizing cs with
  | zero => cases h
  | succ fuel ih =>
      unfold Skip.stringTail at h
      split at h
      · cases h
      · obtain rfl := Except.ok.inj h
        exact ⟨[], rfl⟩
      · obtain ⟨mid, hescape, h⟩ := exists_of_bind_eq_ok h
        obtain ⟨p, hp⟩ := exists_piece_of_escape hescape
        obtain ⟨s, rfl⟩ := ih h
        exact ⟨p :: s, by rw [hp, stringEnd_cons]⟩
      · rename_i c text hquote hslash
        split at h
        · cases h
        · rename_i hcontrol
          obtain ⟨s, rfl⟩ := ih h
          refine ⟨.plain c ⟨Nat.le_of_not_lt hcontrol, hquote, hslash⟩ :: s, ?_⟩
          rw [stringEnd_cons]
          rfl

/-! ## Numbers -/

theorem exists_digits {c : Char} (hdigit : c.isDigit = true) (cs : List Char) :
    ∃ ds : Digits, ds.first = c ∧ ds.more = cs.takeWhile Char.isDigit ∧
      c :: cs = ds.text ++ cs.dropWhile Char.isDigit := by
  refine ⟨⟨c, cs.takeWhile Char.isDigit, ?_⟩, rfl, rfl, ?_⟩
  · exact List.forall_mem_cons.mpr ⟨hdigit, fun d hd => List.mem_takeWhile_imp hd⟩
  · rw [Digits.text, List.cons_append, List.takeWhile_append_dropWhile]

theorem exists_exponent (capital : Bool) (h : Skip.exponent cs = .ok rest) :
    ∃ e : Exponent, e.capital = capital ∧ cs = e.sign.text ++ (e.digits.text ++ rest) := by
  have hsign : ∃ sign : ExponentSign, cs = sign.text ++ unsigned cs := by
    unfold unsigned
    split
    · exact ⟨.minus, rfl⟩
    · exact ⟨.plus, rfl⟩
    · exact ⟨.none, rfl⟩
  have hdigits : ∃ ds : Digits, unsigned cs = ds.text ++ rest := by
    unfold Skip.exponent at h
    dsimp only at h
    split at h
    · cases h
    · rename_i c digits heq
      split at h
      · rename_i hdigit
        obtain rfl := Except.ok.inj h
        obtain ⟨ds, -, -, htext⟩ := exists_digits hdigit digits
        exact ⟨ds, heq.trans htext⟩
      · cases h
  obtain ⟨sign, hcs⟩ := hsign
  obtain ⟨ds, hds⟩ := hdigits
  exact ⟨⟨capital, sign, ds⟩, rfl, by rw [← hds]; exact hcs⟩

theorem exists_exponent? (h : Skip.afterDigits cs = .ok rest) :
    ∃ e? : Option Exponent, cs = e?.elim [] Exponent.text ++ rest := by
  unfold Skip.afterDigits at h
  split at h
  · obtain ⟨e, hcapital, htext⟩ := exists_exponent false h
    exact ⟨some e, by simp [Exponent.text, hcapital, htext]⟩
  · obtain ⟨e, hcapital, htext⟩ := exists_exponent true h
    exact ⟨some e, by simp [Exponent.text, hcapital, htext]⟩
  · obtain rfl := Except.ok.inj h
    exact ⟨none, rfl⟩

/-- What is passed over behind the digits of a number are places and an exponent. -/
theorem exists_tail (h : fraction cs = .ok rest) :
    ∃ (places : Option Digits) (e? : Option Exponent),
      cs = places.elim [] (fun ds => '.' :: ds.text) ++ (e?.elim [] Exponent.text ++ rest) := by
  unfold fraction at h
  split at h
  · rename_i digits
    split at h
    · rename_i hhead
      cases digits with
      | nil => cases hhead
      | cons c digits =>
          have hdigit : c.isDigit = true := hhead
          rw [List.dropWhile_cons_of_pos hdigit] at h
          obtain ⟨e?, hexponent⟩ := exists_exponent? h
          obtain ⟨ds, -, -, htext⟩ := exists_digits hdigit digits
          exact ⟨some ds, e?, by rw [htext, hexponent]; rfl⟩
    · cases h
  · obtain ⟨e?, hexponent⟩ := exists_exponent? h
    exact ⟨none, e?, hexponent⟩

/-- What is passed over as a number starts with a digit, and with a zero only if that stands
alone. -/
theorem head_of_skip_number (h : Skip.number cs = .ok rest) :
    ∃ c digits, cs = c :: digits ∧ c.isDigit = true ∧
      (c = '0' → digits.head?.any Char.isDigit = false) := by
  unfold Skip.number at h
  dsimp only at h
  split at h
  · cases h
  · refine ⟨_, _, rfl, rfl, fun _ => ?_⟩
    split at h
    · split at h
      · cases h
      · rename_i hnot
        simpa using hnot
    · rfl
  · rename_i c digits hzero
    split at h
    · rename_i hdigit
      exact ⟨c, digits, rfl, hdigit, fun heq => (hzero heq).elim⟩
    · cases h

theorem exists_numberText (negative : Bool) (h : Skip.number cs = .ok rest) :
    ∃ n : NumberText, n.negative = negative ∧ cs = n.unsigned ++ rest := by
  obtain ⟨c, digits, rfl, hdigit, hzero⟩ := head_of_skip_number h
  rw [skip_number_eq hdigit hzero] at h
  obtain ⟨places, e?, htail⟩ := exists_tail h
  obtain ⟨ds, rfl, hmore, htext⟩ := exists_digits hdigit digits
  have halone : ds.first = '0' → ds.more = [] := by
    intro hfirst
    rw [hmore]
    cases digits with
    | nil => rfl
    | cons d digits =>
        have hd : d.isDigit = false := hzero hfirst
        exact List.takeWhile_cons_of_neg (by rw [hd]; exact Bool.false_ne_true)
  refine ⟨⟨negative, ds, halone, places, e?⟩, rfl, ?_⟩
  rw [htext, htail, NumberText.unsigned, NumberText.tail]
  simp only [List.append_assoc]

/-! ## Values -/

/-- A value stands in front of a text, behind white space. -/
def Spells (cs rest : List Char) : Prop :=
  ∃ (gap : Gap) (t : Tree), cs = gap.chars ++ (t.text ++ rest)

/-- The rest of a list stands in front of a text. -/
def SpellsItems (first : Bool) (cs rest : List Char) : Prop :=
  ∃ (gap : Gap) (items : Items), cs = itemsEnd gap items first rest

/-- The rest of an object stands in front of a text. -/
def SpellsMembers (first : Bool) (cs rest : List Char) : Prop :=
  ∃ (gap : Gap) (members : Members), cs = membersEnd gap members first rest

/-- A key and its value stand in front of a text, behind the quote that opens the key. -/
def SpellsMember (cs rest : List Char) : Prop :=
  ∃ (key : List Piece) (beforeColon afterColon : Gap) (t : Tree),
    cs = stringEnd key (memberEnd beforeColon afterColon t rest)

theorem Spells.of_skipSpace (h : Spells (skipSpace cs) rest) : Spells cs rest := by
  obtain ⟨before, hcs⟩ := exists_gap cs
  obtain ⟨gap, t, htext⟩ := h
  exact ⟨before.append gap, t, by rw [hcs, htext, Gap.append, List.append_assoc]⟩

theorem spells_tree {t : Tree} (h : skipSpace cs = t.text ++ rest) : Spells cs rest := by
  obtain ⟨gap, hcs⟩ := exists_gap_of_skipSpace h
  exact ⟨gap, t, hcs⟩

theorem SpellsItems.spells (hskip : skipSpace cs = '[' :: text) (h : SpellsItems true text rest) :
    Spells cs rest := by
  obtain ⟨gap, items, rfl⟩ := h
  exact spells_tree (hskip.trans (text_array gap items rest).symm)

theorem SpellsMembers.spells (hskip : skipSpace cs = '\x7b' :: text)
    (h : SpellsMembers true text rest) : Spells cs rest := by
  obtain ⟨gap, members, rfl⟩ := h
  exact spells_tree (hskip.trans (text_object gap members rest).symm)

/-! ### Lists -/

theorem spellsItems_close (first : Bool) (hskip : skipSpace cs = ']' :: rest) :
    SpellsItems first cs rest := by
  obtain ⟨gap, hcs⟩ := exists_gap_of_skipSpace hskip
  exact ⟨gap, .nil, hcs⟩

theorem spellsItems_first (hitem : Spells cs mid) (hmore : SpellsItems false mid rest) :
    SpellsItems true cs rest := by
  obtain ⟨gap, t, rfl⟩ := hitem
  obtain ⟨after, items, rfl⟩ := hmore
  exact ⟨gap, .cons .none t after items, by simp [itemsEnd, Items.text, comma, Gap.none]⟩

theorem spellsItems_comma (hskip : skipSpace cs = ',' :: behind) (hitem : Spells behind mid)
    (hmore : SpellsItems false mid rest) : SpellsItems false cs rest := by
  obtain ⟨gap, hcs⟩ := exists_gap_of_skipSpace hskip
  obtain ⟨before, t, rfl⟩ := hitem
  obtain ⟨after, items, rfl⟩ := hmore
  exact ⟨gap, .cons before t after items, by simp [hcs, itemsEnd, Items.text, comma]⟩

/-! ### Objects -/

theorem spellsMember_of {fuel : Nat} (hkey : Skip.stringTail fuel cs = .ok mid)
    (hcolon : colon mid = .ok text) (hitem : Spells text rest) : SpellsMember cs rest := by
  obtain ⟨key, rfl⟩ := exists_pieces hkey
  obtain ⟨beforeColon, rfl⟩ := exists_gap_of_colon hcolon
  obtain ⟨afterColon, t, rfl⟩ := hitem
  exact ⟨key, beforeColon, afterColon, t, rfl⟩

theorem spellsMembers_close (first : Bool) (hskip : skipSpace cs = '\x7d' :: rest) :
    SpellsMembers first cs rest := by
  obtain ⟨gap, hcs⟩ := exists_gap_of_skipSpace hskip
  exact ⟨gap, .nil, hcs⟩

theorem spellsMembers_first (hskip : skipSpace cs = '"' :: text) (hmember : SpellsMember text mid)
    (hmore : SpellsMembers false mid rest) : SpellsMembers true cs rest := by
  obtain ⟨gap, hcs⟩ := exists_gap_of_skipSpace hskip
  obtain ⟨key, beforeColon, afterColon, t, rfl⟩ := hmember
  obtain ⟨after, members, rfl⟩ := hmore
  exact ⟨gap, .cons .none key beforeColon afterColon t after members, by
    simp [hcs, membersEnd, Members.text, comma, Gap.none, memberEnd, stringEnd, quotedText]⟩

theorem spellsMembers_comma (hskip : skipSpace cs = ',' :: behind)
    (hquote : skipSpace behind = '"' :: text) (hmember : SpellsMember text mid)
    (hmore : SpellsMembers false mid rest) : SpellsMembers false cs rest := by
  obtain ⟨gap, hcs⟩ := exists_gap_of_skipSpace hskip
  obtain ⟨before, hbehind⟩ := exists_gap_of_skipSpace hquote
  obtain ⟨key, beforeColon, afterColon, t, rfl⟩ := hmember
  obtain ⟨after, members, rfl⟩ := hmore
  exact ⟨gap, .cons before key beforeColon afterColon t after members, by
    simp [hcs, hbehind, membersEnd, Members.text, comma, memberEnd, stringEnd, quotedText]⟩

/-! ## Runs -/

namespace Skip

variable {frames outer : List Frame} {out : List Char}

/-- A run gets to `out` from behind a value. -/
def Resumes (fuel : Nat) (frames : List Frame) (cs out : List Char) : Prop :=
  (if frames.isEmpty then .ok cs else run fuel (.between true) frames cs) = .ok out

theorem exists_member (h : key cs = .ok rest) :
    ∃ text mid, skipSpace cs = '"' :: text ∧ stringTail (text.length + 1) text = .ok mid ∧
      colon mid = .ok rest := by
  unfold key at h
  split at h
  · cases h
  · rename_i text hskip
    obtain ⟨mid, hkey, hcolon⟩ := exists_of_bind_eq_ok h
    exact ⟨text, mid, hskip, hkey, hcolon⟩
  · cases h

/-- What a run of so much fuel takes before it leaves what it is in: a value, or the rest of a list
or of an object. -/
structure Spelled (fuel : Nat) : Prop where
  value : ∀ {frames cs out}, run fuel .value frames cs = .ok out →
    ∃ mid, Spells cs mid ∧ ∃ fewer < fuel, Resumes fewer frames mid out
  list : ∀ {comma outer cs out}, run fuel (.between comma) (.list :: outer) cs = .ok out →
    ∃ mid, SpellsItems (!comma) cs mid ∧ ∃ fewer < fuel, Resumes fewer outer mid out
  object : ∀ {comma outer cs out}, run fuel (.between comma) (.object :: outer) cs = .ok out →
    ∃ mid, SpellsMembers (!comma) cs mid ∧ ∃ fewer < fuel, Resumes fewer outer mid out

variable {fuel : Nat} {comma : Bool}

theorem value_spelled (hless : Spelled fuel) (h : run (fuel + 1) .value frames cs = .ok out) :
    ∃ mid, Spells cs mid ∧ ∃ fewer < fuel + 1, Resumes fewer frames mid out := by
  rw [run] at h
  dsimp only at h
  split at h
  case h_1 => cases h
  case h_2 text hskip =>
    obtain ⟨mid, hword, hresumes⟩ := exists_of_bind_eq_ok h
    exact ⟨mid, spells_tree (t := .null) (by rw [hskip, eq_of_word hword]; rfl), fuel,
      Nat.lt_succ_self _, hresumes⟩
  case h_3 text hskip =>
    obtain ⟨mid, hword, hresumes⟩ := exists_of_bind_eq_ok h
    exact ⟨mid, spells_tree (t := .bool true) (by rw [hskip, eq_of_word hword]; rfl), fuel,
      Nat.lt_succ_self _, hresumes⟩
  case h_4 text hskip =>
    obtain ⟨mid, hword, hresumes⟩ := exists_of_bind_eq_ok h
    exact ⟨mid, spells_tree (t := .bool false) (by rw [hskip, eq_of_word hword]; rfl), fuel,
      Nat.lt_succ_self _, hresumes⟩
  case h_5 text hskip =>
    obtain ⟨mid, hnumber, hresumes⟩ := exists_of_bind_eq_ok h
    obtain ⟨n, hsign, rfl⟩ := exists_numberText true hnumber
    refine ⟨mid, spells_tree (t := .number n) ?_, fuel, Nat.lt_succ_self _, hresumes⟩
    rw [hskip, Tree.text, NumberText.text, if_pos hsign]
    rfl
  case h_6 text hskip =>
    obtain ⟨mid, hstring, hresumes⟩ := exists_of_bind_eq_ok h
    obtain ⟨s, rfl⟩ := exists_pieces hstring
    exact ⟨mid, spells_tree (hskip.trans (text_string s mid).symm), fuel, Nat.lt_succ_self _,
      hresumes⟩
  case h_7 text hskip =>
    obtain ⟨mid, hitems, fewer, hlt, hresumes⟩ := hless.list h
    exact ⟨mid, hitems.spells hskip, fewer, Nat.lt_succ_of_lt hlt, hresumes⟩
  case h_8 text hskip =>
    obtain ⟨mid, hmembers, fewer, hlt, hresumes⟩ := hless.object h
    exact ⟨mid, hmembers.spells hskip, fewer, Nat.lt_succ_of_lt hlt, hresumes⟩
  case h_9 hskip =>
    split at h
    · obtain ⟨mid, hnumber, hresumes⟩ := exists_of_bind_eq_ok h
      obtain ⟨n, hsign, htext⟩ := exists_numberText false hnumber
      refine ⟨mid, spells_tree (t := .number n) ?_, fuel, Nat.lt_succ_self _, hresumes⟩
      rw [hskip, htext, Tree.text, NumberText.text, hsign]
      rfl
    · cases h

/-- Behind an item of a list the rest of the list follows. -/
theorem items_of_value (hless : ∀ fewer ≤ fuel, Spelled fewer)
    (h : run fuel .value (.list :: outer) cs = .ok out) :
    ∃ mid after, Spells cs mid ∧ SpellsItems false mid after ∧
      ∃ fewer < fuel, Resumes fewer outer after out := by
  obtain ⟨mid, hitem, fewer, hlt, h⟩ := (hless fuel (Nat.le_refl _)).value h
  obtain ⟨after, hitems, least, hlt', hresumes⟩ := (hless fewer (Nat.le_of_lt hlt)).list h
  exact ⟨mid, after, hitem, hitems, least, Nat.lt_trans hlt' hlt, hresumes⟩

theorem list_spelled (hless : ∀ fewer ≤ fuel, Spelled fewer)
    (h : run (fuel + 1) (.between comma) (.list :: outer) cs = .ok out) :
    ∃ mid, SpellsItems (!comma) cs mid ∧ ∃ fewer < fuel + 1, Resumes fewer outer mid out := by
  unfold run at h
  dsimp only at h
  split at h
  · cases h
  · rename_i c behind hskip
    split at h
    · rename_i hcomma
      obtain ⟨rfl, hc⟩ := (Bool.and_eq_true _ _).mp hcomma
      obtain rfl := beq_iff_eq.mp hc
      obtain ⟨mid, after, hitem, hitems, fewer, hlt, hresumes⟩ := items_of_value hless h
      exact ⟨after, spellsItems_comma hskip hitem hitems, fewer, Nat.lt_succ_of_lt hlt, hresumes⟩
    · split at h
      · rename_i hend
        obtain rfl : c = ']' := beq_iff_eq.mp hend
        exact ⟨behind, spellsItems_close _ hskip, fuel, Nat.lt_succ_self _, h⟩
      · split at h
        · cases h
        · rename_i hfirst
          obtain rfl : comma = false := Bool.eq_false_iff.mpr hfirst
          obtain ⟨mid, after, hitem, hitems, fewer, hlt, hresumes⟩ := items_of_value hless h
          rw [← hskip] at hitem
          exact ⟨after, spellsItems_first hitem.of_skipSpace hitems, fewer, Nat.lt_succ_of_lt hlt,
            hresumes⟩

/-- Behind a member of an object the rest of the object follows. -/
theorem members_of_key (hless : ∀ fewer ≤ fuel, Spelled fewer)
    (h : ((key cs).bind fun rest => run fuel .value (.object :: outer) rest) = .ok out) :
    ∃ text mid after, skipSpace cs = '"' :: text ∧ SpellsMember text mid ∧
      SpellsMembers false mid after ∧ ∃ fewer < fuel, Resumes fewer outer after out := by
  obtain ⟨start, hkey, h⟩ := exists_of_bind_eq_ok h
  obtain ⟨text, behind, hskip, hstring, hcolon⟩ := exists_member hkey
  obtain ⟨mid, hitem, fewer, hlt, h⟩ := (hless fuel (Nat.le_refl _)).value h
  obtain ⟨after, hmembers, least, hlt', hresumes⟩ := (hless fewer (Nat.le_of_lt hlt)).object h
  exact ⟨text, mid, after, hskip, spellsMember_of hstring hcolon hitem, hmembers, least,
    Nat.lt_trans hlt' hlt, hresumes⟩

theorem object_spelled (hless : ∀ fewer ≤ fuel, Spelled fewer)
    (h : run (fuel + 1) (.between comma) (.object :: outer) cs = .ok out) :
    ∃ mid, SpellsMembers (!comma) cs mid ∧ ∃ fewer < fuel + 1, Resumes fewer outer mid out := by
  unfold run at h
  dsimp only at h
  split at h
  · cases h
  · rename_i c behind hskip
    split at h
    · rename_i hcomma
      obtain ⟨rfl, hc⟩ := (Bool.and_eq_true _ _).mp hcomma
      obtain rfl := beq_iff_eq.mp hc
      obtain ⟨text, mid, after, hquote, hmember, hmembers, fewer, hlt, hresumes⟩ :=
        members_of_key hless h
      exact ⟨after, spellsMembers_comma hskip hquote hmember hmembers, fewer,
        Nat.lt_succ_of_lt hlt, hresumes⟩
    · split at h
      · rename_i hend
        obtain rfl : c = '\x7d' := beq_iff_eq.mp hend
        exact ⟨behind, spellsMembers_close _ hskip, fuel, Nat.lt_succ_self _, h⟩
      · split at h
        · cases h
        · rename_i hfirst
          obtain rfl : comma = false := Bool.eq_false_iff.mpr hfirst
          obtain ⟨text, mid, after, hquote, hmember, hmembers, fewer, hlt, hresumes⟩ :=
            members_of_key hless h
          rw [← hskip, skipSpace_skipSpace] at hquote
          exact ⟨after, spellsMembers_first hquote hmember hmembers, fewer, Nat.lt_succ_of_lt hlt,
            hresumes⟩

theorem spelled (fuel : Nat) : Spelled fuel := by
  induction fuel using Nat.strongRecOn with
  | ind fuel ih =>
      cases fuel with
      | zero => exact ⟨nofun, nofun, nofun⟩
      | succ fuel =>
          have hless : ∀ fewer ≤ fuel, Spelled fewer := fun fewer hle =>
            ih fewer (Nat.lt_succ_of_le hle)
          exact ⟨value_spelled (hless fuel (Nat.le_refl _)), list_spelled hless,
            object_spelled hless⟩

end Skip

/-- A value that is passed over is a text of the grammar. -/
theorem spells_of_skipValue (h : skipValue cs = .ok rest) : Spells cs rest := by
  obtain ⟨mid, hspells, fewer, -, hresumes⟩ := (Skip.spelled _).value h
  obtain rfl : mid = rest := Except.ok.inj hresumes
  exact hspells

theorem spells_of_value {depth : Nat} {v : Value} (h : value depth cs = .ok (v, rest)) :
    Spells cs rest :=
  spells_of_skipValue (skipValue_of_value h)

end Storefront.Json
