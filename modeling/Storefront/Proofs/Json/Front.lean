import Mathlib.Data.List.DropRight
import Mathlib.Data.List.TakeWhile
import Storefront.Json.Reader
import Storefront.Proofs.Except

/-! # The front of a list or an object

What a reader of lists or objects finds next is the end, or something more to read. Two readers that
agree on what they hold agree on the whole. -/

namespace Storefront.Json

variable {cs rest : List Char}

/-! ## White space -/

theorem length_skipSpace_le (cs : List Char) : (skipSpace cs).length ≤ cs.length :=
  List.length_dropWhile_le _ cs

@[simp]
theorem skipSpace_skipSpace (cs : List Char) : skipSpace (skipSpace cs) = skipSpace cs :=
  List.dropWhile_idempotent _ cs

/-- What white space is taken off before a character is at least that. -/
theorem length_lt_of_skipSpace {c : Char} (h : skipSpace cs = c :: rest) :
    rest.length < cs.length := by
  have hle := length_skipSpace_le cs
  rw [h, List.length_cons] at hle
  exact hle

/-! ## What stands next -/

/-- The end, with the text behind it, or something more. -/
inductive Front where
  | close (behind : List Char)
  | more (text : List Char)

/-- The front of a list, with the text of the next item. -/
def itemFront (first : Bool) (cs : List Char) : Except Failure Front :=
  match skipSpace cs with
  | [] => failAhead .endOfArray []
  | ']' :: rest => .ok (.close rest)
  | c :: rest =>
    if first then .ok (.more (c :: rest))
    else if c == ',' then
      match skipSpace rest with
      | [] => failAhead .endOfValue []
      | ']' :: rest => failAhead .trailingComma (']' :: rest)
      | rest => .ok (.more rest)
    else failAhead .wantsCommaOrBracket (c :: rest)

theorem items_succ {α : Type} (item : Reader α) (fuel : Nat) (first : Bool) (cs : List Char) :
    items item (fuel + 1) first cs =
      (itemFront first cs).bind fun front =>
        match front with
        | .close rest => .ok ([], rest)
        | .more text =>
          (item text).bind fun read =>
            (items item fuel false read.2).bind fun more => .ok (read.1 :: more.1, more.2) := by
  rw [items, itemFront]
  rcases skipSpace cs with _ | ⟨c, rest⟩
  · rfl
  · by_cases hend : c = ']'
    · subst hend
      rfl
    · cases first with
      | true => simp [Except.bind, bind]
      | false =>
          by_cases hcomma : c = ','
          · subst hcomma
            cases hskip : skipSpace rest with
            | nil => simp [hskip, Except.bind, failAhead]
            | cons d rest =>
                by_cases hend : d = ']'
                · simp [hskip, hend, Except.bind, failAhead]
                · simp [hskip, hend, Except.bind, bind]
          · simp [hcomma, Except.bind, failAhead]

theorem items_of_more {α : Type} (item : Reader α) (fuel : Nat) {first : Bool} {text : List Char}
    (h : itemFront first cs = .ok (.more text)) :
    items item (fuel + 1) first cs =
      (item text).bind fun read =>
        (items item fuel false read.2).bind fun more => .ok (read.1 :: more.1, more.2) := by
  rw [items_succ, h]
  rfl

/-- The front of an object, with the text of the next key behind its opening quote. -/
def memberFront (first : Bool) (cs : List Char) : Except Failure Front :=
  match skipSpace cs with
  | [] => failAhead .endOfObject []
  | '\x7d' :: rest => .ok (.close rest)
  | c :: rest =>
    if first then
      if c == '"' then .ok (.more rest) else failAhead .keyNotString (c :: rest)
    else if c == ',' then
      match skipSpace rest with
      | [] => failAhead .endOfValue []
      | '"' :: rest => .ok (.more rest)
      | '\x7d' :: rest => failAhead .trailingComma ('\x7d' :: rest)
      | rest => failAhead .keyNotString rest
    else failAhead .wantsCommaOrBrace (c :: rest)

theorem members_succ {σ : Type} (member : σ → String → Reader σ) (fuel : Nat) (first : Bool)
    (acc : σ) (cs : List Char) :
    members member (fuel + 1) first acc cs =
      (memberFront first cs).bind fun front =>
        match front with
        | .close rest => .ok (acc, rest)
        | .more text =>
          (stringTail text).bind fun key =>
            (member acc key.1 key.2).bind fun read => members member fuel false read.1 read.2 := by
  rw [members, memberFront]
  rcases skipSpace cs with _ | ⟨c, rest⟩
  · rfl
  · by_cases hend : c = '\x7d'
    · subst hend
      rfl
    · cases first with
      | true =>
          by_cases hquote : c = '"'
          · subst hquote
            rfl
          · simp [hquote, Except.bind, failAhead]
      | false =>
          by_cases hcomma : c = ','
          · subst hcomma
            cases hskip : skipSpace rest with
            | nil => simp [hskip, Except.bind, failAhead]
            | cons d rest =>
                by_cases hquote : d = '"'
                · simp [hskip, hquote, Except.bind, bind]
                · by_cases hend : d = '\x7d'
                  · simp [hskip, hend, Except.bind, failAhead]
                  · simp [hskip, hend, hquote, Except.bind, failAhead]
          · simp [hcomma, Except.bind, failAhead]

theorem members_of_more {σ : Type} (member : σ → String → Reader σ) (fuel : Nat) {first : Bool}
    {text : List Char} (acc : σ) (h : memberFront first cs = .ok (.more text)) :
    members member (fuel + 1) first acc cs =
      (stringTail text).bind fun key =>
        (member acc key.1 key.2).bind fun read => members member fuel false read.1 read.2 := by
  rw [members_succ, h]
  rfl

variable {first : Bool} {text : List Char} {depth : Nat} {v : Value}

theorem skipSpace_of_itemFront_close (h : itemFront first cs = .ok (.close rest)) :
    skipSpace cs = ']' :: rest := by
  rw [itemFront] at h
  split at h
  · nomatch h
  · rename_i heq
    cases h
    exact heq
  · split at h
    · nomatch h
    · split at h
      · split at h <;> nomatch h
      · nomatch h

/-- An item stands where the text does, or behind a comma if there has been one before it. -/
theorem skipSpace_of_itemFront_more (h : itemFront first cs = .ok (.more text)) :
    ∃ c behind, skipSpace cs = c :: behind ∧ c ≠ ']' ∧
      if first then text = c :: behind else c = ',' ∧ text = skipSpace behind := by
  rw [itemFront] at h
  split at h
  · nomatch h
  · nomatch h
  · rename_i c behind hend heq
    refine ⟨c, behind, heq, hend, ?_⟩
    split at h
    · rename_i hfirst
      cases h
      rw [if_pos hfirst]
    · rename_i hfirst
      rw [if_neg hfirst]
      split at h
      · rename_i hcomma
        refine ⟨beq_iff_eq.mp hcomma, ?_⟩
        split at h
        · nomatch h
        · nomatch h
        · cases h
          rfl
      · nomatch h

theorem length_of_itemFront_more (h : itemFront first cs = .ok (.more text)) :
    text.length ≤ cs.length := by
  obtain ⟨c, behind, hskip, -, htext⟩ := skipSpace_of_itemFront_more h
  have hlt := length_lt_of_skipSpace hskip
  cases first with
  | true =>
      obtain rfl := htext
      exact hlt
  | false =>
      obtain ⟨-, rfl⟩ := htext
      exact Nat.le_of_lt (Nat.lt_of_le_of_lt (length_skipSpace_le behind) hlt)

theorem skipSpace_of_memberFront_close (h : memberFront first cs = .ok (.close rest)) :
    skipSpace cs = '\x7d' :: rest := by
  rw [memberFront] at h
  split at h
  · nomatch h
  · rename_i heq
    cases h
    exact heq
  · split at h
    · split at h <;> nomatch h
    · split at h
      · split at h <;> nomatch h
      · nomatch h

/-- A key stands where the text does, or behind a comma if there has been one before it. -/
theorem skipSpace_of_memberFront_more (h : memberFront first cs = .ok (.more text)) :
    ∃ c behind, skipSpace cs = c :: behind ∧ c ≠ '\x7d' ∧
      if first then c :: behind = '"' :: text else c = ',' ∧ skipSpace behind = '"' :: text := by
  rw [memberFront] at h
  split at h
  · nomatch h
  · nomatch h
  · rename_i c behind hend heq
    refine ⟨c, behind, heq, hend, ?_⟩
    split at h
    · rename_i hfirst
      rw [if_pos hfirst]
      split at h
      · rename_i hquote
        cases h
        rw [beq_iff_eq.mp hquote]
      · nomatch h
    · rename_i hfirst
      rw [if_neg hfirst]
      split at h
      · rename_i hcomma
        refine ⟨beq_iff_eq.mp hcomma, ?_⟩
        split at h
        · nomatch h
        · rename_i hquote
          cases h
          exact hquote
        · nomatch h
        · nomatch h
      · nomatch h

theorem length_of_memberFront_more (h : memberFront first cs = .ok (.more text)) :
    text.length < cs.length := by
  obtain ⟨c, behind, hskip, -, htext⟩ := skipSpace_of_memberFront_more h
  have hlt := length_lt_of_skipSpace hskip
  cases first with
  | true =>
      obtain ⟨-, rfl⟩ := List.cons.inj htext
      exact hlt
  | false => exact Nat.lt_trans (length_lt_of_skipSpace htext.2) hlt

/-! ## Two readers of the same text -/

/-- Where one reader takes an item for each item of another, it takes a list for each list. -/
theorem items_of_items {α β : Type} {item : Reader α} {other : Reader β} {Fits : α → Prop}
    {Is : α → β → Prop}
    (hitem : ∀ cs x rest, item cs = .ok (x, rest) → Fits x →
      ∃ y, other cs = .ok (y, rest) ∧ Is x y)
    {fuel : Nat} {xs : List α} (h : items item fuel first cs = .ok (xs, rest))
    (hfits : ∀ x ∈ xs, Fits x) :
    ∃ ys, items other fuel first cs = .ok (ys, rest) ∧ List.Forall₂ Is xs ys := by
  induction fuel generalizing first cs xs with
  | zero => nomatch h
  | succ fuel ih =>
      rw [items_succ] at h
      obtain ⟨front, hfront, h⟩ := exists_of_bind_eq_ok h
      cases front with
      | close behind =>
          obtain ⟨rfl, rfl⟩ := Prod.mk.inj (Except.ok.inj h)
          exact ⟨[], by rw [items_succ, hfront]; rfl, .nil⟩
      | more text =>
          obtain ⟨⟨x, behind⟩, hread, h⟩ := exists_of_bind_eq_ok h
          obtain ⟨⟨more, last⟩, hmore, h⟩ := exists_of_bind_eq_ok h
          obtain ⟨rfl, rfl⟩ := Prod.mk.inj (Except.ok.inj h)
          rw [List.forall_mem_cons] at hfits
          obtain ⟨y, hy, his⟩ := hitem text x behind hread hfits.1
          obtain ⟨ys, hys, hall⟩ := ih hmore hfits.2
          refine ⟨y :: ys, ?_, .cons his hall⟩
          rw [items_succ, hfront]
          simp only [Except.bind, hy, hys]

/-- Where one reader gathers of every member what another one does, seen in some way, it gathers the
same of an object. What is gathered fits as long as what is gathered in the end does. -/
theorem members_of_members {σ τ : Type} {member : σ → String → Reader σ}
    {other : τ → String → Reader τ} {Fits : σ → Prop} {view : σ → τ}
    (hback : ∀ acc key cs out rest, member acc key cs = .ok (out, rest) → Fits out → Fits acc)
    (hmember : ∀ acc key cs out rest, member acc key cs = .ok (out, rest) → Fits out →
      other (view acc) key cs = .ok (view out, rest))
    {fuel : Nat} {acc out : σ} (h : members member fuel first acc cs = .ok (out, rest))
    (hfits : Fits out) :
    Fits acc ∧ members other fuel first (view acc) cs = .ok (view out, rest) := by
  induction fuel generalizing first cs acc with
  | zero => nomatch h
  | succ fuel ih =>
      rw [members_succ] at h
      obtain ⟨front, hfront, h⟩ := exists_of_bind_eq_ok h
      cases front with
      | close behind =>
          obtain ⟨rfl, rfl⟩ := Prod.mk.inj (Except.ok.inj h)
          exact ⟨hfits, by rw [members_succ, hfront]; rfl⟩
      | more text =>
          obtain ⟨⟨key, behind⟩, hkey, h⟩ := exists_of_bind_eq_ok h
          obtain ⟨⟨next, after⟩, hnext, h⟩ := exists_of_bind_eq_ok h
          obtain ⟨hmid, hmembers⟩ := ih h
          refine ⟨hback acc key behind next after hnext hmid, ?_⟩
          rw [members_succ, hfront]
          simp only [Except.bind, hkey, hmember acc key behind next after hnext hmid, hmembers]

/-! ## Lists and objects behind their brackets -/

/-- The reader of a member of any value. -/
def anyMember (depth : Nat) (read : List (String × Value)) (key : String) :
    Reader (List (String × Value)) := fun cs => do
  let rest ← colon cs
  let (v, rest) ← value depth rest
  .ok ((key, v) :: read, rest)

/-- A list or an object has been read from behind its opening bracket, one level deeper. -/
def Opened (depth : Nat) (cs rest : List Char) : Value → Prop
  | .array vs => ∃ deep text, depth = deep + 1 ∧ skipSpace cs = '[' :: text ∧
      listTail (value deep) text = .ok (vs, rest)
  | .object ms => ∃ deep text, depth = deep + 1 ∧ skipSpace cs = '\x7b' :: text ∧
      objectTail (anyMember deep) [] text = .ok (ms.reverse, rest)
  | _ => True

theorem opened_of_value (h : value depth cs = .ok (v, rest)) : Opened depth cs rest v := by
  unfold value at h
  split at h
  case h_1 => nomatch h
  case h_7 text hskip =>
    split at h
    · nomatch h
    · rename_i deep
      obtain ⟨⟨xs, after⟩, hitems, h⟩ := exists_of_bind_eq_ok h
      obtain ⟨rfl, rfl⟩ := Prod.mk.inj (Except.ok.inj h)
      exact ⟨deep, text, rfl, hskip, hitems⟩
  case h_8 text hskip =>
    split at h
    · nomatch h
    · rename_i deep
      obtain ⟨⟨read, after⟩, hmembers, h⟩ := exists_of_bind_eq_ok h
      obtain ⟨rfl, rfl⟩ := Prod.mk.inj (Except.ok.inj h)
      refine ⟨deep, text, rfl, hskip, ?_⟩
      rw [List.reverse_reverse]
      exact hmembers
  case h_9 =>
    split at h
    · obtain ⟨read, -, h⟩ := exists_of_bind_eq_ok h
      obtain ⟨rfl, -⟩ := Prod.mk.inj (Except.ok.inj h)
      exact trivial
    · nomatch h
  all_goals
    obtain ⟨read, -, h⟩ := exists_of_bind_eq_ok h
    obtain ⟨rfl, -⟩ := Prod.mk.inj (Except.ok.inj h)
    exact trivial

/-! ## Whole texts -/

theorem ended_eq_ok_iff {α : Type} {found : Except Failure (α × List Char)} {x : α} :
    ended found = .ok x ↔ ∃ rest, found = .ok (x, rest) ∧ skipSpace rest = [] := by
  constructor
  · intro h
    obtain ⟨⟨y, rest⟩, hfound, h⟩ := exists_of_bind_eq_ok h
    dsimp only at h
    split at h
    · rename_i hskip
      obtain rfl := Except.ok.inj h
      exact ⟨rest, hfound, hskip⟩
    · nomatch h
  · rintro ⟨rest, rfl, hskip⟩
    simp only [ended, bind, Except.bind, hskip]

end Storefront.Json
