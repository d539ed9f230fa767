import Storefront.Proofs.Json.Records
import Storefront.Proofs.Json.Spelling

/-! # Readers of values

A reader of values takes one value off the front of a text, and what it makes of the value does not
depend on what stands around it. Readers of strings, of lists of values and of records are such
readers. So a whole text is read just if it is a value with nothing but white space around it and
the value by itself can be read. -/

namespace Storefront.Json

variable {α β : Type} {read : Reader α} {cs rest text mid : List Char} {depth : Nat} {first : Bool}

/-- What a reader makes of a value that stands by itself. -/
def alone? (read : Reader α) (t : Tree) : Option α :=
  (read t.text).toOption.map Prod.fst

structure TakesValues (read : Reader α) : Prop where
  spaced : ∀ (gap : Gap) (cs : List Char), read (gap.chars ++ cs) = read cs
  spelled : ∀ cs x rest, read cs = .ok (x, rest) → Spells cs rest
  settled : ∀ t, ReadsAs read (alone? read) t

theorem ReadsAs.alone?_eq {meaning? : Tree → Option α} {t : Tree} (h : ReadsAs read meaning? t) :
    alone? read t = meaning? t := by
  rw [alone?, ← List.append_nil t.text, h [] delimits_nil]
  cases meaning? t <;> rfl

/-- What is read of a value whatever stands behind it is read of the value by itself. -/
theorem ReadsAs.alone {meaning? : Tree → Option α} {t : Tree} (h : ReadsAs read meaning? t) :
    ReadsAs read (alone? read) t := by
  intro rest hrest
  rw [h.alone?_eq, h rest hrest]

theorem TakesValues.alone?_eq_some_iff (h : TakesValues read) {t : Tree} {x : α} :
    alone? read t = some x ↔ read t.text = .ok (x, []) := by
  have hread := h.settled t [] delimits_nil
  rw [List.append_nil] at hread
  rw [← toOption_eq_some_iff, hread]
  cases alone? read t <;> simp

/-! ## Whole texts -/

theorem exists_gap_eq (h : skipSpace cs = []) : ∃ gap : Gap, cs = gap.chars := by
  obtain ⟨gap, hcs⟩ := exists_gap_of_skipSpace h
  exact ⟨gap, by rw [hcs, List.append_nil]⟩

/-- A text is read just if it holds one value, and as what that is read as by itself. -/
theorem TakesValues.ended_eq_ok_iff (h : TakesValues read) {x : α} :
    ended (read cs) = .ok x ↔
      ∃ before t after, cs = Gap.chars before ++ (Tree.text t ++ Gap.chars after) ∧
        alone? read t = some x := by
  rw [Json.ended_eq_ok_iff]
  constructor
  · rintro ⟨rest, hread, hskip⟩
    obtain ⟨after, rfl⟩ := exists_gap_eq hskip
    obtain ⟨before, t, rfl⟩ := h.spelled cs x after.chars hread
    rw [h.spaced, ← toOption_eq_some_iff, h.settled t _ (delimits_chars after)] at hread
    obtain ⟨y, halone, heq⟩ := Option.map_eq_some_iff.mp hread
    obtain ⟨rfl, -⟩ := Prod.mk.inj heq
    exact ⟨before, t, after, rfl, halone⟩
  · rintro ⟨before, t, after, rfl, halone⟩
    refine ⟨after.chars, ?_, skipSpace_chars after⟩
    rw [h.spaced, ← toOption_eq_some_iff, h.settled t _ (delimits_chars after), halone,
      Option.map_some]

/-! ## Strings, values and lists -/

theorem takesValues_value (depth : Nat) : TakesValues (value depth) :=
  { spaced := value_gap depth
    spelled := fun _ _ _ h => spells_of_value h
    settled := fun t => (value_text t depth).alone }

theorem spells_of_string {s : String} (h : string cs = .ok (s, rest)) : Spells cs rest := by
  unfold string at h
  split at h
  · rename_i text hskip
    obtain ⟨pieces, rfl⟩ := exists_pieces (skip_stringTail h).1
    exact spells_tree (hskip.trans (text_string pieces rest).symm)
  · have hnone := toOption_refuse (α := String × List Char) "a string" (skipSpace cs)
    rw [h] at hnone
    cases hnone

theorem takesValues_string : TakesValues string :=
  { spaced := string_gap
    spelled := fun _ _ _ h => spells_of_string h
    settled := fun t => (readsAs_string t).alone }

theorem SpellsItems.of_front (hfront : itemFront first cs = .ok (.more text))
    (hitem : Spells text mid) (hmore : SpellsItems false mid rest) : SpellsItems first cs rest := by
  obtain ⟨c, behind, hskip, -, htext⟩ := skipSpace_of_itemFront_more hfront
  cases first with
  | true =>
      obtain rfl : text = c :: behind := htext
      rw [← hskip] at hitem
      exact spellsItems_first hitem.of_skipSpace hmore
  | false =>
      obtain ⟨rfl, rfl⟩ := htext
      exact spellsItems_comma hskip hitem.of_skipSpace hmore

theorem spellsItems_of_items {fuel : Nat} {xs : List α}
    (hitem : ∀ cs x rest, read cs = .ok (x, rest) → Spells cs rest)
    (h : items read fuel first cs = .ok (xs, rest)) : SpellsItems first cs rest := by
  induction fuel generalizing first cs xs with
  | zero => cases h
  | succ fuel ih =>
      rw [items_succ] at h
      obtain ⟨front, hfront, h⟩ := exists_of_bind_eq_ok h
      cases front with
      | close behind =>
          obtain ⟨-, rfl⟩ := Prod.mk.inj (Except.ok.inj h)
          exact spellsItems_close first (skipSpace_of_itemFront_close hfront)
      | more text =>
          obtain ⟨⟨x, mid⟩, hread, h⟩ := exists_of_bind_eq_ok h
          obtain ⟨⟨xs, last⟩, hitems, h⟩ := exists_of_bind_eq_ok h
          obtain ⟨-, rfl⟩ := Prod.mk.inj (Except.ok.inj h)
          exact .of_front hfront (hitem text x mid hread) (ih hitems)

theorem spells_of_list {item : Nat → Reader α} (hitem : TakesValues (item depth)) {xs : List α}
    (h : list (depth + 1) item cs = .ok (xs, rest)) : Spells cs rest := by
  unfold list at h
  split at h
  · rename_i text hskip
    exact (spellsItems_of_items hitem.spelled h).spells hskip
  · have hnone := toOption_refuse (α := List α × List Char) "a sequence" (skipSpace cs)
    rw [h] at hnone
    cases hnone

theorem takesValues_list {item : Nat → Reader α} (hitem : TakesValues (item depth)) :
    TakesValues (list (depth + 1) item) :=
  { spaced := list_gap item
    spelled := fun _ _ _ h => spells_of_list hitem h
    settled := fun t => (readsAs_list hitem.settled t).alone }

/-- A list by itself is read just if each of its items by itself is. -/
theorem alone?_list {item : Nat → Reader α} (hitem : TakesValues (item depth)) (t : Tree) :
    alone? (list (depth + 1) item) t = t.asList? (alone? (item depth)) :=
  (readsAs_list hitem.settled t).alone?_eq

/-! ## `null` or a value -/

theorem spells_of_optional (hread : TakesValues read) {found : Option α}
    (h : optional read cs = .ok (found, rest)) : Spells cs rest := by
  unfold optional at h
  split at h
  · rename_i text hskip
    obtain ⟨behind, hword, h⟩ := exists_of_bind_eq_ok h
    obtain ⟨-, rfl⟩ := Prod.mk.inj (Except.ok.inj h)
    exact spells_tree (t := .null) (by rw [hskip, eq_of_word hword]; rfl)
  · obtain ⟨⟨x, behind⟩, hitem, h⟩ := exists_of_bind_eq_ok h
    obtain ⟨-, rfl⟩ := Prod.mk.inj (Except.ok.inj h)
    exact (hread.spelled _ x behind hitem).of_skipSpace

theorem takesValues_optional (hread : TakesValues read) : TakesValues (optional read) :=
  { spaced := optional_gap read
    spelled := fun _ _ _ h => spells_of_optional hread h
    settled := fun t => (readsAs_optional (hread.settled t)).alone }

theorem alone?_optional (hread : TakesValues read) (t : Tree) :
    alone? (optional read) t = t.orNull? (alone? read) :=
  (readsAs_optional (hread.settled t)).alone?_eq

/-! ## Records -/

variable {σ : Type}

theorem SpellsMembers.of_front (hfront : memberFront first cs = .ok (.more text))
    (hmember : SpellsMember text mid) (hmore : SpellsMembers false mid rest) :
    SpellsMembers first cs rest := by
  obtain ⟨c, behind, hskip, -, htext⟩ := skipSpace_of_memberFront_more hfront
  cases first with
  | true =>
      have hquote : c :: behind = '"' :: text := htext
      exact spellsMembers_first (hskip.trans hquote) hmember hmore
  | false =>
      obtain ⟨rfl, hquote⟩ := htext
      exact spellsMembers_comma hskip hquote hmember hmore

theorem spellsMembers_of_members {member : σ → String → Reader σ} {fuel : Nat} {acc out : σ}
    (hmember : ∀ acc key cs out rest, member acc key cs = .ok (out, rest) →
      ∃ mid, colon cs = .ok mid ∧ Spells mid rest)
    (h : members member fuel first acc cs = .ok (out, rest)) : SpellsMembers first cs rest := by
  induction fuel generalizing first cs acc with
  | zero => cases h
  | succ fuel ih =>
      rw [members_succ] at h
      obtain ⟨front, hfront, h⟩ := exists_of_bind_eq_ok h
      cases front with
      | close behind =>
          obtain ⟨-, rfl⟩ := Prod.mk.inj (Except.ok.inj h)
          exact spellsMembers_close first (skipSpace_of_memberFront_close hfront)
      | more text =>
          obtain ⟨⟨key, mid⟩, hkey, h⟩ := exists_of_bind_eq_ok h
          obtain ⟨⟨next, after⟩, hnext, h⟩ := exists_of_bind_eq_ok h
          obtain ⟨start, hcolon, hitem⟩ := hmember acc key mid next after hnext
          exact .of_front hfront (spellsMember_of (skip_stringTail hkey).1 hcolon hitem) (ih h)

/-- A field reads nothing but values. -/
def Member.TakesSpelled (f : Member σ) : Prop :=
  ∀ acc cs out rest, f.read acc cs = .ok (out, rest) → Spells cs rest

variable {fields : List (Member σ)}

theorem spells_of_recordMember (hfields : ∀ f ∈ fields, f.TakesSpelled) {acc out : σ} {key : String}
    (h : recordMember fields acc key cs = .ok (out, rest)) :
    ∃ mid, colon cs = .ok mid ∧ Spells mid rest := by
  rw [recordMember] at h
  cases hfind : fields.find? fun f => f.name == key with
  | none =>
      rw [hfind] at h
      obtain ⟨mid, hcolon, h⟩ := exists_of_bind_eq_ok h
      obtain ⟨after, hskip, h⟩ := exists_of_bind_eq_ok h
      obtain ⟨-, rfl⟩ := Prod.mk.inj (Except.ok.inj h)
      exact ⟨mid, hcolon, spells_of_skipValue hskip⟩
  | some f =>
      rw [hfind] at h
      dsimp only at h
      split at h
      · cases h
      · obtain ⟨mid, hcolon, h⟩ := exists_of_bind_eq_ok h
        exact ⟨mid, hcolon, hfields f (List.mem_of_find?_eq_some hfind) acc mid out rest h⟩

theorem spellsItems_of_recordItems (hfields : ∀ f ∈ fields, f.TakesSpelled) {acc : σ} {count : Nat}
    {out : σ × Nat} (h : recordItems first acc count fields cs = .ok (out, rest)) :
    SpellsItems first cs rest := by
  induction fields generalizing first acc count cs with
  | nil =>
      obtain ⟨behind, hend, h⟩ := exists_of_bind_eq_ok h
      obtain ⟨-, rfl⟩ := Prod.mk.inj (Except.ok.inj h)
      exact spellsItems_close first (listEnd_eq_ok_iff.mp hend)
  | cons f fields ih =>
      rw [List.forall_mem_cons] at hfields
      rw [recordItems_cons] at h
      obtain ⟨front, hfront, h⟩ := exists_of_bind_eq_ok h
      cases front with
      | close behind =>
          obtain ⟨-, rfl⟩ := Prod.mk.inj (Except.ok.inj h)
          exact spellsItems_close first (skipSpace_of_itemFront_close hfront)
      | more text =>
          obtain ⟨⟨next, mid⟩, hread, h⟩ := exists_of_bind_eq_ok h
          exact .of_front hfront (hfields.1 acc text next mid hread) (ih hfields.2 h)

theorem spells_of_record {wanted : String} {fields : Nat → List (Member σ)} {start : σ}
    {out : σ × Option Nat} (hfields : ∀ f ∈ fields depth, f.TakesSpelled)
    (h : record wanted fields start (depth + 1) cs = .ok (out, rest)) : Spells cs rest := by
  unfold record at h
  split at h
  · rename_i text hskip
    obtain ⟨⟨⟨acc, count⟩, behind⟩, hitems, h⟩ := exists_of_bind_eq_ok h
    obtain ⟨-, rfl⟩ := Prod.mk.inj (Except.ok.inj h)
    exact (spellsItems_of_recordItems hfields hitems).spells hskip
  · rename_i text hskip
    obtain ⟨⟨acc, behind⟩, hmembers, h⟩ := exists_of_bind_eq_ok h
    obtain ⟨-, rfl⟩ := Prod.mk.inj (Except.ok.inj h)
    refine (spellsMembers_of_members (fun acc key cs out rest => ?_) hmembers).spells hskip
    exact spells_of_recordMember hfields
  · have hnone := toOption_refuse (α := (σ × Option Nat) × List Char) wanted (skipSpace cs)
    rw [h] at hnone
    cases hnone

theorem takesValues_record (wanted : String) {fields : Nat → List (Member σ)}
    {take? : Member σ → σ → Tree → Option σ} (htakes : ∀ f ∈ fields depth, f.Takes (take? f))
    (hspelled : ∀ f ∈ fields depth, f.TakesSpelled) (start : σ) :
    TakesValues (record wanted fields start (depth + 1)) :=
  { spaced := record_gap wanted fields start
    spelled := fun _ _ _ h => spells_of_record hspelled h
    settled := fun t => (readsAs_record htakes start t).alone }

/-- What is made of what was read does not matter. -/
theorem TakesValues.map (h : TakesValues read) (f : α → β) :
    TakesValues fun cs => (read cs).bind fun found => .ok (f found.1, found.2) := by
  have hread : ∀ t, ReadsAs (fun cs => (read cs).bind fun found => .ok (f found.1, found.2))
      (fun t => (alone? read t).map f) t := by
    intro t rest hrest
    refine (toOption_bind _ _).trans ?_
    rw [h.settled t rest hrest]
    dsimp only
    cases alone? read t <;> rfl
  refine ⟨fun gap cs => ?_, fun cs y rest hmapped => ?_, fun t => (hread t).alone⟩
  · rw [h.spaced]
  · obtain ⟨⟨x, behind⟩, hfound, heq⟩ := exists_of_bind_eq_ok hmapped
    obtain ⟨-, rfl⟩ := Prod.mk.inj (Except.ok.inj heq)
    exact h.spelled cs x behind hfound

end Storefront.Json
