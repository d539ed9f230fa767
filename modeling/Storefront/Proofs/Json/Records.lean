import Storefront.Json.Record
import Storefront.Proofs.Json.Trees
import Storefront.Proofs.Json.Written

/-! # Reading strings, lists and records

Where a string or a list is wanted, a text is read just if it is one. A record is read from an
object member by member, each by the field that has its name, if there is one; a field that is named
a second time is refused. -/

namespace Storefront.Json

variable {cs rest : List Char} {depth : Nat}

/-! ## Strings and lists -/

/-- Whatever stands where something else is wanted, nothing is read. -/
theorem toOption_refuse {α : Type} (wanted : String) (cs : List Char) :
    (refuse wanted cs : Except Failure α).toOption = none := by
  have hbind : ∀ {β : Type} (read : Except Failure β) (cause : β → Cause) (left : β → List Char),
      (read.bind fun b => (fail (cause b) (left b) : Except Failure α)).toOption = none := by
    intro β read cause left
    cases read <;> rfl
  unfold refuse
  split
  case h_1 => rfl
  case h_7 => rfl
  case h_8 => rfl
  case h_9 =>
    split
    · exact hbind _ _ _
    · rfl
  all_goals exact hbind _ _ _

/-- The text that a value stands for, if it is a string. -/
def Tree.asString? : Tree → Option String
  | .string s => string? s
  | _ => none

/-- The items that a value stands for, if it is a list. -/
def Tree.asList? {α : Type} (meaning? : Tree → Option α) : Tree → Option (List α)
  | .array _ items => items.toList.mapM meaning?
  | _ => none

theorem Tree.asList?_eq_some_iff {α : Type} {meaning? : Tree → Option α} {t : Tree} {xs : List α} :
    t.asList? meaning? = some xs ↔
      ∃ gap items, t = .array gap items ∧ items.toList.mapM meaning? = some xs := by
  constructor
  · intro h
    cases t with
    | array gap items => exact ⟨gap, items, rfl, h⟩
    | _ => nomatch h
  · rintro ⟨gap, items, rfl, h⟩
    exact h

theorem string_of_ne {c : Char} (hspace : isSpace c = false) (hquote : c ≠ '"') :
    string (c :: cs) = refuse "a string" (c :: cs) := by
  rw [string, skipSpace_cons hspace]
  split
  · rename_i heq
    exact absurd (List.cons.inj heq).1 hquote
  · rfl

theorem list_of_ne {α : Type} (item : Nat → Reader α) {c : Char} (hspace : isSpace c = false)
    (hbracket : c ≠ '[') : list depth item (c :: cs) = refuse "a sequence" (c :: cs) := by
  rw [list, skipSpace_cons hspace]
  split
  · rename_i heq
    exact absurd (List.cons.inj heq).1 hbracket
  · rfl

/-- Where a string is wanted, every value is read that is one. -/
theorem readsAs_string (t : Tree) : ReadsAs string Tree.asString? t := by
  intro rest _
  by_cases hstring : ∃ s, t = .string s
  · obtain ⟨s, rfl⟩ := hstring
    rw [text_string, string, skipSpace_cons rfl]
    exact stringTail_text s rest
  · obtain ⟨c, text, htext, hstarts⟩ := text_eq_cons t
    have hnone : t.asString? = none := by
      cases t with
      | string s => exact absurd ⟨s, rfl⟩ hstring
      | _ => rfl
    rw [hnone, htext, List.cons_append,
      string_of_ne hstarts.isSpace (mt hstarts.string hstring), toOption_refuse, Option.map_none]

/-- A list is read item by item. -/
theorem readsAs_array {α : Type} {item : Nat → Reader α} {meaning? : Tree → Option α}
    {items : Items} (hitems : ∀ t ∈ items.toList, ReadsAs (item depth) meaning? t) (gap : Gap) :
    ReadsAs (list (depth + 1) item) (Tree.asList? meaning?) (.array gap items) := by
  intro rest _
  rw [text_array, list, skipSpace_cons rfl]
  exact listTail_text hitems gap rest

/-- Where a list is wanted, every value is read that is one and whose items are read. -/
theorem readsAs_list {α : Type} {item : Nat → Reader α} {meaning? : Tree → Option α}
    (hitem : ∀ t, ReadsAs (item depth) meaning? t) (t : Tree) :
    ReadsAs (list (depth + 1) item) (Tree.asList? meaning?) t := by
  intro rest hrest
  by_cases hlist : ∃ gap items, t = .array gap items
  · obtain ⟨gap, items, rfl⟩ := hlist
    exact readsAs_array (fun t _ => hitem t) gap rest hrest
  · obtain ⟨c, text, htext, hstarts⟩ := text_eq_cons t
    have hnone : Tree.asList? meaning? t = none := by
      cases t with
      | array gap items => exact absurd ⟨gap, items, rfl⟩ hlist
      | _ => rfl
    rw [hnone, htext, List.cons_append, list_of_ne item hstarts.isSpace (mt hstarts.array hlist),
      toOption_refuse, Option.map_none]

theorem string_gap (gap : Gap) (cs : List Char) : string (gap.chars ++ cs) = string cs := by
  rw [string, string, skipSpace_gap]

theorem list_gap {α : Type} (item : Nat → Reader α) (gap : Gap) (cs : List Char) :
    list depth item (gap.chars ++ cs) = list depth item cs := by
  rw [list, list, skipSpace_gap]

/-! ## `null` or a value -/

/-- What a value means where `null` stands for nothing. -/
def Tree.orNull? {α : Type} (meaning? : Tree → Option α) : Tree → Option (Option α)
  | .null => some none
  | t => (meaning? t).map some

theorem Tree.orNull?_of_ne {α : Type} (meaning? : Tree → Option α) {t : Tree} (h : t ≠ .null) :
    t.orNull? meaning? = (meaning? t).map some := by
  cases t with
  | null => exact absurd rfl h
  | _ => rfl

theorem optional_of_ne {α : Type} (item : Reader α) {c : Char} (hspace : isSpace c = false)
    (hnull : c ≠ 'n') :
    optional item (c :: cs) = (item (c :: cs)).bind fun read => .ok (some read.1, read.2) := by
  rw [optional, skipSpace_cons hspace]
  split
  · rename_i heq
    exact absurd (List.cons.inj heq).1 hnull
  · rfl

theorem readsAs_optional {α : Type} {item : Reader α} {meaning? : Tree → Option α} {t : Tree}
    (hitem : ReadsAs item meaning? t) : ReadsAs (optional item) (Tree.orNull? meaning?) t := by
  intro rest hrest
  by_cases hnull : t = .null
  · subst hnull
    rfl
  · obtain ⟨c, text, htext, hstarts⟩ := text_eq_cons t
    have hread := hitem rest hrest
    rw [htext, List.cons_append] at hread ⊢
    rw [optional_of_ne item hstarts.isSpace (mt hstarts.null hnull), toOption_bind, hread,
      Tree.orNull?_of_ne meaning? hnull]
    cases meaning? t <;> rfl

theorem optional_gap {α : Type} (item : Reader α) (gap : Gap) (cs : List Char) :
    optional item (gap.chars ++ cs) = optional item cs := by
  rw [optional, optional, skipSpace_gap]

/-! ## Records -/

variable {σ : Type} {fields : List (Member σ)}

/-- What a field makes of a record under way, from a value behind its colon. -/
def Member.Takes (f : Member σ) (take? : σ → Tree → Option σ) : Prop :=
  ∀ (acc : σ) (t : Tree) (gap : Gap) (rest : List Char), Delimits rest →
    (f.read acc (gap.chars ++ (t.text ++ rest))).toOption = (take? acc t).map (·, rest)

/-- How a member is gathered where there are these fields. -/
def gatherField? (fields : List (Member σ)) (take? : Member σ → σ → Tree → Option σ) (acc : σ)
    (m : String × Tree) : Option σ :=
  match fields.find? fun f => f.name == m.1 with
  | none => some acc
  | some f => if f.isSet acc then none else take? f acc m.2

theorem gathersAs_recordMember {take? : Member σ → σ → Tree → Option σ}
    (hfields : ∀ f ∈ fields, f.Takes (take? f)) (t : Tree) :
    GathersAs (recordMember fields) (gatherField? fields take?) t := by
  intro acc key beforeColon afterColon rest hrest
  have hcolon := colon_memberEnd beforeColon afterColon t rest
  rw [recordMember, gatherField?]
  cases hfind : fields.find? fun f => f.name == key with
  | none =>
      simp only [bind, Except.bind, hcolon, skipValue_text t afterColon hrest]
      rfl
  | some f =>
      cases hset : f.isSet acc with
      | true =>
          simp only [hset, if_true]
          rfl
      | false =>
          simp only [hset, Bool.false_eq_true, if_false]
          refine (congrArg Except.toOption (bind_of_eq_ok hcolon _)).trans ?_
          exact hfields f (List.mem_of_find?_eq_some hfind) acc t afterColon rest hrest

/-- A record is read off an object by its members. -/
theorem record_object {wanted : String} {fields : Nat → List (Member σ)}
    {take? : Member σ → σ → Tree → Option σ}
    (hfields : ∀ f ∈ fields depth, f.Takes (take? f)) (start : σ) (gap : Gap) (members : Members)
    (rest : List Char) :
    (record wanted fields start (depth + 1) ((Tree.object gap members).text ++ rest)).toOption =
      (gathered? (gatherField? (fields depth) take?) start members.toList).map
        fun acc => ((acc, none), rest) := by
  have hobject := objectTail_text
    (fun (m : List Piece × Tree) (_ : m ∈ members.toList) => gathersAs_recordMember hfields m.2)
    start gap rest
  have hrecord : record wanted fields start (depth + 1)
      ('\x7b' :: membersEnd gap members true rest) =
        (objectTail (recordMember (fields depth)) start
          (membersEnd gap members true rest)).bind fun read => .ok ((read.1, none), read.2) := by
    rw [record, skipSpace_cons rfl]
    rfl
  rw [text_object, hrecord, toOption_bind, hobject]
  cases gathered? (gatherField? (fields depth) take?) start members.toList <;> rfl

/-! ### Records written as lists -/

theorem listEnd_eq_ok_iff : listEnd cs = .ok rest ↔ skipSpace cs = ']' :: rest := by
  unfold listEnd
  split
  · rename_i hskip
    exact iff_of_false (fun h => nomatch h) fun h => nomatch hskip.symm.trans h
  · rename_i text hskip
    rw [hskip, Except.ok.injEq, List.cons.injEq, and_iff_right rfl]
  · rename_i text hskip
    refine iff_of_false (fun h => ?_) fun h => absurd (hskip.symm.trans h) (by simp)
    split at h <;> nomatch h
  · rename_i hclose hcomma
    exact iff_of_false (fun h => nomatch h) fun h => hclose _ h

theorem recordItems_cons (f : Member σ) (fields : List (Member σ)) (first : Bool) (acc : σ)
    (count : Nat) (cs : List Char) :
    recordItems first acc count (f :: fields) cs =
      (itemFront first cs).bind fun front =>
        match front with
        | .close rest => .ok ((acc, count), rest)
        | .more text =>
          (f.read acc text).bind fun read =>
            recordItems false read.1 (count + 1) fields read.2 := by
  rw [recordItems, itemFront]
  rcases skipSpace cs with _ | ⟨c, rest⟩
  · rfl
  · by_cases hend : c = ']'
    · subst hend
      rfl
    · cases first with
      | true => simp [Except.bind, bind]
      | false =>
          by_cases hcomma : c = ','
          · subst hcomma
            cases hskip : skipSpace rest with
            | nil => simp [hskip, Except.bind, failAhead]
            | cons d rest =>
                by_cases hend : d = ']'
                · simp [hskip, hend, Except.bind, failAhead]
                · simp [hskip, hend, Except.bind, bind]
          · simp [hcomma, Except.bind, failAhead]

theorem recordItems_of_more (f : Member σ) (fields : List (Member σ)) {first : Bool} (acc : σ)
    (count : Nat) {text : List Char} (h : itemFront first cs = .ok (.more text)) :
    recordItems first acc count (f :: fields) cs =
      (f.read acc text).bind fun read =>
        recordItems false read.1 (count + 1) fields read.2 := by
  rw [recordItems_cons, h]
  rfl

/-- What fields make of the items of a list, each of its own, and of how many. Fields may be left
over, and items may not. -/
def itemsTaken? (take? : Member σ → σ → Tree → Option σ) :
    List (Member σ) → σ → Nat → List Tree → Option (σ × Nat)
  | _, acc, count, [] => some (acc, count)
  | [], _, _, _ :: _ => none
  | f :: fields, acc, count, t :: ts =>
    (take? f acc t).bind fun next => itemsTaken? take? fields next (count + 1) ts

theorem skipSpace_itemsEnd_nil (gap : Gap) (first : Bool) (rest : List Char) :
    skipSpace (itemsEnd gap .nil first rest) = ']' :: rest :=
  skipSpace_gap gap _

/-- A list with an item in front does not end there. -/
theorem skipSpace_itemsEnd_cons_ne (gap before : Gap) (item : Tree) (after : Gap) (more : Items)
    (first : Bool) (rest text : List Char) :
    skipSpace (itemsEnd gap (.cons before item after more) first rest) ≠ ']' :: text := by
  intro hskip
  have hfront := itemFront_cons gap before item after more first rest
  simp only [itemFront, hskip] at hfront
  cases hfront

theorem recordItems_text {take? : Member σ → σ → Tree → Option σ} (items : Items)
    (hfields : ∀ f ∈ fields, f.Takes (take? f)) (first : Bool) (acc : σ) (count : Nat) (gap : Gap)
    (rest : List Char) :
    (recordItems first acc count fields (itemsEnd gap items first rest)).toOption =
      (itemsTaken? take? fields acc count items.toList).map (·, rest) := by
  induction fields generalizing items first acc count gap with
  | nil =>
      cases items with
      | nil =>
          have hend : listEnd (itemsEnd gap .nil first rest) = .ok rest :=
            listEnd_eq_ok_iff.mpr (skipSpace_itemsEnd_nil gap first rest)
          exact congrArg Except.toOption (bind_of_eq_ok hend _)
      | cons before item after more =>
          have hend : (listEnd (itemsEnd gap (.cons before item after more) first rest)).toOption =
              none := by
            refine Option.eq_none_iff_forall_ne_some.mpr fun text h => ?_
            rw [toOption_eq_some_iff, listEnd_eq_ok_iff] at h
            exact skipSpace_itemsEnd_cons_ne _ _ _ _ _ _ _ _ h
          refine (toOption_bind _ _).trans ?_
          rw [hend]
          rfl
  | cons f fields ih =>
      cases items with
      | nil =>
          rw [recordItems_cons, itemFront_nil]
          rfl
      | cons before item after more =>
          rw [List.forall_mem_cons] at hfields
          have hitem := hfields.1 acc item .none _ (delimits_itemsEnd after more rest)
          rw [Gap.none, List.nil_append] at hitem
          rw [recordItems_of_more f fields acc count
              (itemFront_cons gap before item after more first rest),
            toOption_bind, hitem, Items.toList, itemsTaken?]
          cases take? f acc item with
          | none => rfl
          | some next => exact ih more hfields.2 false next (count + 1) after

/-- A record is read off a list, field by field. -/
theorem record_array {wanted : String} {fields : Nat → List (Member σ)}
    {take? : Member σ → σ → Tree → Option σ}
    (hfields : ∀ f ∈ fields depth, f.Takes (take? f)) (start : σ) (gap : Gap) (items : Items)
    (rest : List Char) :
    (record wanted fields start (depth + 1) ((Tree.array gap items).text ++ rest)).toOption =
      (itemsTaken? take? (fields depth) start 0 items.toList).map
        fun read => ((read.1, some read.2), rest) := by
  have hitems := recordItems_text items hfields true start 0 gap rest
  have hrecord : record wanted fields start (depth + 1)
      ('[' :: itemsEnd gap items true rest) =
        (recordItems true start 0 (fields depth) (itemsEnd gap items true rest)).bind fun read =>
          .ok ((read.1.1, some read.1.2), read.2) := by
    rw [record, skipSpace_cons rfl]
    rfl
  rw [text_array, hrecord, toOption_bind, hitems]
  cases itemsTaken? take? (fields depth) start 0 items.toList <;> rfl

theorem record_of_ne (wanted : String) (fields : Nat → List (Member σ)) (start : σ) {c : Char}
    (hspace : isSpace c = false) (hbracket : c ≠ '[') (hbrace : c ≠ '\x7b') :
    record wanted fields start depth (c :: cs) = refuse wanted (c :: cs) := by
  rw [record, skipSpace_cons hspace]
  split
  · rename_i heq
    exact absurd (List.cons.inj heq).1 hbracket
  · rename_i heq
    exact absurd (List.cons.inj heq).1 hbrace
  · rfl

/-- What is read of a record: off an object by its members, off a list by its items, and off nothing
else. -/
def recordOf? (fields : List (Member σ)) (take? : Member σ → σ → Tree → Option σ) (start : σ) :
    Tree → Option (σ × Option Nat)
  | .object _ members =>
    (gathered? (gatherField? fields take?) start members.toList).map (·, none)
  | .array _ items =>
    (itemsTaken? take? fields start 0 items.toList).map fun read => (read.1, some read.2)
  | _ => none

theorem readsAs_record {wanted : String} {fields : Nat → List (Member σ)}
    {take? : Member σ → σ → Tree → Option σ}
    (hfields : ∀ f ∈ fields depth, f.Takes (take? f)) (start : σ) (t : Tree) :
    ReadsAs (record wanted fields start (depth + 1)) (recordOf? (fields depth) take? start) t := by
  intro rest _
  by_cases hobject : ∃ gap members, t = .object gap members
  · obtain ⟨gap, members, rfl⟩ := hobject
    rw [record_object hfields, recordOf?, Option.map_map]
    rfl
  · by_cases harray : ∃ gap items, t = .array gap items
    · obtain ⟨gap, items, rfl⟩ := harray
      rw [record_array hfields, recordOf?, Option.map_map]
      rfl
    · obtain ⟨c, text, htext, hstarts⟩ := text_eq_cons t
      have hnone : recordOf? (fields depth) take? start t = none := by
        cases t with
        | object gap members => exact absurd ⟨gap, members, rfl⟩ hobject
        | array gap items => exact absurd ⟨gap, items, rfl⟩ harray
        | _ => rfl
      rw [hnone, htext, List.cons_append,
        record_of_ne wanted fields start hstarts.isSpace (mt hstarts.array harray)
          (mt hstarts.object hobject),
        toOption_refuse, Option.map_none]

theorem record_gap (wanted : String) (fields : Nat → List (Member σ)) (start : σ) (gap : Gap)
    (cs : List Char) :
    record wanted fields start depth (gap.chars ++ cs) = record wanted fields start depth cs := by
  rw [record, record, skipSpace_gap]

/-! ## What was written -/

theorem asString?_ofString (s : String) : (Tree.ofString s).asString? = some s :=
  string?_ofString s

theorem asList?_ofList {α : Type} (meaning? : Tree → Option α) (ts : List Tree) :
    (Tree.ofList ts).asList? meaning? = ts.mapM meaning? := by
  rw [Tree.ofList, Tree.asList?, Items.toList_ofList]

/-- A list that was written item by item stands for its items. -/
theorem mapM_written {α : Type} {meaning? : Tree → Option α} {write : α → Tree}
    (hwrite : ∀ x, meaning? (write x) = some x) (xs : List α) :
    (xs.map write).mapM meaning? = some xs := by
  induction xs with
  | nil => rfl
  | cons x xs ih =>
      rw [List.map_cons, List.mapM_cons, hwrite, ih]
      rfl

theorem gathered?_written (step? : σ → String × Tree → Option σ) (acc : σ)
    (ms : List (String × Tree)) :
    gathered? step? acc (ms.map fun m => (Piece.ofString m.1, m.2)) = ms.foldlM step? acc := by
  induction ms generalizing acc with
  | nil => rfl
  | cons m ms ih =>
      rw [List.map_cons, gathered?, string?_ofString, Option.bind_some, List.foldlM_cons]
      exact congrArg (Option.bind (step? acc m)) (funext ih)

/-- A record is read off an object that was written, in the order of its members. -/
theorem record_written (wanted : String) {fields : Nat → List (Member σ)}
    {take? : Member σ → σ → Tree → Option σ} (hfields : ∀ f ∈ fields depth, f.Takes (take? f))
    {start acc : σ} {ms : List (String × Tree)}
    (hgathered : ms.foldlM (gatherField? (fields depth) take?) start = some acc) :
    record wanted fields start (depth + 1) (Tree.ofMembers ms).text = .ok ((acc, none), []) := by
  rw [← toOption_eq_some_iff, ← List.append_nil (Tree.text _), Tree.ofMembers,
    record_object hfields, Members.toList_ofList, gathered?_written, hgathered, Option.map_some]

end Storefront.Json
