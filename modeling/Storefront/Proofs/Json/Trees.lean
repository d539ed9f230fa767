import Storefront.Proofs.Json.Literals

/-! # Reading values as they are written

A list or an object is read item by item and member by member, so that a reader of what it holds
decides what it is read as. A value is read as what it stands for, and refused if it stands for
nothing. Any value is passed over. -/

namespace Storefront.Json

variable {cs rest : List Char} {depth : Nat}

/-! ## White space -/

theorem skipSpace_gap (gap : Gap) (cs : List Char) :
    skipSpace (gap.chars ++ cs) = skipSpace cs := by
  have hspace : ∀ c ∈ [' ', '\t', '\n', '\r'], isSpace c = true := by simp [isSpace]
  exact List.dropWhile_append_of_pos fun c hc => hspace c (gap.blank c hc)

theorem skipSpace_cons {c : Char} (h : isSpace c = false) (cs : List Char) :
    skipSpace (c :: cs) = c :: cs :=
  List.dropWhile_cons_of_neg (by rw [h]; exact Bool.false_ne_true)

theorem delimits_gap (gap : Gap) (h : Delimits cs) : Delimits (gap.chars ++ cs) := by
  have hspace : ∀ c ∈ [' ', '\t', '\n', '\r'],
      c.isDigit = false ∧ c ≠ '.' ∧ c ≠ 'e' ∧ c ≠ 'E' := by simp [Char.isDigit]
  obtain ⟨chars, blank⟩ := gap
  cases chars with
  | nil => exact h
  | cons c chars =>
      intro d hd
      obtain rfl := Option.mem_some.mp hd
      exact hspace c (blank c List.mem_cons_self)

theorem skipSpace_chars (gap : Gap) : skipSpace gap.chars = [] := by
  have h := skipSpace_gap gap []
  rwa [List.append_nil] at h

theorem delimits_chars (gap : Gap) : Delimits gap.chars := by
  have h := delimits_gap gap delimits_nil
  rwa [List.append_nil] at h

theorem isSpace_of_isDigit {c : Char} (h : c.isDigit = true) : isSpace c = false := by
  have hne := fun d => ne_of_isDigit h (d := d)
  simp [isSpace, hne ' ' rfl, hne '\n' rfl, hne '\t' rfl, hne '\r' rfl]

/-- A value starts with a character by which it is known what kind it is of. -/
structure Tree.Starts (t : Tree) (c : Char) : Prop where
  isSpace : isSpace c = false
  ne_bracket : c ≠ ']'
  null : c = 'n' → t = .null
  string : c = '"' → ∃ s, t = .string s
  array : c = '[' → ∃ gap items, t = .array gap items
  object : c = '\x7b' → ∃ gap members, t = .object gap members

theorem text_eq_cons (t : Tree) : ∃ c text, t.text = c :: text ∧ t.Starts c := by
  cases t with
  | null =>
      exact ⟨_, _, rfl, rfl, by decide, fun _ => rfl, fun h => absurd h (by decide),
        fun h => absurd h (by decide), fun h => absurd h (by decide)⟩
  | string s =>
      exact ⟨_, _, rfl, rfl, by decide, fun h => absurd h (by decide), fun _ => ⟨s, rfl⟩,
        fun h => absurd h (by decide), fun h => absurd h (by decide)⟩
  | array gap items =>
      exact ⟨_, _, rfl, rfl, by decide, fun h => absurd h (by decide),
        fun h => absurd h (by decide), fun _ => ⟨gap, items, rfl⟩, fun h => absurd h (by decide)⟩
  | object gap members =>
      exact ⟨_, _, rfl, rfl, by decide, fun h => absurd h (by decide),
        fun h => absurd h (by decide), fun h => absurd h (by decide),
        fun _ => ⟨gap, members, rfl⟩⟩
  | bool b =>
      cases b <;> refine ⟨_, _, rfl, rfl, by decide, ?_, ?_, ?_, ?_⟩ <;>
        exact fun h => absurd h (by decide)
  | number n =>
      obtain ⟨negative, whole, hzero, places, exponent⟩ := n
      cases negative with
      | true =>
          refine ⟨_, _, rfl, rfl, by decide, ?_, ?_, ?_, ?_⟩ <;> exact fun h => absurd h (by decide)
      | false =>
          have hdigit := whole.isDigit_first
          exact ⟨_, _, rfl, isSpace_of_isDigit hdigit, ne_of_isDigit hdigit rfl,
            fun h => absurd h (ne_of_isDigit hdigit rfl),
            fun h => absurd h (ne_of_isDigit hdigit rfl),
            fun h => absurd h (ne_of_isDigit hdigit rfl),
            fun h => absurd h (ne_of_isDigit hdigit rfl)⟩

theorem length_lt_text (t : Tree) (rest : List Char) : rest.length < (t.text ++ rest).length := by
  obtain ⟨c, text, htext, -⟩ := text_eq_cons t
  rw [htext, List.length_append, List.length_cons]
  omega

theorem skipSpace_text (t : Tree) (cs : List Char) : skipSpace (t.text ++ cs) = t.text ++ cs := by
  obtain ⟨c, text, htext, hstarts⟩ := text_eq_cons t
  rw [htext]
  exact skipSpace_cons hstarts.isSpace (text ++ cs)

/-! ## Lists -/

/-- The items of a list from white space on, and what follows their closing bracket. -/
def itemsEnd (gap : Gap) (items : Items) (first : Bool) (rest : List Char) : List Char :=
  gap.chars ++ (items.text first ++ ']' :: rest)

theorem delimits_itemsEnd (gap : Gap) (items : Items) (rest : List Char) :
    Delimits (itemsEnd gap items false rest) := by
  refine delimits_gap gap ?_
  cases items <;> exact delimits_cons rfl (by decide) (by decide) (by decide) _

theorem itemFront_nil (gap : Gap) (first : Bool) (rest : List Char) :
    itemFront first (itemsEnd gap .nil first rest) = .ok (.close rest) := by
  have hskip : skipSpace (itemsEnd gap .nil first rest) = ']' :: rest := skipSpace_gap gap _
  simp only [itemFront, hskip]

theorem itemFront_cons (gap before : Gap) (item : Tree) (after : Gap) (more : Items)
    (first : Bool) (rest : List Char) :
    itemFront first (itemsEnd gap (.cons before item after more) first rest) =
      .ok (.more (item.text ++ itemsEnd after more false rest)) := by
  obtain ⟨c, text, htext, hstarts⟩ := text_eq_cons item
  have hclose := hstarts.ne_bracket
  have hitem : skipSpace (before.chars ++ (item.text ++ itemsEnd after more false rest)) =
      c :: (text ++ itemsEnd after more false rest) := by
    rw [skipSpace_gap, skipSpace_text, htext, List.cons_append]
  rw [htext, List.cons_append, itemFront]
  cases first with
  | true =>
      have hskip : skipSpace (itemsEnd gap (.cons before item after more) true rest) =
          c :: (text ++ itemsEnd after more false rest) := by
        rw [← hitem, itemsEnd, skipSpace_gap]
        simp [Items.text, comma, itemsEnd]
      rw [hskip]
      simp
  | false =>
      have hskip : skipSpace (itemsEnd gap (.cons before item after more) false rest) =
          ',' :: (before.chars ++ (item.text ++ itemsEnd after more false rest)) := by
        rw [itemsEnd, skipSpace_gap]
        simp [Items.text, comma, itemsEnd, skipSpace_cons, isSpace]
      rw [hskip]
      simp [hitem, hclose]

/-- A reader takes values of some kind off the front of a text, each for what it means. -/
def ReadsAs {α : Type} (read : Reader α) (meaning? : Tree → Option α) (t : Tree) : Prop :=
  ∀ rest, Delimits rest → (read (t.text ++ rest)).toOption = (meaning? t).map (·, rest)

/-- A list is read item by item. -/
theorem items_text {α : Type} {read : Reader α} {meaning? : Tree → Option α} (items : Items)
    (hread : ∀ t ∈ items.toList, ReadsAs read meaning? t) {fuel : Nat}
    (hfuel : items.toList.length < fuel) (first : Bool) (gap : Gap) (rest : List Char) :
    (Json.items read fuel first (itemsEnd gap items first rest)).toOption =
      (items.toList.mapM meaning?).map (·, rest) := by
  obtain ⟨fuel, rfl⟩ := Nat.exists_eq_succ_of_ne_zero (Nat.ne_of_gt (Nat.zero_lt_of_lt hfuel))
  match items with
  | .nil =>
      rw [items_succ, itemFront_nil]
      rfl
  | .cons before item after more =>
      rw [Items.toList, List.forall_mem_cons] at hread
      have hitem := hread.1 _ (delimits_itemsEnd after more rest)
      have hmore := items_text more hread.2 (Nat.lt_of_succ_lt_succ hfuel) false after rest
      rw [items_of_more read fuel (itemFront_cons gap before item after more first rest),
        toOption_bind, hitem, Items.toList, List.mapM_cons]
      cases meaning? item with
      | none => rfl
      | some v =>
          refine (toOption_bind _ _).trans ?_
          rw [hmore]
          cases more.toList.mapM meaning? <;> rfl

theorem length_items_le (items : Items) (first : Bool) :
    items.toList.length ≤ (items.text first).length := by
  match items with
  | .nil => exact Nat.le_refl 0
  | .cons before item after more =>
      obtain ⟨c, text, htext, -⟩ := text_eq_cons item
      have hmore := length_items_le more false
      simp only [Items.toList, Items.text, htext, List.length_append, List.length_cons]
      omega

/-- A list is read from behind its opening bracket. -/
theorem listTail_text {α : Type} {read : Reader α} {meaning? : Tree → Option α} {items : Items}
    (hread : ∀ t ∈ items.toList, ReadsAs read meaning? t) (gap : Gap) (rest : List Char) :
    (listTail read (itemsEnd gap items true rest)).toOption =
      (items.toList.mapM meaning?).map (·, rest) := by
  have hle := length_items_le items true
  refine items_text items hread ?_ true gap rest
  simp only [itemsEnd, List.length_append]
  omega

/-! ## Objects -/

/-- The members of an object from white space on, and what follows their closing brace. -/
def membersEnd (gap : Gap) (members : Members) (first : Bool) (rest : List Char) : List Char :=
  gap.chars ++ (members.text first ++ '\x7d' :: rest)

theorem delimits_membersEnd (gap : Gap) (members : Members) (rest : List Char) :
    Delimits (membersEnd gap members false rest) := by
  refine delimits_gap gap ?_
  cases members <;> exact delimits_cons rfl (by decide) (by decide) (by decide) _

theorem memberFront_nil (gap : Gap) (first : Bool) (rest : List Char) :
    memberFront first (membersEnd gap .nil first rest) = .ok (.close rest) := by
  have hskip : skipSpace (membersEnd gap .nil first rest) = '\x7d' :: rest := skipSpace_gap gap _
  simp only [memberFront, hskip]

/-- The value of a member from behind its key. -/
def memberEnd (beforeColon afterColon : Gap) (item : Tree) (rest : List Char) : List Char :=
  beforeColon.chars ++ ':' :: (afterColon.chars ++ (item.text ++ rest))

theorem colon_memberEnd (beforeColon afterColon : Gap) (item : Tree) (rest : List Char) :
    colon (memberEnd beforeColon afterColon item rest) =
      .ok (afterColon.chars ++ (item.text ++ rest)) := by
  have hskip : skipSpace (memberEnd beforeColon afterColon item rest) =
      ':' :: (afterColon.chars ++ (item.text ++ rest)) := by
    rw [memberEnd, skipSpace_gap, skipSpace_cons rfl]
  simp only [colon, hskip]

theorem memberFront_cons (gap before : Gap) (key : List Piece) (beforeColon afterColon : Gap)
    (item : Tree) (after : Gap) (more : Members) (first : Bool) (rest : List Char) :
    memberFront first
        (membersEnd gap (.cons before key beforeColon afterColon item after more) first rest) =
      .ok (.more (stringEnd key
        (memberEnd beforeColon afterColon item (membersEnd after more false rest)))) := by
  generalize hend : stringEnd key
    (memberEnd beforeColon afterColon item (membersEnd after more false rest)) = text
  have hkey : skipSpace (before.chars ++ '"' :: text) = '"' :: text := by
    rw [skipSpace_gap, skipSpace_cons rfl]
  rw [memberFront]
  cases first with
  | true =>
      have hskip : skipSpace (membersEnd gap
          (.cons before key beforeColon afterColon item after more) true rest) = '"' :: text := by
        rw [← hkey, ← hend, membersEnd, skipSpace_gap]
        simp [Members.text, comma, membersEnd, memberEnd, stringEnd, quotedText]
      rw [hskip]
      simp
  | false =>
      have hskip : skipSpace (membersEnd gap
          (.cons before key beforeColon afterColon item after more) false rest) =
            ',' :: (before.chars ++ '"' :: text) := by
        rw [← hend, membersEnd, skipSpace_gap]
        simp [Members.text, comma, membersEnd, memberEnd, stringEnd, quotedText, skipSpace_cons,
          isSpace]
      rw [hskip]
      simp [hkey]

/-- A reader of members gathers each in the way of `step?`. -/
def GathersAs {σ : Type} (member : σ → String → Reader σ)
    (step? : σ → String × Tree → Option σ) (t : Tree) : Prop :=
  ∀ acc key beforeColon afterColon rest, Delimits rest →
    (member acc key (memberEnd beforeColon afterColon t rest)).toOption =
      (step? acc (key, t)).map (·, rest)

/-- What is gathered of members, each by its key. -/
def gathered? {σ : Type} (step? : σ → String × Tree → Option σ) :
    σ → List (List Piece × Tree) → Option σ
  | acc, [] => some acc
  | acc, m :: ms =>
    (string? m.1).bind fun key =>
      (step? acc (key, m.2)).bind fun next => gathered? step? next ms

/-- An object is read member by member. -/
theorem members_text {σ : Type} {member : σ → String → Reader σ}
    {step? : σ → String × Tree → Option σ} (members : Members)
    (hmember : ∀ m ∈ members.toList, GathersAs member step? m.2) {fuel : Nat}
    (hfuel : members.toList.length < fuel) (first : Bool) (acc : σ) (gap : Gap)
    (rest : List Char) :
    (Json.members member fuel first acc (membersEnd gap members first rest)).toOption =
      (gathered? step? acc members.toList).map (·, rest) := by
  obtain ⟨fuel, rfl⟩ := Nat.exists_eq_succ_of_ne_zero (Nat.ne_of_gt (Nat.zero_lt_of_lt hfuel))
  match members with
  | .nil =>
      rw [members_succ, memberFront_nil]
      rfl
  | .cons before key beforeColon afterColon item after more =>
      rw [Members.toList, List.forall_mem_cons] at hmember
      have hfront :=
        memberFront_cons gap before key beforeColon afterColon item after more first rest
      -- the key is read before the value, so a bad key is refused whatever stands behind it
      rw [members_of_more member fuel acc hfront, toOption_bind, stringTail_text, Members.toList,
        gathered?]
      cases hkey : string? key with
      | none => rfl
      | some k =>
          have hitem := hmember.1 acc k beforeColon afterColon _
            (delimits_membersEnd after more rest)
          refine (toOption_bind _ _).trans ?_
          rw [hitem, Option.bind_some]
          cases step? acc (k, item) with
          | none => rfl
          | some next =>
              exact members_text more hmember.2 (Nat.lt_of_succ_lt_succ hfuel) false next after rest

theorem length_members_le (members : Members) (first : Bool) :
    members.toList.length ≤ (members.text first).length := by
  match members with
  | .nil => exact Nat.le_refl 0
  | .cons before key beforeColon afterColon item after more =>
      have hmore := length_members_le more false
      simp only [Members.toList, Members.text, List.length_append, List.length_cons]
      omega

/-- An object is read from behind its opening brace. -/
theorem objectTail_text {σ : Type} {member : σ → String → Reader σ}
    {step? : σ → String × Tree → Option σ} {members : Members}
    (hmember : ∀ m ∈ members.toList, GathersAs member step? m.2) (start : σ) (gap : Gap)
    (rest : List Char) :
    (objectTail member start (membersEnd gap members true rest)).toOption =
      (gathered? step? start members.toList).map (·, rest) := by
  have hle := length_members_le members true
  refine members_text members hmember ?_ true start gap rest
  simp only [membersEnd, List.length_append]
  omega

/-! ## Any value -/

theorem value_gap (depth : Nat) (gap : Gap) (cs : List Char) :
    value depth (gap.chars ++ cs) = value depth cs := by
  cases depth <;> rw [value, value, skipSpace_gap]

theorem value_of_digit {c : Char} (h : c.isDigit = true) (depth : Nat) (cs : List Char) :
    value depth (c :: cs) =
      (number false (c :: cs)).bind fun read => .ok (.number read.1, read.2) := by
  unfold value
  rw [skipSpace_cons (isSpace_of_isDigit h)]
  split
  case h_1 heq => cases heq
  case h_9 heq =>
    obtain ⟨rfl, rfl⟩ := List.cons.inj heq
    rw [if_pos h]
    rfl
  all_goals
    rename_i heq
    obtain ⟨rfl, -⟩ := List.cons.inj heq
    cases h

theorem text_string (s : List Piece) (rest : List Char) :
    (Tree.string s).text ++ rest = '"' :: stringEnd s rest := by
  simp [Tree.text, quotedText, stringEnd]

theorem text_array (gap : Gap) (items : Items) (rest : List Char) :
    (Tree.array gap items).text ++ rest = '[' :: itemsEnd gap items true rest := by
  simp [Tree.text, itemsEnd]

theorem text_object (gap : Gap) (members : Members) (rest : List Char) :
    (Tree.object gap members).text ++ rest = '\x7b' :: membersEnd gap members true rest := by
  simp [Tree.text, membersEnd]

/-- How a member of any value is gathered. -/
def gatherAny? (depth : Nat) (acc : List (String × Value)) (m : String × Tree) :
    Option (List (String × Value)) :=
  (m.2.value? depth).map fun v => (m.1, v) :: acc

theorem gathered?_gatherAny? (depth : Nat) (acc : List (String × Value))
    (ms : List (List Piece × Tree)) :
    gathered? (gatherAny? depth) acc ms =
      (ms.mapM (memberValue? depth)).map fun read => read.reverse ++ acc := by
  induction ms generalizing acc with
  | nil => rfl
  | cons m ms ih =>
      rw [gathered?, List.mapM_cons, memberValue?]
      cases string? m.1 with
      | none => rfl
      | some key =>
          rw [Option.bind_some, Option.bind_some, gatherAny?]
          cases m.2.value? depth with
          | none => rfl
          | some v =>
              refine (ih ((key, v) :: acc)).trans ?_
              cases ms.mapM (memberValue? depth) with
              | none => rfl
              | some read => simp

theorem gathersAs_anyMember {t : Tree} (h : ReadsAs (value depth) (·.value? depth) t) :
    GathersAs (anyMember depth) (gatherAny? depth) t := by
  intro acc key beforeColon afterColon rest hrest
  have hvalue := h rest hrest
  rw [← value_gap depth afterColon] at hvalue
  refine (congrArg Except.toOption
    (bind_of_eq_ok (colon_memberEnd beforeColon afterColon t rest) _)).trans ?_
  refine (toOption_bind _ _).trans ?_
  rw [hvalue, gatherAny?]
  dsimp only
  cases t.value? depth <;> rfl

/-- A value is read as what it stands for. -/
theorem value_text (t : Tree) (depth : Nat) : ReadsAs (value depth) (·.value? depth) t := by
  induction t using Tree.induction generalizing depth with
  | null =>
      intro rest _
      cases depth <;> rfl
  | bool b =>
      intro rest _
      cases b <;> cases depth <;> rfl
  | number n =>
      intro rest hrest
      have hnumber := number_text n hrest
      have hvalue : value depth ((Tree.number n).text ++ rest) =
          (number n.negative (n.unsigned ++ rest)).bind fun read =>
            .ok (.number read.1, read.2) := by
        obtain ⟨negative, whole, hzero, places, exponent⟩ := n
        cases negative with
        | true => cases depth <;> rfl
        | false => exact value_of_digit whole.isDigit_first depth _
      rw [hvalue, toOption_bind, hnumber]
      simp only [Tree.value?]
      cases n.number? <;> rfl
  | string s =>
      intro rest _
      have hvalue : value depth ('"' :: stringEnd s rest) =
          (stringTail (stringEnd s rest)).bind fun read => .ok (.string read.1, read.2) := by
        cases depth <;> rfl
      rw [text_string, hvalue, toOption_bind, stringTail_text]
      simp only [Tree.value?]
      cases string? s <;> rfl
  | array gap items hitems =>
      intro rest _
      cases depth with
      | zero => rfl
      | succ depth =>
          have hvalue : value (depth + 1) ('[' :: itemsEnd gap items true rest) =
              (listTail (value depth) (itemsEnd gap items true rest)).bind fun read =>
                .ok (.array read.1, read.2) := rfl
          rw [text_array, hvalue, toOption_bind,
            listTail_text (fun t ht => hitems t ht depth) gap rest]
          simp only [Tree.value?, Items.values?_eq_mapM]
          cases items.toList.mapM fun t => t.value? depth <;> rfl
  | object gap members hmembers =>
      intro rest _
      cases depth with
      | zero => rfl
      | succ depth =>
          have hvalue : value (depth + 1) ('\x7b' :: membersEnd gap members true rest) =
              (objectTail (anyMember depth) [] (membersEnd gap members true rest)).bind fun read =>
                .ok (.object read.1.reverse, read.2) := rfl
          have hgather := objectTail_text
            (fun m hm => gathersAs_anyMember (hmembers m hm depth)) [] gap rest
          rw [text_object, hvalue, toOption_bind, hgather, gathered?_gatherAny?]
          simp only [Tree.value?, Members.values?_eq_mapM]
          cases members.toList.mapM (memberValue? depth) with
          | none => rfl
          | some ms => simp [Except.toOption]

/-! ## Passing over any value -/

namespace Skip

theorem run_gap (fuel : Nat) (frames : List Frame) (gap : Gap) (cs : List Char) :
    run (fuel + 1) .value frames (gap.chars ++ cs) = run (fuel + 1) .value frames cs := by
  rw [run, run, skipSpace_gap]

theorem run_of_digit {c : Char} (h : c.isDigit = true) (fuel : Nat) (frames : List Frame)
    (cs : List Char) :
    run (fuel + 1) .value frames (c :: cs) = (number (c :: cs)).bind fun rest =>
      if frames.isEmpty then .ok rest else run fuel (.between true) frames rest := by
  rw [run, skipSpace_cons (isSpace_of_isDigit h)]
  split
  case h_1 heq => cases heq
  case h_9 heq =>
    obtain ⟨rfl, rfl⟩ := List.cons.inj heq
    rw [if_pos h]
    rfl
  all_goals
    rename_i heq
    obtain ⟨rfl, -⟩ := List.cons.inj heq
    cases h

theorem passes_gap (gap : Gap) (h : Passes cs rest) : Passes (gap.chars ++ cs) rest := by
  have hle : cs.length ≤ (gap.chars ++ cs).length := by simp
  refine ⟨Nat.lt_of_lt_of_le h.lt hle, fun {frames out} hends fuel hfuel => ?_⟩
  simp only [Stage.slack] at hfuel
  obtain ⟨fuel, rfl⟩ : ∃ fewer, fuel = fewer + 1 := ⟨fuel - 1, by omega⟩
  rw [run_gap]
  exact h.ends hends (fuel + 1) (by simp only [Stage.slack]; omega)

theorem closes_items (items : Items)
    (hitems : ∀ t ∈ items.toList, ∀ rest, Delimits rest → Passes (t.text ++ rest) rest)
    (first : Bool) (gap : Gap) (rest : List Char) :
    Closes .list first (itemsEnd gap items first rest) rest := by
  match items with
  | .nil => exact closes_list_close (itemFront_nil gap first rest)
  | .cons before item after more =>
      rw [Items.toList, List.forall_mem_cons] at hitems
      exact closes_list_more (itemFront_cons gap before item after more first rest)
        (hitems.1 _ (delimits_itemsEnd after more rest))
        (closes_items more hitems.2 false after rest)

theorem closes_members (members : Members)
    (hmembers : ∀ m ∈ members.toList, ∀ rest, Delimits rest → Passes (m.2.text ++ rest) rest)
    (first : Bool) (gap : Gap) (rest : List Char) :
    Closes .object first (membersEnd gap members first rest) rest := by
  match members with
  | .nil => exact closes_object_close (memberFront_nil gap first rest)
  | .cons before key beforeColon afterColon item after more =>
      rw [Members.toList, List.forall_mem_cons] at hmembers
      have hitem := hmembers.1 _ (delimits_membersEnd after more rest)
      exact closes_object_more
        (memberFront_cons gap before key beforeColon afterColon item after more first rest)
        (skip_stringEnd key (length_lt_stringEnd key _) _) (by simp [stringEnd]; omega)
        (colon_memberEnd beforeColon afterColon item _) (passes_gap afterColon hitem)
        (closes_members more hmembers.2 false after rest)

/-- Any value is passed over, whether or not it stands for something. -/
theorem passes_text (t : Tree) (h : Delimits rest) : Passes (t.text ++ rest) rest := by
  induction t using Tree.induction generalizing rest with
  | null =>
      refine passes_of_scalar (length_lt_text _ rest) fun fuel frames => ?_
      rw [← resume]
      rfl
  | bool b =>
      refine passes_of_scalar (length_lt_text _ rest) fun fuel frames => ?_
      rw [← resume]
      cases b <;> rfl
  | number n =>
      refine passes_of_scalar (length_lt_text _ rest) fun fuel frames => ?_
      have hskip := skip_number_text n h
      obtain ⟨negative, whole, hzero, places, exponent⟩ := n
      rw [← resume]
      cases negative with
      | true =>
          exact bind_of_eq_ok hskip fun rest =>
            if frames.isEmpty then .ok rest else run (fuel + 1) (.between true) frames rest
      | false => exact (run_of_digit whole.isDigit_first _ frames _).trans (bind_of_eq_ok hskip _)
  | string s =>
      refine passes_of_scalar (length_lt_text _ rest) fun fuel frames => ?_
      have hskip := skip_stringEnd s (length_lt_stringEnd s rest) rest
      rw [text_string, ← resume, run, skipSpace_cons rfl]
      simp only [hskip]
      rfl
  | array gap items hitems =>
      rw [text_array]
      exact passes_of_frame (Nat.lt_succ_self _) (fun fuel frames => rfl)
        (closes_items items (fun t ht rest hrest => hitems t ht hrest) true gap rest)
  | object gap members hmembers =>
      rw [text_object]
      exact passes_of_frame (Nat.lt_succ_self _) (fun fuel frames => rfl)
        (closes_members members (fun m hm rest hrest => hmembers m hm hrest) true gap rest)

end Skip

theorem skipValue_text (t : Tree) (gap : Gap) (h : Delimits rest) :
    skipValue (gap.chars ++ (t.text ++ rest)) = .ok rest :=
  (Skip.passes_gap gap (Skip.passes_text t h)).ends (Skip.ends_nil true rest) _ (Nat.le_succ _)

end Storefront.Json
