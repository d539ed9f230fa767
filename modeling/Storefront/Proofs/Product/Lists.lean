import Storefront.Fetch.Reply
import Storefront.Proofs.Json.Records
import Storefront.Proofs.Product.Fields
import Storefront.Proofs.Text.Blank

/-! # Which lists of products can be read

A member that no field has the key of is passed over, whatever its value. What fails an object, and
the list it is in with it, is a key that stands for no text, a field that is named twice, and
something under the name of a field that stands for no value. -/

namespace Storefront

namespace Product

open Storefront.Json

variable {depth : Nat} {rest : List Char} {ms : List (List Piece × Tree)}

/-! ## Sound objects -/

/-- The names of fields among the keys of members. -/
def fieldKeys (ms : List (List Piece × Tree)) : List String :=
  (ms.filterMap fun m => string? m.1).filter fieldNames.contains

/-- A product can be read off members under whose field names values may lie `depth` deep. -/
structure Sound (depth : Nat) (ms : List (List Piece × Tree)) : Prop where
  keys : ∀ m ∈ ms, ∃ key, string? m.1 = some key
  once : (fieldKeys ms).Nodup
  values : ∀ m ∈ ms, ∀ name ∈ fieldNames, string? m.1 = some name →
    ∃ v, m.2.value? depth = some v

/-- The name and the value of a member that there is a field for. -/
def fieldValue? (depth : Nat) (m : List Piece × Tree) : Option (String × Value) :=
  (memberValue? depth m).filter isKnown

/-- What a product is read off: the values under the names of its fields. -/
def fieldValues (depth : Nat) (ms : List (List Piece × Tree)) : List (String × Value) :=
  ms.filterMap (fieldValue? depth)

/-! ## One member -/

/-- How a member is gathered that has the key of a field, or none. -/
def gather? (depth : Nat) (acc : List (String × Value)) (m : String × Tree) :
    Option (List (String × Value)) :=
  if fieldNames.contains m.1 then
    if (List.lookup m.1 acc).isSome then none
    else (m.2.value? depth).map fun v => (m.1, v) :: acc
  else some acc

theorem gather?_of_unknown {key : String} {t : Tree} (hunknown : fieldNames.contains key = false)
    (acc : List (String × Value)) : gather? depth acc (key, t) = some acc :=
  if_neg (by rw [hunknown]; exact Bool.false_ne_true)

theorem gather?_eq_some_iff {key : String} {t : Tree} {acc next : List (String × Value)}
    (hknown : fieldNames.contains key = true) :
    gather? depth acc (key, t) = some next ↔
      List.lookup key acc = none ∧ ∃ v, t.value? depth = some v ∧ next = (key, v) :: acc := by
  rw [gather?, if_pos hknown]
  cases List.lookup key acc with
  | none => cases t.value? depth <;> simp [eq_comm]
  | some w => simp

/-- What a field makes of what was read before it. -/
def take? (depth : Nat) (f : Member (List (String × Value))) (acc : List (String × Value))
    (t : Tree) : Option (List (String × Value)) :=
  (t.value? depth).map fun v => (f.name, v) :: acc

theorem fields_take (depth : Nat) :
    ∀ f ∈ fieldNames.map (field depth), f.Takes (take? depth f) := by
  intro f hf acc t gap rest hrest
  obtain ⟨name, -, rfl⟩ := List.mem_map.mp hf
  refine (toOption_bind _ _).trans ?_
  rw [value_gap, value_text t depth rest hrest, take?]
  dsimp only
  cases t.value? depth <;> rfl

theorem gatherField?_fields (depth : Nat) :
    gatherField? (fieldNames.map (field depth)) (take? depth) = gather? depth := by
  funext acc m
  rw [gatherField?, find?_field, gather?]
  cases fieldNames.contains m.1 <;> rfl

/-! ## All members -/

variable {m : List Piece × Tree} {key : String}

theorem fieldKeys_cons (hkey : string? m.1 = some key) :
    fieldKeys (m :: ms) =
      if fieldNames.contains key then key :: fieldKeys ms else fieldKeys ms := by
  simp only [fieldKeys, List.filterMap_cons, hkey, List.filter_cons]

theorem sound_nil (depth : Nat) : Sound depth [] :=
  { keys := fun _ hm => nomatch hm
    once := List.nodup_nil
    values := fun _ hm => nomatch hm }

/-- One more member asks for something only if a field has its key. -/
theorem sound_cons (hkey : string? m.1 = some key) :
    Sound depth (m :: ms) ↔
      (fieldNames.contains key = true → key ∉ fieldKeys ms ∧ ∃ v, m.2.value? depth = some v) ∧
        Sound depth ms := by
  constructor
  · rintro ⟨hkeys, honce, hvalues⟩
    rw [List.forall_mem_cons] at hkeys hvalues
    rw [fieldKeys_cons hkey] at honce
    refine ⟨fun hknown => ?_, hkeys.2, ?_, hvalues.2⟩
    · rw [if_pos hknown, List.nodup_cons] at honce
      exact ⟨honce.1, hvalues.1 key (List.contains_iff_mem.mp hknown) hkey⟩
    · split at honce
      · exact (List.nodup_cons.mp honce).2
      · exact honce
  · rintro ⟨hfield, hkeys, honce, hvalues⟩
    refine ⟨List.forall_mem_cons.mpr ⟨⟨key, hkey⟩, hkeys⟩, ?_,
      List.forall_mem_cons.mpr ⟨fun name hname heq => ?_, hvalues⟩⟩
    · rw [fieldKeys_cons hkey]
      split
      · rename_i hknown
        exact List.nodup_cons.mpr ⟨(hfield hknown).1, honce⟩
      · exact honce
    · obtain rfl := Option.some.inj (hkey.symm.trans heq)
      exact (hfield (List.contains_iff_mem.mpr hname)).2

theorem fieldValues_of_unknown (hkey : string? m.1 = some key)
    (hunknown : fieldNames.contains key = false) :
    fieldValues depth (m :: ms) = fieldValues depth ms := by
  refine List.filterMap_cons_none ?_
  rw [fieldValue?, memberValue?, hkey]
  cases m.2.value? depth with
  | none => rfl
  | some v => exact if_neg (by rw [isKnown, hunknown]; exact Bool.false_ne_true)

theorem fieldValues_of_known {v : Value} (hkey : string? m.1 = some key)
    (hknown : fieldNames.contains key = true) (hvalue : m.2.value? depth = some v) :
    fieldValues depth (m :: ms) = (key, v) :: fieldValues depth ms := by
  refine List.filterMap_cons_some ?_
  rw [fieldValue?, memberValue?, hkey, hvalue]
  exact if_pos hknown

theorem lookup_cons_eq_none_iff {name : String} {v : Value} {acc : List (String × Value)} :
    List.lookup name ((key, v) :: acc) = none ↔ name ≠ key ∧ List.lookup name acc = none := by
  rw [List.lookup_cons]
  by_cases heq : name = key
  · simp [heq]
  · rw [beq_eq_false_iff_ne.mpr heq, and_iff_right heq]

/-- Members are gathered just if they are sound and no field of theirs has been set before. -/
theorem gathered?_eq_some_iff (acc out : List (String × Value)) :
    gathered? (gather? depth) acc ms = some out ↔
      Sound depth ms ∧ (∀ name ∈ fieldKeys ms, List.lookup name acc = none) ∧
        out = (fieldValues depth ms).reverse ++ acc := by
  induction ms generalizing acc with
  | nil =>
      constructor
      · rintro ⟨⟩
        exact ⟨sound_nil depth, List.forall_mem_nil _, rfl⟩
      · rintro ⟨-, -, rfl⟩
        rfl
  | cons m ms ih =>
      rw [gathered?]
      cases hkey : string? m.1 with
      | none =>
          refine iff_of_false (Option.some_ne_none out).symm fun h => ?_
          obtain ⟨key, hsome⟩ := h.1.keys m List.mem_cons_self
          exact Option.some_ne_none key (hsome.symm.trans hkey)
      | some key =>
          rw [sound_cons hkey, fieldKeys_cons hkey, Option.bind_some, Option.bind_eq_some_iff]
          cases hknown : fieldNames.contains key with
          | false =>
              rw [fieldValues_of_unknown hkey hknown, gather?_of_unknown hknown]
              simp only [Option.some.injEq, exists_eq_left', ih, Bool.false_eq_true, if_false,
                false_imp_iff, true_and]
          | true =>
              simp only [gather?_eq_some_iff hknown, ih, if_true, true_imp_iff]
              constructor
              · rintro ⟨_, ⟨hunset, v, hvalue, rfl⟩, hsound, hothers, rfl⟩
                refine ⟨⟨⟨fun hmem => ?_, v, hvalue⟩, hsound⟩,
                  List.forall_mem_cons.mpr ⟨hunset, fun name hname => ?_⟩, ?_⟩
                · exact (lookup_cons_eq_none_iff.mp (hothers key hmem)).1 rfl
                · exact (lookup_cons_eq_none_iff.mp (hothers name hname)).2
                · rw [fieldValues_of_known hkey hknown hvalue]
                  simp
              · rintro ⟨⟨⟨honce, v, hvalue⟩, hsound⟩, hunset, rfl⟩
                rw [List.forall_mem_cons] at hunset
                refine ⟨_, ⟨hunset.1, v, hvalue, rfl⟩, hsound, fun name hname => ?_, ?_⟩
                · exact lookup_cons_eq_none_iff.mpr
                    ⟨fun heq => honce (heq ▸ hname), hunset.2 name hname⟩
                · rw [fieldValues_of_known hkey hknown hvalue]
                  simp

/-! ## Objects -/

/-- The product that an object stands for, if its members can be gathered. -/
def ofTree? (depth : Nat) : Tree → Option Product
  | .object _ members =>
    (gathered? (gather? depth) [] members.toList).map fun read =>
      ofValues fun name => List.lookup name read
  | _ => none

theorem readsAs_object (depth : Nat) (gap : Gap) (members : Members) :
    ReadsAs (read (depth + 1)) (ofTree? depth) (.object gap members) := by
  intro rest _
  have hrecord : (record "struct Product" (fun depth => fieldNames.map (field depth)) [] (depth + 1)
      ((Tree.object gap members).text ++ rest)).toOption =
        (gathered? (gather? depth) [] members.toList).map fun acc => ((acc, none), rest) := by
    rw [← gatherField?_fields]
    exact record_object (fields_take depth) [] gap members rest
  refine (toOption_bind _ _).trans ?_
  rw [hrecord, ofTree?]
  cases gathered? (gather? depth) [] members.toList <;> rfl

/-- What is read off sound members is named like their fields. -/
theorem map_fst_fieldValues (h : Sound depth ms) :
    (fieldValues depth ms).map Prod.fst = fieldKeys ms := by
  induction ms with
  | nil => rfl
  | cons m ms ih =>
      obtain ⟨key, hkey⟩ := h.keys m List.mem_cons_self
      obtain ⟨hfield, hsound⟩ := (sound_cons hkey).mp h
      rw [fieldKeys_cons hkey, ← ih hsound]
      cases hknown : fieldNames.contains key with
      | false =>
          rw [fieldValues_of_unknown hkey hknown]
          rfl
      | true =>
          obtain ⟨-, v, hvalue⟩ := hfield hknown
          rw [fieldValues_of_known hkey hknown hvalue]
          rfl

theorem nodup_keys_fieldValues (h : Sound depth ms) :
    ((fieldValues depth ms).map Prod.fst).Nodup := by
  rw [map_fst_fieldValues h]
  exact h.once

/-- The order of members in which no key stands twice does not matter. -/
theorem ofValues_reverse {read : List (String × Value)} (hkeys : (read.map Prod.fst).Nodup) :
    ofValues (fun name => List.lookup name read.reverse) =
      ofValues fun name => List.lookup name read := by
  refine ofValues_congr fun name _ => Option.ext fun v => ?_
  rw [lookup_eq_some_iff hkeys, lookup_eq_some_iff (nodup_keys_reverse hkeys), List.mem_reverse]

/-- An object stands for a product just if its members are sound, and that is read off them. -/
theorem ofTree?_object_eq_some_iff {gap : Gap} {members : Members} {p : Product} :
    ofTree? depth (.object gap members) = some p ↔
      Sound depth members.toList ∧
        p = ofValues fun name => List.lookup name (fieldValues depth members.toList) := by
  rw [ofTree?, Option.map_eq_some_iff]
  constructor
  · rintro ⟨read, hread, rfl⟩
    obtain ⟨hsound, -, rfl⟩ := (gathered?_eq_some_iff [] read).mp hread
    rw [List.append_nil, ofValues_reverse (nodup_keys_fieldValues hsound)]
    exact ⟨hsound, rfl⟩
  · rintro ⟨hsound, rfl⟩
    refine ⟨_, (gathered?_eq_some_iff [] _).mpr ⟨hsound, fun _ _ => rfl, rfl⟩, ?_⟩
    rw [List.append_nil, ofValues_reverse (nodup_keys_fieldValues hsound)]

theorem eq_object_of_ofTree? {t : Tree} {p : Product} (h : ofTree? depth t = some p) :
    ∃ gap members, t = .object gap members := by
  cases t with
  | object gap members => exact ⟨gap, members, rfl⟩
  | _ => nomatch h

/-! ## Lists -/

theorem mapM_eq_some_of_forall {α β : Type} {f : α → Option β} {xs : List α}
    (h : ∀ x ∈ xs, ∃ y, f x = some y) :
    ∃ ys, xs.mapM f = some ys ∧ List.Forall₂ (fun x y => f x = some y) xs ys := by
  induction xs with
  | nil => exact ⟨[], rfl, .nil⟩
  | cons x xs ih =>
      rw [List.forall_mem_cons] at h
      obtain ⟨y, hy⟩ := h.1
      obtain ⟨ys, hys, hall⟩ := ih h.2
      exact ⟨y :: ys, by rw [List.mapM_cons, hy, hys]; rfl, .cons hy hall⟩

theorem mapM_eq_none_of_mem {α β : Type} {f : α → Option β} {xs : List α} {x : α} (hx : x ∈ xs)
    (h : f x = none) : xs.mapM f = none := by
  induction xs with
  | nil => nomatch hx
  | cons w xs ih =>
      rw [List.mapM_cons]
      rcases List.mem_cons.mp hx with rfl | hx
      · rw [h]
        rfl
      · rw [ih hx]
        cases f w <;> rfl

end Product

namespace Reply

open Storefront.Json Product

variable {r : Reply} {items : Items} {depth : Nat}

/-- A list of objects is read object by object. -/
theorem readsAs_listOrNull (hobjects : ∀ t ∈ items.toList, ∃ gap members, t = .object gap members)
    (gap : Gap) :
    ReadsAs (listOrNull Product.read (depth + 2)) (Tree.orNull? (Tree.asList? (ofTree? depth)))
      (.array gap items) := by
  refine readsAs_optional (readsAs_array (fun t ht => ?_) gap)
  obtain ⟨gap, members, rfl⟩ := hobjects t ht
  exact readsAs_object depth gap members

/-- The text of a reply holds a list of objects and nothing else. -/
structure HoldsObjects (r : Reply) (items : Items) : Prop where
  text : ∃ before gap after : Gap,
    r.text.toList = before.chars ++ ((Tree.array gap items).text ++ after.chars)
  objects : ∀ t ∈ items.toList, ∃ gap members, t = .object gap members

theorem blank_eq_false (h : HoldsObjects r items) : Text.blank r.text = false := by
  obtain ⟨before, gap, after, htext⟩ := h.text
  exact Text.blank_eq_false_of_mem (c := '[') (by simp [htext, Tree.text]) (by decide)

/-- The text is read as what its objects stand for, and refused if one stands for nothing. -/
theorem decode_toOption (h : HoldsObjects r items) :
    (r.decode (listOrNull Product.read)).toOption =
      (items.toList.mapM (ofTree? (depthLimit - 2))).map some := by
  obtain ⟨before, gap, after, htext⟩ := h.text
  have hread : (listOrNull Product.read depthLimit r.text.toList).toOption =
      ((items.toList.mapM (ofTree? (depthLimit - 2))).map some).map (·, after.chars) := by
    rw [htext, listOrNull, optional_gap]
    exact readsAs_listOrNull h.objects gap after.chars (delimits_chars after)
  rw [decode]
  cases hproducts : items.toList.mapM (ofTree? (depthLimit - 2)) with
  | none =>
      rw [hproducts] at hread
      obtain ⟨failure, hread⟩ := toOption_eq_none_iff.mp hread
      rw [hread]
      rfl
  | some ps =>
      rw [hproducts] at hread
      have hended := ended_eq_ok_iff.mpr
        ⟨after.chars, toOption_eq_some_iff.mp hread, skipSpace_chars after⟩
      rw [hended]
      rfl

theorem decode_refuses {α : Type} {read : Nat → Reader α} (h : (r.decode read).toOption = none) :
    ∃ message, r.decode read = .error (.decode message) := by
  unfold decode at h ⊢
  split at h
  · nomatch h
  · exact ⟨_, rfl⟩

/-- A text that is not blank is read by itself, where the status tells of success. -/
theorem items_eq_decode {α : Type} (item : Nat → Reader α) (hsuccess : r.isSuccess = true)
    (hblank : Text.blank r.text = false) :
    r.items item = (r.decode (listOrNull item)).bind fun found => .ok (found.getD []) := by
  have hstatus : r.checkStatus = .ok r := if_pos hsuccess
  refine (bind_of_eq_ok hstatus _).trans ?_
  rw [hblank]
  rfl

/-- Of a successful reply with a list of objects as many products are read, in their order and each
off the fields of its object, if every object is sound; otherwise none is. So what makes a list fail
is a key that stands for no text, a field that is named twice, or a value that stands for nothing
under the name of a field, and nothing that is under any other key. -/
theorem products_of_objects (r : Reply) (items : Items) (hsuccess : r.isSuccess = true)
    (h : HoldsObjects r items) :
    ((∀ gap members, .object gap members ∈ items.toList →
          Sound (depthLimit - 2) members.toList) →
        ∃ ps, r.products = .ok ps ∧ List.Forall₂ (fun t p => ∃ gap members,
          t = .object gap members ∧ ReadsOff (fieldValues (depthLimit - 2) members.toList) p)
            items.toList ps) ∧
      ((∃ gap members, .object gap members ∈ items.toList ∧
          ¬ Sound (depthLimit - 2) members.toList) →
        ∃ message, r.products = .error (.decode message)) := by
  rw [products, items_eq_decode Product.read hsuccess (blank_eq_false h)]
  have hdecode := decode_toOption h
  constructor
  · intro hsound
    have heach : ∀ t ∈ items.toList, ∃ p, ofTree? (depthLimit - 2) t = some p := by
      intro t ht
      obtain ⟨gap, members, rfl⟩ := h.objects t ht
      exact ⟨_, ofTree?_object_eq_some_iff.mpr ⟨hsound gap members ht, rfl⟩⟩
    obtain ⟨ps, hps, hall⟩ := mapM_eq_some_of_forall heach
    rw [hps] at hdecode
    refine ⟨ps, bind_of_eq_ok (toOption_eq_some_iff.mp hdecode) _, hall.imp fun t p hp => ?_⟩
    obtain ⟨gap, members, rfl⟩ := eq_object_of_ofTree? hp
    obtain ⟨hsound, rfl⟩ := ofTree?_object_eq_some_iff.mp hp
    exact ⟨gap, members, rfl, readsOff_ofValues (nodup_keys_fieldValues hsound)⟩
  · rintro ⟨gap, members, hmem, hunsound⟩
    have hnone : ofTree? (depthLimit - 2) (.object gap members) = none :=
      Option.eq_none_iff_forall_ne_some.mpr fun p hp =>
        hunsound (ofTree?_object_eq_some_iff.mp hp).1
    rw [mapM_eq_none_of_mem hmem hnone] at hdecode
    obtain ⟨message, hmessage⟩ := decode_refuses hdecode
    exact ⟨message, by rw [hmessage]; rfl⟩

/-! ### Two lists -/

def zero : Tree :=
  .number ⟨false, ⟨'0', [], List.forall_mem_singleton.mpr rfl⟩, fun _ => rfl, none, none⟩

/-- The name of a field, as a key. -/
def idKey : List Piece :=
  [.plain 'I' (by decide), .plain 'd' (by decide)]

/-- A key that no field has. -/
def otherKey : List Piece :=
  [.plain 'x' (by decide)]

/-- A text that is half of a surrogate pair. -/
def halfPair : Tree :=
  .string [.unit ⟨⟨'d', 13, rfl⟩, ⟨'8', 8, rfl⟩, ⟨'0', 0, rfl⟩, ⟨'0', 0, rfl⟩⟩]

/-- One object with a text that stands for nothing under a key of its own, and an empty one. -/
def oddObjects : Items :=
  .ofList [.object .none (.ofList [(otherKey, halfPair)]), .object .none (.ofList [])]

/-- An object that names a field twice. -/
def repeatedField : Items :=
  .ofList [.object .none (.ofList [(idKey, zero), (idKey, zero)])]

theorem holdsObjects_oddObjects :
    HoldsObjects ⟨200, "[\x7b\"x\":\"\\ud800\"\x7d,\x7b\x7d]"⟩ oddObjects :=
  ⟨⟨.none, .none, .none, by rfl⟩, by simp [oddObjects]⟩

theorem holdsObjects_repeatedField :
    HoldsObjects ⟨200, "[\x7b\"Id\":0,\"Id\":0\x7d]"⟩ repeatedField :=
  ⟨⟨.none, .none, .none, by rfl⟩, by simp [repeatedField]⟩

theorem sound_oddObjects (depth : Nat) (gap : Gap) (members : Members)
    (hmem : .object gap members ∈ oddObjects.toList) : Sound depth members.toList := by
  have hkey : string? otherKey = some "x" := by decide
  simp only [oddObjects, Items.toList_ofList, List.mem_pair, Tree.object.injEq] at hmem
  rcases hmem with ⟨-, rfl⟩ | ⟨-, rfl⟩
  · rw [Members.toList_ofList, sound_cons hkey]
    exact ⟨fun hknown => absurd hknown (by decide), sound_nil depth⟩
  · exact sound_nil depth

/-- The odd object does not fail the list, and the repeated field does. -/
theorem products_of_objects_odd_and_repeated :
    (∃ ps, (⟨200, "[\x7b\"x\":\"\\ud800\"\x7d,\x7b\x7d]"⟩ : Reply).products = .ok ps ∧
        ps.length = 2) ∧
      ∃ message, (⟨200, "[\x7b\"Id\":0,\"Id\":0\x7d]"⟩ : Reply).products =
        .error (.decode message) := by
  constructor
  · obtain ⟨ps, hps, hall⟩ :=
      (products_of_objects _ _ rfl holdsObjects_oddObjects).1 (sound_oddObjects _)
    exact ⟨ps, hps, hall.length_eq.symm⟩
  · refine (products_of_objects _ _ rfl holdsObjects_repeatedField).2
      ⟨.none, .ofList [(idKey, zero), (idKey, zero)], by simp [repeatedField], fun h => ?_⟩
    have honce := h.once
    rw [Members.toList_ofList] at honce
    revert honce
    decide

/-- A successful reply with a list of one object, which names a field twice: no product is read of
it. -/
theorem list_fails_for_repeated_field :
    (⟨200, "[\x7b\"Id\":0,\"Id\":0\x7d]"⟩ : Reply).isSuccess = true ∧
      HoldsObjects ⟨200, "[\x7b\"Id\":0,\"Id\":0\x7d]"⟩ repeatedField ∧
      (⟨200, "[\x7b\"Id\":0,\"Id\":0\x7d]"⟩ : Reply).products =
        .error (.decode "duplicate field `Id` at line 1 column 13") := by
  refine ⟨rfl, holdsObjects_repeatedField, ?_⟩
  with_unfolding_all rfl

end Reply

end Storefront
