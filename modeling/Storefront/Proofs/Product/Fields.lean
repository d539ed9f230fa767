import Mathlib.Data.List.Nodup
import Storefront.Product.Record
import Storefront.Proofs.Json.Skipper

/-! # What the fields of a product are read from

An object that can be read as a value, with no key twice, can be read as a product. Each field is
read off the member with its key and nothing else. What has another type is missing. -/

namespace Storefront

namespace Product

open Storefront.Json

variable {depth : Nat} {cs rest : List Char} {key : String} {v : Value}
  {ms : List (String × Value)}

/-! ## Looking up members -/

/-- Where no key stands twice, the value with a key is that of the member there is. -/
theorem lookup_eq_some_iff (hkeys : (ms.map Prod.fst).Nodup) :
    List.lookup key ms = some v ↔ (key, v) ∈ ms := by
  induction ms with
  | nil => simp
  | cons m ms ih =>
      obtain ⟨other, w⟩ := m
      rw [List.map_cons, List.nodup_cons] at hkeys
      by_cases heq : key = other
      · subst heq
        have habsent : (key, v) ∉ ms := fun hmem =>
          hkeys.1 (List.mem_map.mpr ⟨_, hmem, rfl⟩)
        rw [List.lookup_cons_self, Option.some.injEq, List.mem_cons, or_iff_left habsent,
          Prod.mk.injEq, eq_comm, eq_self, true_and]
      · have hbeq : (key == other) = false := beq_eq_false_iff_ne.mpr heq
        rw [List.lookup_cons, hbeq, List.mem_cons, Prod.mk.injEq, ih hkeys.2]
        simp [heq]

theorem lookup_eq_none (hkey : key ∉ ms.map Prod.fst) : List.lookup key ms = none := by
  rw [List.lookup_eq_none_iff]
  intro m hm
  have hne : key ≠ m.1 := fun heq => hkey (List.mem_map.mpr ⟨m, hm, heq.symm⟩)
  exact bne_iff_ne.mpr hne

theorem nodup_keys_reverse (hkeys : (ms.map Prod.fst).Nodup) :
    (ms.reverse.map Prod.fst).Nodup := by
  rw [List.map_reverse, List.nodup_reverse]
  exact hkeys

/-! ## The members of a product -/

/-- Whether a product has a field with the key of a member. -/
def isKnown (m : String × Value) : Bool :=
  fieldNames.contains m.1

theorem find?_field (depth : Nat) (key : String) (names : List String) :
    (names.map (field depth)).find? (fun f => f.name == key) =
      if names.contains key then some (field depth key) else none := by
  induction names with
  | nil => rfl
  | cons name names ih =>
      by_cases heq : name = key
      · subst heq
        simp [field]
      · have hname : (name == key) = false := beq_eq_false_iff_ne.mpr heq
        have hkey : (key == name) = false := beq_eq_false_iff_ne.mpr (Ne.symm heq)
        have hfield : ((field depth name).name == key) = false := hname
        rw [List.map_cons, List.find?_cons_of_neg (by rw [hfield]; exact Bool.false_ne_true), ih,
          List.contains_cons, hkey, Bool.false_or]

/-- The reader of a product keeps of a member what it has a field for. -/
theorem recordMember_fields {read out : List (String × Value)}
    (h : anyMember depth read key cs = .ok (out, rest)) (hkeys : (out.map Prod.fst).Nodup) :
    recordMember (fieldNames.map (field depth)) (read.filter isKnown) key cs =
      .ok (out.filter isKnown, rest) := by
  obtain ⟨start, hcolon, h⟩ := exists_of_bind_eq_ok h
  obtain ⟨⟨v, after⟩, hvalue, h⟩ := exists_of_bind_eq_ok h
  obtain ⟨rfl, rfl⟩ := Prod.mk.inj (Except.ok.inj h)
  rw [List.map_cons, List.nodup_cons] at hkeys
  rw [recordMember, find?_field]
  cases hknown : fieldNames.contains key with
  | false =>
      rw [List.filter_cons_of_neg (by rw [isKnown, hknown]; exact Bool.false_ne_true)]
      simp only [Bool.false_eq_true, if_false, bind, Except.bind, hcolon,
        skipValue_of_value hvalue]
  | true =>
      have hunset : List.lookup key (read.filter isKnown) = none :=
        lookup_eq_none fun hmem => hkeys.1 (List.Sublist.subset (List.filter_sublist.map _) hmem)
      rw [List.filter_cons_of_pos (by rw [isKnown, hknown])]
      simp only [if_true, field, hunset, Option.isSome_none, Bool.false_eq_true, if_false, bind,
        Except.bind, hcolon, hvalue]

theorem ofValues_congr {f g : String → Option Value} (h : ∀ key ∈ fieldNames, f key = g key) :
    ofValues f = ofValues g := by
  simp only [fieldNames, List.forall_mem_cons] at h
  simp only [ofValues, h]

/-- Keys that stand once in the end have stood once all along. -/
theorem nodup_of_anyMember (read : List (String × Value)) (key : String) (cs : List Char)
    (out : List (String × Value)) (rest : List Char)
    (h : anyMember depth read key cs = .ok (out, rest)) (hkeys : (out.map Prod.fst).Nodup) :
    (read.map Prod.fst).Nodup := by
  obtain ⟨start, -, h⟩ := exists_of_bind_eq_ok h
  obtain ⟨⟨v, after⟩, -, h⟩ := exists_of_bind_eq_ok h
  obtain ⟨rfl, -⟩ := Prod.mk.inj (Except.ok.inj h)
  exact (List.nodup_cons.mp hkeys).2

/-- What a product has fields for can be looked up among the members that were read, in any
order. -/
theorem ofValues_filter_reverse (hkeys : (ms.map Prod.fst).Nodup) :
    ofValues (fun key => List.lookup key (ms.reverse.filter isKnown)) =
      ofValues fun key => List.lookup key ms := by
  refine ofValues_congr fun key hkey => Option.ext fun v => ?_
  have hfilter : ((ms.reverse.filter isKnown).map Prod.fst).Nodup :=
    (nodup_keys_reverse hkeys).sublist (List.filter_sublist.map _)
  have hknown : isKnown (key, v) = true := List.contains_iff_mem.mpr hkey
  rw [lookup_eq_some_iff hfilter, lookup_eq_some_iff hkeys, List.mem_filter, List.mem_reverse,
    and_iff_left hknown]

/-- An object that is read as a value, with no key twice, is read as a product. -/
theorem read_of_value (h : value depth cs = .ok (.object ms, rest))
    (hkeys : (ms.map Prod.fst).Nodup) :
    read depth cs = .ok (ofValues fun key => List.lookup key ms, rest) := by
  obtain ⟨deep, text, rfl, hskip, hobject⟩ := opened_of_value h
  have hmembers : objectTail (recordMember (fieldNames.map (field deep))) [] text =
      .ok (ms.reverse.filter isKnown, rest) :=
    (members_of_members nodup_of_anyMember
      (fun _ _ _ _ _ hread hfits => recordMember_fields hread hfits) hobject
      (nodup_keys_reverse hkeys)).2
  rw [read, record, hskip, ← ofValues_filter_reverse hkeys]
  simp only [hmembers]
  rfl

/-! ## Each field by itself -/

/-- Every field is there just if the member with its key has a value of its type, and is that
value. -/
structure ReadsOff (ms : List (String × Value)) (p : Product) : Prop where
  id_text : ∀ s, p.id = some (.text s) ↔ ("Id", .string s) ∈ ms
  id_number : ∀ n, p.id = some (.number n) ↔ ("Id", .number n) ∈ ms
  name : ∀ s, p.name = some s ↔ ("Name", .string s) ∈ ms
  image : ∀ s, p.image = some s ↔ ("Image", .string s) ∈ ms
  category : ∀ s, p.category = some s ↔ ("Category", .string s) ∈ ms
  ratings : ∀ x, p.ratings = some x ↔ ∃ n, ("Ratings", .number n) ∈ ms ∧ n.toBinary64 = x
  noRatings : ∀ x, p.noRatings = some x ↔ ∃ n, ("NoRatings", .number n) ∈ ms ∧ n.toBinary64 = x
  discountPrice : ∀ x, p.discountPrice = some x ↔
    ∃ n, ("DiscountPrice", .number n) ∈ ms ∧ n.toBinary64 = x
  actualPrice : ∀ x, p.actualPrice = some x ↔
    ∃ n, ("ActualPrice", .number n) ∈ ms ∧ n.toBinary64 = x
  keywords : ∀ ks, p.keywords = some ks ↔ ("Keywords", .array (ks.map .string)) ∈ ms

theorem asText?_eq_some_iff {s : String} : asText? v = some s ↔ v = .string s := by
  cases v <;> simp [asText?]

theorem asId?_eq_text_iff {s : String} : asId? v = some (.text s) ↔ v = .string s := by
  cases v <;> simp [asId?]

theorem asId?_eq_number_iff {n : Number} : asId? v = some (.number n) ↔ v = .number n := by
  cases v <;> simp [asId?]

theorem asNumber?_eq_some_iff {x : Binary64} :
    asNumber? v = some x ↔ ∃ n, v = .number n ∧ n.toBinary64 = x := by
  cases v <;> simp [asNumber?]

theorem mapM_asText?_eq_some_iff {vs : List Value} {ks : List String} :
    vs.mapM asText? = some ks ↔ vs = ks.map .string := by
  induction vs generalizing ks with
  | nil => cases ks <;> simp
  | cons v vs ih =>
      cases ks with
      | nil => simp [List.mapM_cons, Option.bind_eq_some_iff]
      | cons k ks => simp [List.mapM_cons, Option.bind_eq_some_iff, asText?_eq_some_iff, ih]

theorem asTexts?_eq_some_iff {ks : List String} :
    asTexts? v = some ks ↔ v = .array (ks.map .string) := by
  cases v <;> simp [asTexts?, mapM_asText?_eq_some_iff]

/-- What a field is read as goes back to the member with its key. -/
theorem bind_lookup_eq_some_iff {α : Type} {read? : Value → Option α} {x : α}
    (hkeys : (ms.map Prod.fst).Nodup) :
    (List.lookup key ms).bind read? = some x ↔ ∃ v, (key, v) ∈ ms ∧ read? v = some x := by
  rw [Option.bind_eq_some_iff]
  exact exists_congr fun v => and_congr_left' (lookup_eq_some_iff hkeys)

theorem readsOff_ofValues (hkeys : (ms.map Prod.fst).Nodup) :
    ReadsOff ms (ofValues fun key => List.lookup key ms) := by
  have htext : ∀ key s, (List.lookup key ms).bind asText? = some s ↔ (key, .string s) ∈ ms := by
    intro key s
    simp [bind_lookup_eq_some_iff hkeys, asText?_eq_some_iff]
  have hnumber : ∀ key x, (List.lookup key ms).bind asNumber? = some x ↔
      ∃ n, (key, .number n) ∈ ms ∧ n.toBinary64 = x := by
    intro key x
    simp [bind_lookup_eq_some_iff hkeys, asNumber?_eq_some_iff]
  have hid : ∀ i, (ofValues fun key => List.lookup key ms).id = some i ↔
      ∃ v, ("Id", v) ∈ ms ∧ asId? v = some i := fun i => bind_lookup_eq_some_iff hkeys
  have hkeywords : ∀ ks, (ofValues fun key => List.lookup key ms).keywords = some ks ↔
      ∃ v, ("Keywords", v) ∈ ms ∧ asTexts? v = some ks := fun ks => bind_lookup_eq_some_iff hkeys
  refine ⟨?_, ?_, htext "Name", htext "Image", htext "Category", hnumber "Ratings",
    hnumber "NoRatings", hnumber "DiscountPrice", hnumber "ActualPrice", ?_⟩
  · intro s
    simp [hid, asId?_eq_text_iff]
  · intro n
    simp [hid, asId?_eq_number_iff]
  · intro ks
    simp [hkeywords, asTexts?_eq_some_iff]

/-! ## Texts -/

theorem parse_of_value {text : String}
    (h : ended (value depthLimit text.toList) = .ok (.object ms))
    (hkeys : (ms.map Prod.fst).Nodup) :
    parse text = .ok (ofValues fun key => List.lookup key ms) := by
  obtain ⟨rest, hvalue, hskip⟩ := ended_eq_ok_iff.mp h
  exact ended_eq_ok_iff.mpr ⟨rest, read_of_value hvalue hkeys, hskip⟩

/-- A list of objects that is read as a value is read as a list of their products. -/
theorem list_of_value {vs : List Value} (h : value depth cs = .ok (.array vs, rest))
    (hobjects : ∀ v ∈ vs, ∃ ms, v = .object ms ∧ (ms.map Prod.fst).Nodup) :
    ∃ ps, list depth read cs = .ok (ps, rest) ∧
      List.Forall₂ (fun v p => ∃ ms, v = .object ms ∧ ReadsOff ms p) vs ps := by
  obtain ⟨deep, text, rfl, hskip, hitems⟩ := opened_of_value h
  have hitem : ∀ cs v rest, value deep cs = .ok (v, rest) →
      (∃ ms, v = .object ms ∧ (ms.map Prod.fst).Nodup) →
      ∃ p, read deep cs = .ok (p, rest) ∧ ∃ ms, v = .object ms ∧ ReadsOff ms p := by
    rintro cs _ rest hvalue ⟨ms, rfl, hkeys⟩
    exact ⟨_, read_of_value hvalue hkeys, ms, rfl, readsOff_ofValues hkeys⟩
  obtain ⟨ps, hps, hall⟩ := items_of_items hitem hitems hobjects
  refine ⟨ps, ?_, hall⟩
  rw [list, hskip]
  exact hps

/-- A text that holds an object in which no key stands twice holds a product, each of whose fields is
read off the member with its key. So other members and the order of all do not matter. A text that
holds a list of such objects holds as many products, in their order. -/
theorem parse_reads_fields_off_members (text : String) :
    (∀ ms, ended (value depthLimit text.toList) = .ok (.object ms) → (ms.map Prod.fst).Nodup →
      ∃ p, parse text = .ok p ∧ ReadsOff ms p) ∧
    (∀ other ms ns, ended (value depthLimit text.toList) = .ok (.object ms) →
      ended (value depthLimit other.toList) = .ok (.object ns) →
      (ms.map Prod.fst).Nodup → (ns.map Prod.fst).Nodup →
      (∀ key ∈ fieldNames, ∀ v, (key, v) ∈ ms ↔ (key, v) ∈ ns) → parse text = parse other) ∧
    (∀ vs, ended (value depthLimit text.toList) = .ok (.array vs) →
      (∀ v ∈ vs, ∃ ms, v = .object ms ∧ (ms.map Prod.fst).Nodup) →
      ∃ ps, ended (list depthLimit read text.toList) = .ok ps ∧
        List.Forall₂ (fun v p => ∃ ms, v = .object ms ∧ ReadsOff ms p) vs ps) := by
  refine ⟨?_, ?_, ?_⟩
  · intro ms hvalue hkeys
    exact ⟨_, parse_of_value hvalue hkeys, readsOff_ofValues hkeys⟩
  · intro other ms ns hms hns hkeys hothers hsame
    rw [parse_of_value hms hkeys, parse_of_value hns hothers]
    refine congrArg _ (ofValues_congr fun key hkey => Option.ext fun v => ?_)
    rw [lookup_eq_some_iff hkeys, lookup_eq_some_iff hothers]
    exact hsame key hkey v
  · intro vs hvalue hobjects
    obtain ⟨rest, hvalue, hskip⟩ := ended_eq_ok_iff.mp hvalue
    obtain ⟨ps, hps, hall⟩ := list_of_value hvalue hobjects
    exact ⟨ps, ended_eq_ok_iff.mpr ⟨rest, hps, hskip⟩, hall⟩

/-- A product with a name, a field of another type, and one that none has. -/
theorem parse_reads_fields_off_members_lamp :
    ∃ p, parse "\x7b\"x\":[0],\"Id\":[],\"Name\":\"Lamp\"\x7d" = .ok p ∧
      p.name = some "Lamp" ∧ p.id = none := by
  have hvalue : ended (value depthLimit "\x7b\"x\":[0],\"Id\":[],\"Name\":\"Lamp\"\x7d".toList) =
      .ok (.object [("x", .array [.number (.natural 0)]), ("Id", .array []),
        ("Name", .string "Lamp")]) := by
    with_unfolding_all rfl
  obtain ⟨p, hp, hreads⟩ := (parse_reads_fields_off_members _).1 _ hvalue (by decide)
  refine ⟨p, hp, (hreads.name "Lamp").mpr (by simp), ?_⟩
  match hid : p.id with
  | none => rfl
  | some (.text s) => simpa using (hreads.id_text s).mp hid
  | some (.number n) => simpa using (hreads.id_number n).mp hid

end Product

end Storefront
