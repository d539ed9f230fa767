import Storefront.Fetch.Outcome
import Storefront.Proofs.Json.Alone
import Storefront.Proofs.Product.Lists

/-! # What becomes of a reply

The status of a reply is looked at first, and its text only if the status tells of success. Then no
text at all, white space and `null` are the empty list, a list whose items can be read is those
items, and anything else cannot be read. What failed is told in the outcome, which has no results
then. -/

namespace Storefront

open Storefront.Json Storefront.Text

namespace Product

theorem takesSpelled_fields (depth : Nat) :
    ∀ f ∈ fieldNames.map (field depth), f.TakesSpelled := by
  intro f hf acc cs out rest h
  obtain ⟨name, -, rfl⟩ := List.mem_map.mp hf
  obtain ⟨⟨v, behind⟩, hvalue, h⟩ := exists_of_bind_eq_ok h
  obtain ⟨-, rfl⟩ := Prod.mk.inj (Except.ok.inj h)
  exact spells_of_value hvalue

theorem takesValues_read (depth : Nat) : TakesValues (read (depth + 1)) :=
  (takesValues_record "struct Product" (fields_take depth) (takesSpelled_fields depth) []).map
    fun found => ofValues fun name => List.lookup name found.1

end Product

namespace Reply

variable {α : Type} {item : Nat → Reader α} {r : Reply} {xs : List α}

/-- The text is `null`, with white space around it. -/
def HoldsNull (r : Reply) : Prop :=
  ∃ before after : Gap, r.text.toList = before.chars ++ (Tree.null.text ++ after.chars)

/-- The text is a list, with white space around it, and its items are read as `xs`, each by itself.
An item lies in the list, so that one list or object less may lie in each other in it than in a
whole text. -/
def HoldsList (item : Nat → Reader α) (r : Reply) (xs : List α) : Prop :=
  ∃ (before gap : Gap) (items : Items) (after : Gap),
    r.text.toList = before.chars ++ ((Tree.array gap items).text ++ after.chars) ∧
      List.Forall₂ (fun t x => item (depthLimit - 1) t.text = .ok (x, [])) items.toList xs

/-! ## Texts -/

/-- A text is read just if it is `null` or a list whose items are read. -/
theorem decode_eq_ok_iff (hitem : TakesValues (item (depthLimit - 1))) {found : Option (List α)} :
    r.decode (listOrNull item) = .ok found ↔
      found = none ∧ r.HoldsNull ∨ ∃ xs, found = some xs ∧ r.HoldsList item xs := by
  have hlist : TakesValues (list depthLimit item) := takesValues_list hitem
  have halone : ∀ t, alone? (list depthLimit item) t =
      t.asList? (alone? (item (depthLimit - 1))) := alone?_list hitem
  have hitems : ∀ (items : Items) (xs : List α),
      items.toList.mapM (alone? (item (depthLimit - 1))) = some xs ↔
        List.Forall₂ (fun t x => item (depthLimit - 1) t.text = .ok (x, [])) items.toList xs := by
    intro items xs
    simp only [mapM_eq_some_iff_forall₂, hitem.alone?_eq_some_iff]
  have hended : r.decode (listOrNull item) = .ok found ↔
      ended (listOrNull item depthLimit r.text.toList) = .ok found := by
    rw [decode]
    cases ended (listOrNull item depthLimit r.text.toList) <;> simp
  rw [hended, listOrNull, (takesValues_optional hlist).ended_eq_ok_iff]
  simp only [alone?_optional hlist]
  constructor
  · rintro ⟨before, t, after, htext, hfound⟩
    by_cases hnull : t = .null
    · subst hnull
      exact .inl ⟨(Option.some.inj hfound).symm, before, after, htext⟩
    · rw [Tree.orNull?_of_ne _ hnull, halone, Option.map_eq_some_iff] at hfound
      obtain ⟨xs, hxs, rfl⟩ := hfound
      obtain ⟨gap, items, rfl, hmapM⟩ := Tree.asList?_eq_some_iff.mp hxs
      exact .inr ⟨xs, rfl, before, gap, items, after, htext, (hitems items xs).mp hmapM⟩
  · rintro (⟨rfl, before, after, htext⟩ | ⟨xs, rfl, before, gap, items, after, htext, hall⟩)
    · exact ⟨before, .null, after, htext, rfl⟩
    · refine ⟨before, .array gap items, after, htext, ?_⟩
      rw [Tree.orNull?_of_ne _ (by simp), halone, Option.map_eq_some_iff]
      exact ⟨xs, (hitems items xs).mpr hall, rfl⟩

theorem mem_of_holdsNull (h : r.HoldsNull) : 'n' ∈ r.text.toList := by
  obtain ⟨before, after, htext⟩ := h
  simp [htext, Tree.text]

theorem mem_of_holdsList (h : r.HoldsList item xs) : '[' ∈ r.text.toList := by
  obtain ⟨before, gap, items, after, htext, -⟩ := h
  simp [htext, Tree.text]

theorem blank_of_holdsNull (h : r.HoldsNull) : blank r.text = false :=
  blank_eq_false_of_mem (mem_of_holdsNull h) (by decide)

theorem blank_of_holdsList (h : r.HoldsList item xs) : blank r.text = false :=
  blank_eq_false_of_mem (mem_of_holdsList h) (by decide)

/-! ## Answers -/

/-- What an answer to a request says of a reply to it. -/
structure Settles (item : Nat → Reader α) (answer : Reply → Except FetchError (List α)) :
    Prop where
  refused : ∀ r, ¬ (200 ≤ r.status ∧ r.status ≤ 299) → answer r = .error (.server r.status r.text)
  not_refused : ∀ r, 200 ≤ r.status ∧ r.status ≤ 299 → ∀ status body,
    answer r ≠ .error (.server status body)
  empty : ∀ r, 200 ≤ r.status ∧ r.status ≤ 299 → blank r.text = true ∨ r.HoldsNull →
    answer r = .ok []
  listed : ∀ r xs, 200 ≤ r.status ∧ r.status ≤ 299 → r.HoldsList item xs → answer r = .ok xs
  malformed : ∀ r, 200 ≤ r.status ∧ r.status ≤ 299 → blank r.text = false → ¬ r.HoldsNull →
    (∀ xs, ¬ r.HoldsList item xs) → ∃ message, answer r = .error (.decode message)

theorem isSuccess_iff (r : Reply) :
    r.isSuccess = true ↔ 200 ≤ r.status ∧ r.status ≤ 299 := by
  rw [isSuccess, Bool.and_eq_true, decide_eq_true_eq, decide_eq_true_eq, Nat.lt_succ_iff]

theorem items_of_not_success (item : Nat → Reader α) (h : ¬ r.isSuccess = true) :
    r.items item = .error (.server r.status r.text) := by
  have hstatus : r.checkStatus = .error (.server r.status r.text) := if_neg h
  rw [items, hstatus]
  rfl

section Success

variable (hsuccess : r.isSuccess = true)

include hsuccess

theorem items_of_blank (item : Nat → Reader α) (hblank : blank r.text = true) :
    r.items item = .ok [] := by
  have hstatus : r.checkStatus = .ok r := if_pos hsuccess
  refine (bind_of_eq_ok hstatus _).trans ?_
  rw [hblank]
  rfl

variable (hitem : TakesValues (item (depthLimit - 1)))

include hitem

theorem items_of_holdsNull (h : r.HoldsNull) : r.items item = .ok [] := by
  have hdecode := (decode_eq_ok_iff hitem).mpr (.inl ⟨rfl, h⟩)
  rw [items_eq_decode item hsuccess (blank_of_holdsNull h), bind_of_eq_ok hdecode]
  rfl

theorem items_of_holdsList (h : r.HoldsList item xs) : r.items item = .ok xs := by
  have hdecode := (decode_eq_ok_iff hitem).mpr (.inr ⟨xs, rfl, h⟩)
  rw [items_eq_decode item hsuccess (blank_of_holdsList h), bind_of_eq_ok hdecode]
  rfl

theorem items_of_malformed (hblank : blank r.text = false) (hnull : ¬ r.HoldsNull)
    (hlist : ∀ xs, ¬ r.HoldsList item xs) : ∃ message, r.items item = .error (.decode message) := by
  have hnone : (r.decode (listOrNull item)).toOption = none := by
    refine Option.eq_none_iff_forall_ne_some.mpr fun found hfound => ?_
    rcases (decode_eq_ok_iff hitem).mp (toOption_eq_some_iff.mp hfound) with ⟨-, h⟩ | ⟨xs, -, h⟩
    · exact hnull h
    · exact hlist xs h
  obtain ⟨message, hmessage⟩ := decode_refuses hnone
  exact ⟨message, by rw [items_eq_decode item hsuccess hblank, hmessage]; rfl⟩

/-- A reply that tells of success is not taken for a refusal, whatever it holds. -/
theorem items_ne_server (status : Nat) (body : String) :
    r.items item ≠ .error (.server status body) := by
  intro h
  by_cases hblank : blank r.text = true
  · rw [items_of_blank hsuccess item hblank] at h
    cases h
  by_cases hnull : r.HoldsNull
  · rw [items_of_holdsNull hsuccess hitem hnull] at h
    cases h
  by_cases hlist : ∃ xs, r.HoldsList item xs
  · obtain ⟨xs, hxs⟩ := hlist
    rw [items_of_holdsList hsuccess hitem hxs] at h
    cases h
  · obtain ⟨message, hmessage⟩ := items_of_malformed hsuccess hitem
      (Bool.eq_false_iff.mpr hblank) hnull (not_exists.mp hlist)
    rw [hmessage] at h
    cases h

end Success

/-- Requests for lists settle replies, whatever values their items are. -/
theorem settles_items (hitem : TakesValues (item (depthLimit - 1))) :
    Settles item (items item) :=
  { refused := fun r hstatus => items_of_not_success item (mt r.isSuccess_iff.mp hstatus)
    not_refused := fun r hstatus => items_ne_server (r.isSuccess_iff.mpr hstatus) hitem
    empty := fun r hstatus h => h.elim (items_of_blank (r.isSuccess_iff.mpr hstatus) item)
      (items_of_holdsNull (r.isSuccess_iff.mpr hstatus) hitem)
    listed := fun r _ hstatus => items_of_holdsList (r.isSuccess_iff.mpr hstatus) hitem
    malformed := fun r hstatus => items_of_malformed (r.isSuccess_iff.mpr hstatus) hitem }

/-! ## Written lists -/

theorem string_written (s : String) : string (writeString s) = .ok (s, []) := by
  have hread := readsAs_string (.ofString s) [] delimits_nil
  rw [List.append_nil, text_ofString, asString?_ofString, Option.map_some] at hread
  exact toOption_eq_some_iff.mp hread

/-- A list of strings that was written is read back, with white space around it. -/
theorem holdsList_written (ss : List String) (before after : Gap) (status : Nat) :
    HoldsList (fun _ => string)
      ⟨status, String.ofList
        (before.chars ++ (writeList (ss.map writeString) ++ after.chars))⟩ ss := by
  refine ⟨before, .none, .ofList (ss.map .ofString), after, ?_, ?_⟩
  · have htext := text_ofList (ss.map .ofString)
    rw [List.map_map, Function.comp_def] at htext
    simp only [text_ofString] at htext
    rw [String.toList_ofList, ← htext, Tree.ofList]
  · rw [Items.toList_ofList, List.forall₂_map_left_iff, List.forall₂_same]
    intro s _
    rw [text_ofString]
    exact string_written s

end Reply

namespace FetchError

/-- The refusal of a request tells the status and the text of the reply. -/
theorem message_server (status : Nat) (body : String) :
    (Nat.repr status).toList <:+: (server status body).message.toList ∧
      body.toList <:+ (server status body).message.toList := by
  unfold FetchError.message
  simp only [String.toList_append]
  constructor
  · exact (List.infix_append _ _ _).trans (List.prefix_append _ _).isInfix
  · exact List.suffix_append _ _

end FetchError

namespace Outcome

theorem ofResult_error (e : FetchError) :
    (ofResult (.error e)).results = [] ∧
      ∃ message, (ofResult (.error e)).error? = some message ∧
        e.message.toList <:+ message.toList := by
  refine ⟨rfl, _, rfl, ?_⟩
  rw [String.toList_append]
  exact List.suffix_append _ _

theorem ofResult_ok (ps : List Product) :
    (ofResult (.ok ps)).results = ps ∧ (ofResult (.ok ps)).error? = none :=
  ⟨rfl, rfl⟩

/-- Both kinds of requests settle replies by their status first and then by their text, whatever it
holds; a list of strings that was written is the answer to a lookup that succeeded. An answer is
shown as it is, and a refusal by its text with no results, where the text of a refused request tells
the status and what stands in the reply. -/
theorem answer_and_outcome_of_reply :
    Reply.Settles (fun _ => string) Reply.suggestions ∧
      Reply.Settles Product.read Reply.products ∧
      (∀ (ss : List String) (before after : Gap) (status : Nat), 200 ≤ status ∧ status ≤ 299 →
        Reply.suggestions ⟨status, String.ofList
          (before.chars ++ (writeList (ss.map writeString) ++ after.chars))⟩ = .ok ss) ∧
      (∀ e : FetchError, (ofResult (.error e)).results = [] ∧
        ∃ message, (ofResult (.error e)).error? = some message ∧
          e.message.toList <:+ message.toList) ∧
      (∀ (status : Nat) (body : String),
        (Nat.repr status).toList <:+: (FetchError.server status body).message.toList ∧
          body.toList <:+ (FetchError.server status body).message.toList) ∧
      ∀ ps : List Product,
        (ofResult (.ok ps)).results = ps ∧ (ofResult (.ok ps)).error? = none := by
  have hsuggestions : Reply.Settles (fun _ => string) Reply.suggestions :=
    Reply.settles_items takesValues_string
  exact ⟨hsuggestions, Reply.settles_items (Product.takesValues_read (depthLimit - 2)),
    fun ss before after status hstatus =>
      hsuggestions.listed _ ss hstatus (Reply.holdsList_written ss before after status),
    ofResult_error, FetchError.message_server, ofResult_ok⟩

/-- A list and `null` with white space around them, a refusal whose text is a list, and a text that
is none. -/
theorem answers_of_four_replies :
    Reply.suggestions ⟨200, " [\"a\"]\n"⟩ = .ok ["a"] ∧
      Reply.suggestions ⟨204, " null"⟩ = .ok [] ∧
      Reply.products ⟨503, "[]"⟩ = .error (.server 503 "[]") ∧
      ∃ message, Reply.products ⟨200, "x"⟩ = .error (.decode message) := by
  obtain ⟨hsuggestions, hproducts, hwritten, -⟩ := answer_and_outcome_of_reply
  refine ⟨hwritten ["a"] ⟨[' '], by simp⟩ ⟨['\n'], by simp⟩ 200 (by decide),
    hsuggestions.empty _ (by decide) (.inr ⟨⟨[' '], by simp⟩, .none, rfl⟩),
    hproducts.refused _ (by decide), hproducts.malformed _ (by decide) (by decide) ?_ ?_⟩
  · exact fun h => absurd (Reply.mem_of_holdsNull h) (by decide)
  · exact fun _ h => absurd (Reply.mem_of_holdsList h) (by decide)

end Outcome

end Storefront
