import Storefront.Fetch.Request
import Storefront.Proofs.Json.Records

/-! # What requests carry

The body of a request is an object that is read back as the request it was written for, whatever
characters its texts hold. So no two requests have one body. -/

namespace Storefront

open Storefront.Json

namespace SuggestionRequest

def members (r : SuggestionRequest) : List (String × Tree) :=
  [("query", .ofString r.query)]

theorem text_members (r : SuggestionRequest) : (Tree.ofMembers r.members).text = r.write := by
  simp only [members, write, text_ofMembers, List.map_cons, List.map_nil, text_ofString]

/-- The query is a string and is all there is. -/
def take? (_ : Member (Option String)) (_ : Option String) (t : Tree) : Option (Option String) :=
  t.asString?.map some

theorem fields_take : ∀ f ∈ fields, f.Takes (take? f) := by
  intro f hf acc t gap rest hrest
  obtain rfl := List.mem_singleton.mp hf
  refine (toOption_bind _ _).trans ?_
  rw [string_gap, readsAs_string t rest hrest, take?]
  cases t.asString? <;> rfl

theorem read_write (r : SuggestionRequest) : read depthLimit r.write = .ok (r, []) := by
  have hgathered : r.members.foldlM (gatherField? fields take?) none = some (some r.query) := by
    simp [members, gatherField?, fields, take?, asString?_ofString]
  have hrecord : record "struct AssociateRequest" (fun _ => fields) none depthLimit r.write =
      .ok ((some r.query, none), []) := by
    rw [← text_members]
    exact record_written _ fields_take hgathered
  exact bind_of_eq_ok hrecord _

theorem parse_write (r : SuggestionRequest) : parse (String.ofList r.write) = .ok r := by
  rw [parse, String.toList_ofList, ended_eq_ok_iff]
  exact ⟨[], read_write r, rfl⟩

end SuggestionRequest

namespace SearchRequest

def members (r : SearchRequest) : List (String × Tree) :=
  [("Query", .ofString r.query), ("Classes", .ofList (r.classes.map .ofString))]

theorem text_members (r : SearchRequest) : (Tree.ofMembers r.members).text = r.write := by
  simp only [members, write, text_ofMembers, List.map_cons, List.map_nil, text_ofString,
    text_ofList, List.map_map, Function.comp_def]

/-- The query is a string, and the classes are a list of strings. -/
def take? (f : Member Draft) (d : Draft) (t : Tree) : Option Draft :=
  if f.name = "Query" then t.asString?.map fun s => { d with query := some s }
  else (t.asList? Tree.asString?).map fun labels => { d with classes := some labels }

theorem fields_take (depth : Nat) : ∀ f ∈ fields (depth + 1), f.Takes (take? f) := by
  intro f hf acc t gap rest hrest
  rw [fields, List.mem_pair] at hf
  rcases hf with rfl | rfl
  · refine (toOption_bind _ _).trans ?_
    rw [string_gap, readsAs_string t rest hrest, take?, if_pos rfl]
    cases t.asString? <;> rfl
  · refine (toOption_bind _ _).trans ?_
    rw [list_gap, readsAs_list readsAs_string t rest hrest, take?,
      if_neg (show "Classes" ≠ "Query" by decide)]
    cases t.asList? Tree.asString? <;> rfl

theorem read_write (r : SearchRequest) : read depthLimit r.write = .ok (r, []) := by
  have hclasses : (Tree.ofList (r.classes.map .ofString)).asList? Tree.asString? =
      some r.classes := by
    rw [asList?_ofList, mapM_written asString?_ofString]
  have hgathered : r.members.foldlM (gatherField? (fields 126) take?) ⟨none, none⟩ =
      some ⟨some r.query, some r.classes⟩ := by
    simp [members, gatherField?, fields, take?, asString?_ofString, hclasses]
  have hrecord : record "struct SearchRequest" fields ⟨none, none⟩ depthLimit r.write =
      .ok ((⟨some r.query, some r.classes⟩, none), []) := by
    rw [← text_members]
    exact record_written _ (fields_take 125) hgathered
  exact bind_of_eq_ok hrecord _

theorem parse_write (r : SearchRequest) : parse (String.ofList r.write) = .ok r := by
  rw [parse, String.toList_ofList, ended_eq_ok_iff]
  exact ⟨[], read_write r, rfl⟩

theorem write_inj {r r' : SearchRequest} : r.write = r'.write ↔ r = r' := by
  constructor
  · intro h
    have hparse := parse_write r
    rw [h, parse_write r'] at hparse
    exact (Except.ok.inj hparse).symm
  · exact congrArg write

end SearchRequest

/-- The body of a search is read back as the query and the labels of the state that it was made of,
in the order in which they are shown, and the body of a lookup as its query. Two states have one
body just if they have one query and the same labels in the same order. -/
theorem SearchRequest.body_carries_query_and_labels :
    (∀ s : SearchState, SearchRequest.parse (String.ofList (SearchRequest.ofState s).write) =
        .ok { query := s.query, classes := s.categories.labels }) ∧
      (∀ query : String,
        SuggestionRequest.parse (String.ofList (SuggestionRequest.write { query })) =
          .ok { query }) ∧
      ∀ s t : SearchState,
        (SearchRequest.ofState s).write = (SearchRequest.ofState t).write ↔
          s.query = t.query ∧ s.categories.labels = t.categories.labels := by
  refine ⟨fun s => parse_write (ofState s), fun query => SuggestionRequest.parse_write { query },
    fun s t => ?_⟩
  rw [write_inj, ofState, ofState, SearchRequest.mk.injEq]

/-- Quotes and line breaks of the query are escaped. -/
example :
    SearchRequest.write { query := "\"é\"\n", classes := ["rugs"] } =
      "\x7b\"Query\":\"\\\"é\\\"\\n\",\"Classes\":[\"rugs\"]\x7d".toList := by
  decide

end Storefront
