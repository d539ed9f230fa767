import Storefront.Location
import Storefront.Proofs.Url.Query
import Storefront.Proofs.Url.Relative

/-! # Written locations are read back

A location is written as its path and its encoded pairs. Whatever a reader makes of the path, it
finds the pairs; and it finds a location at all unless the path begins like something else. -/

namespace Storefront

open Storefront.Text

namespace Location

open Url

variable {l l' : Location}

/-- What the written form of a location adds to its path. -/
def tail (l : Location) : List Char :=
  if l.pairs.isEmpty then [] else '?' :: Form.encode l.pairs

theorem toList_href (l : Location) : l.href.toList = l.path.toList ++ l.tail := by
  unfold href tail
  split <;> simp [queryString]

theorem tail_cases (l : Location) :
    (l.pairs = [] ∧ l.tail = []) ∨ l.tail = '?' :: Form.encode l.pairs := by
  unfold tail
  split
  · rename_i h
    exact .inl ⟨List.isEmpty_iff.mp h, rfl⟩
  · exact .inr rfl

theorem head?_tail (l : Location) : ∀ c ∈ l.tail.head?, c = '?' := by
  rcases l.tail_cases with ⟨-, htail⟩ | htail <;> simp [htail]

/-- Whether the path is one that a URL can have. -/
def HasUrlPath (l : Location) : Prop :=
  ∀ c ∈ l.path.toList, standsInPath c = true

theorem hasUrlPath_of_parse {href : String} (h : parse href = .ok l) : l.HasUrlPath := by
  unfold parse at h
  split at h
  · rename_i u hread
    cases h
    obtain ⟨kind, scheme, authority, stands⟩ := endsIn_read hread
    simpa [HasUrlPath, ofUrl, finish] using stands
  · cases h

/-- A reader sees the path without the white space at its ends, and what was added to it. -/
theorem exists_joined_trimmed_href (h : l.HasUrlPath) :
    ∃ front, front <+: l.path.toList.dropWhile isC0OrSpace ∧
      joined (trimmed l.href.toList) = front ++ l.tail := by
  have hpath : ∀ c ∈ l.path.toList.dropWhile isC0OrSpace, isTabOrBreak c = false := fun c hc =>
    not_isTabOrBreak_of_standsInPath (h c ((List.dropWhile_suffix _).subset hc))
  rcases l.tail_cases with ⟨-, htail⟩ | htail
  · refine ⟨trimmed l.path.toList, trimmed_prefix_dropWhile _, ?_⟩
    rw [toList_href, htail, List.append_nil, List.append_nil]
    exact joined_eq_self fun c hc => hpath c ((trimmed_prefix_dropWhile _).subset hc)
  · refine ⟨_, List.prefix_rfl, ?_⟩
    rw [toList_href, htail, trimmed_append (forall_mem_form_encode l.pairs)]
    refine joined_eq_self fun c hc => ?_
    rcases List.mem_append.mp hc with hc | hc
    · exact hpath c hc
    rcases List.mem_cons.mp hc with rfl | hc
    · decide
    · exact (excluded_of_standsInQuery (forall_mem_form_encode l.pairs c hc)).2.1

theorem tailOf_href (h : l.HasUrlPath) : tailOf (joined (trimmed l.href.toList)) = l.tail := by
  obtain ⟨front, hfront, heq⟩ := exists_joined_trimmed_href h
  have hend : ∀ c ∈ front, isPathEnd c = false := fun c hc =>
    (standsInPath_iff.mp (h c ((List.dropWhile_suffix _).subset (hfront.subset hc)))).2.2
  rw [heq, tailOf_append hend]
  rcases l.tail_cases with ⟨-, htail⟩ | htail
  · rw [htail]
    rfl
  · rw [htail, tailOf_cons_of_isPathEnd rfl]

/-- The pairs of a location are read off what its written form adds to a path, whatever the path. -/
theorem pairs_ofUrl_finish (kind : Kind) (scheme : String) (authority : Option Authority)
    (path : List Char) : (ofUrl (finish kind scheme authority path l.tail)).pairs = l.pairs := by
  rcases l.tail_cases with ⟨hpairs, htail⟩ | htail
  · rw [htail, hpairs]
    rfl
  · rw [htail]
    simp only [ofUrl, finish, readTail_question kind (forall_mem_form_encode l.pairs),
      String.toList_ofList, Form.decode_utf8_encode]

/-- Where a written location is read at all, its pairs are read back. -/
theorem pairs_eq_of_parse_href (hpath : l.HasUrlPath) (h : parse l.href = .ok l') :
    l'.pairs = l.pairs := by
  unfold parse at h
  split at h
  · rename_i u hread
    cases h
    have hends := endsIn_read hread
    rw [tailOf_href hpath] at hends
    obtain ⟨kind, scheme, authority, -⟩ := hends
    exact pairs_ofUrl_finish kind scheme authority _
  · cases h

/-- A location whose path is read as one can be written down and read. -/
theorem exists_parse_href (hpath : l.HasUrlPath) (h : readsAsPath l.path = true) :
    ∃ l', parse l.href = .ok l' := by
  simp only [readsAsPath, Bool.and_eq_true, Option.isNone_iff_eq_none, Bool.not_eq_true'] at h
  obtain ⟨front, hfront, heq⟩ := exists_joined_trimmed_href hpath
  have hscheme := scheme?_append_eq_none h.1 hfront l.head?_tail
  obtain ⟨u, hu⟩ : ∃ u, readRelative origin (front ++ l.tail) = .ok u :=
    exists_readRelative rfl (opensAuthority_append_eq_false h.2 hfront l.head?_tail)
  refine ⟨ofUrl u, ?_⟩
  simp only [parse, Url.read, heq, hscheme, hu]

end Location

end Storefront
