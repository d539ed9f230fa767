import Storefront.Proofs.Location
import Storefront.Proofs.Location.Parameters
import Storefront.Proofs.Url.Normal

/-! # Locations with normal paths are read back whole

The path of a URL of the web is normal, and changes of the parameters leave it alone. Its written form
names the same location again, unless it begins like an authority. -/

namespace Storefront.Location

open Storefront.Text Url

variable {l : Location}

/-- Nothing of a written location counts as white space where the path is normal. -/
theorem forall_mem_href (h : NormalPath l.path.toList) :
    ∀ c ∈ l.href.toList, isC0OrSpace c = false := by
  intro c hc
  rw [toList_href, List.mem_append] at hc
  rcases hc with hc | hc
  · exact (h.excluded c hc).1
  rcases l.tail_cases with ⟨-, htail⟩ | htail
  · simp [htail] at hc
  · rw [htail] at hc
    rcases List.mem_cons.mp hc with rfl | hc
    · rfl
    · exact (excluded_of_standsInQuery (forall_mem_form_encode l.pairs c hc)).1

/-- Behind a normal path that does not begin with two slashes, a query makes no authority of it. -/
theorem not_opensAuthority_href {rest : List Char} (h : NormalPath l.path.toList)
    (hpath : l.path.toList = '/' :: rest) (hslashes : ¬ ['/', '/'] <+: l.path.toList) :
    opensAuthority ('/' :: (rest ++ l.tail)) = false := by
  rw [← List.cons_append]
  refine opensAuthority_append_eq_false ?_ List.prefix_rfl l.head?_tail
  cases rest with
  | nil => rfl
  | cons c rest =>
      have hslash : Kind.special.isSlash c = false := by
        refine Bool.eq_false_iff.mpr fun hc => hslashes ?_
        obtain rfl := (h.excluded c (by simp [hpath])).2.2 hc
        exact ⟨rest, by simp [hpath]⟩
      rw [opensAuthority, hslash, Bool.and_false]

/-- A location with a normal path is read back whole. -/
theorem parse_href_of_normalPath (h : NormalPath l.path.toList)
    (hslashes : ¬ ['/', '/'] <+: l.path.toList) : parse l.href = .ok l := by
  obtain ⟨rest, hpath, hread⟩ := h.exists_readPath
  have hchars := forall_mem_href h
  have htext : joined (trimmed l.href.toList) = '/' :: (rest ++ l.tail) := by
    rw [trimmed_eq_self hchars,
      joined_eq_self fun c hc => not_isTabOrBreak_of_not_isC0OrSpace (hchars c hc), toList_href,
      hpath, List.cons_append]
  have hend : ∀ c ∈ rest, (!isPathEnd c) = true := fun c hc => by
    rw [(h.excluded c (hpath ▸ List.mem_cons_of_mem _ hc)).2.1, Bool.not_false]
  have hcut : cut isPathEnd (rest ++ l.tail) = (rest, l.tail) := by
    rw [cut, List.takeWhile_append_of_pos hend, List.dropWhile_append_of_pos hend]
    rcases l.tail_cases with ⟨-, htail⟩ | htail
    · simp [htail]
    · simp [htail, isPathEnd]
  have hkind : kindOf origin.scheme = .special := by decide
  have hrelative : readRelative origin ('/' :: (rest ++ l.tail)) =
      .ok (finish .special "http" (some origin.authority) l.path.toList l.tail) := by
    rw [readRelative_of_slash hkind (not_opensAuthority_href h hpath hslashes), finishPath]
    simp only [hcut, hread]
    rfl
  have hlocation : ofUrl (finish .special "http" (some origin.authority) l.path.toList l.tail) = l :=
    eq_of_path_eq_of_pairs_eq String.ofList_toList (pairs_ofUrl_finish _ _ _ _)
  have hscheme : scheme? ('/' :: (rest ++ l.tail)) = none := rfl
  simp only [parse, Url.read, htext, hscheme, hrelative, hlocation]

/-- The location of a URL of the web, its parameters changed in any way, is written so that it is read
back: the same path and the same pairs in their order, whatever their keys and values. A path that
begins with two slashes is left out, which would be read as an authority. -/
theorem parse_href_edits {href : String} {u : Url} (hread : Url.read (some origin) href = .ok u)
    (hscheme : u.scheme = "http" ∨ u.scheme = "https") :
    parse href = .ok (ofUrl u) ∧
      ∀ es : List Edit, ¬ ['/', '/'] <+: ((ofUrl u).edits es).path.toList →
        parse ((ofUrl u).edits es).href = .ok ((ofUrl u).edits es) := by
  have hkind : kindOf u.scheme = .special := by
    rcases hscheme with h | h <;> rw [h] <;> decide
  have hnormal : NormalPath (ofUrl u).path.toList := normalPath_of_read hread hkind
  refine ⟨by rw [parse, hread], fun es hslashes => parse_href_of_normalPath ?_ hslashes⟩
  rwa [path_edits]

/-- Dots, spaces and letters outside ASCII in the path, signs of the format in a value, an empty key. -/
theorem parse_href_edits_rugs :
    let u : Url :=
      { scheme := "http", authority := some origin.authority, path := "/a%2fb/%C3%A9/"
        query := some "q=%zz&cat&&=1", fragment := some "top" }
    let l := (ofUrl u).edits [.set "q" "a&b=c+d", .append "é" "", .delete "cat"]
    Url.read (some origin) "/a%2fb/./x y/../é/?q=%zz&cat&&=1#top" = .ok u ∧
      u.scheme = "http" ∧ ¬ ['/', '/'] <+: l.path.toList ∧
      l.pairs = [("q", "a&b=c+d"), ("", "1"), ("é", "")] ∧ parse l.href = .ok l := by
  intro u l
  have hread : Url.read (some origin) "/a%2fb/./x y/../é/?q=%zz&cat&&=1#top" = .ok u := by
    decide +kernel
  have hslashes : ¬ ['/', '/'] <+: l.path.toList := by decide +kernel
  exact ⟨hread, rfl, hslashes, by decide +kernel, (parse_href_edits hread (.inl rfl)).2 _ hslashes⟩

end Storefront.Location
