import Storefront.Proofs.Url.Tail

/-! # References that are read as paths

A reference names a path unless it begins with a scheme or like an authority. How it begins is
decided by its path, since a query makes no difference. -/

namespace Storefront.Url

variable {text front tail : List Char}

/-! ## Schemes -/

theorem scheme?_ne_none_iff :
    scheme? text ≠ none ↔ ∃ c name rest, text = c :: name ++ ':' :: rest ∧ c.isAlpha = true ∧
      ∀ d ∈ c :: name, isSchemeChar d = true := by
  constructor
  · intro h
    obtain ⟨⟨scheme, rest⟩, hscheme⟩ := Option.ne_none_iff_exists'.mp h
    obtain ⟨c, name, htext, halpha, hname⟩ := scheme?_eq_some hscheme
    exact ⟨c, name, rest, htext, halpha, hname⟩
  · rintro ⟨c, name, rest, rfl, halpha, hname⟩
    have hdrop : (c :: name ++ ':' :: rest).dropWhile isSchemeChar = ':' :: rest := by
      rw [List.dropWhile_append_of_pos hname, List.dropWhile_cons_of_neg (by decide)]
    rw [List.cons_append] at hdrop ⊢
    simp [scheme?, halpha, hdrop]

/-- A query behind a path makes no scheme of it. -/
theorem scheme?_append_eq_none (h : scheme? text = none) (hfront : front <+: text)
    (htail : ∀ c ∈ tail.head?, c = '?') : scheme? (front ++ tail) = none := by
  refine Classical.byContradiction fun hsome => ?_
  obtain ⟨c, name, rest, heq, halpha, hname⟩ := scheme?_ne_none_iff.mp hsome
  have hmark : '?' ∉ c :: name := fun hmem => absurd (hname _ hmem) (by decide)
  obtain ⟨behind, rfl⟩ := hfront
  refine scheme?_ne_none_iff.mpr ?_ h
  rcases List.append_eq_append_iff.mp heq with ⟨more, hmore, rfl⟩ | ⟨more, rfl, hmore⟩
  · cases more with
    | nil => exact absurd (htail ':' rfl) (by decide)
    | cons d more =>
        obtain rfl := htail d rfl
        exact absurd (hmore ▸ List.mem_append_right _ List.mem_cons_self) hmark
  · cases more with
    | nil =>
        rw [List.nil_append] at hmore
        exact absurd (htail ':' (by rw [← hmore]; rfl)) (by decide)
    | cons d more =>
        obtain ⟨rfl, -⟩ := List.cons.inj hmore
        exact ⟨c, name, more ++ behind, by simp, halpha, hname⟩

/-! ## Authorities -/

/-- Two slashes begin the text, as they do before an authority. -/
def opensAuthority : List Char → Bool
  | c :: d :: _ => Kind.special.isSlash c && Kind.special.isSlash d
  | _ => false

theorem opensAuthority_append_eq_false (h : opensAuthority text = false) (hfront : front <+: text)
    (htail : ∀ c ∈ tail.head?, c = '?') : opensAuthority (front ++ tail) = false := by
  obtain ⟨behind, rfl⟩ := hfront
  match front, tail with
  | [], [] => rfl
  | [], [c] => rfl
  | [], c :: d :: _ =>
      obtain rfl := htail c rfl
      rfl
  | [c], [] => rfl
  | [c], d :: _ =>
      obtain rfl := htail d rfl
      exact Bool.and_false _
  | c :: d :: _, _ => exact h

/-- A text that begins neither like a scheme nor like an authority is a path to every reader. -/
theorem exists_readRelative {origin : Origin} (hkind : kindOf origin.scheme = .special)
    (h : opensAuthority text = false) : ∃ u, readRelative origin text = .ok u := by
  unfold readRelative
  rw [hkind]
  match text with
  | [] => exact ⟨_, rfl⟩
  | [c] =>
      simp only
      split <;> exact ⟨_, rfl⟩
  | c :: d :: rest =>
      simp only
      split
      · rename_i hslash
        have hnot : Kind.special.isSlash d = false := by simpa [opensAuthority, hslash] using h
        simp [hnot]
      · exact ⟨_, rfl⟩

/-- A slash that no other one follows begins a path at the root of the origin. -/
theorem readRelative_of_slash {origin : Origin} (hkind : kindOf origin.scheme = .special)
    (h : opensAuthority ('/' :: text) = false) :
    readRelative origin ('/' :: text) =
      .ok (finishPath .special origin.scheme (some origin.authority) text) := by
  have hslash : Kind.special.isSlash '/' = true := rfl
  cases text with
  | nil => simp [readRelative, hkind, hslash]
  | cons c text =>
      have hnot : Kind.special.isSlash c = false := by simpa [opensAuthority, hslash] using h
      simp [readRelative, hkind, hslash, hnot]

/-- Whether a path is read as one: spaces before it apart, it begins neither like a scheme nor like
an authority. -/
def readsAsPath (path : String) : Bool :=
  (scheme? (path.toList.dropWhile isC0OrSpace)).isNone &&
    !opensAuthority (path.toList.dropWhile isC0OrSpace)

end Storefront.Url
