import Mathlib.Data.List.TakeDrop
import Storefront.Proofs.Except
import Storefront.Proofs.Url.Path

/-! # Where the path of a URL ends

Whatever a text names, the query and the fragment of its URL are read off the text behind its first
question mark or number sign. Each reader is shown to give up nothing of that tail, from the trimmed
text down to the path. -/

namespace Storefront.Url

open Storefront.Text

variable {kind : Kind} {scheme : String} {text rest : List Char} {u : Url}

/-! ## Characters that end no path -/

/-- A class of characters that leaves out both signs has none that ends a path. -/
theorem isPathEnd_of {p : Char → Bool} (hquestion : p '?' = false) (hsign : p '#' = false)
    {c : Char} (h : p c = true) : isPathEnd c = false := by
  refine Bool.or_eq_false_iff.mpr ⟨beq_eq_false_iff_ne.mpr ?_, beq_eq_false_iff_ne.mpr ?_⟩
  · rintro rfl
    exact absurd h (Bool.eq_false_iff.mp hquestion)
  · rintro rfl
    exact absurd h (Bool.eq_false_iff.mp hsign)

theorem isPathEnd_of_isTabOrBreak {c : Char} (h : isTabOrBreak c = true) : isPathEnd c = false :=
  isPathEnd_of rfl rfl h

theorem isPathEnd_of_isSlash {c : Char} (h : kind.isSlash c = true) : isPathEnd c = false :=
  isPathEnd_of (p := kind.isSlash) rfl rfl h

theorem isPathEnd_of_isSchemeChar {c : Char} (h : isSchemeChar c = true) : isPathEnd c = false :=
  isPathEnd_of rfl rfl h

/-! ## Tails -/

/-- Query and fragment of a text, with the signs that begin them. -/
def tailOf (text : List Char) : List Char :=
  text.dropWhile (!isPathEnd ·)

theorem tailOf_cons_of_not {c : Char} (h : isPathEnd c = false) (text : List Char) :
    tailOf (c :: text) = tailOf text :=
  List.dropWhile_cons_of_pos (by simp [h])

theorem tailOf_cons_of_isPathEnd {c : Char} (h : isPathEnd c = true) (text : List Char) :
    tailOf (c :: text) = c :: text :=
  List.dropWhile_cons_of_neg (by simp [h])

theorem tailOf_append {front : List Char} (h : ∀ c ∈ front, isPathEnd c = false)
    (text : List Char) : tailOf (front ++ text) = tailOf text :=
  List.dropWhile_append_of_pos fun c hc => by simp [h c hc]

/-- What a run of characters that end no path leaves has the same tail. -/
theorem tailOf_dropWhile {p : Char → Bool} (h : ∀ c, p c = true → isPathEnd c = false)
    (text : List Char) : tailOf (text.dropWhile p) = tailOf text := by
  induction text with
  | nil => rfl
  | cons c text ih =>
      by_cases hc : p c = true
      · rw [List.dropWhile_cons_of_pos hc, ih, tailOf_cons_of_not (h c hc)]
      · rw [List.dropWhile_cons_of_neg hc]

theorem tailOf_drop_takeWhile {p : Char → Bool} (h : ∀ c, p c = true → isPathEnd c = false)
    (text : List Char) : tailOf (text.drop (text.takeWhile p).length) = tailOf text := by
  have hdrop : text.drop (text.takeWhile p).length = text.dropWhile p := by
    nth_rewrite 2 [← List.takeWhile_append_dropWhile (p := p) (l := text)]
    rw [List.drop_left]
  rw [hdrop, tailOf_dropWhile h]

/-- Tabs and line breaks end no path. -/
theorem tailOf_joined (text : List Char) : tailOf (joined text) = joined (tailOf text) := by
  induction text with
  | nil => rfl
  | cons c text ih =>
      cases hc : isPathEnd c with
      | true =>
          have hkept : isTabOrBreak c = false := by
            refine Bool.eq_false_iff.mpr fun htab => ?_
            simp [isPathEnd_of_isTabOrBreak htab] at hc
          rw [tailOf_cons_of_isPathEnd hc, joined, List.filter_cons_of_pos (by simp [hkept]),
            tailOf_cons_of_isPathEnd hc]
      | false =>
          rw [tailOf_cons_of_not hc, ← ih]
          cases htab : isTabOrBreak c with
          | true => rw [joined, List.filter_cons_of_neg (by simp [htab]), ← joined]
          | false =>
              rw [joined, List.filter_cons_of_pos (by simp [htab]), tailOf_cons_of_not hc, ← joined]

/-! ## From the path on -/

/-- The URL has been read from a text with this tail, and its path is made of what stands there. -/
inductive EndsIn (tail : List Char) : Url → Prop where
  | intro (kind : Kind) (scheme : String) (authority : Option Authority) {path : List Char}
      (stands : ∀ c ∈ path, standsInPath c = true) :
      EndsIn tail (finish kind scheme authority path tail)

theorem endsIn_finishPath (kind : Kind) (scheme : String) (authority : Option Authority)
    (text : List Char) : EndsIn (tailOf text) (finishPath kind scheme authority text) :=
  .intro kind scheme authority (forall_mem_readPath kind _)

theorem endsIn_finishAuthority (kind : Kind) (scheme : String) (authority : Authority)
    (text : List Char) : EndsIn (tailOf text) (finishAuthority kind scheme authority text) := by
  have hnone : ∀ c ∈ ([] : List Char), standsInPath c = true := by simp
  unfold finishAuthority
  split
  · exact .intro .plain scheme (some authority) hnone
  · rename_i c rest
    split
    · rename_i hslash
      rw [tailOf_cons_of_not (isPathEnd_of_isSlash hslash)]
      exact endsIn_finishPath kind scheme (some authority) rest
    split
    · rename_i hend
      simp only [Bool.and_eq_true] at hend
      rw [tailOf_cons_of_isPathEnd hend.2]
      exact .intro kind scheme (some authority) hnone
    · exact endsIn_finishPath kind scheme (some authority) (c :: rest)
  · exact endsIn_finishPath kind scheme (some authority) []

/-! ## Authorities -/

theorem isPathEnd_of_not_isAuthorityEnd {c : Char} (h : isAuthorityEnd kind c = false) :
    isPathEnd c = false :=
  (Bool.or_eq_false_iff.mp h).2

/-- An authority ends before the path does. -/
theorem tailOf_cut_isAuthorityEnd (kind : Kind) (text : List Char) :
    tailOf (cut (isAuthorityEnd kind) text).2 = tailOf text :=
  tailOf_dropWhile (fun _ hc => isPathEnd_of_not_isAuthorityEnd (by simpa using hc)) text

theorem tailOf_splitUserinfo {userinfo : String}
    (h : splitUserinfo kind text = .ok (userinfo, rest)) : tailOf rest = tailOf text := by
  have hfront : ∀ c ∈ (cut (isAuthorityEnd kind) text).1, isPathEnd c = false := fun c hc =>
    isPathEnd_of_not_isAuthorityEnd (by
      simpa using List.all_eq_true.mp List.all_takeWhile c hc)
  unfold splitUserinfo at h
  simp only at h
  split at h
  · cases h
    rfl
  · rename_i host _ _ hspan
    split at h
    · cases h
    · cases h
      have hhost : ∀ c ∈ host.reverse, isPathEnd c = false := by
        intro c hc
        have hmem : c ∈ ((cut (isAuthorityEnd kind) text).1.reverse.span (· != '@')).1 := by
          rw [hspan]
          exact List.mem_reverse.mp hc
        rw [List.span_eq_takeWhile_dropWhile] at hmem
        exact hfront c (List.mem_reverse.mp ((List.takeWhile_prefix _).subset hmem))
      rw [tailOf_append hhost, tailOf_cut_isAuthorityEnd]

/-- A host ends before the path does. -/
theorem tailOf_drop_hostLength (kind : Kind) (bracketed : Bool) (text : List Char) :
    tailOf (text.drop (hostLength kind bracketed text)) = tailOf text := by
  induction text generalizing bracketed with
  | nil => rfl
  | cons c text ih =>
      rw [hostLength]
      split
      · rfl
      · rename_i hinside
        have hend : isAuthorityEnd kind c = false :=
          (Bool.or_eq_false_iff.mp (Bool.not_eq_true _ ▸ hinside)).2
        rw [List.drop_succ_cons, ih, tailOf_cons_of_not (isPathEnd_of_not_isAuthorityEnd hend)]

theorem tailOf_readPort {port : Option Nat} (h : readPort scheme text = .ok (port, rest)) :
    tailOf rest = tailOf text := by
  have hrest : rest = text.dropWhile Char.isDigit := by
    unfold readPort at h
    simp only at h
    split at h
    · cases h
    split at h
    · cases h
      rfl
    · split at h
      · cases h
        rfl
      · cases h
  rw [hrest, tailOf_dropWhile fun _ => isPathEnd_of rfl rfl]

/-- The host of a URL of any kind but that of files. -/
def hostOf (kind : Kind) (text : List Char) : Except ParseError String :=
  if kind == .special then if text.isEmpty then .error .emptyHost else domainHost text
  else opaqueHost text

/-- What follows the colon before a port, where a text begins with one. -/
def portText? : List Char → Option (List Char)
  | ':' :: after => some after
  | _ => none

/-- A URL from the text behind its host. -/
def readBehindHost (kind : Kind) (scheme userinfo host : String) (text : List Char) :
    Except ParseError Url :=
  if host.isEmpty && ((portText? text).isSome || !userinfo.isEmpty) then .error .emptyHost
  else match portText? text with
    | some after =>
      (readPort scheme after).map fun read =>
        finishAuthority kind scheme { userinfo, host, port := read.1 } read.2
    | none => .ok (finishAuthority kind scheme { userinfo, host, port := none } text)

/-- An authority is read in three steps: user information, host, and the rest. -/
theorem readAuthority_eq (kind : Kind) (scheme : String) (text : List Char) :
    readAuthority kind scheme text =
      (splitUserinfo kind text).bind fun split =>
        let length := hostLength kind false split.2
        (hostOf kind (split.2.take length)).bind fun host =>
          readBehindHost kind scheme split.1 host (split.2.drop length) := by
  cases hsplit : splitUserinfo kind text with
  | error e =>
      simp only [readAuthority, hsplit]
      rfl
  | ok split =>
      simp only [readAuthority, hsplit, bind, Except.bind, hostOf, readBehindHost]
      split
      · split <;> rfl
      · rfl

theorem endsIn_readBehindHost {userinfo host : String}
    (h : readBehindHost kind scheme userinfo host text = .ok u) : EndsIn (tailOf text) u := by
  unfold readBehindHost at h
  split at h
  · cases h
  split at h
  · rename_i after hport
    have htext : text = ':' :: after := by
      unfold portText? at hport
      split at hport
      · rw [Option.some.inj hport]
      · cases hport
    cases hread : readPort scheme after with
    | error e =>
        rw [hread] at h
        cases h
    | ok read =>
        rw [hread] at h
        cases h
        rw [htext, tailOf_cons_of_not rfl, ← tailOf_readPort hread]
        exact endsIn_finishAuthority kind scheme _ read.2
  · cases h
    exact endsIn_finishAuthority kind scheme _ text

theorem endsIn_readAuthority (h : readAuthority kind scheme text = .ok u) :
    EndsIn (tailOf text) u := by
  rw [readAuthority_eq] at h
  obtain ⟨⟨userinfo, behind⟩, hsplit, h⟩ := exists_of_bind_eq_ok h
  obtain ⟨host, -, h⟩ := exists_of_bind_eq_ok h
  rw [← tailOf_splitUserinfo hsplit, ← tailOf_drop_hostLength kind false behind]
  exact endsIn_readBehindHost h

/-! ## Files -/

theorem tailOf_afterSlash? (h : afterSlash? text = some rest) : tailOf rest = tailOf text := by
  unfold afterSlash? at h
  rw [← tailOf_dropWhile (fun _ => isPathEnd_of_isTabOrBreak) text]
  split at h
  · cases h
  · rename_i c _ htext
    split at h
    · rename_i hslash
      cases h
      rw [htext, tailOf_cons_of_not (isPathEnd_of_isSlash hslash)]
    · cases h

theorem endsIn_finishFile (host : String) (text : List Char) :
    EndsIn (joined (tailOf text)) (finishFile host text) :=
  .intro .file "file" _ (forall_mem_readFilePath _)

theorem endsIn_readFile (h : readFile text = .ok u) : EndsIn (joined (tailOf text)) u := by
  unfold readFile at h
  split at h
  · cases h
    exact endsIn_finishFile "" text
  · rename_i path hslash
    rw [← tailOf_afterSlash? hslash]
    split at h
    · cases h
      exact endsIn_finishFile "" path
    · rename_i behind hslash'
      have hpath := tailOf_cut_isAuthorityEnd .file behind
      rw [← tailOf_afterSlash? hslash']
      generalize cut (isAuthorityEnd .file) behind = parts at h hpath
      obtain ⟨hostText, path⟩ := parts
      have hafter : tailOf ((afterSlash? path).getD path) = tailOf path := by
        cases hslash : afterSlash? path with
        | none => rfl
        | some rest => exact tailOf_afterSlash? hslash
      have hfinish : ∀ host : String,
          (if host.isEmpty || host == "localhost" then .ok (finishFile "" path)
            else .ok (finishFile host ((afterSlash? path).getD path)) : Except ParseError Url) =
              .ok u →
          EndsIn (joined (tailOf behind)) u := by
        intro host h
        rw [← hpath]
        split at h
        · cases h
          exact endsIn_finishFile "" path
        · cases h
          rw [← hafter]
          exact endsIn_finishFile host _
      simp only at h
      split at h
      · cases h
        exact endsIn_finishFile "" behind
      · split at h
        · exact hfinish "" h
        · obtain ⟨host, -, h⟩ := exists_of_bind_eq_ok h
          exact hfinish host h

/-! ## References and whole texts -/

theorem endsIn_readPlain (h : readPlain scheme text = .ok u) : EndsIn (tailOf text) u := by
  unfold readPlain at h
  split at h
  · rw [tailOf_cons_of_not rfl, tailOf_cons_of_not rfl]
    exact endsIn_readAuthority h
  · cases h
    rw [tailOf_cons_of_not rfl]
    exact endsIn_finishPath .plain scheme none _
  · cases h
    refine .intro .plain scheme none (forall_mem_encode_keptOpaque fun c hc => ?_)
    simpa using List.all_eq_true.mp List.all_takeWhile c hc

theorem endsIn_readRelative {origin : Origin} (h : readRelative origin text = .ok u) :
    EndsIn (tailOf text) u := by
  unfold readRelative at h
  simp only at h
  split at h
  · rename_i c rest
    split at h
    · rename_i hslash
      rw [tailOf_cons_of_not (isPathEnd_of_isSlash hslash)]
      split at h
      · rename_i d rest
        split at h
        · rename_i hslash'
          rw [tailOf_cons_of_not (isPathEnd_of_isSlash hslash')]
          split at h
          · exact endsIn_readAuthority h
          · rw [← tailOf_dropWhile (fun _ => isPathEnd_of_isSlash) rest]
            exact endsIn_readAuthority h
        · cases h
          exact endsIn_finishPath _ origin.scheme _ _
      · cases h
        exact endsIn_finishPath _ origin.scheme _ _
    · cases h
      exact endsIn_finishPath _ origin.scheme _ _
  · cases h
    exact endsIn_finishPath _ origin.scheme _ _

/-- A scheme is a letter, what may follow it in a scheme, and a colon. -/
theorem scheme?_eq_some (h : scheme? text = some (scheme, rest)) :
    ∃ c name, text = c :: name ++ ':' :: rest ∧ c.isAlpha = true ∧
      ∀ d ∈ c :: name, isSchemeChar d = true := by
  unfold scheme? at h
  split at h
  · cases h
  rename_i c behind
  split at h
  · rename_i halpha
    split at h
    · rename_i hdrop
      cases h
      have hc : isSchemeChar c = true := by simp [isSchemeChar, Char.isAlphanum, halpha]
      refine ⟨c, behind.takeWhile isSchemeChar, ?_, halpha,
        List.forall_mem_cons.mpr ⟨hc, List.all_eq_true.mp List.all_takeWhile⟩⟩
      rw [← hdrop, List.dropWhile_cons_of_pos hc, List.cons_append,
        List.takeWhile_append_dropWhile]
    · cases h
  · cases h

/-- What stands behind the first colon of a text that names a scheme has the tail of the text. -/
theorem tailOf_drop_dropWhile {name : List Char} (hname : ∀ c ∈ name, isSchemeChar c = true)
    (h : joined text = name ++ ':' :: rest) :
    tailOf ((text.dropWhile (· != ':')).drop 1) = tailOf text := by
  induction text generalizing name with
  | nil => simp [joined] at h
  | cons c text ih =>
      cases htab : isTabOrBreak c with
      | true =>
          have hcolon : (c != ':') = true := by
            simp only [isTabOrBreak, Bool.or_eq_true, beq_iff_eq] at htab
            rcases htab with (rfl | rfl) | rfl <;> rfl
          rw [joined, List.filter_cons_of_neg (by simp [htab])] at h
          rw [List.dropWhile_cons_of_pos (p := (· != ':')) hcolon, ih hname h,
            tailOf_cons_of_not (isPathEnd_of_isTabOrBreak htab)]
      | false =>
          rw [joined, List.filter_cons_of_pos (by simp [htab])] at h
          cases name with
          | nil =>
              obtain ⟨rfl, -⟩ := List.cons.inj h
              rw [List.dropWhile_cons_of_neg (by simp), List.drop_one, List.tail_cons,
                tailOf_cons_of_not rfl]
          | cons d name =>
              obtain ⟨rfl, hjoined⟩ := List.cons.inj h
              have hscheme := hname c List.mem_cons_self
              have hcolon : (c != ':') = true := by
                refine bne_iff_ne.mpr ?_
                rintro rfl
                exact absurd hscheme (by decide)
              rw [List.dropWhile_cons_of_pos (p := (· != ':')) hcolon,
                ih (fun e he => hname e (List.mem_cons_of_mem _ he)) hjoined,
                tailOf_cons_of_not (isPathEnd_of_isSchemeChar hscheme)]

/-- A URL ends as its text does, whatever it is read against. -/
theorem endsIn_read {origin : Option Origin} {text : String} (h : read origin text = .ok u) :
    EndsIn (tailOf (joined (trimmed text.toList))) u := by
  unfold read at h
  simp only at h
  split at h
  · rename_i scheme rest hscheme
    obtain ⟨c, name, htext, -, hname⟩ := scheme?_eq_some hscheme
    have hrest : tailOf (joined (trimmed text.toList)) = tailOf rest := by
      rw [htext, tailOf_append fun c hc => isPathEnd_of_isSchemeChar (hname c hc),
        tailOf_cons_of_not rfl]
    have hslashes : tailOf (rest.drop (rest.takeWhile (kindOf scheme).isSlash).length) =
        tailOf rest := tailOf_drop_takeWhile (fun _ => isPathEnd_of_isSlash) rest
    split at h
    · rw [tailOf_joined, ← tailOf_drop_dropWhile hname htext]
      exact endsIn_readFile h
    · rw [hrest]
      exact endsIn_readPlain h
    · rw [hrest]
      split at h
      · split at h
        · exact endsIn_readRelative h
        · exact hslashes ▸ endsIn_readAuthority h
      · exact hslashes ▸ endsIn_readAuthority h
  · split at h
    · exact endsIn_readRelative h
    · cases h

end Storefront.Url
