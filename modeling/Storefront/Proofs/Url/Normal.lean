import Storefront.Proofs.Url.Tail

/-! # Normal paths

The path of a URL with a special scheme is read as itself: its segments are escaped already, none of
them is a dot segment and no backslash is left. Every reader is followed to the place where the path
is read. -/

namespace Storefront.Url

open Storefront.Text

/-! ## Segments -/

/-- Whether a character stands in a segment of the path of a special URL. -/
def standsInSegment (c : Char) : Bool :=
  c.toNat < 0x80 && keptInPath c && !Kind.special.isSlash c

theorem standsInSegment_iff {c : Char} :
    standsInSegment c = true ↔
      c.toNat < 0x80 ∧ keptInPath c = true ∧ Kind.special.isSlash c = false := by
  simp [standsInSegment, and_assoc]

/-- A segment as it stands in a path that has been read. -/
structure NormalSegment (segment : List Char) : Prop where
  stands : ∀ c ∈ segment, standsInSegment c = true
  not_double : isDoubleDot segment = false
  not_single : isSingleDot segment = false

variable {segment : List Char}

theorem normalSegment_nil : NormalSegment [] :=
  ⟨fun _ hc => absurd hc List.not_mem_nil, rfl, rfl⟩

theorem NormalSegment.not_isSlash (h : NormalSegment segment) :
    ∀ c ∈ segment, Kind.special.isSlash c = false :=
  fun c hc => (standsInSegment_iff.mp (h.stands c hc)).2.2

theorem NormalSegment.encode_eq_self (h : NormalSegment segment) :
    Percent.encode keptInPath segment = segment :=
  Percent.encode_eq_self fun c hc =>
    have hstands := standsInSegment_iff.mp (h.stands c hc)
    ⟨hstands.1, hstands.2.1⟩

/-- A segment without slashes is escaped to one. -/
theorem forall_mem_encode_segment (h : ∀ c ∈ segment, Kind.special.isSlash c = false) :
    ∀ c ∈ Percent.encode keptInPath segment, standsInSegment c = true :=
  Percent.forall_mem_encode (by decide) (by decide)
    fun c hc hascii hkept => standsInSegment_iff.mpr ⟨hascii, hkept, h c hc⟩

/-! ## Splitting at slashes -/

section Split

variable {p : Char → Bool}

theorem splitAt_of_forall_not (h : ∀ c ∈ segment, p c = false) : splitAt p segment = [segment] := by
  induction segment with
  | nil => rfl
  | cons c segment ih =>
      obtain ⟨hc, hsegment⟩ := List.forall_mem_cons.mp h
      rw [splitAt, hc, ih hsegment]
      rfl

theorem splitAt_append_cons (h : ∀ c ∈ segment, p c = false) {c : Char} (hc : p c = true)
    (text : List Char) : splitAt p (segment ++ c :: text) = segment :: splitAt p text := by
  induction segment with
  | nil => simp [splitAt, hc]
  | cons d segment ih =>
      obtain ⟨hd, hsegment⟩ := List.forall_mem_cons.mp h
      rw [List.cons_append, splitAt, hd, ih hsegment]
      rfl

/-- No separator is left in a piece. -/
theorem forall_mem_splitAt (p : Char → Bool) (text : List Char) :
    ∀ piece ∈ splitAt p text, ∀ c ∈ piece, p c = false := by
  induction text with
  | nil => simp [splitAt]
  | cons c text ih =>
      rw [splitAt]
      split
      · exact List.forall_mem_cons.mpr ⟨by simp, ih⟩
      · rename_i hc
        have hc : p c = false := by simpa using hc
        split
        · simpa using hc
        · rename_i piece others hsplit
          rw [hsplit] at ih
          obtain ⟨hpiece, hothers⟩ := List.forall_mem_cons.mp ih
          exact List.forall_mem_cons.mpr ⟨List.forall_mem_cons.mpr ⟨hc, hpiece⟩, hothers⟩

end Split

/-- Segments that a slash ends, and the last one, are found again. -/
theorem splitAt_segments {directories : List (List Char)} {last : List Char}
    (hdirectories : ∀ d ∈ directories, NormalSegment d) (hlast : NormalSegment last) :
    splitAt Kind.special.isSlash (directories.flatMap (fun d => d ++ ['/']) ++ last) =
      directories ++ [last] := by
  induction directories with
  | nil => exact splitAt_of_forall_not hlast.not_isSlash
  | cons d directories ih =>
      obtain ⟨hd, hdirectories⟩ := List.forall_mem_cons.mp hdirectories
      simp only [List.flatMap_cons, List.append_assoc, List.cons_append, List.nil_append]
      rw [splitAt_append_cons hd.not_isSlash rfl, ih hdirectories]

/-! ## Trails -/

namespace Trail

/-- A path under way that would be read as itself. -/
structure Normal (t : Trail) : Prop where
  directories : ∀ d ∈ t.directories, NormalSegment d
  last : NormalSegment t.last

variable {t : Trail}

theorem normal_empty : Normal {} :=
  ⟨fun _ hd => absurd hd List.not_mem_nil, normalSegment_nil⟩

theorem Normal.up (h : t.Normal) : t.up.Normal := by
  unfold Trail.up
  split
  · exact ⟨h.directories, normalSegment_nil⟩
  · rename_i name above hdirectories
    have hall := hdirectories ▸ h.directories
    refine ⟨?_, normalSegment_nil⟩
    split
    · exact hall
    · exact fun d hd => hall d (List.mem_cons_of_mem _ hd)

theorem Normal.add (h : t.Normal) (hsegment : NormalSegment segment) (ended : Bool) :
    (t.add segment ended).Normal := by
  unfold Trail.add
  split
  · exact ⟨List.forall_mem_cons.mpr ⟨hsegment, h.directories⟩, normalSegment_nil⟩
  · exact ⟨h.directories, hsegment⟩

/-- Dot segments are gone after their step, and any other segment is kept. -/
theorem Normal.enter (h : t.Normal) (hsegment : ∀ c ∈ segment, standsInSegment c = true)
    (ended : Bool) : (t.enter segment ended).Normal := by
  unfold Trail.enter
  split
  · exact h.up
  split
  · exact ⟨h.directories, normalSegment_nil⟩
  · rename_i hdouble hsingle
    exact h.add ⟨hsegment, by simpa using hdouble, by simpa using hsingle⟩ ended

theorem enter_of_normalSegment (h : NormalSegment segment) (t : Trail) (ended : Bool) :
    t.enter (Percent.encode keptInPath segment) ended = t.add segment ended := by
  simp only [Trail.enter, h.encode_eq_self, h.not_double, h.not_single, Bool.false_eq_true, if_false]

/-- What each segment keeps, a whole list of them keeps. -/
theorem Normal.follow {enter : Trail → List Char → Bool → Trail} {segments : List (List Char)}
    (henter : ∀ {t : Trail}, t.Normal → ∀ segment ∈ segments, ∀ ended, (enter t segment ended).Normal)
    (h : t.Normal) : (Trail.follow enter t segments).Normal := by
  induction segments generalizing t with
  | nil => exact h
  | cons segment rest ih =>
      cases rest with
      | nil => exact henter h segment List.mem_cons_self false
      | cons next rest =>
          exact ih (fun ht other hother => henter ht other (List.mem_cons_of_mem _ hother))
            (henter h segment List.mem_cons_self true)

/-- Segments that are only added end up in their order. -/
theorem follow_of_add {enter : Trail → List Char → Bool → Trail} {directories : List (List Char)}
    {last : List Char}
    (henter : ∀ t : Trail, ∀ segment ∈ directories ++ [last], ∀ ended,
      enter t segment ended = t.add segment ended) (t : Trail) :
    Trail.follow enter t (directories ++ [last]) =
      { t with directories := directories.reverse ++ t.directories, last } := by
  induction directories generalizing t with
  | nil =>
      rw [List.nil_append, Trail.follow, henter t last (by simp)]
      rfl
  | cons directory directories ih =>
      obtain ⟨next, rest, hrest⟩ := List.exists_cons_of_ne_nil
        (List.append_ne_nil_of_right_ne_nil directories (List.cons_ne_nil last []))
      have hstep : Trail.follow enter t (directory :: (directories ++ [last])) =
          Trail.follow enter (enter t directory true) (directories ++ [last]) := by
        rw [hrest]
        rfl
      rw [List.cons_append, hstep, henter t directory (by simp) true,
        ih fun t segment hsegment => henter t segment (List.mem_cons_of_mem _ hsegment)]
      simp [Trail.add]

theorem Normal.splitAt_text (h : t.Normal) :
    splitAt Kind.special.isSlash (t.text.drop 1) = t.directories.reverse ++ [t.last] :=
  splitAt_segments (fun d hd => h.directories d (List.mem_reverse.mp hd)) h.last

/-- A normal path is read as itself. -/
theorem Normal.readPath_text (h : t.Normal) : readPath .special (t.text.drop 1) = t.text := by
  have hsegments : ∀ segment ∈ t.directories.reverse ++ [t.last], NormalSegment segment := by
    simpa [or_imp, forall_and] using ⟨h.directories, h.last⟩
  rw [readPath, h.splitAt_text,
    follow_of_add fun t segment hsegment => enter_of_normalSegment (hsegments segment hsegment) t]
  simp [Trail.text]

end Trail

/-! ## Paths -/

/-- The path of a special URL. -/
def NormalPath (path : List Char) : Prop :=
  ∃ t : Trail, t.Normal ∧ path = t.text

theorem normalPath_readPath (text : List Char) : NormalPath (readPath .special text) := by
  refine ⟨_, Trail.Normal.follow ?_ Trail.normal_empty, rfl⟩
  intro t ht segment hsegment ended
  exact ht.enter (forall_mem_encode_segment (forall_mem_splitAt _ text segment hsegment)) ended

/-- A normal path begins with a slash, and what follows is read as the path again. -/
theorem NormalPath.exists_readPath {path : List Char} (h : NormalPath path) :
    ∃ rest, path = '/' :: rest ∧ readPath .special rest = path := by
  obtain ⟨t, ht, rfl⟩ := h
  exact ⟨t.text.drop 1, rfl, ht.readPath_text⟩

/-- Neither white space nor the end of a path stands in a normal path, and its slashes all lean
forward. -/
theorem NormalPath.excluded {path : List Char} (h : NormalPath path) :
    ∀ c ∈ path, isC0OrSpace c = false ∧ isPathEnd c = false ∧
      (Kind.special.isSlash c = true → c = '/') := by
  have hsegment : ∀ c, standsInSegment c = true → isC0OrSpace c = false ∧ isPathEnd c = false ∧
      (Kind.special.isSlash c = true → c = '/') := by
    intro c hc
    have hascii := (standsInSegment_iff.mp hc).1
    exact forall_ascii (p := fun c => standsInSegment c = true → isC0OrSpace c = false ∧
      isPathEnd c = false ∧ (Kind.special.isSlash c = true → c = '/')) (by decide) hascii hc
  obtain ⟨t, ht, rfl⟩ := h
  exact Trail.forall_mem_text (by decide)
    (fun d hd c hc => hsegment c ((ht.directories d hd).stands c hc))
    fun c hc => hsegment c (ht.last.stands c hc)

/-! ## Readers -/

variable {kind : Kind} {scheme : String} {text : List Char} {u : Url}

/-- A URL of this scheme, with a normal path if it has been read as special ones are. -/
structure Fits (kind : Kind) (scheme : String) (u : Url) : Prop where
  scheme_eq : u.scheme = scheme
  normal : kind = .special → NormalPath u.path.toList

theorem fits_finishPath (kind : Kind) (scheme : String) (authority : Option Authority)
    (text : List Char) : Fits kind scheme (finishPath kind scheme authority text) := by
  refine ⟨rfl, ?_⟩
  rintro rfl
  simpa only [finishPath, finish, String.toList_ofList] using normalPath_readPath _

theorem fits_finishAuthority (kind : Kind) (scheme : String) (authority : Authority)
    (text : List Char) : Fits kind scheme (finishAuthority kind scheme authority text) := by
  have hplain : ∀ (path tail : List Char), kind = .plain →
      Fits kind scheme (finish kind scheme (some authority) path tail) :=
    fun _ _ hkind => ⟨rfl, fun hspecial => nomatch hkind.symm.trans hspecial⟩
  unfold finishAuthority
  split
  · exact hplain _ _ rfl
  · split
    · exact fits_finishPath kind scheme _ _
    split
    · rename_i hend
      exact hplain _ _ (eq_of_beq (Bool.and_eq_true_iff.mp hend).1)
    · exact fits_finishPath kind scheme _ _
  · exact fits_finishPath kind scheme _ _

theorem fits_readBehindHost {userinfo host : String}
    (h : readBehindHost kind scheme userinfo host text = .ok u) : Fits kind scheme u := by
  unfold readBehindHost at h
  split at h
  · cases h
  split at h
  · rename_i after _
    cases hread : readPort scheme after with
    | error e =>
        rw [hread] at h
        cases h
    | ok read =>
        rw [hread] at h
        cases h
        exact fits_finishAuthority kind scheme _ read.2
  · cases h
    exact fits_finishAuthority kind scheme _ text

theorem fits_readAuthority (h : readAuthority kind scheme text = .ok u) : Fits kind scheme u := by
  rw [readAuthority_eq] at h
  obtain ⟨split, -, h⟩ := exists_of_bind_eq_ok h
  obtain ⟨host, -, h⟩ := exists_of_bind_eq_ok h
  exact fits_readBehindHost h

theorem fits_readPlain (h : readPlain scheme text = .ok u) : Fits .plain scheme u := by
  unfold readPlain at h
  split at h
  · exact fits_readAuthority h
  · cases h
    exact fits_finishPath .plain scheme none _
  · cases h
    exact ⟨rfl, nofun⟩

theorem fits_readRelative {origin : Origin} (h : readRelative origin text = .ok u) :
    Fits (kindOf origin.scheme) origin.scheme u := by
  unfold readRelative at h
  simp only at h
  split at h
  · split at h
    · split at h
      · split at h
        · split at h
          · exact fits_readAuthority h
          · exact fits_readAuthority h
        · cases h
          exact fits_finishPath _ origin.scheme _ _
      · cases h
        exact fits_finishPath _ origin.scheme _ _
    · cases h
      exact fits_finishPath _ origin.scheme _ _
  · cases h
    exact fits_finishPath _ origin.scheme _ _

theorem scheme_readFile (h : readFile text = .ok u) : u.scheme = "file" := by
  have hfinish : ∀ (host : String) (path behind : List Char),
      (if host.isEmpty || host == "localhost" then .ok (finishFile "" path)
        else .ok (finishFile host behind) : Except ParseError Url) = .ok u → u.scheme = "file" := by
    intro host path behind h
    split at h
    · cases h
      rfl
    · cases h
      rfl
  unfold readFile at h
  split at h
  · cases h
    rfl
  split at h
  · cases h
    rfl
  simp only at h
  split at h
  · cases h
    rfl
  split at h
  · exact hfinish "" _ [] h
  · obtain ⟨host, -, h⟩ := exists_of_bind_eq_ok h
    exact hfinish host _ _ h

/-- Whatever a URL with a special scheme is read from and against, its path is normal. -/
theorem normalPath_of_read {origin : Option Origin} {text : String} (h : read origin text = .ok u)
    (hkind : kindOf u.scheme = .special) : NormalPath u.path.toList := by
  have hrelative : ∀ {origin : Origin} {text : List Char}, readRelative origin text = .ok u →
      NormalPath u.path.toList := by
    intro origin text h
    have hfits := fits_readRelative h
    exact hfits.normal (hfits.scheme_eq ▸ hkind)
  have hspecial : ∀ {scheme : String} {text : List Char},
      readAuthority .special scheme text = .ok u → NormalPath u.path.toList :=
    fun h => (fits_readAuthority h).normal rfl
  unfold read at h
  simp only at h
  split at h
  · rename_i scheme rest _
    split at h
    · rw [scheme_readFile h] at hkind
      exact absurd hkind (by decide)
    · rename_i hplain
      rw [(fits_readPlain h).scheme_eq, hplain] at hkind
      cases hkind
    · split at h
      · split at h
        · exact hrelative h
        · exact hspecial h
      · exact hspecial h
  · split at h
    · exact hrelative h
    · cases h

end Storefront.Url
