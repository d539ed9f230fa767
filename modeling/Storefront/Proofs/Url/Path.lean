import Storefront.Proofs.Text.Percent
import Storefront.Url.Reader

/-! # What paths are made of

Whatever text a URL is read from, the characters of its path stand for themselves there, and none of
them ends the path. -/

namespace Storefront.Url

open Storefront.Text

/-- Whether a character stands in the path of a URL. -/
def standsInPath (c : Char) : Bool :=
  c.toNat < 0x80 && keptOpaque c && !isPathEnd c

theorem standsInPath_iff {c : Char} :
    standsInPath c = true ↔ c.toNat < 0x80 ∧ keptOpaque c = true ∧ isPathEnd c = false := by
  simp [standsInPath, and_assoc]

theorem standsInPath_hexDigit : ∀ n < 16, standsInPath (hexDigit n) = true := by
  decide

/-- A text in which no path ends is escaped to a path. -/
theorem forall_mem_encode_keptOpaque {text : List Char} (h : ∀ c ∈ text, isPathEnd c = false) :
    ∀ c ∈ Percent.encode keptOpaque text, standsInPath c = true :=
  Percent.forall_mem_encode (by decide) standsInPath_hexDigit
    fun c hc hascii hkept => standsInPath_iff.mpr ⟨hascii, hkept, h c hc⟩

theorem standsInPath_of_keptInPath {c : Char} (hascii : c.toNat < 0x80)
    (hkept : keptInPath c = true) : standsInPath c = true := by
  simp only [keptInPath, keptInFragment, Bool.and_eq_true, Bool.not_eq_true', Bool.or_eq_false_iff]
    at hkept
  refine standsInPath_iff.mpr ⟨hascii, hkept.1.1, ?_⟩
  rw [isPathEnd, hkept.2.1.1.2, hkept.2.1.1.1, Bool.or_false]

/-- A segment is escaped to a part of a path, whatever it is. -/
theorem forall_mem_encode_keptInPath (segment : List Char) :
    ∀ c ∈ Percent.encode keptInPath segment, standsInPath c = true :=
  Percent.forall_mem_encode (by decide) standsInPath_hexDigit
    fun _ _ hascii hkept => standsInPath_of_keptInPath hascii hkept

theorem standsInPath_of_isLetter {c : Char} (h : isLetter c = true) : standsInPath c = true := by
  have hascii : c.toNat < 0x80 := by
    rcases Bool.or_eq_true_iff.mp h with hupper | hlower
    · have hle : c.val ≤ 'Z'.val := (of_decide_eq_true hupper).2
      exact Nat.lt_of_le_of_lt (UInt32.le_iff_toNat_le.mp hle) (by decide)
    · have hle : c.val ≤ 'z'.val := of_decide_eq_true (Bool.and_eq_true_iff.mp hlower).2
      exact Nat.lt_of_le_of_lt (UInt32.le_iff_toNat_le.mp hle) (by decide)
  exact forall_ascii (p := fun c => isLetter c = true → standsInPath c = true) (by decide) hascii h

namespace Trail

/-- A path under way has only what stands in a path. -/
structure Stands (t : Trail) : Prop where
  directories : ∀ d ∈ t.directories, ∀ c ∈ d, standsInPath c = true
  last : ∀ c ∈ t.last, standsInPath c = true

variable {t : Trail} {segment : List Char}

theorem stands_empty : Stands {} :=
  ⟨fun _ hd => absurd hd List.not_mem_nil, fun _ hc => absurd hc List.not_mem_nil⟩

theorem Stands.up (h : t.Stands) : t.up.Stands := by
  have hnone : ∀ c ∈ ([] : List Char), standsInPath c = true := by simp
  unfold Trail.up
  split
  · exact ⟨h.directories, hnone⟩
  · rename_i name above hdirectories
    have habove : ∀ d ∈ above, ∀ c ∈ d, standsInPath c = true := fun d hd =>
      h.directories d (hdirectories ▸ List.mem_cons_of_mem _ hd)
    split
    · exact ⟨hdirectories ▸ h.directories, hnone⟩
    · exact ⟨habove, hnone⟩

theorem Stands.add (h : t.Stands) (hsegment : ∀ c ∈ segment, standsInPath c = true) (ended : Bool) :
    (t.add segment ended).Stands := by
  unfold Trail.add
  split
  · exact ⟨List.forall_mem_cons.mpr ⟨hsegment, h.directories⟩, by simp⟩
  · exact ⟨h.directories, hsegment⟩

theorem Stands.enter (h : t.Stands) (hsegment : ∀ c ∈ segment, standsInPath c = true)
    (ended : Bool) : (t.enter segment ended).Stands := by
  unfold Trail.enter
  split
  · exact h.up
  split
  · exact ⟨h.directories, fun _ hc => absurd hc List.not_mem_nil⟩
  · exact h.add hsegment ended

theorem isLetter_of_parted? {drive rest : List Char} (h : parted? segment = some (drive, rest)) :
    ∃ c, isLetter c = true ∧ drive = [c, ':'] := by
  unfold parted? at h
  split at h
  · cases h
  · split at h
    · split at h
      · rename_i c _ _ _ _ _ _ hparts
        simp only [Bool.and_eq_true] at hparts
        cases h
        exact ⟨c, hparts.1.1, rfl⟩
      · cases h
    · cases h

theorem forall_mem_drive {c : Char} (h : isLetter c = true) :
    ∀ d ∈ [c, ':'], standsInPath d = true := by
  simp [standsInPath_of_isLetter h]
  decide

theorem Stands.enterFile (h : t.Stands) (segment : List Char) (ended : Bool) :
    (t.enterFile segment ended).Stands := by
  unfold Trail.enterFile
  split
  · exact h.enter (forall_mem_encode_keptInPath _) ended
  · split
    · rename_i drive rest hparted
      obtain ⟨c, hc, rfl⟩ := isLetter_of_parted? hparted
      have hbehind : ({ t with directories := [[c, ':']] } : Trail).Stands :=
        ⟨List.forall_mem_singleton.mpr (forall_mem_drive hc), h.last⟩
      exact hbehind.add (forall_mem_encode_keptInPath _) ended
    · split
      · split
        · rename_i c d _ hdrive
          have hc : isLetter c = true := by
            simp only [isDrive, Bool.and_eq_true] at hdrive
            exact hdrive.1
          have hon : ({ t with onDrive := true } : Trail).Stands := ⟨h.directories, h.last⟩
          exact hon.add (forall_mem_drive hc) ended
        · exact h.enter (forall_mem_encode_keptInPath _) ended
      · exact h.enter (forall_mem_encode_keptInPath _) ended

/-- What one segment keeps, a whole list of them keeps. -/
theorem Stands.follow {enter : Trail → List Char → Bool → Trail}
    (henter : ∀ {t : Trail}, t.Stands → ∀ segment ended, (enter t segment ended).Stands)
    (h : t.Stands) (segments : List (List Char)) : (Trail.follow enter t segments).Stands := by
  induction segments generalizing t with
  | nil => exact h
  | cons segment rest ih =>
      cases rest with
      | nil => exact henter h segment false
      | cons next rest => exact ih (henter h segment true)

/-- What holds of slashes and of the segments holds of every character of the path. -/
theorem forall_mem_text {p : Char → Prop} (hslash : p '/')
    (hdirectories : ∀ d ∈ t.directories, ∀ c ∈ d, p c) (hlast : ∀ c ∈ t.last, p c) :
    ∀ c ∈ t.text, p c := by
  intro c hc
  rw [Trail.text, List.cons_append, List.mem_cons, List.mem_append, List.mem_flatMap] at hc
  rcases hc with rfl | ⟨d, hd, hc⟩ | hc
  · exact hslash
  · rcases List.mem_append.mp hc with hc | hc
    · exact hdirectories d (List.mem_reverse.mp hd) c hc
    · rwa [List.mem_singleton.mp hc]
  · exact hlast c hc

theorem Stands.text (h : t.Stands) : ∀ c ∈ t.text, standsInPath c = true :=
  forall_mem_text (by decide) h.directories h.last

end Trail

theorem forall_mem_readPath (kind : Kind) (text : List Char) :
    ∀ c ∈ readPath kind text, standsInPath c = true :=
  (Trail.Stands.follow (fun h segment ended => h.enter (forall_mem_encode_keptInPath segment) ended)
    Trail.stands_empty _).text

theorem forall_mem_readFilePath (text : List Char) :
    ∀ c ∈ (readFilePath text).1, standsInPath c = true := by
  have htext := (Trail.Stands.follow Trail.Stands.enterFile Trail.stands_empty
    (splitAt Kind.file.isSlash text)).text
  refine List.forall_mem_cons.mpr ⟨by decide, fun c hc => ?_⟩
  exact htext c ((List.dropWhile_suffix _).subset hc)

end Storefront.Url
