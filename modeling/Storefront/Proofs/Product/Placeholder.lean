import Storefront.Product.Labels
import Storefront.Proofs.Text.Percent

/-! # What stands on a placeholder

A plus sign of a written label stands for a space and for nothing else, as a plus sign of the label
itself is escaped. So what a placeholder carries is the label percent-encoded byte by byte, and it
is read back as the label whether or not plus signs are taken for spaces. -/

namespace Storefront.Product

open Storefront.Text

/-! ## The text -/

theorem flatMap_spaces_of_not_mem {cs : List Char} (h : ∀ c ∈ cs, c ≠ '+') :
    (cs.flatMap fun c => if c == '+' then ['%', '2', '0'] else [c]) = cs := by
  induction cs with
  | nil => rfl
  | cons c cs ih =>
      rw [List.forall_mem_cons] at h
      rw [List.flatMap_cons, ih h.2, if_neg (by simpa using h.1), List.singleton_append]

/-- A byte as it is written once plus signs are replaced. -/
theorem flatMap_encodeByte (b : UInt8) :
    ((Form.encodeByte b).flatMap fun c => if c == '+' then ['%', '2', '0'] else [c]) =
      if b < 0x80 && Form.plain (Char.ofNat b.toNat) then [Char.ofNat b.toNat]
      else Percent.escape b := by
  by_cases hspace : b = 0x20
  · subst hspace
    decide
  rw [Form.encodeByte, if_neg (by simpa using hspace), flatMap_spaces_of_not_mem]
  split
  · rename_i hplain
    refine List.forall_mem_singleton.mpr fun heq => ?_
    rw [heq] at hplain
    exact absurd hplain (by simp [Form.plain])
  · exact Percent.forall_mem_escape (by decide) (by decide) b

theorem placeholderText_eq (label : String) :
    placeholderText label = Percent.encode Form.plain label.toList := by
  rw [placeholderText, Form.encodeText, List.flatMap_assoc, Percent.encode, Percent.encodeBytes]
  simp only [flatMap_encodeByte]

/-- A written label is read back as the label, by whatever rules. -/
structure Carries (text : List Char) (label : String) : Prop where
  chars : ∀ c ∈ text, c.isAlphanum ∨ c ∈ ['*', '-', '.', '_', '%']
  escapes : Percent.WholeEscapes text
  percent : decodeStrict? (Percent.decode (utf8 text)) = some label.toList
  form : Form.decodeText (utf8 text) = label

/-- The characters of a form that stand for themselves, and the percent sign. -/
theorem chars_encode_plain (cs : List Char) :
    ∀ c ∈ Percent.encode Form.plain cs, c.isAlphanum ∨ c ∈ ['*', '-', '.', '_', '%'] := by
  refine Percent.forall_mem_encode (.inr (by decide)) (by decide) fun c _ _ hplain => ?_
  simp only [Form.plain, Bool.or_eq_true, beq_iff_eq] at hplain
  rcases hplain with (((h | rfl) | rfl) | rfl) | rfl
  · exact .inl h
  all_goals exact .inr (by decide)

theorem carries_placeholderText (label : String) : Carries (placeholderText label) label := by
  rw [placeholderText_eq]
  exact
    { chars := chars_encode_plain label.toList
      escapes := Percent.wholeEscapes_encodeBytes (by decide) _
      percent := by
        rw [Percent.encode, Percent.decode_utf8_encodeBytes (by decide), decodeStrict?_utf8]
      form := Form.decodeText_utf8_encode (by decide) (by decide) label }

/-! ## The picture -/

/-- A product has no picture that could be loaded. -/
def LacksPicture (p : Product) : Prop :=
  ∀ image, p.image = some image → ¬ "http".toList <+: image.toList

/-- The label on the placeholder of a product: its name, unless there is nothing in it to see. -/
def Labelled (p : Product) (label : String) : Prop :=
  p.name = some label ∧ blank label = false ∨
    (∀ name, p.name = some name → blank name = true) ∧ label = "No Image"

variable {p q : Product} {image label name : String}

theorem imageUrl_of_image (himage : p.image = some image)
    (hhttp : "http".toList <+: image.toList) : p.imageUrl = image := by
  have hfilter : (p.image.filter fun image => "http".toList.isPrefixOf image.toList) =
      some image := by
    rw [himage]
    exact if_pos (List.isPrefixOf_iff_prefix.mpr hhttp)
  rw [imageUrl, hfilter]

theorem shown?_some (name : String) :
    shown? (some name) = if blank name then none else some name := by
  rw [shown?, Option.filter_some]
  cases blank name <;> rfl

theorem labelled_shown (p : Product) : Labelled p ((shown? p.name).getD "No Image") := by
  cases hname : p.name with
  | none =>
      refine .inr ⟨fun name h => ?_, rfl⟩
      nomatch hname.symm.trans h
  | some name =>
      rw [shown?_some]
      cases hblank : blank name with
      | false => exact .inl ⟨hname, hblank⟩
      | true =>
          refine .inr ⟨fun other h => ?_, rfl⟩
          rw [← Option.some.inj (hname.symm.trans h), hblank]

/-- A name with something in it to see is the label. -/
theorem Labelled.eq_name (h : Labelled p label) (hname : p.name = some name)
    (hblank : blank name = false) : label = name := by
  rcases h with ⟨hlabel, -⟩ | ⟨hnone, -⟩
  · exact Option.some.inj (hlabel.symm.trans hname)
  · exact absurd ((hnone name hname).symm.trans hblank) Bool.true_eq_false.mp

theorem imageUrl_of_lacksPicture (h : LacksPicture p) :
    ∃ label text, Labelled p label ∧ Carries text label ∧
      p.imageUrl = placeholderBase ++ "?text=" ++ String.ofList text := by
  have hfilter : (p.image.filter fun image => "http".toList.isPrefixOf image.toList) = none := by
    refine Option.filter_eq_none_iff.mpr fun image himage hhttp => ?_
    exact h image himage (List.isPrefixOf_iff_prefix.mp hhttp)
  exact ⟨_, _, labelled_shown p, carries_placeholderText _, by rw [imageUrl, hfilter]⟩

theorem Carries.label_eq {text : List Char} {label other : String} (h : Carries text label)
    (h' : Carries text other) : label = other :=
  h.form.symm.trans h'.form

/-- The picture of a product is its image, if that can be loaded, and otherwise a placeholder that
carries its name, or a stand-in if there is nothing in the name to see. What a placeholder carries
is read back whole, so that two names do not share one. -/
theorem placeholder_carries_name :
    (∀ (p : Product) (image : String), p.image = some image → "http".toList <+: image.toList →
        p.imageUrl = image) ∧
      (∀ p : Product, LacksPicture p → ∃ label text, Labelled p label ∧ Carries text label ∧
        p.imageUrl = placeholderBase ++ "?text=" ++ String.ofList text) ∧
      ∀ (p q : Product) (name other : String), LacksPicture p → LacksPicture q →
        p.name = some name → blank name = false → q.name = some other → blank other = false →
          name ≠ other → p.imageUrl ≠ q.imageUrl := by
  refine ⟨fun p image => imageUrl_of_image, fun p => imageUrl_of_lacksPicture,
    fun p q name other hp hq hname hblank hother hblank' hne heq => hne ?_⟩
  obtain ⟨label, text, hlabel, hcarries, hurl⟩ := imageUrl_of_lacksPicture hp
  obtain ⟨label', text', hlabel', hcarries', hurl'⟩ := imageUrl_of_lacksPicture hq
  have htext : text = text' := by
    have hlist := congrArg String.toList (hurl.symm.trans (heq.trans hurl'))
    simpa only [String.toList_append, String.toList_ofList, List.append_cancel_left_eq] using hlist
  subst htext
  rw [← hlabel.eq_name hname hblank, ← hlabel'.eq_name hother hblank']
  exact hcarries.label_eq hcarries'

/-- A plus sign and a space in a name are told apart. -/
theorem placeholders_of_sign_and_space :
    { unknown with image := some "https://a/b.png" }.imageUrl = "https://a/b.png" ∧
      LacksPicture { unknown with name := some "a+b" } ∧
      LacksPicture { unknown with name := some "a b", image := some "b.png" } ∧
      { unknown with name := some "a+b" }.imageUrl ≠
        { unknown with name := some "a b", image := some "b.png" }.imageUrl := by
  have hplus : LacksPicture { unknown with name := some "a+b" } := fun image h => nomatch h
  have hspace : LacksPicture { unknown with name := some "a b", image := some "b.png" } := by
    intro image h
    obtain rfl := Option.some.inj h
    decide
  exact ⟨placeholder_carries_name.1 _ _ rfl (by decide), hplus, hspace,
    placeholder_carries_name.2.2 _ _ _ _ hplus hspace rfl (by decide) rfl (by decide) (by decide)⟩

/-- A byte of a character is escaped, and so is a percent sign. -/
example :
    { unknown with name := some "é 5%" }.imageUrl =
      "https://via.placeholder.com/400x300.png?text=%C3%A9%205%25" := by
  decide

end Storefront.Product
