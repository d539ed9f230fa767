import Storefront.Proofs.Json.Numerals
import Storefront.Proofs.Product.Fields

/-! # A product that was written is read back

What a field is written as stands for a value of the type that the field wants, and what is missing
is written as `null`, which no field wants. So nothing is lost by the leniency of the reader. -/

namespace Storefront

open Storefront.Json

def ProductId.float? : ProductId → Option Binary64
  | number (.float x) => some x
  | _ => none

namespace Product

variable {depth : Nat}

/-- The floating-point numbers that are written in a product. -/
def floats (p : Product) : List Binary64 :=
  (p.id.bind ProductId.float?).toList ++ p.ratings.toList ++ p.noRatings.toList ++
    p.discountPrice.toList ++ p.actualPrice.toList

theorem mem_floats {p : Product} {x : Binary64}
    (h : x ∈ p.ratings ∨ x ∈ p.noRatings ∨ x ∈ p.discountPrice ∨ x ∈ p.actualPrice) :
    x ∈ p.floats := by
  simp only [floats, List.mem_append, Option.mem_toList]
  tauto

/-! ## The value of a product -/

/-- What a field stands for when it is written. -/
def fieldOf {α : Type} (value : α → Value) (field : Option α) : Value :=
  field.elim .null value

def ofId : ProductId → Value
  | .text s => .string s
  | .number n => .number n

def ofNumber (x : Binary64) : Value :=
  .number (.float x)

def ofTexts (ks : List String) : Value :=
  .array (ks.map .string)

def entries (p : Product) : List (String × Value) :=
  [("Id", fieldOf ofId p.id), ("Name", fieldOf .string p.name), ("Image", fieldOf .string p.image),
    ("Category", fieldOf .string p.category), ("Ratings", fieldOf ofNumber p.ratings),
    ("NoRatings", fieldOf ofNumber p.noRatings),
    ("DiscountPrice", fieldOf ofNumber p.discountPrice),
    ("ActualPrice", fieldOf ofNumber p.actualPrice), ("Keywords", fieldOf ofTexts p.keywords)]

theorem read_fieldOf {α : Type} {read? : Value → Option α} {value : α → Value}
    (hnull : read? .null = none) (hvalue : ∀ x, read? (value x) = some x) (field : Option α) :
    read? (fieldOf value field) = field := by
  cases field with
  | none => exact hnull
  | some x => exact hvalue x

/-- A product is read off its own value. -/
theorem ofValues_entries (p : Product) :
    ofValues (fun name => List.lookup name p.entries) = p := by
  have hid : asId? (fieldOf ofId p.id) = p.id := by
    refine read_fieldOf rfl (fun i => ?_) p.id
    cases i <;> rfl
  have htext : ∀ field, asText? (fieldOf .string field) = field := read_fieldOf rfl fun _ => rfl
  have hnumber : ∀ field, asNumber? (fieldOf ofNumber field) = field :=
    read_fieldOf rfl fun _ => rfl
  have htexts : asTexts? (fieldOf ofTexts p.keywords) = p.keywords :=
    read_fieldOf rfl (fun _ => asTexts?_eq_some_iff.mpr rfl) p.keywords
  have hfields : ofValues (fun name => List.lookup name p.entries) =
      { id := asId? (fieldOf ofId p.id)
        name := asText? (fieldOf .string p.name)
        image := asText? (fieldOf .string p.image)
        category := asText? (fieldOf .string p.category)
        ratings := asNumber? (fieldOf ofNumber p.ratings)
        noRatings := asNumber? (fieldOf ofNumber p.noRatings)
        discountPrice := asNumber? (fieldOf ofNumber p.discountPrice)
        actualPrice := asNumber? (fieldOf ofNumber p.actualPrice)
        keywords := asTexts? (fieldOf ofTexts p.keywords) } := rfl
  rw [hfields]
  simp only [hid, htext, hnumber, htexts]

/-! ## The text of a product -/

theorem standsFor_writeOption {α : Type} {write : α → List Char} {value : α → Value}
    {field : Option α} (h : ∀ x, field = some x → StandsFor depth (write x) (value x)) :
    StandsFor depth (writeOption write field) (fieldOf value field) := by
  cases field with
  | none => exact standsFor_null depth
  | some x => exact h x rfl

theorem standsFor_writeTexts (depth : Nat) (ks : List String) :
    StandsFor (depth + 1) (writeList (ks.map writeString)) (ofTexts ks) := by
  refine standsFor_list ?_
  rw [List.forall₂_map_left_iff, List.forall₂_map_right_iff, List.forall₂_same]
  exact fun k _ => standsFor_string depth k

/-- All numbers of a product are finite, and its id is one that JSON texts can hold. -/
structure Writable (p : Product) : Prop where
  id : ∀ n, p.id = some (.number n) → n.Valid
  finite : ∀ x ∈ p.floats, x.isFinite = true

variable {p : Product}

theorem standsFor_writeId (hvalid : p.Writable) (hreads : ∀ x ∈ p.floats, ReadsBack x)
    (depth : Nat) {i : ProductId} (hid : p.id = some i) :
    StandsFor depth (writeId i) (ofId i) := by
  cases i with
  | text s => exact standsFor_string depth s
  | number n =>
      refine standsFor_writeNumber (hvalid.id n hid) ?_ depth
      rintro x rfl
      exact hreads x (by simp [floats, hid, ProductId.float?])

/-- A product stands for its value when it is written. -/
theorem standsFor_write (hvalid : p.Writable) (hreads : ∀ x ∈ p.floats, ReadsBack x)
    (depth : Nat) : StandsFor (depth + 2) p.write (.object p.entries) := by
  have htext : ∀ field, StandsFor (depth + 1) (writeOption writeString field)
      (fieldOf .string field) :=
    fun field => standsFor_writeOption fun s _ => standsFor_string _ s
  have hnumber : ∀ field : Option Binary64, (∀ x ∈ field, x ∈ p.floats) →
      StandsFor (depth + 1) (writeOption writeFloat field) (fieldOf ofNumber field) := by
    intro field hmem
    refine standsFor_writeOption fun x hx => ?_
    exact standsFor_float (hvalid.finite x (hmem x hx)) (hreads x (hmem x hx)) _
  have htexts : StandsFor (depth + 1)
      (writeOption (fun ks => writeList (ks.map writeString)) p.keywords)
      (fieldOf ofTexts p.keywords) :=
    standsFor_writeOption fun ks _ => standsFor_writeTexts depth ks
  have hid : StandsFor (depth + 1) (writeOption writeId p.id) (fieldOf ofId p.id) :=
    standsFor_writeOption fun _ hi => standsFor_writeId hvalid hreads _ hi
  have hratings := hnumber p.ratings fun _ hx => mem_floats (.inl hx)
  have hnoRatings := hnumber p.noRatings fun _ hx => mem_floats (.inr (.inl hx))
  have hdiscount := hnumber p.discountPrice fun _ hx => mem_floats (.inr (.inr (.inl hx)))
  have hactual := hnumber p.actualPrice fun _ hx => mem_floats (.inr (.inr (.inr hx)))
  refine standsFor_object ?_
  simp only [entries, List.forall₂_cons, List.Forall₂.nil, htext, hid, hratings, hnoRatings,
    hdiscount, hactual, htexts, and_true]

/-! ## Equality -/

theorem equals_self_of_isFinite {x : Binary64} (h : x.isFinite = true) : x.equals x = true := by
  have hexponent : (x.exponent == 2047) = false := by
    rwa [Binary64.isFinite, bne, Bool.not_eq_true'] at h
  simp [Binary64.equals, Binary64.isNaN, hexponent]

theorem bothOrNeither_self {α : Type} {eq : α → α → Bool} {field : Option α}
    (h : ∀ x ∈ field, eq x x = true) : bothOrNeither eq field field = true := by
  cases field with
  | none => rfl
  | some x => exact h x rfl

theorem equals_self (h : p.Writable) : p.equals p = true := by
  have hid : bothOrNeither ProductId.equals p.id p.id = true := by
    refine bothOrNeither_self fun i hi => ?_
    cases i with
    | text s => exact beq_self_eq_true s
    | number n =>
        cases n with
        | natural n => exact beq_self_eq_true n
        | negative n => exact beq_self_eq_true n
        | float x => exact equals_self_of_isFinite (h.id _ hi)
  have hnumber : ∀ field : Option Binary64, (∀ x ∈ field, x ∈ p.floats) →
      bothOrNeither Binary64.equals field field = true := by
    intro field hmem
    exact bothOrNeither_self fun x hx => equals_self_of_isFinite (h.finite x (hmem x hx))
  have hratings := hnumber p.ratings fun _ hx => mem_floats (.inl hx)
  have hnoRatings := hnumber p.noRatings fun _ hx => mem_floats (.inr (.inl hx))
  have hdiscount := hnumber p.discountPrice fun _ hx => mem_floats (.inr (.inr (.inl hx)))
  have hactual := hnumber p.actualPrice fun _ hx => mem_floats (.inr (.inr (.inr hx)))
  simp only [equals, hid, hratings, hnoRatings, hdiscount, hactual, beq_self_eq_true,
    Bool.and_self]

/-- Where the floating-point numbers that are written in a product read back as themselves, so does
the product. What is missing is missing still, an id that is a text is one even if it looks like a
number, and a list of keywords is there even if it is empty. -/
theorem parse_write_eq_self (p : Product) (hvalid : p.Writable)
    (hreads : ∀ x ∈ p.floats, ReadsBack x) :
    parse (String.ofList p.write) = .ok p ∧ p.equals p = true := by
  have hvalue : ended (value depthLimit (String.ofList p.write).toList) =
      .ok (.object p.entries) := by
    rw [String.toList_ofList]
    exact (standsFor_write hvalid hreads (depthLimit - 2)).ended
  have hkeys : (p.entries.map Prod.fst).Nodup := by
    have hnames : p.entries.map Prod.fst = fieldNames := rfl
    rw [hnames]
    decide
  rw [parse_of_value hvalue hkeys, ofValues_entries]
  exact ⟨rfl, equals_self hvalid⟩

/-- A product with an id that is a text and looks like a number, the zero with a sign for a price,
and no keyword in its list of them. -/
def lamp : Product :=
  { unknown with
    id := some (.text "17")
    name := some "é\"\n"
    ratings := some ⟨0x4012000000000000⟩
    noRatings := some ⟨0x4092C00000000000⟩
    discountPrice := some (.zero true)
    keywords := some [] }

theorem parse_write_lamp :
    lamp.Writable ∧ (∀ x ∈ lamp.floats, ReadsBack x) ∧
      parse (String.ofList lamp.write) = .ok lamp := by
  have hvalid : lamp.Writable :=
    { id := fun n h => nomatch h
      finite := by decide }
  have hreads : ∀ x ∈ lamp.floats, ReadsBack x := by decide +kernel
  exact ⟨hvalid, hreads, (parse_write_eq_self lamp hvalid hreads).1⟩

end Product

end Storefront
