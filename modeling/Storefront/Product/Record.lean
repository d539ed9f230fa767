import Storefront.Json.Record
import Storefront.Json.Writer
import Storefront.Product.Basic

/-!
# Products in replies

Products as JSON records. Reading is lenient: a field whose value has another type than the field is
missing. What is written reads back as the same product.
-/

namespace Storefront

open Storefront.Json

namespace Product

/-- The field names, in the order in which they are written. -/
def fieldNames : List String :=
  ["Id", "Name", "Image", "Category", "Ratings", "NoRatings", "DiscountPrice", "ActualPrice",
    "Keywords"]

def asId? : Value → Option ProductId
  | .string s => some (.text s)
  | .number n => some (.number n)
  | _ => none

def asText? : Value → Option String
  | .string s => some s
  | _ => none

def asNumber? : Value → Option Binary64
  | .number n => some n.toBinary64
  | _ => none

def asTexts? : Value → Option (List String)
  | .array items => items.mapM asText?
  | _ => none

/-- The product whose fields have the given values. -/
def ofValues (value : String → Option Value) : Product :=
  { id := (value "Id").bind asId?
    name := (value "Name").bind asText?
    image := (value "Image").bind asText?
    category := (value "Category").bind asText?
    ratings := (value "Ratings").bind asNumber?
    noRatings := (value "NoRatings").bind asNumber?
    discountPrice := (value "DiscountPrice").bind asNumber?
    actualPrice := (value "ActualPrice").bind asNumber?
    keywords := (value "Keywords").bind asTexts? }

/-- A field of any type, kept as it was written until the record is complete. -/
def field (depth : Nat) (name : String) : Member (List (String × Value)) :=
  { name
    isSet := fun read => (List.lookup name read).isSome
    read := fun read cs => do
      let (v, rest) ← Json.value depth cs
      .ok ((name, v) :: read, rest) }

def read (depth : Nat) (cs : List Char) : Except Failure (Product × List Char) := do
  let ((values, _), rest) ←
    record "struct Product" (fun depth => fieldNames.map (field depth)) [] depth cs
  .ok (ofValues fun name => List.lookup name values, rest)

/-- The product that a text holds and nothing else. -/
def parse (text : String) : Except Failure Product :=
  ended (read depthLimit text.toList)

def writeOption {α : Type} (write : α → List Char) : Option α → List Char
  | none => Json.write .null
  | some x => write x

def writeId : ProductId → List Char
  | .text s => writeString s
  | .number n => writeNumber n

def write (p : Product) : List Char :=
  writeObject
    [("Id", writeOption writeId p.id), ("Name", writeOption writeString p.name),
      ("Image", writeOption writeString p.image), ("Category", writeOption writeString p.category),
      ("Ratings", writeOption writeFloat p.ratings),
      ("NoRatings", writeOption writeFloat p.noRatings),
      ("DiscountPrice", writeOption writeFloat p.discountPrice),
      ("ActualPrice", writeOption writeFloat p.actualPrice),
      ("Keywords", writeOption (fun ks => writeList (ks.map writeString)) p.keywords)]

end Product

end Storefront
