import Storefront.Yaml.Fault
import Storefront.Yaml.Scalar.Content

/-!
# Why a document is refused
-/

namespace Storefront.Yaml

/-- What a value is refused for. -/
inductive Cause where
  | mismatch (found : Found) (wanted : String)
  | badValue (found : Found) (wanted : String)
  | repeatedField (name : String)
  deriving DecidableEq, Repr

def Cause.message : Cause → String
  | mismatch found wanted => "invalid type: " ++ found.describe ++ ", expected " ++ wanted
  | badValue found wanted => "invalid value: " ++ found.describe ++ ", expected " ++ wanted
  | repeatedField name => s!"duplicate field `{name}`"

/-- The keys that lead to a value, innermost first. -/
abbrev Path := List String

def Path.text (p : Path) : String :=
  ".".intercalate p.reverse

inductive Failure where
  | fault (f : Fault)
  | unknownAnchor (p : Position)
  | ended
  | severalDocuments
  | refused (cause : Cause) (place : Option (Path × Position))
  deriving Repr

namespace Failure

def message : Failure → String
  | fault f => f.message
  | unknownAnchor p => "unknown anchor" ++ p.suffix
  | ended => "EOF while parsing a value"
  | severalDocuments => "deserializing from YAML containing more than one document is not supported"
  | refused cause none => cause.message
  | refused cause (some (path, p)) =>
    (if path.isEmpty then "" else path.text ++ ": ") ++ cause.message ++ p.suffix

/-- Says where a value is refused, unless that is known. -/
def placed (path : Path) (p : Position) : Failure → Failure
  | refused cause none => refused cause (some (path, p))
  | f => f

end Failure

end Storefront.Yaml
