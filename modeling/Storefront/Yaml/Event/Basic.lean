import Storefront.Yaml.Token.Basic

/-!
# Events of a YAML text

What a text says, in order: where documents, sequences and mappings begin and end, and the scalars in them.
-/

namespace Storefront.Yaml

structure Scalar where
  text : String
  style : ScalarStyle
  tag : Option String := none
  deriving DecidableEq, Repr, Inhabited

inductive Event where
  | streamEnd
  | documentStart
  | documentEnd
  | reference (name : String)
  | scalar (s : Scalar) (anchor : Option String)
  | sequenceStart (anchor : Option String)
  | sequenceEnd
  | mappingStart (anchor : Option String)
  | mappingEnd
  deriving DecidableEq, Repr, Inhabited

end Storefront.Yaml
