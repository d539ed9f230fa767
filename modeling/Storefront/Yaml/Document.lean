import Storefront.Yaml.Event.Grammar
import Storefront.Yaml.Token.Lexer

/-!
# Documents

The first document of a text as far as it can be read. Each anchor in it has a number, and an alias names the
number of its anchor.
-/

namespace Storefront.Yaml

inductive Item where
  /-- A text without a document. -/
  | nothing
  | reference (number : Nat)
  | scalar (s : Scalar)
  | sequenceStart
  | sequenceEnd
  | mappingStart
  | mappingEnd
  deriving DecidableEq, Repr, Inhabited

/-- Why a document cannot be read on. -/
inductive ReadFault where
  | fault (f : Fault)
  | unknownAnchor (p : Position)
  deriving DecidableEq, Repr

structure Document where
  items : List (Item × Position) := []
  /-- Which items the anchors stand at, by number. -/
  anchors : List (Nat × Nat) := []
  fault : Option ReadFault := none
  /-- Another document follows. -/
  more : Bool := false
  deriving Repr

namespace Document

/-- A document under way: items, last one first, and the numbers of the names bound so far. -/
structure Draft where
  items : List (Item × Position) := []
  names : List (String × Nat) := []
  anchors : List (Nat × Nat) := []

namespace Draft

/-- Binds a name to the next item. Its number is how many names there are, so that names that were bound
again can leave a number to several anchors; the last of them counts. -/
def bind (d : Draft) (anchor : Option String) : Draft :=
  match anchor with
  | none => d
  | some name =>
    let number := d.names.length
    { d with
      names := (name, number) :: d.names.filter (·.1 ≠ name)
      anchors := (number, d.items.length) :: d.anchors }

def add (d : Draft) (item : Item) (p : Position) : Draft :=
  { d with items := (item, p) :: d.items }

def finish (d : Draft) (fault : Option ReadFault) (more : Bool) : Document :=
  { items := d.items.reverse, anchors := d.anchors, fault, more }

end Draft

/-- Something other than the end of the stream follows. -/
def hasMore (events : List (Event × Position)) : Bool :=
  !(events.head?.any fun e => e.1 == .streamEnd)

def collect (fault : Option Fault) : Draft → List (Event × Position) → Document
  | d, [] => d.finish (fault.map .fault) false
  | d, (e, p) :: rest =>
    match e with
    | .streamEnd => (if d.items.isEmpty then d.add .nothing p else d).finish none false
    | .documentStart => collect fault d rest
    | .documentEnd => d.finish none (hasMore rest)
    | .reference name =>
      match List.lookup name d.names with
      | some number => collect fault (d.add (.reference number) p) rest
      | none => d.finish (some (.unknownAnchor p)) false
    | .scalar s anchor => collect fault ((d.bind anchor).add (.scalar s) p) rest
    | .sequenceStart anchor => collect fault ((d.bind anchor).add .sequenceStart p) rest
    | .sequenceEnd => collect fault (d.add .sequenceEnd p) rest
    | .mappingStart anchor => collect fault ((d.bind anchor).add .mappingStart p) rest
    | .mappingEnd => collect fault (d.add .mappingEnd p) rest

/-- The first document of a text. -/
def ofText (text : String) : Document :=
  let (events, fault) := Event.ofTokens (scan text.toList)
  collect fault {} events

/-- The item that an anchor stands at, and those behind it. -/
def fromAnchor (d : Document) (number : Nat) : List (Item × Position) :=
  match List.lookup number d.anchors with
  | some n => d.items.drop n
  | none => []

end Document

end Storefront.Yaml
