import Storefront.Yaml.Position

/-!
# Faults of a YAML text

Why a text is no YAML, and where that shows.
-/

namespace Storefront.Yaml

inductive Problem where
  | controlCharacter
  | noToken
  | noColon
  | sequenceEntryHere
  | mappingKeyHere
  | mappingValueHere
  | noDirectiveName
  | unexpectedInDirectiveName
  | unknownDirective
  | noLineEnd
  | noVersion
  | longVersion
  | noDigitOrDot
  | noWhitespace
  | noWhitespaceOrLineBreak
  | noBang
  | noTagUri
  | noUriOctet
  | badLeadingOctet
  | badTrailingOctet
  | noTagEnd
  | noName
  | zeroIndentation
  | tabForIndentation
  | tabAgainstIndentation
  | markerInScalar
  | endInScalar
  | unknownEscape
  | noHexDigit
  | badEscapedCharacter
  | colonInScalar
  | repeatedVersion
  | incompatibleVersion
  | repeatedTagHandle
  | unknownTagHandle
  | noDocumentStart
  | noContent
  | noDash
  | noKey
  | noCommaOrBracket
  | noCommaOrBrace
  deriving DecidableEq, Repr

namespace Problem

def message : Problem → String
  | controlCharacter => "control characters are not allowed"
  | noToken => "found character that cannot start any token"
  | noColon => "could not find expected ':'"
  | sequenceEntryHere => "block sequence entries are not allowed in this context"
  | mappingKeyHere => "mapping keys are not allowed in this context"
  | mappingValueHere => "mapping values are not allowed in this context"
  | noDirectiveName => "could not find expected directive name"
  | unexpectedInDirectiveName => "found unexpected non-alphabetical character"
  | unknownDirective => "found unknown directive name"
  | noLineEnd => "did not find expected comment or line break"
  | noVersion => "did not find expected version number"
  | longVersion => "found extremely long version number"
  | noDigitOrDot => "did not find expected digit or '.' character"
  | noWhitespace => "did not find expected whitespace"
  | noWhitespaceOrLineBreak => "did not find expected whitespace or line break"
  | noBang => "did not find expected '!'"
  | noTagUri => "did not find expected tag URI"
  | noUriOctet => "did not find URI escaped octet"
  | badLeadingOctet => "found an incorrect leading UTF-8 octet"
  | badTrailingOctet => "found an incorrect trailing UTF-8 octet"
  | noTagEnd => "did not find the expected '>'"
  | noName => "did not find expected alphabetic or numeric character"
  | zeroIndentation => "found an indentation indicator equal to 0"
  | tabForIndentation => "found a tab character where an indentation space is expected"
  | tabAgainstIndentation => "found a tab character that violates indentation"
  | markerInScalar => "found unexpected document indicator"
  | endInScalar => "found unexpected end of stream"
  | unknownEscape => "found unknown escape character"
  | noHexDigit => "did not find expected hexdecimal number"
  | badEscapedCharacter => "found invalid Unicode character escape code"
  | colonInScalar => "found unexpected ':'"
  | repeatedVersion => "found duplicate %YAML directive"
  | incompatibleVersion => "found incompatible YAML document"
  | repeatedTagHandle => "found duplicate %TAG directive"
  | unknownTagHandle => "found undefined tag handle"
  | noDocumentStart => "did not find expected <document start>"
  | noContent => "did not find expected node content"
  | noDash => "did not find expected '-' indicator"
  | noKey => "did not find expected key"
  | noCommaOrBracket => "did not find expected ',' or ']'"
  | noCommaOrBrace => "did not find expected ',' or '\x7d'"

end Problem

/-- The part of a text that was being read when a problem showed. -/
inductive Part where
  | nextToken
  | simpleKey
  | directive
  | versionDirective
  | tagDirective
  | tagDirectiveStart
  | tagDirectiveHandle
  | tagDirectiveUri
  | tag
  | tagUri
  | anchor
  | reference
  | blockScalar
  | quotedScalar
  | quotedCharacter
  | plainScalar
  | node
  | blockNode
  | flowNode
  | blockSequence
  | blockMapping
  | flowSequence
  | flowMapping
  deriving DecidableEq, Repr

namespace Part

def message : Part → String
  | nextToken => "while scanning for the next token"
  | simpleKey => "while scanning a simple key"
  | directive => "while scanning a directive"
  | versionDirective => "while scanning a %YAML directive"
  | tagDirective => "while scanning a %TAG directive"
  | tagDirectiveStart => "while scanning a tag directive"
  | tagDirectiveHandle => "while parsing a tag directive"
  | tagDirectiveUri => "while parsing a %TAG directive"
  | tag => "while scanning a tag"
  | tagUri => "while parsing a tag"
  | anchor => "while scanning an anchor"
  | reference => "while scanning an alias"
  | blockScalar => "while scanning a block scalar"
  | quotedScalar => "while scanning a quoted scalar"
  | quotedCharacter => "while parsing a quoted scalar"
  | plainScalar => "while scanning a plain scalar"
  | node => "while parsing a node"
  | blockNode => "while parsing a block node"
  | flowNode => "while parsing a flow node"
  | blockSequence => "while parsing a block collection"
  | blockMapping => "while parsing a block mapping"
  | flowSequence => "while parsing a flow sequence"
  | flowMapping => "while parsing a flow mapping"

end Part

/-- A problem, its place, and the part that it is in with the place where that begins. A character that may not
occur at all is found before there are lines, so its place is a number of bytes. -/
structure Fault where
  problem : Problem
  position : Position := {}
  offset : Nat := 0
  part : Option (Part × Position) := none
  deriving DecidableEq, Repr

namespace Fault

def placeText (f : Fault) : String :=
  if !f.position.isStart then f.position.suffix
  else if f.offset ≠ 0 then s!" at position {f.offset}"
  else ""

/-- Where a part begins, unless the problem is at the same place. -/
def partText (f : Fault) : String :=
  match f.part with
  | none => ""
  | some (part, start) =>
    let sameSpot := start.line == f.position.line && start.column == f.position.column
    ", " ++ part.message ++ (if sameSpot then "" else start.suffix)

def message (f : Fault) : String :=
  f.problem.message ++ f.placeText ++ f.partText

end Fault

end Storefront.Yaml
