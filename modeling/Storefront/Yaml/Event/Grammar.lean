import Storefront.Yaml.Event.Basic
import Storefront.Yaml.Tag

/-!
# The grammar of YAML

Tokens make events. What may come next is a state; the states to go back to after a value are on a stack.
-/

namespace Storefront.Yaml

/-- What is expected next. -/
inductive Expected where
  | firstDocument
  | nextDocument
  | documentContent
  | documentEnd
  | blockNode
  | blockSequenceEntry (first : Bool)
  | indentlessEntry
  | blockKey (first : Bool)
  | blockValue
  | flowSequenceEntry (first : Bool)
  | flowPairKey
  | flowPairValue
  | flowPairEnd
  | flowKey (first : Bool)
  | flowValue
  | flowNoValue
  | nothing
  deriving DecidableEq, Repr, Inhabited

/-- A tag handle and what it stands for. -/
abbrev TagHandle := List Char × List Char

structure Grammar where
  tokens : List Token
  expected : Expected := .firstDocument
  /-- What is expected behind each open value, innermost first. -/
  stack : List Expected := []
  /-- Where the open collections begin, innermost first. -/
  starts : List Position := []
  handles : List TagHandle := []

namespace Grammar

/-- An event, where it begins, and how to go on; nothing if the tokens end. -/
abbrev Step := Except Fault (Option ((Event × Position) × Grammar))

def emit (g : Grammar) (e : Event) (p : Position) : Step :=
  .ok (some ((e, p), g))

def next (g : Grammar) : Grammar :=
  { g with tokens := g.tokens.drop 1 }

def expect (g : Grammar) (e : Expected) : Grammar :=
  { g with expected := e }

/-- Goes back to what surrounds a value. -/
def back (g : Grammar) : Grammar :=
  { g with expected := g.stack.headD .nothing, stack := g.stack.drop 1 }

/-- Goes back from a collection. -/
def close (g : Grammar) : Grammar :=
  { g.back.next with starts := g.starts.drop 1 }

def push (g : Grammar) (e : Expected) : Grammar :=
  { g with stack := e :: g.stack }

/-- Passes the token that opens a collection. -/
def opened (g : Grammar) (first : Bool) (p : Position) : Grammar :=
  if first then { g.next with starts := p :: g.starts } else g

def fail (g : Grammar) (part : Part) (problem : Problem) (p : Position) : Step :=
  .error { problem, position := p, part := g.starts.head?.map fun start => (part, start) }

/-- A value that is left out. -/
def empty (g : Grammar) (p : Position) : Step :=
  g.emit (.scalar { text := "", style := .plain } none) p

/-! ## Values -/

/-- What stands before a value: an anchor and a tag, in any order. -/
structure Properties where
  start : Option Position := none
  anchor : Option (List Char) := none
  /-- Where a tag stands, its handle and the rest. -/
  tag : Option (Position × List Char × List Char) := none

def properties (tokens : List Token) : Properties × List Token :=
  match tokens with
  | ⟨.anchor name, p⟩ :: ⟨.tag handle suffix, q⟩ :: rest =>
    ({ start := some p, anchor := some name, tag := some (q, handle, suffix) }, rest)
  | ⟨.anchor name, p⟩ :: rest => ({ start := some p, anchor := some name }, rest)
  | ⟨.tag handle suffix, p⟩ :: ⟨.anchor name, _⟩ :: rest =>
    ({ start := some p, anchor := some name, tag := some (p, handle, suffix) }, rest)
  | ⟨.tag handle suffix, p⟩ :: rest => ({ start := some p, tag := some (p, handle, suffix) }, rest)
  | tokens => ({}, tokens)

/-- A tag whose handle has been replaced by what it stands for. -/
def resolve (g : Grammar) (start : Position) (tag : Option (Position × List Char × List Char)) :
    Except Fault (Option String) :=
  match tag with
  | none => .ok none
  | some (_, [], suffix) => .ok (some (String.ofList suffix))
  | some (p, handle, suffix) =>
    match List.lookup handle g.handles with
    | some start => .ok (some (String.ofList (start ++ suffix)))
    | none => .error { problem := .unknownTagHandle, position := p, part := some (.node, start) }

/-- The value that begins with the next token. In a mapping the entries of a sequence need no indentation. -/
def node (g : Grammar) (block indentless : Bool) : Step := do
  match g.tokens with
  | ⟨.reference name, p⟩ :: _ => g.back.next.emit (.reference (String.ofList name)) p
  | tokens =>
    let (props, rest) := properties tokens
    match rest with
    | [] => .ok none
    | token :: _ =>
      let start := props.start.getD token.position
      let tag ← g.resolve start props.tag
      let anchor := props.anchor.map String.ofList
      let g := { g with tokens := rest }
      let collection (e : Event) (expected : Expected) : Step := (g.expect expected).emit e start
      match token.kind with
      | .blockEntry =>
        if indentless then collection (.sequenceStart anchor) .indentlessEntry
        else nodeless g start tag anchor token
      | .scalar style text =>
        g.back.next.emit (.scalar { text := String.ofList text, style, tag } anchor) start
      | .flowSequence => collection (.sequenceStart anchor) (.flowSequenceEntry true)
      | .flowMapping => collection (.mappingStart anchor) (.flowKey true)
      | .blockSequence =>
        if block then collection (.sequenceStart anchor) (.blockSequenceEntry true)
        else nodeless g start tag anchor token
      | .blockMapping =>
        if block then collection (.mappingStart anchor) (.blockKey true)
        else nodeless g start tag anchor token
      | _ => nodeless g start tag anchor token
where
  /-- No value follows: it is empty if something stands before it. -/
  nodeless (g : Grammar) (start : Position) (tag anchor : Option String) (token : Token) : Step :=
    if tag.isSome || anchor.isSome then
      g.back.emit (.scalar { text := "", style := .plain, tag } anchor) start
    else
      .error
        { problem := .noContent, position := token.position
          part := some (if block then .blockNode else .flowNode, start) }

/-! ## Documents -/

/-- The handles that need no directive. -/
def defaultHandles : List TagHandle :=
  [(['!'], ['!']), (['!', '!'], "tag:yaml.org,2002:".toList)]

/-- Reads the directives before a document. -/
def directives (seen : Bool) (handles : List TagHandle) :
    List Token → Except Fault (List TagHandle × List Token)
  | ⟨.version major minor, p⟩ :: rest =>
    if seen then .error { problem := .repeatedVersion, position := p }
    else if major ≠ 1 || (minor ≠ 1 && minor ≠ 2) then
      .error { problem := .incompatibleVersion, position := p }
    else directives true handles rest
  | ⟨.tagHandle handle start, p⟩ :: rest =>
    if (List.lookup handle handles).isSome then .error { problem := .repeatedTagHandle, position := p }
    else directives seen (handles ++ [(handle, start)]) rest
  | tokens => .ok (handles ++ defaultHandles, tokens)

def isDocumentEnd (t : Token) : Bool :=
  t.kind == .documentEnd

/-- A document without a line that begins it. -/
def bareDocument (g : Grammar) (p : Position) : Step :=
  emit { (g.push .documentEnd).expect .blockNode with handles := defaultHandles } .documentStart p

/-- A document behind directives and the line that begins it, or the end. -/
def document (g : Grammar) : Step := do
  match g.tokens with
  | [] => .ok none
  | ⟨.streamEnd, p⟩ :: _ => (g.next.expect .nothing).emit .streamEnd p
  | ⟨_, start⟩ :: _ =>
    let (handles, tokens) ← directives false [] g.tokens
    match tokens with
    | [] => .ok none
    | ⟨.documentStart, _⟩ :: rest =>
      let g := (g.push .documentEnd).expect .documentContent
      emit { g with tokens := rest, handles } .documentStart start
    | ⟨_, p⟩ :: _ => .error { problem := .noDocumentStart, position := p }

/-- The first document, which needs no line that begins it. -/
def firstDocument (g : Grammar) : Step :=
  match g.tokens with
  | [] => .ok none
  | ⟨kind, p⟩ :: _ =>
    match kind with
    | .version _ _ => g.document
    | .tagHandle _ _ => g.document
    | .documentStart => g.document
    | .streamEnd => g.document
    | _ => g.bareDocument p

/-- The content of a document behind the line that begins it. -/
def documentContent (g : Grammar) : Step :=
  match g.tokens with
  | [] => .ok none
  | ⟨kind, p⟩ :: _ =>
    match kind with
    | .version _ _ => g.back.empty p
    | .tagHandle _ _ => g.back.empty p
    | .documentStart => g.back.empty p
    | .documentEnd => g.back.empty p
    | .streamEnd => g.back.empty p
    | _ => g.node true false

def documentEnd (g : Grammar) : Step :=
  match g.tokens with
  | [] => .ok none
  | t :: _ =>
    let g := if isDocumentEnd t then g.next else g
    emit { g.expect .nextDocument with handles := [] } .documentEnd t.position

/-! ## Collections in block style -/

/-- The value behind an indicator at `p`, after which `after` is expected. It is left out if `missing` holds of
the next token. -/
def valueOrEmpty (g : Grammar) (p : Position) (after : Expected) (indentless : Bool) (missing : TokenKind → Bool) :
    Step :=
  match g.tokens with
  | [] => .ok none
  | t :: _ =>
    if missing t.kind then (g.expect after).empty (p.right 1 1)
    else (g.push after).node true indentless

def endsEntry (k : TokenKind) : Bool :=
  k == .blockEntry || k == .blockEnd

def endsPair (k : TokenKind) : Bool :=
  k == .key || k == .value || k == .blockEnd

def blockSequenceEntry (g : Grammar) : Step :=
  match g.tokens with
  | [] => .ok none
  | ⟨.blockEntry, p⟩ :: _ => g.next.valueOrEmpty p (.blockSequenceEntry false) false endsEntry
  | ⟨.blockEnd, p⟩ :: _ => g.close.emit .sequenceEnd p
  | ⟨_, p⟩ :: _ => g.fail .blockSequence .noDash p

def indentlessEntry (g : Grammar) : Step :=
  match g.tokens with
  | [] => .ok none
  | ⟨.blockEntry, p⟩ :: _ =>
    g.next.valueOrEmpty p .indentlessEntry false fun k => endsEntry k || endsPair k
  | ⟨_, p⟩ :: _ => g.back.emit .sequenceEnd p

def blockKey (g : Grammar) : Step :=
  match g.tokens with
  | [] => .ok none
  | ⟨.key, p⟩ :: _ => g.next.valueOrEmpty p .blockValue true endsPair
  | ⟨.blockEnd, p⟩ :: _ => g.close.emit .mappingEnd p
  | ⟨_, p⟩ :: _ => g.fail .blockMapping .noKey p

def blockValue (g : Grammar) : Step :=
  match g.tokens with
  | [] => .ok none
  | ⟨.value, p⟩ :: _ => g.next.valueOrEmpty p (.blockKey false) true endsPair
  | ⟨_, p⟩ :: _ => (g.expect (.blockKey false)).empty p

/-! ## Collections in flow style -/

/-- Passes the comma before an entry other than the first. -/
def comma (g : Grammar) (first : Bool) (part : Part) (problem : Problem) : Except Fault (Option Grammar) :=
  match g.tokens with
  | [] => .ok none
  | ⟨kind, p⟩ :: _ =>
    if first then .ok (some g)
    else if kind == .flowEntry then .ok (some g.next)
    else .error { problem, position := p, part := g.starts.head?.map fun start => (part, start) }

def flowSequenceEntry (g : Grammar) (first : Bool) : Step := do
  match g.tokens with
  | [] => .ok none
  | ⟨.flowSequenceEnd, p⟩ :: _ => g.close.emit .sequenceEnd p
  | _ =>
    match ← g.comma first .flowSequence .noCommaOrBracket with
    | none => .ok none
    | some g =>
      match g.tokens with
      | [] => .ok none
      | ⟨.key, p⟩ :: _ => (g.next.expect .flowPairKey).emit (.mappingStart none) p
      | ⟨.flowSequenceEnd, p⟩ :: _ => g.close.emit .sequenceEnd p
      | _ => (g.push (.flowSequenceEntry false)).node false false

/-- The key of a pair in a sequence. One that is left out takes the next token with it. -/
def flowPairKey (g : Grammar) : Step :=
  match g.tokens with
  | [] => .ok none
  | ⟨kind, p⟩ :: _ =>
    if kind == .value || kind == .flowEntry || kind == .flowSequenceEnd then
      (g.next.expect .flowPairValue).empty (p.right 1 1)
    else (g.push .flowPairValue).node false false

def flowPairValue (g : Grammar) : Step :=
  match g.tokens with
  | [] => .ok none
  | ⟨.value, _⟩ :: rest =>
    match rest with
    | [] => .ok none
    | ⟨kind, p⟩ :: _ =>
      if kind == .flowEntry || kind == .flowSequenceEnd then
        (g.next.expect .flowPairEnd).empty p
      else (g.next.push .flowPairEnd).node false false
  | ⟨_, p⟩ :: _ => (g.expect .flowPairEnd).empty p

def flowPairEnd (g : Grammar) : Step :=
  match g.tokens with
  | [] => .ok none
  | t :: _ => (g.expect (.flowSequenceEntry false)).emit .mappingEnd t.position

def flowKey (g : Grammar) (first : Bool) : Step := do
  match g.tokens with
  | [] => .ok none
  | ⟨.flowMappingEnd, p⟩ :: _ => g.close.emit .mappingEnd p
  | _ =>
    match ← g.comma first .flowMapping .noCommaOrBrace with
    | none => .ok none
    | some g =>
      match g.tokens with
      | [] => .ok none
      | ⟨.key, _⟩ :: rest =>
        match rest with
        | [] => .ok none
        | ⟨kind, p⟩ :: _ =>
          if kind == .value || kind == .flowEntry || kind == .flowMappingEnd then
            (g.next.expect .flowValue).empty p
          else (g.next.push .flowValue).node false false
      | ⟨.flowMappingEnd, p⟩ :: _ => g.close.emit .mappingEnd p
      | _ => (g.push .flowNoValue).node false false

def flowValue (g : Grammar) : Step :=
  match g.tokens with
  | [] => .ok none
  | ⟨.value, _⟩ :: rest =>
    match rest with
    | [] => .ok none
    | ⟨kind, p⟩ :: _ =>
      if kind == .flowEntry || kind == .flowMappingEnd then
        (g.next.expect (.flowKey false)).empty p
      else (g.next.push (.flowKey false)).node false false
  | ⟨_, p⟩ :: _ => (g.expect (.flowKey false)).empty p

/-! ## All together -/

/-- The next event. -/
def step (g : Grammar) : Step :=
  match g.expected with
  | .firstDocument => g.firstDocument
  | .nextDocument => document { g with tokens := g.tokens.dropWhile isDocumentEnd }
  | .documentContent => g.documentContent
  | .documentEnd => g.documentEnd
  | .blockNode => g.node true false
  | .blockSequenceEntry first => (g.opened first (start g)).blockSequenceEntry
  | .indentlessEntry => g.indentlessEntry
  | .blockKey first => (g.opened first (start g)).blockKey
  | .blockValue => g.blockValue
  | .flowSequenceEntry first => (g.opened first (start g)).flowSequenceEntry first
  | .flowPairKey => g.flowPairKey
  | .flowPairValue => g.flowPairValue
  | .flowPairEnd => g.flowPairEnd
  | .flowKey first => (g.opened first (start g)).flowKey first
  | .flowValue => g.flowValue
  | .flowNoValue =>
    match g.tokens with
    | [] => .ok none
    | t :: _ => (g.expect (.flowKey false)).empty t.position
  | .nothing => .ok none
where
  /-- Where the next token begins. -/
  start (g : Grammar) : Position :=
    match g.tokens with
    | [] => {}
    | t :: _ => t.position

/-- The events up to the end or a fault. `fuel` bounds their number. -/
def events : Nat → Grammar → List (Event × Position) × Option Fault
  | 0, _ => ([], none)
  | fuel + 1, g =>
    match g.step with
    | .error f => ([], some f)
    | .ok none => ([], none)
    | .ok (some (e, g)) =>
      let (es, f) := events fuel g
      (e :: es, f)

end Grammar

/-- The events of tokens that a fault may follow. A token makes at most four events. -/
def Event.ofTokens (tokens : List Token × Option Fault) : List (Event × Position) × Option Fault :=
  let (events, fault) := Grammar.events (4 * tokens.1.length + 4) { tokens := tokens.1 }
  (events, fault.or tokens.2)

end Storefront.Yaml
