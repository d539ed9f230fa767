import Storefront.Yaml.Scalar.Block
import Storefront.Yaml.Scalar.Plain
import Storefront.Yaml.Scalar.Quoted
import Storefront.Yaml.Tag
import Storefront.Yaml.Token.Basic

/-!
# Finding tokens

A key is recognized by the colon behind it, so a token is held back as long as a key may have begun before
it. A key has at most 1024 bytes, and ends in the line in which it begins.

Text is taken in blocks. One that holds a character that no text may hold is refused as soon as anything of it
is wanted, and what comes before it is read as any text is.
-/

namespace Storefront.Yaml

/-- A place where a key may have begun. -/
structure KeyCandidate where
  /-- How many tokens come before. -/
  number : Nat
  /-- Nothing but a key may stand here. -/
  required : Bool
  position : Position
  deriving DecidableEq, Repr

structure Lexer where
  cursor : Cursor
  /-- Tokens that are held back. -/
  queue : List Token := []
  /-- How many tokens have been handed out. -/
  delivered : Nat := 0
  /-- The columns of the open block collections, innermost first. -/
  indents : List Nat := []
  keyAllowed : Bool := true
  /-- Where a key may have begun in the innermost collection. -/
  candidate : Option KeyCandidate := none
  /-- Where one may have begun in the collections that surround each open flow collection. -/
  outer : List (Option KeyCandidate) := []
  finished : Bool := false
  /-- Why the text cannot be read on where the cursor has nothing left, if that is not the end. -/
  beyond : Option Fault := none

namespace Lexer

def inFlow (l : Lexer) : Bool :=
  !l.outer.isEmpty

def position (l : Lexer) : Position :=
  l.cursor.position

/-- The column that surrounds what is being read. -/
def indent? (l : Lexer) : Option Nat :=
  l.indents.head?

def fail {α : Type} (l : Lexer) (problem : Problem) : Except Fault α :=
  .error { problem, position := l.position }

def push (l : Lexer) (kind : TokenKind) (p : Position) : Lexer :=
  { l with queue := l.queue ++ [⟨kind, p⟩] }

/-- A token of `n` characters. -/
def mark (l : Lexer) (kind : TokenKind) (n : Nat) : Lexer :=
  { l.push kind l.position with cursor := l.cursor.right n }

/-- Puts a token before those from a number on. -/
def insert (l : Lexer) (number : Nat) (kind : TokenKind) (p : Position) : Lexer :=
  let n := number - l.delivered
  { l with queue := l.queue.take n ++ ⟨kind, p⟩ :: l.queue.drop n }

/-! ## Candidates for keys -/

/-- A candidate that can still become a key; an error if it has to be one and cannot. -/
def keep (l : Lexer) (k : Option KeyCandidate) : Except Fault (Option KeyCandidate) :=
  match k with
  | none => .ok none
  | some k =>
    if k.position.line < l.position.line || k.position.index + 1024 < l.position.index then
      if k.required then failIn .simpleKey k.position .noColon l.cursor else .ok none
    else .ok (some k)

/-- Gives up candidates that are too far back. The outermost are looked at first. -/
def dropStale (l : Lexer) : Except Fault Lexer := do
  let outer ← (l.outer.reverse.mapM l.keep)
  let candidate ← l.keep l.candidate
  .ok { l with outer := outer.reverse, candidate }

/-- Gives up the innermost candidate. -/
def dropCandidate (l : Lexer) : Except Fault Lexer :=
  match l.candidate with
  | some k =>
    if k.required then failIn .simpleKey k.position .noColon l.cursor
    else .ok { l with candidate := none }
  | none => .ok l

/-- A key may begin with the next token. -/
def proposeKey (l : Lexer) : Except Fault Lexer := do
  if l.keyAllowed then
    let number := l.delivered + l.queue.length
    let required := !l.inFlow && l.indent? == some l.position.column
    let l ← l.dropCandidate
    .ok { l with candidate := some ⟨number, required, l.position⟩ }
  else .ok l

/-! ## Indentation -/

/-- Opens a block collection at a column that is further to the right than what surrounds it. -/
def openBlock (l : Lexer) (column number : Nat) (kind : TokenKind) (p : Position) : Lexer :=
  if l.inFlow || l.indent?.any (column ≤ ·) then l
  else { l.insert number kind p with indents := column :: l.indents }

/-- Opens a block collection here. -/
def openBlockHere (l : Lexer) (kind : TokenKind) : Lexer :=
  l.openBlock l.position.column (l.delivered + l.queue.length) kind l.position

/-- Closes the block collections of which `p` holds. -/
def closeBlocks (l : Lexer) (p : Nat → Bool) : Lexer :=
  if l.inFlow then l
  else
    let closed := l.indents.takeWhile p
    { l with
      indents := l.indents.drop closed.length
      queue := l.queue ++ closed.map fun _ => ⟨.blockEnd, l.position⟩ }

/-! ## Tokens -/

/-- Ends the last line, closes all that is open in block style, and ends the stream. -/
def endStream (l : Lexer) : Except Fault Lexer := do
  let p := l.position
  let p := if p.column == 0 then p else ⟨p.index, p.line + 1, 0⟩
  let l := { l with cursor := { l.cursor with position := p } }
  let l ← (l.closeBlocks fun _ => true).dropCandidate
  .ok { l.push .streamEnd l.position with keyAllowed := false, finished := true }

/-- Begins something that ends all blocks. -/
def atTopLevel (l : Lexer) : Except Fault Lexer := do
  let l ← (l.closeBlocks fun _ => true).dropCandidate
  .ok { l with keyAllowed := false }

def readDirective (l : Lexer) : Except Fault Lexer := do
  let l ← l.atTopLevel
  let (d, s) ← directive l.cursor
  let kind := match d with
    | .version major minor => .version major minor
    | .tagHandle handle start => .tagHandle handle start
  .ok { l.push kind l.position with cursor := s }

def documentMarker (l : Lexer) (kind : TokenKind) : Except Fault Lexer := do
  let l ← l.atTopLevel
  .ok (l.mark kind 3)

def openFlow (l : Lexer) (kind : TokenKind) : Except Fault Lexer := do
  let l ← l.proposeKey
  let l := l.mark kind 1
  .ok { l with outer := l.candidate :: l.outer, candidate := none, keyAllowed := true }

def closeFlow (l : Lexer) (kind : TokenKind) : Except Fault Lexer := do
  let l ← l.dropCandidate
  let l := { l.mark kind 1 with keyAllowed := false }
  match l.outer with
  | [] => .ok l
  | k :: ks => .ok { l with outer := ks, candidate := k }

def flowEntry (l : Lexer) : Except Fault Lexer := do
  let l ← l.dropCandidate
  .ok { l.mark .flowEntry 1 with keyAllowed := true }

def blockEntry (l : Lexer) : Except Fault Lexer := do
  if !l.inFlow && !l.keyAllowed then l.fail .sequenceEntryHere
  else
    let l ← (l.openBlockHere .blockSequence).dropCandidate
    .ok { l.mark .blockEntry 1 with keyAllowed := true }

def explicitKey (l : Lexer) : Except Fault Lexer := do
  if !l.inFlow && !l.keyAllowed then l.fail .mappingKeyHere
  else
    let l ← (l.openBlockHere .blockMapping).dropCandidate
    .ok { l.mark .key 1 with keyAllowed := !l.inFlow }

/-- A colon makes a key of what began at the innermost candidate. -/
def value (l : Lexer) : Except Fault Lexer :=
  match l.candidate with
  | some k =>
    let l := l.insert k.number .key k.position
    let l := l.openBlock k.position.column k.number .blockMapping k.position
    .ok { l.mark .value 1 with candidate := none, keyAllowed := false }
  | none =>
    if !l.inFlow && !l.keyAllowed then l.fail .mappingValueHere
    else
      let l := l.openBlockHere .blockMapping
      .ok { l.mark .value 1 with keyAllowed := !l.inFlow }

/-- Something that may be a key and is followed by none: an alias, a property or a scalar in a line. -/
def property {α : Type} (l : Lexer) (read : Cursor → Except Fault (α × Cursor)) (kind : α → TokenKind) :
    Except Fault Lexer := do
  let l ← l.proposeKey
  let (x, s) ← read l.cursor
  .ok { l.push (kind x) l.position with cursor := s, keyAllowed := false }

def readBlockScalar (l : Lexer) (literal : Bool) : Except Fault Lexer := do
  let l ← l.dropCandidate
  let (text, s) ← blockScalar literal l.indent? l.cursor
  let style := if literal then .literal else .folded
  .ok { l.push (.scalar style text) l.position with cursor := s, keyAllowed := true }

def readQuoted (l : Lexer) (single : Bool) : Except Fault Lexer :=
  l.property (quotedScalar single) (.scalar (if single then .singleQuoted else .doubleQuoted))

def readPlain (l : Lexer) : Except Fault Lexer := do
  let l ← l.proposeKey
  let indent := match l.indent? with
    | some n => n + 1
    | none => 0
  let scalar ← plainScalar l.inFlow indent l.cursor
  .ok { l.push (.scalar .plain scalar.text) l.position with cursor := scalar.cursor, keyAllowed := scalar.broken }

/-- The characters that begin something else than a plain scalar. -/
def isIndicator (c : Char) : Bool :=
  ['-', '?', ':', ',', '[', ']', '\x7b', '\x7d', '#', '&', '*', '!', '|', '>', '\'', '"', '%', '@', '\x60'].contains c

/-- A plain scalar begins here. A dash, and in block style a question mark or a colon, begins one if no white
space follows. -/
def startsPlain (inFlow : Bool) (cs : List Char) : Bool :=
  match cs with
  | [] => false
  | c :: rest =>
    !(endsWord cs || isIndicator c) || (c == '-' && !rest.head?.any isSpace) ||
      (!inFlow && (c == '?' || c == ':') && !endsWord rest)

/-- Reads the token that begins with `c`. -/
def readToken (l : Lexer) (c : Char) (rest : List Char) : Except Fault Lexer :=
  if l.position.column == 0 && c == '%' then l.readDirective
  else if l.cursor.atMarker '-' then l.documentMarker .documentStart
  else if l.cursor.atMarker '.' then l.documentMarker .documentEnd
  else if c == '[' then l.openFlow .flowSequence
  else if c == '\x7b' then l.openFlow .flowMapping
  else if c == ']' then l.closeFlow .flowSequenceEnd
  else if c == '\x7d' then l.closeFlow .flowMappingEnd
  else if c == ',' then l.flowEntry
  else if c == '-' && endsWord rest then l.blockEntry
  else if c == '?' && (l.inFlow || endsWord rest) then l.explicitKey
  else if c == ':' && (l.inFlow || endsWord rest) then l.value
  else if c == '*' then l.property (anchorName .reference) .reference
  else if c == '&' then l.property (anchorName .anchor) .anchor
  else if c == '!' then l.property (tag l.inFlow) fun (handle, suffix) => .tag handle suffix
  else if c == '|' && !l.inFlow then l.readBlockScalar true
  else if c == '>' && !l.inFlow then l.readBlockScalar false
  else if c == '\'' then l.readQuoted true
  else if c == '"' then l.readQuoted false
  else if startsPlain l.inFlow (c :: rest) then l.readPlain
  else failIn .nextToken l.position .noToken l.cursor

/-! ## Blocks -/

/-- At least `n` characters are left, or the text ends. -/
def demand (l : Lexer) (n : Nat) : Except Fault Unit :=
  match l.beyond with
  | some f => if l.cursor.unread.length < n then .error f else .ok ()
  | none => .ok ()

/-- What came of reading on from `l`, unless that went as far as there is something to read. -/
def within (l : Lexer) (outcome : Except Fault Lexer) : Except Fault Lexer :=
  match l.beyond with
  | none => outcome
  | some f =>
    let reached := match outcome with
      | .ok l => l.position
      | .error e => e.position
    if reached.index = l.position.index + (Text.utf8 l.cursor.unread).length then .error f else outcome

/-- Reads on by a token or more. What a token is shows in its first four characters. -/
def readNext (l : Lexer) : Except Fault Lexer := do
  let (keyAllowed, cursor) := l.cursor.toToken l.inFlow (l.cursor.unread.length + 1) l.keyAllowed
  let l : Lexer := { l with keyAllowed, cursor }
  l.demand 1
  let l ← l.dropStale
  let l := l.closeBlocks (l.position.column < ·)
  l.demand 4
  match l.cursor.unread with
  | [] => l.endStream
  | c :: rest => l.within (l.readToken c rest)

/-- Hands out the tokens before which no key can begin any more. -/
def deliver (l : Lexer) : Except Fault (List Token × Lexer) := do
  let l ← l.dropStale
  let numbers := (l.candidate :: l.outer).filterMap fun k => k.map (·.number)
  let n := match numbers.min? with
    | some first => min l.queue.length (first - l.delivered)
    | none => l.queue.length
  .ok (l.queue.take n, { l with queue := l.queue.drop n, delivered := l.delivered + n })

/-- Reads tokens up to the end or a fault. `fuel` is more than the length of the text. -/
def tokens : Nat → Lexer → List Token × Option Fault
  | 0, _ => ([], none)
  | fuel + 1, l =>
    if l.finished then ([], none)
    else
      match l.readNext with
      | .error f => ([], some f)
      | .ok l =>
        match l.deliver with
        | .error f => ([], some f)
        | .ok (now, l) =>
          let (later, fault) := tokens fuel l
          (now ++ later, fault)

end Lexer

/-- The characters that a text may hold. -/
def isAllowed (c : Char) : Bool :=
  c == '\t' || c == '\n' || c == '\r' || (' ' ≤ c && c ≤ '~') || c == '\x85' ||
    (0xA0 ≤ c.toNat && c.toNat ≠ 0xFFFE && c.toNat ≠ 0xFFFF)

/-- The bytes of a block, the last of which may be short of a character. -/
def blockSize : Nat := 16384

/-- The blocks before the first that is refused. `block` is what a block has so far, last character first, and
`room` is how many bytes it can still have. -/
def readableFrom (block : List Char) (room : Nat) : List Char → List Char
  | [] => block.reverse
  | c :: cs =>
    if !isAllowed c then []
    else if c.utf8Size ≤ room then readableFrom (c :: block) (room - c.utf8Size) cs
    else block.reverse ++ readableFrom [c] (blockSize - c.utf8Size) cs

/-- As much of a text as can be read. -/
def readable (cs : List Char) : List Char :=
  readableFrom [] blockSize cs

/-- The fault of the first character that is not allowed. -/
def forbidden? (cs : List Char) : Option Fault :=
  if cs.all isAllowed then none
  else some { problem := .controlCharacter, offset := (Text.utf8 (cs.takeWhile isAllowed)).length }

/-- The tokens of a text, up to a fault if there is one. -/
def scan (cs : List Char) : List Token × Option Fault :=
  Lexer.tokens (cs.length + 2) { cursor := ⟨readable cs, {}⟩, beyond := forbidden? cs }

end Storefront.Yaml
