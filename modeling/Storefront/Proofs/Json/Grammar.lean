import Storefront.Json.Reader

/-! # JSON texts and what they stand for

The grammar of JSON texts (RFC 8259), as trees that keep every character of what is written: white
space, the digits of numbers, the escapes in strings. Beside it is what such a text stands for, if
it stands for a value at all: a string may hold half of a surrogate pair, a number may be out of
range, and lists and objects may lie in each other too deep. -/

namespace Storefront.Json

open Storefront.Text

/-- White space between tokens. -/
structure Gap where
  chars : List Char
  blank : ∀ c ∈ chars, c ∈ [' ', '\t', '\n', '\r']

/-! ## Strings -/

structure HexDigit where
  char : Char
  value : Nat
  reads : hexValue char = some value

/-- A code unit, as four hexadecimal digits. -/
structure CodeUnit where
  a : HexDigit
  b : HexDigit
  c : HexDigit
  d : HexDigit

def CodeUnit.text (u : CodeUnit) : List Char :=
  [u.a.char, u.b.char, u.c.char, u.d.char]

def CodeUnit.number (u : CodeUnit) : Nat :=
  ((u.a.value * 16 + u.b.value) * 16 + u.c.value) * 16 + u.d.value

/-- The escapes of one letter. -/
inductive ShortEscape where
  | quote
  | backslash
  | slash
  | backspace
  | formFeed
  | lineFeed
  | carriageReturn
  | tab

namespace ShortEscape

def letter : ShortEscape → Char
  | quote => '"'
  | backslash => '\\'
  | slash => '/'
  | backspace => 'b'
  | formFeed => 'f'
  | lineFeed => 'n'
  | carriageReturn => 'r'
  | tab => 't'

def char : ShortEscape → Char
  | quote => '"'
  | backslash => '\\'
  | slash => '/'
  | backspace => '\x08'
  | formFeed => '\x0C'
  | lineFeed => '\n'
  | carriageReturn => '\r'
  | tab => '\t'

end ShortEscape

/-- What a string is made of between its quotes. -/
inductive Piece where
  | plain (c : Char) (ok : 0x20 ≤ c.toNat ∧ c ≠ '"' ∧ c ≠ '\\')
  | short (e : ShortEscape)
  | unit (u : CodeUnit)

def Piece.text : Piece → List Char
  | plain c _ => [c]
  | short e => ['\\', e.letter]
  | unit u => '\\' :: 'u' :: u.text

/-- A string with its quotes. -/
def quotedText (s : List Piece) : List Char :=
  '"' :: s.flatMap Piece.text ++ ['"']

/-- The characters of a string. Two code units that are a surrogate pair stand for one character,
and half of a pair stands for none. -/
def chars? : List Piece → Option (List Char)
  | [] => some []
  | .plain c _ :: s => (chars? s).map (c :: ·)
  | .short e :: s => (chars? s).map (e.char :: ·)
  | .unit u :: s =>
    if isLowSurrogate u.number then none
    else if isHighSurrogate u.number then
      match s with
      | .unit v :: s =>
        if isLowSurrogate v.number then
          (chars? s).map
            (Char.ofNat ((u.number - 0xD800) * 0x400 + (v.number - 0xDC00) + 0x10000) :: ·)
        else none
      | _ => none
    else (chars? s).map (Char.ofNat u.number :: ·)

def string? (s : List Piece) : Option String :=
  (chars? s).map String.ofList

/-! ## Numbers -/

/-- Digits, at least one. -/
structure Digits where
  first : Char
  more : List Char
  isDigit : ∀ c ∈ first :: more, c.isDigit = true

def Digits.text (ds : Digits) : List Char :=
  ds.first :: ds.more

inductive ExponentSign where
  | none
  | plus
  | minus

def ExponentSign.text : ExponentSign → List Char
  | none => []
  | plus => ['+']
  | minus => ['-']

structure Exponent where
  capital : Bool
  sign : ExponentSign
  digits : Digits

def Exponent.text (e : Exponent) : List Char :=
  (if e.capital then 'E' else 'e') :: (e.sign.text ++ e.digits.text)

/-- A number as it is written. A zero in front of other digits is none. -/
structure NumberText where
  negative : Bool
  whole : Digits
  noLeadingZero : whole.first = '0' → whole.more = []
  places : Option Digits
  exponent : Option Exponent

namespace NumberText

/-- What stands behind the digits in front of the point. -/
def tail (n : NumberText) : List Char :=
  n.places.elim [] (fun ds => '.' :: ds.text) ++ n.exponent.elim [] Exponent.text

def unsigned (n : NumberText) : List Char :=
  n.whole.text ++ n.tail

def text (n : NumberText) : List Char :=
  (if n.negative then ['-'] else []) ++ n.unsigned

/-- The number, unless it is out of range. -/
def number? (n : NumberText) : Option Number :=
  (number n.negative n.unsigned).toOption.map Prod.fst

end NumberText

/-! ## Values -/

mutual

/-- A value as it is written. -/
inductive Tree where
  | null
  | bool (b : Bool)
  | number (n : NumberText)
  | string (s : List Piece)
  | array (gap : Gap) (items : Items)
  | object (gap : Gap) (members : Members)

/-- The items of a list, each with the white space around it. -/
inductive Items where
  | nil
  | cons (before : Gap) (item : Tree) (after : Gap) (more : Items)

/-- The members of an object, with the white space around keys and values. -/
inductive Members where
  | nil
  | cons (before : Gap) (key : List Piece) (beforeColon afterColon : Gap) (item : Tree)
      (after : Gap) (more : Members)

end

/-- What divides an item from those before it. -/
def comma (first : Bool) : List Char :=
  if first then [] else [',']

mutual

def Tree.text : Tree → List Char
  | .null => ['n', 'u', 'l', 'l']
  | .bool true => ['t', 'r', 'u', 'e']
  | .bool false => ['f', 'a', 'l', 's', 'e']
  | .number n => n.text
  | .string s => quotedText s
  | .array gap items => '[' :: (gap.chars ++ items.text true ++ [']'])
  | .object gap members => '\x7b' :: (gap.chars ++ members.text true ++ ['\x7d'])

def Items.text : Items → Bool → List Char
  | .nil, _ => []
  | .cons before item after more, first =>
    comma first ++ before.chars ++ item.text ++ after.chars ++ more.text false

def Members.text : Members → Bool → List Char
  | .nil, _ => []
  | .cons before key beforeColon afterColon item after more, first =>
    comma first ++ before.chars ++ quotedText key ++ beforeColon.chars ++ [':'] ++
      afterColon.chars ++ item.text ++ after.chars ++ more.text false

end

def Items.toList : Items → List Tree
  | .nil => []
  | .cons _ item _ more => item :: more.toList

def Members.toList : Members → List (List Piece × Tree)
  | .nil => []
  | .cons _ key _ _ item _ more => (key, item) :: more.toList

mutual

/-- The value that a text stands for where there may be lists and objects at most `depth` deep. -/
def Tree.value? : Tree → Nat → Option Value
  | .null, _ => some .null
  | .bool b, _ => some (.bool b)
  | .number n, _ => n.number?.map .number
  | .string s, _ => (string? s).map .string
  | .array _ _, 0 => none
  | .array _ items, depth + 1 => (items.values? depth).map .array
  | .object _ _, 0 => none
  | .object _ members, depth + 1 => (members.values? depth).map .object

def Items.values? : Items → Nat → Option (List Value)
  | .nil, _ => some []
  | .cons _ item _ more, depth =>
    (item.value? depth).bind fun v => (more.values? depth).map (v :: ·)

def Members.values? : Members → Nat → Option (List (String × Value))
  | .nil, _ => some []
  | .cons _ key _ _ item _ more, depth =>
    (string? key).bind fun k => (item.value? depth).bind fun v =>
      (more.values? depth).map ((k, v) :: ·)

end

/-! ## Trees through their parts -/

theorem Items.values?_eq_mapM (items : Items) (depth : Nat) :
    items.values? depth = items.toList.mapM fun t => t.value? depth := by
  match items with
  | .nil => rfl
  | .cons before item after more =>
      rw [values?, toList, List.mapM_cons, more.values?_eq_mapM depth]
      cases item.value? depth with
      | none => rfl
      | some v => cases more.toList.mapM fun t => t.value? depth <;> rfl

/-- The key and the value of a member. -/
def memberValue? (depth : Nat) (m : List Piece × Tree) : Option (String × Value) :=
  (string? m.1).bind fun k => (m.2.value? depth).map (k, ·)

theorem Members.values?_eq_mapM (members : Members) (depth : Nat) :
    members.values? depth = members.toList.mapM (memberValue? depth) := by
  match members with
  | .nil => rfl
  | .cons before key beforeColon afterColon item after more =>
      rw [values?, toList, List.mapM_cons, memberValue?, more.values?_eq_mapM depth]
      cases string? key with
      | none => rfl
      | some k =>
          cases item.value? depth with
          | none => rfl
          | some v => cases more.toList.mapM (memberValue? depth) <;> rfl

/-- What holds of a list or an object if it holds of all that is in it holds of every text. -/
theorem Tree.induction {P : Tree → Prop} (null : P .null) (bool : ∀ b, P (.bool b))
    (number : ∀ n, P (.number n)) (string : ∀ s, P (.string s))
    (array : ∀ gap items, (∀ t ∈ items.toList, P t) → P (.array gap items))
    (object : ∀ gap members, (∀ m ∈ members.toList, P m.2) → P (.object gap members))
    (t : Tree) : P t :=
  @Tree.rec P (fun items => ∀ t ∈ items.toList, P t) (fun members => ∀ m ∈ members.toList, P m.2)
    null bool number string array object
    (fun _ ht => nomatch ht)
    (fun _ _ _ _ hitem hmore => List.forall_mem_cons.mpr ⟨hitem, hmore⟩)
    (fun _ hm => nomatch hm)
    (fun _ _ _ _ _ _ _ hitem hmore => List.forall_mem_cons.mpr ⟨hitem, hmore⟩) t

/-! ## Trees without white space -/

def Gap.none : Gap :=
  ⟨[], fun _ hc => nomatch hc⟩

def Items.ofList : List Tree → Items
  | [] => .nil
  | t :: ts => .cons .none t .none (ofList ts)

def Members.ofList : List (List Piece × Tree) → Members
  | [] => .nil
  | m :: ms => .cons .none m.1 .none .none m.2 .none (ofList ms)

@[simp]
theorem Items.toList_ofList (ts : List Tree) : (ofList ts).toList = ts := by
  induction ts with
  | nil => rfl
  | cons t ts ih => rw [ofList, toList, ih]

@[simp]
theorem Members.toList_ofList (ms : List (List Piece × Tree)) : (ofList ms).toList = ms := by
  induction ms with
  | nil => rfl
  | cons m ms ih => rw [ofList, toList, ih]

end Storefront.Json
