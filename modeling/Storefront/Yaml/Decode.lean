import Storefront.Yaml.Document
import Storefront.Yaml.Failure

/-!
# Reading records from documents

A record is a mapping whose keys name fields. Fields that are not known are passed over, and one that is left
out keeps what it had.
-/

namespace Storefront.Yaml

/-- What is to be read of a document, and the keys that lead there. -/
structure Source where
  document : Document
  path : Path := []
  rest : List (Item × Position)

/-- Reads a value off the front of the rest. -/
abbrev Decoder (α : Type) := Source → Except Failure (α × Source)

namespace Source

/-- Why a document ends before its last value does. -/
def ended {α : Type} (s : Source) : Except Failure α :=
  match s.document.fault with
  | some (.fault f) => .error (.fault f)
  | some (.unknownAnchor p) => .error (.unknownAnchor p)
  | none => .error .ended

def refuse {α : Type} (cause : Cause) : Except Failure α :=
  .error (.refused cause none)

/-- Refuses what a value begins with. -/
def mismatch {α : Type} (item : Item) (wanted : String) : Except Failure α :=
  match item with
  | .scalar s =>
    match s.content with
    | .ok found => refuse (.mismatch found wanted)
    | .error what => refuse (.badValue (.string s.text) what)
  | .sequenceStart => refuse (.mismatch .sequence wanted)
  | .mappingStart => refuse (.mismatch .mapping wanted)
  | _ => .error .ended

/-- Reads a value that begins with an item. A failure is placed there. -/
def read {α : Type} (s : Source) (body : Item → Decoder α) : Except Failure (α × Source) :=
  match s.rest with
  | [] => s.ended
  | (item, p) :: rest => (body item { s with rest }).mapError (Failure.placed s.path p)

/-- Reads a value, or for an alias the value at its anchor. -/
def value {α : Type} (s : Source) (body : Item → Decoder α) : Except Failure (α × Source) :=
  match s.rest with
  | (.reference number, _) :: rest => do
    let (x, _) ← read { s with rest := s.document.fromAnchor number } body
    .ok (x, { s with rest })
  | _ => s.read body

/-! ## Scalars -/

def string (wanted : String) : Decoder String := fun s =>
  s.value fun item s =>
    match item with
    | .scalar text => .ok (text.text, s)
    | item => mismatch item wanted

/-- A scalar that a tag calls for and that `parse` understands. -/
def typed {α : Type} (tag : String) (parse : String → Option α) (wanted : String)
    (accept : α → Except Failure α) : Decoder α := fun s =>
  s.value fun item s =>
    match item with
    | .scalar text =>
      match if text.isTyped tag then parse text.text else none with
      | some x => do .ok (← accept x, s)
      | none => mismatch item wanted
    | item => mismatch item wanted

def bool : Decoder Bool :=
  typed Scalar.boolTag bool? "a boolean" .ok

def float : Decoder Binary64 :=
  typed Scalar.floatTag float? "f64" .ok

/-- A whole number below `limit`. -/
def natural (limit : Nat) (wanted : String) : Decoder Nat :=
  typed Scalar.intTag (natural? (twoTo 64)) wanted fun n =>
    if n < limit then .ok n else refuse (.badValue (.integer n) wanted)

/-- A string, or nothing. -/
def optionalString : Decoder (Option String) := fun s =>
  let some' (s : Source) : Except Failure (Option String × Source) := do
    let (text, s) ← string "a string" s
    .ok (some text, s)
  let choose (s : Source) : Except Failure (Option String × Source) :=
    match s.rest with
    | [] => s.ended
    | (.nothing, _) :: rest => .ok (none, { s with rest })
    | (.scalar text, _) :: rest =>
      if text.style ≠ .plain then some' s
      else if text.tag == some Scalar.nullTag then
        if isNull text.text then .ok (none, { s with rest })
        else refuse (.badValue (.string text.text) "null")
      else if text.tag.isSome then some' s
      else if text.text.isEmpty || isNull text.text then .ok (none, { s with rest })
      else some' s
    | _ => some' s
  match s.rest with
  | (.reference number, _) :: rest => do
    let (x, _) ← choose { s with rest := s.document.fromAnchor number }
    .ok (x, { s with rest })
  | _ => choose s

/-! ## Mappings -/

/-- What follows a value, in which `depth` collections are open. -/
def afterValue (depth : Nat) : List (Item × Position) → Option (List (Item × Position))
  | [] => none
  | (item, _) :: rest =>
    let depth := match item with
      | .sequenceStart => depth + 1
      | .mappingStart => depth + 1
      | .sequenceEnd => depth - 1
      | .mappingEnd => depth - 1
      | _ => depth
    if depth = 0 then some rest else afterValue depth rest

def skip : Decoder Unit := fun s =>
  match afterValue 0 s.rest with
  | some rest => .ok ((), { s with rest })
  | none => s.ended

/-- The key at the front, as a step of a path. -/
def step (s : Source) : String :=
  match s.rest with
  | (.scalar text, _) :: _ => text.text
  | _ => "?"

/-- Reads the value of a key. -/
def under {α : Type} (s : Source) (step : String) (body : Decoder α) : Except Failure (α × Source) := do
  let (x, inner) ← body { s with path := step :: s.path }
  .ok (x, { inner with path := s.path })

/-- Reads pairs up to the end of a mapping. `key` says what keys are; `entry` reads the value of one. `fuel`
is more than the number of items. -/
def pairs {σ : Type} (key : String) (entry : String → String → σ → Decoder σ) : Nat → σ → Decoder σ
  | 0, _, s => s.ended
  | fuel + 1, acc, s =>
    match s.rest with
    | [] => s.ended
    | (.mappingEnd, _) :: rest => .ok (acc, { s with rest })
    | _ => do
      let step := s.step
      let (name, s) ← string key s
      let (acc, s) ← entry name step acc s
      pairs key entry fuel acc s

/-- Reads a mapping into a value that starts as `start`. A missing value is an empty mapping. -/
def mapping {σ : Type} (wanted key : String) (start : σ) (entry : String → String → σ → Decoder σ) :
    Decoder σ := fun s =>
  s.value fun item s =>
    match item with
    | .mappingStart => pairs key entry (s.rest.length + 1) start s
    | .nothing => .ok (start, s)
    | .scalar text => if text.isMissing then .ok (start, s) else mismatch item wanted
    | item => mismatch item wanted

/-- A field of a record: its name, and how it is read into the record. -/
structure Field (σ : Type) where
  name : String
  read : σ → Decoder σ

/-- A field with a value of its own. -/
def field {σ α : Type} (name : String) (decode : Decoder α) (set : σ → α → σ) : Field σ :=
  { name
    read := fun acc s => do
      let (x, s) ← decode s
      .ok (set acc x, s) }

/-- Reads a record that starts as `start`. A field may occur once. -/
def record {σ : Type} (wanted : String) (start : σ) (fields : List (Field σ)) : Decoder σ := fun s => do
  let entry (name step : String) (acc : σ × List String) : Decoder (σ × List String) := fun s =>
    match fields.find? (·.name == name) with
    | none => do
      let (_, s) ← skip s
      .ok (acc, s)
    | some f =>
      if acc.2.contains name then refuse (.repeatedField name)
      else do
        let (x, s) ← s.under step (f.read acc.1)
        .ok ((x, name :: acc.2), s)
  let ((x, _), s) ← mapping wanted "field identifier" (start, []) entry s
  .ok (x, s)

/-- Reads a mapping of strings to strings. A key that comes again replaces what it had. -/
def strings : Decoder (List (String × String)) :=
  let put (name text : String) (acc : List (String × String)) : List (String × String) :=
    if acc.any (·.1 == name) then acc.map fun p => if p.1 == name then (name, text) else p
    else acc ++ [(name, text)]
  mapping "a map" "a string" [] fun name step acc s => do
    let (text, s) ← s.under step (string "a string")
    .ok (put name text acc, s)

end Source

/-- Reads the one document that a text holds. What is wrong with a document shows after all that is wrong with
its values up to there, and that there is another one shows last. -/
def decode {α : Type} (body : Decoder α) (text : String) : Except Failure α := do
  let d := Document.ofText text
  let (x, s) ← body { document := d, rest := d.items }
  if d.fault.isSome then s.ended
  else if d.more then .error .severalDocuments
  else .ok x

end Storefront.Yaml
