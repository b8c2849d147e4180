import ScriptBridge.Text.DecimalDigit

namespace ScriptBridge

/-!
# Patterns

A pattern is a text with fields between braces, to be filled with values. A brace that is meant as
such is written twice. A field names a value, the way from that value to another, a conversion and
how the result is to be written.

* `Pattern.pieces` cuts a pattern into literal text and fields; whatever follows a malformed place
  is not looked at;
* `Pattern.Path.of` takes the name of a field apart;
* `Pattern.index?` reads a number between braces or brackets.
-/

namespace Pattern

/-- A field of a pattern. -/
structure Field where
  name : List Char
  /-- The letter of a conversion that comes first. -/
  conversion : Option Char
  /-- How the value is to be written; it may hold fields itself. -/
  spec : List Char
deriving DecidableEq, Repr

/-- A piece of a pattern. -/
inductive Piece where
  | literal (text : String)
  | field (f : Field)
  /-- A place where the pattern is malformed. -/
  | broken
deriving DecidableEq, Repr

/-- The opening brace. -/
def opening : Char := '\x7b'

/-- The closing brace. -/
def closing : Char := '\x7d'

/-- The name of a field, and what follows it, the character that ends it first. What stands in
    brackets belongs to the name, an opening brace does not. `inside` tells whether a bracket is
    open. -/
def fieldName (inside : Bool) : List Char → Option (List Char × List Char)
  | [] => some ([], [])
  | c :: rest =>
    let more (inside : Bool) : Option (List Char × List Char) :=
      (fieldName inside rest).map fun (name, left) => (c :: name, left)
    if inside then more (c ≠ ']')
    else if c = opening then none
    else if c = closing ∨ c = ':' ∨ c = '!' then some ([], c :: rest)
    else more (c = '[')

/-- The text up to the brace that closes a field, and what follows it; `depth` counts the braces
    that are open inside. -/
def untilClosed (depth : Nat) : List Char → Option (List Char × List Char)
  | [] => none
  | c :: rest =>
    let more (depth : Nat) : Option (List Char × List Char) :=
      (untilClosed depth rest).map fun (text, left) => (c :: text, left)
    if c = opening then more (depth + 1)
    else if c = closing then if depth = 0 then some ([], rest) else more (depth - 1)
    else more depth

/-- The field that starts after an opening brace, and what follows it. -/
def field? (cs : List Char) : Option (Field × List Char) := do
  let (name, left) ← fieldName false cs
  let withSpec (conversion : Option Char) (cs : List Char) : Option (Field × List Char) := do
    let (spec, left) ← untilClosed 0 cs
    return (⟨name, conversion, spec⟩, left)
  match left with
  | [] => none
  | c :: left =>
    if c = closing then return (⟨name, none, []⟩, left)
    else if c = ':' then withSpec none left
    else match left with
      | conversion :: d :: left =>
        if d = closing then return (⟨name, some conversion, []⟩, left)
        else if d = ':' then withSpec (some conversion) left
        else none
      | _ => none

/-- Cuts a pattern into pieces; `fuel` bounds their number. -/
def piecesWith : Nat → List Char → List Piece
  | 0, _ => []
  | fuel + 1, cs =>
    let text := cs.takeWhile fun c => c ≠ opening ∧ c ≠ closing
    let literal (more : List Char) : Piece := .literal (String.ofList (text ++ more))
    match cs.drop text.length with
    | [] => [literal []]
    | [_] => [.broken]
    | c :: d :: rest =>
      if c = d then literal [c] :: piecesWith fuel rest
      else if c = closing then [.broken]
      else match field? (d :: rest) with
        | some (f, left) => literal [] :: .field f :: piecesWith fuel left
        | none => [.broken]

/-- The pieces of a pattern. -/
def pieces (cs : List Char) : List Piece := piecesWith (cs.length + 1) cs

/-! ### Names of fields -/

/-- A number that stands where a name may stand: decimal digits of any script. -/
def index? (cs : List Char) : Option Nat :=
  let s := String.ofList cs
  if isDecimal s then some (decimalValue s) else none

/-- A step from a value to another. -/
inductive Step where
  | attribute (name : String)
  | item (name : List Char)
  /-- A step that is malformed. -/
  | broken
deriving DecidableEq, Repr

/-- The steps that follow the first part of a name; `fuel` bounds their number. -/
def stepsWith : Nat → List Char → List Step
  | 0, _ => []
  | _ + 1, [] => []
  | fuel + 1, c :: rest =>
    let take (isOver : Char → Bool) : List Char := rest.takeWhile (!isOver ·)
    if c = '.' then
      let name := take fun c => c = '.' || c = '['
      if name.isEmpty then [.broken]
      else .attribute (String.ofList name) :: stepsWith fuel (rest.drop name.length)
    else if c = '[' then
      let name := take (· = ']')
      if name.isEmpty || name.length = rest.length then [.broken]
      else .item name :: stepsWith fuel (rest.drop (name.length + 1))
    else [.broken]

/-- The name of a field: where to start, and how to go on. -/
structure Path where
  first : List Char
  steps : List Step
deriving DecidableEq, Repr

/-- Takes the name of a field apart. -/
def Path.of (name : List Char) : Path :=
  let first := name.takeWhile fun c => c ≠ '.' ∧ c ≠ '['
  let rest := name.drop first.length
  { first, steps := stepsWith (rest.length + 1) rest }

/-! ### Numbering -/

/-- How the fields of a pattern that need one get their number: not yet decided, counted, or each
    with a number of its own. -/
inductive Numbering where
  | undecided
  | counted (next : Nat)
  | given
deriving DecidableEq, Repr

/-- What the first part of a field's name refers to, with the numbering from then on. A pattern must
    not mix counted fields with given numbers. -/
def Numbering.select? (n : Numbering) (first : List Char) : Option ((Nat ⊕ String) × Numbering) :=
  if first.isEmpty then match n with
    | .undecided => some (.inl 0, .counted 1)
    | .counted next => some (.inl next, .counted (next + 1))
    | .given => none
  else match index? first, n with
    | some _, .counted _ => none
    | some i, _ => some (.inl i, .given)
    | none, n => some (.inr (String.ofList first), n)

end Pattern

end ScriptBridge
