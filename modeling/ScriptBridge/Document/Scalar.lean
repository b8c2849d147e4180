import ScriptBridge.Document
import ScriptBridge.Document.Timestamp
import ScriptBridge.Number.Integer

namespace ScriptBridge

/-!
# Values of scalars

What the text of a scalar stands for, given its tag. A tag that is written down may not fit the
text; the kinds of error then differ from tag to tag.

* `Document.ofScalar` is the value of a scalar.
-/

namespace Document

/-- The truth value that a word stands for, in any case. -/
def boolOf (s : String) : Except LibraryKind Bool :=
  let word := String.ofList (s.toList.map Char.toLower)
  if word ∈ ["yes", "true", "on"] then .ok true
  else if word ∈ ["no", "false", "off"] then .ok false
  else .error .keyError

/-- The integer that a text spells in a base. -/
def wholeOf (base : Nat) (s : String) : Except LibraryKind Int :=
  match Numeral.integer? base s with
  | some n => .ok n
  | none => .error .valueError

/-- The integer that a text stands for: binary, hexadecimal, octal after a zero, decimal, or in
    groups of sixty with colons between. Underscores do not count. -/
def intOf (s : String) : Except LibraryKind Int := do
  let (minus, cs) := Numeral.splitSign (s.toList.filter (· != '_'))
  let n ← match cs with
    -- Nothing is left of a text of underscores, whose first character is asked for.
    | [] => throw .indexError
    | '0' :: 'b' :: digits => wholeOf 2 (String.ofList digits)
    | '0' :: 'x' :: digits => wholeOf 16 (String.ofList digits)
    -- So a lone zero is octal as well, and so are groups of which the first starts with one.
    | '0' :: _ => wholeOf 8 (String.ofList cs)
    | _ =>
      let groups ← ((String.ofList cs).splitOn ":").mapM (wholeOf 10)
      pure (groups.foldl (fun n d => 60 * n + d) 0)
  return if minus then -n else n

/-- The real number that a text spells. -/
def decimalOf (s : String) : Except LibraryKind Double :=
  match Double.ofText? (Numeral.asciiDigits (stripSpace s)) with
  | some x => .ok x
  | none => .error .valueError

/-- The sum of groups of sixty, the first of which counts `unit` and is added to `sum`. A unit that
    is beyond all real numbers has no products. -/
def sumOfSixties (unit : Nat) (sum : Double) : List Double → Except LibraryKind Double
  | [] => .ok sum
  | x :: more =>
    match Double.ofQuotient false unit 1 with
    | .finite false m e => sumOfSixties (60 * unit) (sum.add (x.times (.finite false m e))) more
    | _ => .error .overflowError

/-- The real number that a text stands for: a word for what is not finite, a decimal numeral, or
    groups of sixty with colons between. Underscores do not count. -/
def realOf (s : String) : Except LibraryKind Double := do
  let cs := (s.toList.filter (· != '_')).map Char.toLower
  if cs.isEmpty then throw .indexError
  let (minus, cs) := Numeral.splitSign cs
  let x ← match String.ofList cs with
    | ".inf" => pure (.infinite false)
    | ".nan" => pure .nan
    | word => do
      let groups ← (word.splitOn ":").mapM decimalOf
      match groups with
      | [x] => pure x
      | groups => sumOfSixties 1 .zero groups.reverse
  return if minus then x.negate else x

/-- Whether a character is a digit of base sixty-four. -/
def isDigit64 (c : Char) : Bool := c.isAlphanum || c == '+' || c == '/'

/-- The number of bytes that digits of base sixty-four stand for, four digits for three bytes. Other
    characters do not count. Signs of equality fill up the last four digits and end the reading.
    `place` is the place of the next digit among four, `fill` the number of signs before it. -/
def bytesOf (place fill size : Nat) : List Char → Except LibraryKind Nat
  | [] => if place = 0 then .ok size else .error .documentError
  | c :: cs =>
    if c == '=' then
      -- A sign before two digits have been seen is passed over.
      if place < 2 then bytesOf place fill size cs
      else if 4 ≤ place + fill + 1 then .ok size
      else bytesOf place (fill + 1) size cs
    else if isDigit64 c then
      bytesOf ((place + 1) % 4) 0 (if place = 0 then size else size + 1) cs
    else bytesOf place fill size cs

/-- The date or time that a text stands for. -/
def timestampOf (s : String) : Except LibraryKind Document :=
  match Timestamp.ofText? s with
  | none => .error .attributeError
  | some t =>
    if !t.isValid then .error .valueError
    else match t.time with
      | none => .ok (.date t.year t.month t.day)
      | some (hour, minute, second, _) => .ok (.dateTime t.year t.month t.day hour minute second)

/-- The value of a scalar. -/
def ofScalar (tag : Tag) (s : String) : Except LibraryKind Document :=
  match tag with
  | .null => .ok .null
  | .bool => (boolOf s).map .bool
  | .int => (intOf s).map .int
  | .real => (realOf s).map .real
  | .text => .ok (.text s)
  | .bytes =>
    if s.toList.all (·.toNat < 128) then (bytesOf 0 0 0 s.toList).map .bytes else malformed
  | .timestamp => timestampOf s
  | _ => malformed

end Document

end ScriptBridge
