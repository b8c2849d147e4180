import ScriptBridge.Number.Ratio

namespace ScriptBridge

/-!
# Numerals

How numbers are spelled: signs, digits, an optional fraction and an optional exponent. A numeral is
taken apart first, so that every type of number can build its own values from the parts.
-/

namespace Numeral

/-- The value of ASCII digits, `0` when there are none. -/
def digits? (cs : List Char) : Option Nat :=
  if cs.all Char.isDigit then some (cs.foldl (fun n c => 10 * n + (c.toNat - '0'.toNat)) 0)
  else none

/-- A sign and what follows it. -/
def splitSign : List Char → Bool × List Char
  | '-' :: cs => (true, cs)
  | '+' :: cs => (false, cs)
  | cs => (false, cs)

/-- A signed whole number. -/
def whole? (cs : List Char) : Option Int := do
  let (minus, cs) := splitSign cs
  if cs.isEmpty then none
  let n ← digits? cs
  return if minus then -(n : Int) else n

/-- Characters without the underscores between digits; an underscore anywhere else is none. -/
def plain? : List Char → Option (List Char)
  | [] => some []
  | [c] => if c = '_' then none else some [c]
  | c :: d :: rest =>
    if c = '_' then none
    else if d = '_' then
      match rest with
      | e :: _ =>
        if c.isDigit && e.isDigit then (plain? rest).map (c :: ·) else none
      | [] => none
    else (plain? (d :: rest)).map (c :: ·)

/-- The parts of a decimal numeral: a whole number times a power of ten. -/
structure Parts where
  negative : Bool
  coefficient : Nat
  exponent : Int
deriving DecidableEq, Repr

/-- Takes a decimal numeral apart. -/
def parts? (cs : List Char) : Option Parts := do
  let (negative, cs) := splitSign cs
  let mantissa := cs.takeWhile fun c => c != 'e' && c != 'E'
  let exponent ← match cs.dropWhile fun c => c != 'e' && c != 'E' with
    | [] => some 0
    | _ :: e => whole? e
  let front := mantissa.takeWhile (· != '.')
  let back := (mantissa.dropWhile (· != '.')).drop 1
  if front.isEmpty && back.isEmpty then none
  let coefficient ← digits? (front ++ back)
  return { negative, coefficient, exponent := exponent - back.length }

namespace Parts

/-- The number that the parts stand for. -/
def toRatio (p : Parts) : Ratio :=
  Ratio.scaled (if p.negative then -(p.coefficient : Int) else p.coefficient) 10 p.exponent

/-- Where the point stands: the number is below one times ten to this power. -/
def magnitude (p : Parts) : Int := (toString p.coefficient).length + p.exponent

end Parts

end Numeral

end ScriptBridge
