import ScriptBridge.Number.Decimal

namespace ScriptBridge

/-!
# Notations of decimal numbers

Decimal numbers with a given number of places or of digits. Unlike floating-point numbers they are
written with the digits they have, unless others are asked for.

* `Decimal.shaped` brings a number to the digits that a notation asks for;
* `Decimal.spelled` writes a finite number in a notation.
-/

namespace Decimal

/-- A way to write a decimal number. -/
inductive Style where
  /-- One digit before the point, and an exponent. -/
  | scientific
  /-- Positional. -/
  | fixed
  /-- Positional, as parts of a hundred. -/
  | percent
  /-- Positional where the point is near, else with an exponent. -/
  | general
deriving DecidableEq, Repr

/-- The digits that a notation asks for, as a coefficient and an exponent. -/
def shaped (style : Style) (precision : Option Nat) (n : Nat) (e : Int) : Nat × Int :=
  let e := if style = .percent then e + 2 else e
  let isPositional := style = .fixed || style = .percent
  let (n, e) := match style, precision with
    | _, none => (n, e)
    | .scientific, some p => withDigits (p + 1) n e
    | .general, some p => if max p 1 < digitCount n then withDigits (max p 1) n e else (n, e)
    | _, some p => (rescaled n e (-p), -(p : Int))
  -- a zero has no digits before the point that could be made up
  if isPositional && n = 0 && 0 < e then (0, 0) else (n, e)

/-- The place of the point in a notation. -/
def stylePoint (style : Style) (precision : Option Nat) (n : Nat) (count e : Int) : Int :=
  match style with
  | .scientific => if n = 0 then 1 - (precision.getD 0 : Int) else 1
  | .general => pointPlace count e
  | _ => count + e

/-- The magnitude of a finite number in a notation: the digits before the point, and all that
    follows them. `mark` is written before an exponent, and `isPointed` always writes the point. -/
def spelled (style : Style) (precision : Option Nat) (mark : String) (isPointed : Bool) (n : Nat)
    (e : Int) : String × String :=
  let digits := toString n
  let point := stylePoint style precision n digits.length e
  let (front, back) := placed digits point
  let shift := e + digits.length - point
  (front, (if back.isEmpty && !isPointed then "" else "." ++ back) ++
    (if shift = 0 && style ≠ .scientific then "" else exponentText mark shift) ++
    (if style = .percent then "%" else ""))

end Decimal

end ScriptBridge
