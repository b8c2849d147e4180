import ScriptBridge.Number.Double

namespace ScriptBridge

/-!
# Notations of floating-point numbers

Decimal text of a number with a given number of places or of digits, exactly rounded; a half goes to
the even digit.

* `Places.fixed` writes a number of places after the point;
* `Places.scientific` writes one digit before the point and an exponent;
* `Places.general` writes a number of digits, in whichever of the two ways is shorter.
-/

namespace Places

/-- A text with zeros before it, up to a length. -/
def withZeros (length : Nat) (s : String) : String :=
  String.ofList (List.replicate (length - s.length) '0') ++ s

/-- A text with a point before its last characters; `always` writes the point even before none. -/
def withPoint (always : Bool) (places : Nat) (digits : String) : String :=
  let digits := withZeros (places + 1) digits
  let front := (digits.dropEnd places).toString
  let back := (digits.takeEnd places).toString
  front ++ (if places = 0 && !always then "" else ".") ++ back

/-- A positive or zero ratio with a number of places after the point. -/
def fixed (always : Bool) (places : Nat) (r : Ratio) : String :=
  withPoint always places (toString (roundDiv (r.num.natAbs * Nat.pow 10 places) r.den))

/-- A number of digits of a positive or zero ratio, and the exponent of the first. -/
def significant (count : Nat) (r : Ratio) : String × Int :=
  if r.num = 0 then (withZeros count "0", 0)
  else
    let places := Double.decimalPlaces r.num.natAbs r.den
    let (a, b) := Double.overPower r.num.natAbs r.den 10 (places - count)
    let n := roundDiv a b
    -- rounding up may make one digit more
    if n = Nat.pow 10 count then (toString (n / 10), places) else (toString n, places - 1)

/-- An exponent, of two digits at least. -/
def exponent (e : Int) : String :=
  "e" ++ (if e < 0 then "-" else "+") ++ withZeros 2 (toString e.natAbs)

/-- A positive or zero ratio with one digit before the point, a number of places after it and an
    exponent. -/
def scientific (always : Bool) (places : Nat) (r : Ratio) : String :=
  let (digits, e) := significant (places + 1) r
  withPoint always places digits ++ exponent e

/-- A text without zeros at its end. -/
def dropFinalZeros (s : String) : String :=
  String.ofList (s.toList.reverse.dropWhile (· = '0')).reverse

/-- A positive or zero ratio with a number of digits: positional while the point is among them or
    near, else with an exponent. Zeros at the end are written only with `always`, and `whole` writes
    one place at least. -/
def general (always whole : Bool) (count : Nat) (r : Ratio) : String :=
  let count := max count 1
  let (digits, e) := significant count r
  let point := e + 1
  let isScientific := point ≤ -4 ∨ (count : Int) - (if whole then 1 else 0) < point
  let short := if always then digits else dropFinalZeros digits
  let kept : Int := max short.length 1
  if isScientific then
    let digits := (digits.take kept.toNat).toString
    withPoint always (kept - 1).toNat digits ++ exponent e
  else
    let places := max (kept - point) (if whole then 1 else 0)
    let shift := places + point - digits.length
    let digits :=
      if 0 ≤ shift then digits ++ String.ofList (List.replicate shift.toNat '0')
      else (digits.dropEnd (-shift).toNat).toString
    withPoint always places.toNat digits

end Places

end ScriptBridge
