import ScriptBridge.Number.Numeral
import ScriptBridge.Text.DecimalDigit
import ScriptBridge.Text.Space

namespace ScriptBridge

/-!
# Integers in any base

How texts spell integers: spaces around, a sign, a mark of the base, and digits of any script with
single underscores between them.

* `Numeral.integer?` reads an integer;
* `Numeral.asciiDigits` spells the digits of other scripts in ASCII.
-/

namespace Numeral

/-- The value of a digit in bases up to thirty-six: a decimal digit of any script, or a letter. -/
def digitValue? (c : Char) : Option Nat :=
  match decimalDigit? c with
  | some n => some n
  | none =>
    if 'a' ≤ c ∧ c ≤ 'z' then some (c.toNat - 'a'.toNat + 10)
    else if 'A' ≤ c ∧ c ≤ 'Z' then some (c.toNat - 'A'.toNat + 10)
    else none

/-- Characters without the underscores between digits; an underscore anywhere else is none. -/
def withoutUnderscores? : List Char → Option (List Char)
  | [] => some []
  | [c] => if c = '_' then none else some [c]
  | c :: d :: rest =>
    if c = '_' then none
    else if d = '_' then (withoutUnderscores? rest).bind fun cs =>
      if cs.isEmpty then none else some (c :: cs)
    else (withoutUnderscores? (d :: rest)).map (c :: ·)

/-- The letter that marks a base at the start of a numeral. -/
def baseOfMark? : Char → Option Nat
  | 'x' | 'X' => some 16
  | 'o' | 'O' => some 8
  | 'b' | 'B' => some 2
  | _ => none

/-- The base of a numeral and its digits. A mark counts where no base is given, or that one; without
    base and mark the numeral is decimal and starts with no zero, unless it is zero. -/
def splitBase? (base : Nat) (cs : List Char) : Option (Nat × List Char) :=
  let marked := match cs with
    | '0' :: m :: rest => (baseOfMark? m).bind fun b =>
      if base = 0 || base = b then some (b, rest) else none
    | _ => none
  match marked with
  | some (b, '_' :: rest) | some (b, rest) => some (b, rest)
  | none =>
    if base ≠ 0 then some (base, cs)
    else if cs.head? = some '0' && cs.any fun c => c ≠ '0' && c ≠ '_' then none
    else some (10, cs)

/-- The integer that a text spells in a base, or in the one it marks if the base is zero. Spaces may
    surround it. Where digits have to be converted from another base there must not be too many. -/
def integer? (base : Nat) (s : String) : Option Int := do
  let (minus, cs) := splitSign (stripBlank s).toList
  let (base, cs) ← splitBase? base cs
  let digits ← (← withoutUnderscores? cs).mapM digitValue?
  let isPowerOfTwo := [2, 4, 8, 16, 32].contains base
  if digits.isEmpty || digits.any (base ≤ ·) || (digitLimit < digits.length && !isPowerOfTwo) then
    none
  else
    let n : Nat := digits.foldl (fun n d => base * n + d) 0
    return if minus then -(n : Int) else n

/-- A text with every decimal digit in ASCII. -/
def asciiDigits (s : String) : String :=
  String.ofList (s.toList.map fun c => match decimalDigit? c with
    | some n => Char.ofNat ('0'.toNat + n)
    | none => c)

end Numeral

end ScriptBridge
