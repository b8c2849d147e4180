import ScriptBridge.Number.Double
import ScriptBridge.Text.Space

namespace ScriptBridge

/-!
# Complex numbers

How two floating-point numbers are written as one complex number, and read back.

* `Double.complexText` writes a complex number;
* `Double.complexOfText?` reads one.
-/

namespace Double

/-- The text of a complex number: an imaginary number stands alone, any other is bracketed. -/
def complexText (re im : Double) : String :=
  let imaginary := im.textWith false ++ "j"
  if re.isZero && !re.isNegative then imaginary
  else "(" ++ re.textWith false ++ (if imaginary.startsWith "-" then "" else "+") ++
    imaginary ++ ")"

/-- The place of the sign between the two parts of a complex numeral, counted from the left. -/
def signPlace? (cs : List Char) : Option Nat :=
  let marks := (cs.zip (cs.drop 1)).zipIdx.filter fun ((before, c), _) =>
    (c = '+' || c = '-') && before != 'e' && before != 'E'
  marks.getLast?.map fun (_, i) => i + 1

/-- The complex number that a text spells. It may be bracketed, with blanks inside and outside of
    the brackets. -/
def complexOfText? (s : String) : Option (Double × Double) :=
  let cs := trimChars isBlank s.toList
  let isBracketed := cs.head? = some '(' && cs.getLast? = some ')'
  let cs := if isBracketed then trimChars isBlank (cs.drop 1).dropLast else cs
  let part? (cs : List Char) : Option Double :=
    match cs with
    | [] | ['+'] => some (ofQuotient false 1 1)
    | ['-'] => some (ofQuotient true 1 1)
    | cs => ofText? (String.ofList cs)
  match cs.getLast? with
  | some 'j' | some 'J' =>
    let body := cs.dropLast
    match signPlace? body with
    | some i => do
      let re ← ofText? (String.ofList (body.take i))
      return (re, ← part? (body.drop i))
    | none => do return (zero, ← part? body)
  | _ => do return (← ofText? (String.ofList cs), zero)

end Double

end ScriptBridge
