import ScriptBridge.Text.Layout

namespace ScriptBridge

/-!
# Layouts of decimal numbers

Decimal numbers have layouts of their own: there are fewer letters, zeros before the digits exclude
a fill, and a number is never written with zeros before it unless it has a value.

* `DecimalLayout.parse?` reads such a layout;
* `DecimalLayout.finite` and `DecimalLayout.word` lay a number out.
-/

/-- How a decimal number is to be written. -/
structure DecimalLayout where
  /-- The width, the fill, the sign and all else that other numbers have too. -/
  layout : Layout
  /-- Whether zeros are written before the digits. -/
  isZeroed : Bool
  /-- Whether the layout keeps to the common form, which has a limit on the numbers in it. -/
  isCommon : Bool
deriving Repr

namespace DecimalLayout

/-- The letters for notations. -/
def letters : List Char := ['e', 'E', 'f', 'F', 'g', 'G', 'n', '%']

/-- The letter that stands for a notation: each notation has one, and none stands for `G`. -/
def letter? : List Char → Option Char
  | [] => some 'G'
  | ['n'] => some 'g'
  | ['N'] => some 'G'
  | [c] => if letters.contains c then some c else none
  | _ => none

/-- Reads a layout. -/
def read? (cs : List Char) : Option DecimalLayout := do
  let (fill, align, cs) := Layout.splitAlignment cs
  let (sign, cs) := match cs with
    | c :: rest => if c = ' ' ∨ c = '+' ∨ c = '-' then (some c, rest) else (none, c :: rest)
    | [] => (none, [])
  let (plainZero, cs) := Layout.splitMark 'z' cs
  let (isMarked, cs) := Layout.splitMark '#' cs
  let (isZeroed, cs) := Layout.splitMark '0' cs
  if isZeroed && align.isSome then none
  let (digits, cs) := Layout.splitDigits cs
  if digits.head? = some '0' then none
  let (isGrouped, cs) := Layout.splitMark ',' cs
  let (places, cs) := match cs with
    | '.' :: rest => (some (Layout.splitDigits rest).1, (Layout.splitDigits rest).2)
    | cs => (none, cs)
  if places.any List.isEmpty then none
  let letter ← letter? cs
  if isGrouped && (cs = ['n'] || cs = ['N']) then none
  let width := decimalValue (String.ofList digits)
  let precision := places.map fun ds => decimalValue (String.ofList ds)
  let isCommon := !plainZero && !isMarked && (digits ++ places.getD []).all Char.isDigit &&
    width ≤ Layout.greatestNumber && precision.all (· ≤ Layout.greatestNumber)
  let isLong := places.any fun ds => ds.head? = some '0' && ds ≠ ['0']
  if !isCommon && (cs = ['N'] || isLong) then none
  return {
    layout := {
      fill := fill.getD ' ', alignment := align.getD .right, sign, plainZero, isMarked, width
      separator := if isGrouped then some ',' else none, precision, letter := some letter }
    isZeroed, isCommon }

/-- Reads a layout. One that keeps to the common form ends where a zero character follows. -/
def parse? (cs : List Char) : Option DecimalLayout :=
  let nul := Char.ofNat 0
  let common := cs.take 1 ++ (cs.drop 1).takeWhile (· ≠ nul)
  match read? common with
  | some l => if l.isCommon || common = cs then some l else read? cs
  | none => read? cs

/-- The greatest width and the greatest precision in the common form. -/
def limit : Nat := 999999999999999999

/-- Lays out a finite number: the digits before the point, and the rest. -/
def finite (l : DecimalLayout) (negative : Bool) (digits rest : String) : String :=
  let before := l.layout.signText negative
  let least := if l.isZeroed then l.layout.width - (before.length + rest.length) else 0
  l.layout.place before (l.layout.grouped digits least ++ rest)

/-- Lays out what is not finite. -/
def word (l : DecimalLayout) (negative : Bool) (text : String) : String :=
  l.layout.place (l.layout.signText negative) text

end DecimalLayout

end ScriptBridge
