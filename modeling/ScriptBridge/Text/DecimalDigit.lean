namespace ScriptBridge

/-!
# Decimal digits

The decimal digits of every script come in blocks of ten consecutive code points, zero first. A text
of such digits only, of one script or of several, reads as a natural number.
-/

/-- The code points of the zeros of all scripts. -/
def decimalZeros : List Nat :=
  [48, 1632, 1776, 1984, 2406, 2534, 2662, 2790, 2918, 3046, 3174, 3302, 3430, 3558, 3664, 3792,
   3872, 4160, 4240, 6112, 6160, 6470, 6608, 6784, 6800, 6992, 7088, 7232, 7248, 42528, 43216,
   43264, 43472, 43504, 43600, 44016, 65296, 66720, 68912, 69734, 69872, 69942, 70096, 70384,
   70736, 70864, 71248, 71360, 71472, 71904, 72016, 72784, 73040, 73120, 92768, 92864, 93008,
   120782, 120792, 120802, 120812, 120822, 123200, 123632, 125264, 130032]

/-- The value of a decimal digit of any script. -/
def decimalDigit? (c : Char) : Option Nat :=
  (decimalZeros.find? fun z => z ≤ c.toNat && c.toNat < z + 10).map (c.toNat - ·)

/-- Whether a text consists of decimal digits, and of one at least. -/
def isDecimal (s : String) : Bool :=
  !s.isEmpty && s.toList.all fun c => (decimalDigit? c).isSome

/-- The number that the digits of a text stand for. -/
def decimalValue (s : String) : Nat :=
  s.toList.foldl (fun n c => 10 * n + (decimalDigit? c).getD 0) 0

/-- The longest text of digits that is converted between number and text. -/
def digitLimit : Nat := 4300

/-- The decimal text of an integer, unless it has more digits than are ever written. -/
def decimalText? (n : Int) : Option String :=
  if n.natAbs < Nat.pow 10 digitLimit then some (toString n) else none

end ScriptBridge
