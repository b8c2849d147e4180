import ScriptBridge.Number.Integer

namespace ScriptBridge

/-!
# Fractions

How texts spell ratios: two whole numbers with a stroke between them, or a decimal numeral. Single
underscores may stand between digits, and no part may have too many digits.

* `Ratio.ofText` reads a ratio.
-/

namespace Ratio

/-- Why a text is no ratio. -/
inductive Misspelling where
  /-- It has another form. -/
  | malformed
  /-- The number after the stroke is zero. -/
  | zeroBelow
deriving DecidableEq, Repr

/-- The value of digits with single underscores between them, and their number. -/
def grouped (cs : List Char) : Except Misspelling (Nat × Nat) :=
  match (Numeral.plain? cs).bind fun ds => (Numeral.digits? ds).map fun n => (n, ds.length) with
  | some (n, count) =>
    if count = 0 || digitLimit < count then .error .malformed else .ok (n, count)
  | none => .error .malformed

/-- The value of such digits, and their number; there may be none. -/
def groupedOrNone (cs : List Char) : Except Misspelling (Nat × Nat) :=
  if cs.isEmpty then .ok (0, 0) else grouped cs

/-- The exponent of a decimal numeral: what follows its mark. -/
def exponentOf : List Char → Except Misspelling Int
  | [] => .ok 0
  | _ :: cs => do
    let (minus, cs) := Numeral.splitSign cs
    let (n, _) ← grouped cs
    return if minus then -(n : Int) else n

/-- The ratio that a decimal numeral without sign spells. -/
def ofDecimalText (cs : List Char) : Except Misspelling Ratio := do
  let isMark (c : Char) : Bool := c = 'e' || c = 'E'
  let mantissa := cs.takeWhile (!isMark ·)
  let front := mantissa.takeWhile (· != '.')
  let back := (mantissa.dropWhile (· != '.')).drop 1
  if front.isEmpty && back.isEmpty then .error .malformed
  let (n, _) ← groupedOrNone front
  let (m, count) ← groupedOrNone back
  let e ← exponentOf (cs.dropWhile (!isMark ·))
  return Ratio.scaled (n * Nat.pow 10 count + m) 10 (e - count)

/-- The ratio that a text spells. -/
def ofText (s : String) : Except Misspelling Ratio := do
  let (minus, cs) := Numeral.splitSign s.toList
  let r ← match cs.dropWhile (· != '/') with
    | [] => ofDecimalText cs
    | _ :: below => do
      let (n, _) ← grouped (cs.takeWhile (· != '/'))
      let (d, _) ← grouped below
      if d = 0 then .error .zeroBelow
      pure (Ratio.of n d)
  return if minus then { r with num := -r.num } else r

end Ratio

end ScriptBridge
