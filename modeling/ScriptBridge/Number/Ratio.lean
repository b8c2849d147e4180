namespace ScriptBridge

/-!
# Ratios

Exact numbers: a whole number over a positive one, in lowest terms, so that equal numbers are the
same ratio.
-/

/-- A ratio in lowest terms, with a positive denominator. -/
structure Ratio where
  num : Int
  den : Nat
deriving DecidableEq, Repr, Inhabited

namespace Ratio

/-- The ratio of two numbers, brought to lowest terms. -/
def of (n : Int) (d : Nat) : Ratio :=
  let g := Nat.gcd n.natAbs d
  if g = 0 then ⟨0, 1⟩ else ⟨n.tdiv g, d / g⟩

/-- An integer as a ratio. -/
def ofInt (n : Int) : Ratio := ⟨n, 1⟩

/-- A whole number times a power of a base. -/
def scaled (n : Int) (base : Nat) (e : Int) : Ratio :=
  if 0 ≤ e then ofInt (n * Nat.pow base e.toNat) else of n (Nat.pow base (-e).toNat)

/-- The text of a ratio: an integer alone, or the two terms with a stroke between. -/
def text (r : Ratio) : String :=
  if r.den = 1 then toString r.num else toString r.num ++ "/" ++ toString r.den

/-- The sum of two ratios. -/
def add (a b : Ratio) : Ratio := of (a.num * b.den + b.num * a.den) (a.den * b.den)

/-- Whether one ratio is less than another. -/
def less (a b : Ratio) : Bool := a.num * b.den < b.num * a.den

/-- What is left of a ratio without the part after the point. -/
def truncate (r : Ratio) : Int := r.num.tdiv r.den

end Ratio

/-- The quotient of two numbers as the nearest whole number; a half goes to the even neighbour. -/
def roundDiv (n d : Nat) : Nat :=
  let q := n / d
  let r := n % d
  if d < 2 * r ∨ (2 * r = d ∧ q % 2 = 1) then q + 1 else q

end ScriptBridge
