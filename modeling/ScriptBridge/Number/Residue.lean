import ScriptBridge.Number.Ratio

namespace ScriptBridge

/-!
# Residues

The residue of a number modulo a prime. Equal numbers have equal residues, of whichever type they
are, so that a residue can stand for a number where only a quick test for difference is needed.

* `Residue.ofInt`, `Residue.ofRatio`, `Residue.ofScaled` give residues with the sign of the number.
-/

namespace Residue

/-- The prime. -/
def modulus : Nat := 2305843009213693951

/-- A power modulo the prime, by squaring; `fuel` bounds the number of binary digits. -/
def power (base : Nat) : Nat → Nat → Nat
  | 0, _ => 1
  | fuel + 1, e =>
    if e = 0 then 1
    else
      let half := power base fuel (e / 2)
      let square := half * half % modulus
      if e % 2 = 1 then square * base % modulus else square

/-- A residue with a sign. What would be minus one is minus two, as minus one stands for no
    residue. -/
def signed (negative : Bool) (n : Nat) : Int :=
  let r : Int := if negative then -(n : Int) else n
  if r = -1 then -2 else r

/-- The residue of what has none. -/
def infinite : Nat := 314159

/-- The residue of an integer. -/
def ofInt (n : Int) : Int := signed (n < 0) (n.natAbs % modulus)

/-- The inverse of a number modulo the prime. -/
def inverse (n : Nat) : Nat := power (n % modulus) 64 (modulus - 2)

/-- The residue of a ratio. -/
def ofRatio (r : Ratio) : Int :=
  if r.den % modulus = 0 then signed (r.num < 0) infinite
  else signed (r.num < 0) (r.num.natAbs % modulus * inverse r.den % modulus)

/-- The residue of a whole number times a power of ten. -/
def ofScaled (negative : Bool) (n : Nat) (e : Int) : Int :=
  let base := if 0 ≤ e then 10 else inverse 10
  let scale := power base (e.natAbs.log2 + 1) e.natAbs
  signed negative (n % modulus * scale % modulus)

/-- The residue that a number of machine size is by itself; a greater one is brought down. -/
def ofWord (n : Int) : Int :=
  if -9223372036854775808 ≤ n ∧ n ≤ 9223372036854775807 then (if n = -1 then -2 else n)
  else ofInt n

end Residue

end ScriptBridge
