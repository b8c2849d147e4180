import ScriptBridge.Number.Numeral

namespace ScriptBridge

/-!
# Floating-point numbers

Binary numbers with 53 significant bits. A finite one is a sign, a mantissa and a power of two; the
mantissa has all its bits unless the power is the least one, so equal numbers of equal sign are the
same term.

* `Double.ofRatio` rounds a ratio to the nearest such number, a tie to the even mantissa;
* `Double.text` is the shortest decimal that reads back, and of several the nearest.
-/

/-- A floating-point number. -/
inductive Double where
  | finite (negative : Bool) (mantissa : Nat) (exponent : Int)
  | infinite (negative : Bool)
  | nan
deriving DecidableEq, Repr, Inhabited

namespace Double

/-- The least power of two. -/
def leastExponent : Int := -1074

/-- The greatest power of two. -/
def greatestExponent : Int := 971

/-- The mantissas are below this bound. -/
def mantissaBound : Nat := 9007199254740992

/-- Zero. -/
def zero : Double := .finite false 0 leastExponent

/-- The greatest power of two that a quotient reaches. -/
def binaryLog (n d : Nat) : Int :=
  -- The logarithms are rounded down, so this may be one too great.
  let l : Int := (n.log2 : Int) - d.log2
  let reached : Bool :=
    if 0 ≤ l then d * Nat.pow 2 l.toNat ≤ n else d ≤ n * Nat.pow 2 (-l).toNat
  if reached then l else l - 1

/-- A quotient over a power of a base, as a quotient of whole numbers. -/
def overPower (n d base : Nat) (e : Int) : Nat × Nat :=
  if 0 ≤ e then (n, d * Nat.pow base e.toNat) else (n * Nat.pow base (-e).toNat, d)

/-- The nearest number to a quotient. -/
def ofQuotient (negative : Bool) (n d : Nat) : Double :=
  if n = 0 then .finite negative 0 leastExponent
  else
    let e := max (binaryLog n d - 52) leastExponent
    let (a, b) := overPower n d 2 e
    let m := roundDiv a b
    -- Rounding up may reach the next power of two.
    let (m, e) := if m = mantissaBound then (m / 2, e + 1) else (m, e)
    if greatestExponent < e then .infinite negative else .finite negative m e

/-- The nearest number to a ratio. -/
def ofRatio (r : Ratio) : Double := ofQuotient (r.num < 0) r.num.natAbs r.den

/-- The exact value of a finite number. -/
def ratio? : Double → Option Ratio
  | .finite negative m e => some (Ratio.scaled (if negative then -(m : Int) else m) 2 e)
  | _ => none

/-- The nearest number to a decimal numeral. Far beyond both ends nothing needs to be computed. -/
def ofParts (p : Numeral.Parts) : Double :=
  if p.coefficient ≠ 0 ∧ 400 < p.magnitude then .infinite p.negative
  else if p.magnitude < -400 then .finite p.negative 0 leastExponent
  else
    let r := p.toRatio
    ofQuotient p.negative r.num.natAbs r.den

/-- The number that a text spells: a decimal numeral, or a word for what is not finite. -/
def ofText? (s : String) : Option Double :=
  let (negative, rest) := Numeral.splitSign s.toList
  match (String.ofList rest).toLower with
  | "inf" | "infinity" => some (.infinite negative)
  | "nan" => some .nan
  | _ => (Numeral.plain? s.toList).bind fun cs => (Numeral.parts? cs).map ofParts

/-! ### Decimal text -/

/-- The number of digits before the point of a positive quotient; negative when zeros follow it. -/
def decimalPlaces (n d : Nat) : Int :=
  -- An estimate by the logarithm of two to base ten; the places around it are tried.
  let guess := binaryLog n d * 30103 / 100000
  let reaches (k : Int) : Bool :=
    if 0 ≤ k then d * Nat.pow 10 k.toNat ≤ n else d ≤ n * Nat.pow 10 (-k).toNat
  match [guess + 2, guess + 1, guess, guess - 1].find? reaches with
  | some k => k + 1
  | none => guess - 1

/-- The nearest number of a count of digits that reads back as a given one, if there is one: its
    digits as a whole number, and the power of ten of the last of them. -/
def readsBack? (m : Nat) (e : Int) (n d : Nat) (places : Int) (count : Nat) : Option (Nat × Int) :=
  let power := places - count
  let (a, b) := overPower n d 10 power
  let isSame (digits : Nat) : Bool :=
    let r := Ratio.scaled digits 10 power
    ofQuotient false r.num.natAbs r.den = .finite false m e
  let low := a / b
  let near := roundDiv a b
  let other := if near = low then low + 1 else low
  if isSame near then some (near, power)
  else if isSame other then some (other, power)
  else none

/-- Drops the zeros at the end of digits; `fuel` bounds their number. -/
def dropZeros : Nat → Nat → Int → Nat × Int
  | 0, n, e => (n, e)
  | fuel + 1, n, e => if n ≠ 0 ∧ n % 10 = 0 then dropZeros fuel (n / 10) (e + 1) else (n, e)

/-- The shortest digits of a positive number, and the power of ten of the last of them. -/
def shortest (m : Nat) (e : Int) : Nat × Int :=
  let (n, d) := if 0 ≤ e then (m * Nat.pow 2 e.toNat, 1) else (m, Nat.pow 2 (-e).toNat)
  let places := decimalPlaces n d
  -- Seventeen digits always tell a number apart.
  let found := (List.range 17).findSome? fun i => readsBack? m e n d places (i + 1)
  let (digits, power) := found.getD (0, 0)
  dropZeros 20 digits power

/-- Zeros. -/
def zeros (n : Int) : String := String.ofList (List.replicate n.toNat '0')

/-- The text of digits with a point: positional as long as the point is near, else with an exponent
    of at least two digits. `whole` tells whether a whole number ends in `.0`. -/
def digitText (digits : String) (power : Int) (whole : Bool) : String :=
  let count : Int := digits.length
  let point := count + power
  -- The host changes to an exponent outside of these places.
  if -4 < point ∧ point ≤ 16 then
    if point ≤ 0 then "0." ++ zeros (-point) ++ digits
    else if count ≤ point then digits ++ zeros (point - count) ++ (if whole then ".0" else "")
    else (digits.take point.toNat).toString ++ "." ++ (digits.drop point.toNat).toString
  else
    let first := (digits.take 1).toString
    let rest := (digits.drop 1).toString
    let e := point - 1
    let size := toString e.natAbs
    first ++ (if rest.isEmpty then "" else "." ++ rest) ++ "e" ++ (if e < 0 then "-" else "+") ++
      (if size.length < 2 then "0" ++ size else size)

/-- The text of a number; `whole` tells whether a whole number ends in `.0`. -/
def textWith (whole : Bool) : Double → String
  | .nan => "nan"
  | .infinite negative => if negative then "-inf" else "inf"
  | .finite negative m e =>
    let (digits, power) := if m = 0 then (0, 0) else shortest m e
    (if negative then "-" else "") ++ digitText (toString digits) power whole

/-- The text of a number. -/
def text (x : Double) : String := x.textWith true

/-- Whether a number is below zero or is the zero that has a sign. -/
def isNegative : Double → Bool
  | .finite negative _ _ | .infinite negative => negative
  | .nan => false

/-- Whether a number is zero. -/
def isZero : Double → Bool
  | .finite _ m _ => m = 0
  | _ => false

/-- A number without its sign. -/
def magnitude : Double → Double
  | .finite _ m e => .finite false m e
  | .infinite _ => .infinite false
  | .nan => .nan

/-- The sum of two numbers, rounded to nearest. A sum of zero has a sign only if both terms have. -/
def add (a b : Double) : Double :=
  match a, b, a.ratio?, b.ratio? with
  | .infinite n, .infinite m, _, _ => if n = m then .infinite n else .nan
  | .nan, _, _, _ | _, .nan, _, _ => .nan
  | .infinite n, _, _, _ | _, .infinite n, _, _ => .infinite n
  | _, _, some x, some y =>
    let r := x.add y
    if r.num = 0 then .finite (a.isNegative && b.isNegative) 0 leastExponent else ofRatio r
  | _, _, _, _ => .nan

/-- A number with the other sign. -/
def negate : Double → Double
  | .finite negative m e => .finite (!negative) m e
  | .infinite negative => .infinite (!negative)
  | .nan => .nan

/-- The product of two numbers, rounded to nearest. -/
def times (a b : Double) : Double :=
  let negative := a.isNegative != b.isNegative
  match a, b with
  | .nan, _ | _, .nan => .nan
  | .infinite _, b => if b.isZero then .nan else .infinite negative
  | a, .infinite _ => if a.isZero then .nan else .infinite negative
  | .finite _ m e, .finite _ n f =>
    let r := Ratio.scaled (m * n) 2 (e + f)
    ofQuotient negative r.num.natAbs r.den

/-- The greatest whole number whose square is at most a given one, between two bounds. -/
def rootBetween : Nat → Nat → Nat → Nat → Nat
  | 0, _, low, _ => low
  | fuel + 1, n, low, high =>
    if high ≤ low + 1 then low
    else
      let mid := (low + high) / 2
      if mid * mid ≤ n then rootBetween fuel n mid high else rootBetween fuel n low mid

/-- The length of the hypotenuse over two numbers, rounded to nearest. -/
def hypotenuse (a b : Double) : Double :=
  match a, b with
  | .infinite _, _ | _, .infinite _ => .infinite false
  | .nan, _ | _, .nan => .nan
  | .finite _ m e, .finite _ n f =>
    -- the sum of squares over the common power of two
    let low := min e f
    let x := m * Nat.pow 2 (e - low).toNat
    let y := n * Nat.pow 2 (f - low).toNat
    let square := x * x + y * y
    -- enough further bits that a remainder can be told from none
    let extra := 120
    let wide := square * Nat.pow 4 extra
    let root := rootBetween (wide.log2 + 2) wide 0 (Nat.pow 2 (wide.log2 / 2 + 1))
    let exact := if root * root = wide then 2 * root else 2 * root + 1
    let r := Ratio.scaled exact 2 (low - extra - 1)
    ofQuotient false r.num.natAbs r.den

end Double

end ScriptBridge
