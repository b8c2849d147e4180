import ScriptBridge.Number.Double

namespace ScriptBridge

/-!
# Decimal numbers

Decimal numbers that remember how many digits they were written with: `2.50` and `2.5` are equal and
yet two numbers. A number may also be infinite or undefined. One that is read is kept as it is
written; one that is computed is brought to a number of digits and to bounded exponents.

* `Decimal.ofText?` reads a number, `Decimal.text` writes it;
* `Decimal.order?` compares two numbers by value, and `Decimal.canonical` has the fewest digits of
  all numbers of a value;
* `Decimal.finished?` is a computed number as it is kept;
* `Decimal.add?` adds, `Decimal.magnitude?` drops the sign.
-/

/-- A decimal number. -/
inductive Decimal where
  | finite (negative : Bool) (coefficient : Nat) (exponent : Int)
  | infinite (negative : Bool)
  /-- No number; `signals` tells whether any use of it is refused. -/
  | undefined (negative signals : Bool) (payload : Nat)
deriving DecidableEq, Repr, Inhabited

namespace Decimal

/-- Why a computation has no result. -/
inductive Refusal where
  /-- The operation has no meaning for these numbers. -/
  | invalid
  /-- The result is too great. -/
  | overflow
deriving DecidableEq, Repr

/-- An integer as a decimal number. -/
def ofInt (n : Int) : Decimal := .finite (n < 0) n.natAbs 0

/-- The number of digits of a whole number. -/
def digitCount (n : Nat) : Nat := if n = 0 then 1 else (Double.decimalPlaces n 1).toNat

/-- The exponent of the first digit. -/
def leading (coefficient : Nat) (exponent : Int) : Int := exponent + digitCount coefficient - 1

/-! ### Text -/

/-- The greatest exponent that the first digit of a number may have. -/
def greatestLeading : Int := 999999999999999999

/-- The least exponent that the last digit of a number may have. -/
def leastTrailing : Int := -1999999999999999997

/-- A word for no number, with the digits after it. -/
def undefinedOfText? (negative : Bool) (cs : List Char) : Option Decimal :=
  let word (n : Nat) : String := (String.ofList (cs.take n)).toLower
  if word 3 = "nan" then (Numeral.digits? (cs.drop 3)).map (.undefined negative false)
  else if word 4 = "snan" then (Numeral.digits? (cs.drop 4)).map (.undefined negative true)
  else none

/-- The number that a text spells: a numeral whose exponent is not too far from zero, or a word for
    what is not finite. Underscores are passed over. -/
def ofText? (s : String) : Option Decimal :=
  let cs := s.toList.filter (· != '_')
  let (negative, rest) := Numeral.splitSign cs
  let word := (String.ofList rest).toLower
  if word = "inf" || word = "infinity" then some (.infinite negative)
  else match undefinedOfText? negative rest with
    | some d => some d
    | none => do
      let p ← Numeral.parts? cs
      if greatestLeading < leading p.coefficient p.exponent || p.exponent < leastTrailing then none
      return .finite p.negative p.coefficient p.exponent

/-- The digits of a number around a point, and what follows the digits: zeros are made up where the
    point stands beyond them. -/
def placed (digits : String) (point : Int) : String × String :=
  let count : Int := digits.length
  if point ≤ 0 then ("0", Double.zeros (-point) ++ digits)
  else if count ≤ point then (digits ++ Double.zeros (point - count), "")
  else ((digits.take point.toNat).toString, (digits.drop point.toNat).toString)

/-- An exponent after its mark. -/
def exponentText (mark : String) (e : Int) : String :=
  mark ++ (if e < 0 then "-" else "+") ++ toString e.natAbs

/-- Where the point stands in the text of a number: where it belongs, unless that is far to the left
    or zeros would have to be made up; then after the first digit. -/
def pointPlace (count exponent : Int) : Int :=
  if exponent ≤ 0 ∧ -6 < exponent + count then exponent + count else 1

/-- The sign of a number as a text. -/
def signText (negative : Bool) : String := if negative then "-" else ""

/-- The text of a number: positional unless the point is far to the left or zeros would have to be
    made up, else with an exponent. -/
def text : Decimal → String
  | .infinite negative => signText negative ++ "Infinity"
  | .undefined negative signals payload =>
    signText negative ++ (if signals then "sNaN" else "NaN") ++
      (if payload = 0 then "" else toString payload)
  | .finite negative n e =>
    let digits := toString n
    let point := pointPlace digits.length e
    let (front, back) := placed digits point
    let shift := e + digits.length - point
    signText negative ++ front ++ (if back.isEmpty then "" else "." ++ back) ++
      (if shift = 0 then "" else exponentText "E" shift)

/-! ### Value -/

/-- Whether a number is below zero or has the sign for it. -/
def isNegative : Decimal → Bool
  | .finite negative _ _ | .infinite negative | .undefined negative _ _ => negative

/-- Whether a number is zero. -/
def isZero : Decimal → Bool
  | .finite _ n _ => n = 0
  | _ => false

/-- Whether any use of a number is refused. -/
def isSignalling : Decimal → Bool
  | .undefined _ signals _ => signals
  | _ => false

/-- The exact value of a finite number. -/
def ratio? : Decimal → Option Ratio
  | .finite negative n e => some (Ratio.scaled (if negative then -(n : Int) else n) 10 e)
  | _ => none

/-- A finite number without what follows the point. -/
def truncate? : Decimal → Option Int
  | .finite negative n e =>
    let size : Nat :=
      -- The exponent of a zero may be far beyond what can be written out.
      if 0 ≤ e then (if n = 0 then 0 else n * Nat.pow 10 e.toNat)
      else if leading n e < 0 then 0
      else n / Nat.pow 10 (-e).toNat
    some (if negative then -(size : Int) else size)
  | _ => none

/-- The magnitudes of two finite numbers in order. Only numbers with as many digits before the point
    are brought to a common exponent. -/
def orderSizes (m : Nat) (e : Int) (n : Nat) (f : Int) : Ordering :=
  -- A zero has no first digit to go by.
  if m = 0 || n = 0 then compare m n
  else match compare (leading m e) (leading n f) with
    | .eq =>
      let low := min e f
      compare (m * Nat.pow 10 (e - low).toNat) (n * Nat.pow 10 (f - low).toNat)
    | other => other

/-- The order of two numbers by value; `none` if one of them is no number. -/
def order? : Decimal → Decimal → Option Ordering
  | .undefined .., _ | _, .undefined .. => none
  | .infinite p, .infinite q => some (compare q p)
  | .infinite p, _ => some (if p then .lt else .gt)
  | _, .infinite q => some (if q then .gt else .lt)
  | .finite p m e, .finite q n f =>
    let isBelow := p && m ≠ 0
    let isOtherBelow := q && n ≠ 0
    some <|
      if isBelow != isOtherBelow then (if isBelow then .lt else .gt)
      else if isBelow then (orderSizes m e n f).swap
      else orderSizes m e n f

/-- A coefficient without zeros at its end, and the exponent that goes with it. -/
def canonical (n : Nat) (e : Int) : Nat × Int := Double.dropZeros (digitCount n) n e

/-- A finite number times a whole one, exactly. -/
def timesNat : Decimal → Nat → Decimal
  | .finite negative n e, k => .finite negative (n * k) e
  | d, _ => d

/-- The number that is exactly a ratio over a power of two. -/
def ofBinary (negative : Bool) (r : Ratio) : Decimal :=
  let k := r.den.log2
  .finite negative (r.num.natAbs * Nat.pow 5 k) (-(k : Int))

/-- A floating-point number exactly. -/
def ofDouble (x : Double) : Decimal :=
  match x, x.ratio? with
  | .infinite negative, _ => .infinite negative
  | _, some r => ofBinary x.isNegative r
  | _, none => .undefined false false 0

/-! ### Computed numbers -/

/-- The number of digits that a computed number keeps. -/
def precision : Nat := 28

/-- The greatest exponent of the first digit of a computed number; the least one is its negative. -/
def widest : Int := 999999

/-- The least exponent of the last digit of a computed number. -/
def finest : Int := -widest - precision + 1

/-- A coefficient without a number of digits at its end; a half goes to the even digit. -/
def dropDigits (n : Nat) (count : Nat) : Nat :=
  if digitCount n < count then 0 else roundDiv n (Nat.pow 10 count)

/-- A finite number with a given exponent; a half goes to the even digit. -/
def rescaled (n : Nat) (e target : Int) : Nat :=
  if n = 0 then 0
  else if target ≤ e then n * Nat.pow 10 (e - target).toNat
  else dropDigits n (target - e).toNat

/-- A finite number with a number of digits; a half goes to the even digit. -/
def withDigits (count : Nat) (n : Nat) (e : Int) : Nat × Int :=
  if n = 0 then (n, e)
  else
    let target := e + digitCount n - count
    let m := rescaled n e target
    -- rounding up may make one digit more
    if count < digitCount m then (m / 10, target + 1) else (m, target)

/-- A computed number as it is kept: it has a bounded number of digits and a bounded exponent. -/
def finished? : Decimal → Except Refusal Decimal
  | .finite negative n e =>
    if n = 0 then .ok (.finite negative 0 (max finest (min e widest)))
    else if leading n e < -widest then
      .ok (.finite negative (rescaled n e (max e finest)) (max e finest))
    else
      let (n, e) := if precision < digitCount n then withDigits precision n e else (n, e)
      if widest < leading n e then .error .overflow else .ok (.finite negative n e)
  | .undefined negative signals payload =>
    .ok (.undefined negative signals (payload % Nat.pow 10 precision))
  | d => .ok d

/-- A number that stands for a small one beside a great one: where the small one is out of reach of
    the digits that are kept, all that matters is whether it is zero. -/
def besides (great : Nat) (e : Int) (small : Nat) (f : Int) : Nat × Int :=
  let reach := e - 1 + min 0 ((digitCount great : Int) - precision - 1)
  if great ≠ 0 && leading small f < reach then (min small 1, reach) else (small, f)

/-- The sum of two finite numbers, before it is rounded: it has the digits of the one with more of
    them after the point. A sum of zero has a sign only if both terms have. -/
def addFinite (p : Bool) (m : Nat) (e : Int) (q : Bool) (n : Nat) (f : Int) : Decimal :=
  let ((m, e), (n, f)) :=
    if f ≤ e then ((m, e), besides m e n f) else (besides n f m e, (n, f))
  let low := min e f
  let x : Int := rescaled m e low
  let y : Int := rescaled n f low
  let total := (if p then -x else x) + (if q then -y else y)
  .finite (if total = 0 then p && q else total < 0) total.natAbs low

/-- The sum of two numbers. -/
def add? (a b : Decimal) : Except Refusal Decimal :=
  if a.isSignalling || b.isSignalling then .error .invalid
  else match a, b with
    | .undefined .., _ => finished? a
    | _, .undefined .. => finished? b
    | .infinite n, .infinite m => if n = m then .ok a else .error .invalid
    | .infinite _, _ => .ok a
    | _, .infinite _ => .ok b
    | .finite p m e, .finite q n f => finished? (addFinite p m e q n f)

/-- A number without its sign. -/
def magnitude? : Decimal → Except Refusal Decimal
  | .finite _ n e => finished? (.finite false n e)
  | .infinite _ => .ok (.infinite false)
  | d => if d.isSignalling then .error .invalid else finished? d

end Decimal

end ScriptBridge
