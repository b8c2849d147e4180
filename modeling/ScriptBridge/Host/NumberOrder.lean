import ScriptBridge.Host.New

namespace ScriptBridge

/-!
# Order of numbers

When two numbers are equal and when one is less than another, whichever types they are of. Numbers
are compared by their exact values. What is no number is equal to nothing and has no order: between
decimal numbers such a comparison is refused.

* `Host.numbersEqual?` and `Host.numberLess?` compare two numbers;
* `Host.refusal` is the error that a decimal computation without a result ends in.
-/

namespace Host

open Run

/-- The error that a decimal computation without a result ends in. -/
def refusal : Decimal.Refusal → Fault
  | .invalid => .host .invalidOperation ""
  | .overflow => .host .decimalOverflow ""

/-- The result of a decimal computation. -/
def orRefuse (x : Except Decimal.Refusal Decimal) : Run Decimal :=
  match x with
  | .ok d => return d
  | .error r => fail (refusal r)

/-- A decimal number and another number as two decimal numbers in the same proportion. -/
def decimalPair? (d : Decimal) (v : Value) : Option (Decimal × Decimal) :=
  match v with
  | .decimal e => some (d, e)
  | .int n => some (d, .ofInt n)
  | .bool b => some (d, .ofInt (if b then 1 else 0))
  | .real x => some (d, .ofDouble x)
  | .fraction r => some (d.timesNat r.den, .ofInt r.num)
  | _ => none

/-- Whether a decimal number is equal to another number. -/
def decimalEqual (d : Decimal) (v : Value) : Run Bool := do
  let v := match v with
    | .complex re im => if im.isZero then .real re else v
    | v => v
  match decimalPair? d v with
  | none => return false
  | some (x, y) =>
    if x.isSignalling || y.isSignalling then fail (refusal .invalid)
    else return x.order? y = some .eq

/-- Whether a floating-point number is equal to a number that is not decimal. -/
def realEqual (x : Double) (v : Value) : Bool :=
  match x, v with
  | .nan, _ => false
  | x, .real y => y ≠ .nan && (x = y || (x.isZero && y.isZero))
  | x, v => x.ratio?.isSome && x.ratio? = v.ratio?

/-- Whether two numbers are equal; `none` if one of the values is no number. -/
def numbersEqual? (a b : Value) : Run (Option Bool) := do
  let isNumber (v : Value) : Bool := match v with
    | .bool _ | .int _ | .real _ | .complex .. | .fraction _ | .decimal _ => true
    | _ => false
  if !(isNumber a && isNumber b) then return none
  match a, b with
  | .decimal d, v | v, .decimal d => do return some (← decimalEqual d v)
  | .complex re im, v | v, .complex re im =>
    let other := match v with
      | .complex x y => realEqual re (.real x) && realEqual im (.real y)
      | v => im.isZero && realEqual re v
    return some other
  | .real x, v | v, .real x => return some (realEqual x v)
  | a, b => return some (a.ratio? = b.ratio?)

/-- Whether one number is less than another; `none` if they have no order. -/
def numberLess? (a b : Value) : Run (Option Bool) := do
  let decimals? := match a, b with
    | .decimal d, v => decimalPair? d v
    | v, .decimal d => (decimalPair? d v).map Prod.swap
    | _, _ => none
  match decimals? with
  | some (x, y) => match x.order? y with
    | some o => return some (o = .lt)
    | none => fail (refusal .invalid)
  | none =>
    let isReal (v : Value) : Bool := match v with
      | .bool _ | .int _ | .real _ | .fraction _ => true
      | _ => false
    if !(isReal a && isReal b) then return none
    match a, b, a.ratio?, b.ratio? with
    | _, _, some p, some q => return some (p.less q)
    | .real .nan, _, _, _ | _, .real .nan, _, _ => return some false
    | .real (.infinite n), .real (.infinite m), _, _ => return some (n && !m)
    | .real (.infinite n), _, _, _ => return some n
    | _, .real (.infinite n), _, _ => return some (!n)
    | _, _, _, _ => return none

end Host

end ScriptBridge
