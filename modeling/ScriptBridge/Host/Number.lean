import ScriptBridge.Host.Item
import ScriptBridge.Number.Complex
import ScriptBridge.Number.Fraction

namespace ScriptBridge

/-!
# Conversion to numbers

How texts and numbers of other types become numbers of a given type.

* `Host.intOf`, `Host.realOf`, `Host.complexOf`, `Host.fractionOf`, `Host.decimalOf` convert a
  value;
* `intOfText` reads an integer in any base.
-/

/-- The integer that a text spells in a base. -/
def intOfText (base : Nat) (s : String) : Except Fault Int :=
  match Numeral.integer? base s with
  | some n => .ok n
  | none => .error .valueError

namespace Host

open Run

/-- Bytes as a text in which only those of ASCII count. -/
def asciiText (items : List Nat) : String :=
  String.ofList (items.map fun n => if n < 128 then Char.ofNat n else '?')

/-- The text that a value spells a number by: a text, or bytes. -/
def spelling? (v : Value) : Run (Option String) := do
  match (← store).scalar v with
  | .text t => return some t
  | v => match ← content? v with
    | some (.bytes items) | some (.byteArray items) => return some (asciiText items)
    | _ => return none

/-- The text that a value spells a number by where anything that shows its bytes will do. -/
def widerSpelling? (v : Value) : Run (Option String) := do
  match ← content? v with
  | some (.byteView _ items) => return some (asciiText items)
  | some (.words words) => return some (asciiText (wordBytes words))
  | _ => spelling? v

/-- The integer that a number becomes: it loses what follows the point. -/
def truncated (v : Value) : Run Int :=
  match v with
  | .real (.infinite _) | .decimal (.infinite _) => fail overflow
  | .real .nan | .decimal (.undefined ..) => fail .valueError
  | .decimal d => match d.truncate? with
    | some n => return n
    | none => fail .typeError
  | v => match v.ratio? with
    | some r => return r.truncate
    | none => fail .typeError

/-- The integer that a value becomes. -/
def intOf (call : Call) (v : Value) : Run Int := do
  match ← callSpecial? call v "__int__" [] with
  | some r => match (← store).scalar r with
    | .int n => return n
    | .bool b => return if b then 1 else 0
    | _ => fail .typeError
  | none =>
    match ← widerSpelling? v with
    | some t => orFail (intOfText 10 t)
    | none =>
      match (← store).scalar v with
      | .none => fail .typeError
      | x => match x.ratio?, x with
        | some r, _ => return r.truncate
        -- Not finite: these two refuse in words of their own.
        | none, .real _ | none, .decimal _ => truncated x
        | none, _ => indexOf call v

/-- The integer that a text becomes in a base. -/
def intInBase (call : Call) (v base : Value) : Run Int := do
  let b ← indexOf call base
  if b ≠ 0 ∧ (b < 2 ∨ 36 < b) then fail .valueError
  match ← spelling? v with
  | none => fail .typeError
  | some t => orFail (intOfText b.toNat t)

/-- The floating-point number that a ratio becomes, if it is not too great. -/
def realOfRatio (r : Ratio) : Run Double :=
  match Double.ofRatio r with
  | .infinite _ => fail overflow
  | x => return x

/-- The floating-point number that a decimal number becomes. -/
def realOfDecimal (d : Decimal) : Run Double :=
  match d with
  | .finite negative coefficient exponent =>
    return Double.ofParts { negative, coefficient, exponent }
  | .infinite negative => return .infinite negative
  | .undefined _ signals _ => if signals then fail .valueError else return .nan

/-- The floating-point number that a value becomes. -/
def realOf (call : Call) (v : Value) : Run Double := do
  match ← callSpecial? call v "__float__" [] with
  | some r => match (← store).scalar r with
    | .real x => return x
    | _ => fail .typeError
  | none =>
    match ← widerSpelling? v with
    | some t => match Double.ofText? (Numeral.asciiDigits (stripBlank t)) with
      | some x => return x
      | none => fail .valueError
    | none =>
      match (← store).scalar v with
      | .real x => return x
      | .decimal d => realOfDecimal d
      | .complex .. => fail .typeError
      | x => match x.ratio? with
        | some r => realOfRatio r
        | none => do realOfRatio (.ofInt (← indexOf call v))

/-- The complex number that a value is, or that its class turns it into. -/
def complexPart? (call : Call) (v : Value) : Run (Option (Double × Double)) := do
  let own (v : Value) : Option (Double × Double) := match v with
    | .complex re im => some (re, im)
    | _ => none
  match ← callSpecial? call v "__complex__" [] with
  | some r => match own ((← store).scalar r) with
    | some z => return some z
    | none => fail .typeError
  | none => return own ((← store).scalar v)

/-- Refuses what its class does not turn into a floating-point number. -/
def requireReal (v : Value) : Run Unit := do
  let s ← store
  let k := s.kindOf v
  if (s.special? k "__float__").isNone && (s.special? k "__index__").isNone then fail .typeError

/-- The complex number that one or two values become: the second counts as many imaginary units, and
    either may be complex itself. -/
def complexOf (call : Call) : List Value → Run (Double × Double)
  | [] => return (.zero, .zero)
  | [v] => do
    match (← store).scalar v with
    | .text t => match Double.complexOfText? (Numeral.asciiDigits t) with
      | some z => return z
      | none => fail .valueError
    | _ =>
      match ← complexPart? call v with
      | some z => return z
      | none => do
        requireReal v
        return (← realOf call v, .zero)
  | [a, b] => do
    let units := match (← store).scalar b with
      | .complex re im => some (re, im)
      | _ => none
    -- A text spells a whole complex number, never one of two parts.
    if (← spelling? a).isSome || (← spelling? b).isSome then fail .typeError
    let base ← complexPart? call a
    if base.isNone then requireReal a
    if units.isNone then requireReal b
    let x ← match base with
      | some z => pure z.1
      | none => realOf call a
    let y ← match units with
      | some z => pure z.1
      | none => realOf call b
    return (units.elim x fun z => x.add z.2.negate, base.elim y fun z => y.add z.2)
  | _ => fail .typeError

/-- The host's refusal to divide by zero. -/
def zeroDivision : Fault := .host .zeroDivisionError ""

/-- The fraction that a text spells. -/
def fractionOfText (t : String) : Except Fault Ratio :=
  match Ratio.ofText (Numeral.asciiDigits (stripSpace t)) with
  | .ok r => .ok r
  | .error .zeroBelow => .error zeroDivision
  | .error .malformed => .error .valueError

/-- The fraction that one or two values become. -/
def fractionOf (s : Store) : List Value → Except Fault Ratio
  | [] => .ok (.ofInt 0)
  -- Nothing in the second place is as good as no second value.
  | [v] | [v, .none] => match s.scalar v with
    | .text t => fractionOfText t
    | .real (.infinite _) | .decimal (.infinite _) => .error overflow
    | .real .nan | .decimal (.undefined ..) => .error .valueError
    | v => match v.exactRatio? with
      | some r => .ok r
      | none => .error .typeError
  | [a, b] =>
    let rational? (v : Value) : Option Ratio := match v with
      | .int _ | .bool _ | .fraction _ => v.ratio?
      | _ => none
    match rational? (s.scalar a), rational? (s.scalar b) with
    | some x, some y =>
      if y.num = 0 then .error zeroDivision
      else
        let n := x.num * y.den
        let d := x.den * y.num
        .ok (if d < 0 then .of (-n) d.natAbs else .of n d.natAbs)
    | _, _ => .error .typeError
  | _ => .error .typeError

/-- The sign of a decimal number, given as zero or one. -/
def signOf (v : Value) : Except Fault Bool :=
  match v with
  | .int 0 | .bool false => .ok false
  | .int 1 | .bool true => .ok true
  | .int n => .error (if n.natAbs ≤ maxLength then .valueError else overflow)
  | _ => .error .valueError

/-- A digit of a decimal number, given as an integer. -/
def digitOf (s : Store) (v : Value) : Except Fault Nat :=
  match s.scalar v with
  | .int n => if 0 ≤ n ∧ n ≤ 9 then .ok n.toNat else .error .valueError
  | .bool b => .ok (if b then 1 else 0)
  | _ => .error .valueError

/-- The decimal number of a sign, digits and an exponent; letters stand for what is not finite. -/
def decimalOfParts (s : Store) : List Value → Except Fault Decimal
  | [sign, digits, exponent] => do
    let negative ← signOf (s.scalar sign)
    let exponent ← match s.scalar exponent with
      | .text t => if t ∈ ["F", "n", "N"] then pure (Sum.inr t) else .error .valueError
      | .int n => if n.natAbs ≤ maxLength then pure (Sum.inl n) else .error overflow
      | .bool b => pure (Sum.inl (if b then 1 else 0))
      | _ => .error .valueError
    let items ← match s.content? digits with
      | some (.list items) | some (.tuple items) => pure items
      | _ => .error .valueError
    if exponent = .inr "F" then return .infinite negative
    let n := (← items.mapM (digitOf s)).foldl (fun n d => 10 * n + d) 0
    match exponent with
    | .inl e =>
      if Decimal.greatestLeading < Decimal.leading n e || e < Decimal.leastTrailing then
        .error (refusal .invalid)
      else return .finite negative n e
    | .inr t => return .undefined negative (t = "N") n
  | _ => .error .valueError

/-- The decimal number that a value becomes. -/
def decimalOf (s : Store) (v : Value) : Except Fault Decimal :=
  match s.scalar v with
  | .decimal d => .ok d
  | .text t => match Decimal.ofText? (Numeral.asciiDigits (stripSpace t)) with
    | some d => .ok d
    | none => .error (.host .invalidOperation "")
  | .int n => .ok (.ofInt n)
  | .bool b => .ok (.ofInt (if b then 1 else 0))
  | .real x => .ok (.ofDouble x)
  | _ => match s.content? v with
    | some (.list items) | some (.tuple items) => decimalOfParts s items
    | _ => .error .typeError

end Host

end ScriptBridge
