import ScriptBridge.Host.Number

namespace ScriptBridge

/-!
# Sums

What the sum of two values is: numbers are added, texts and sequences are joined. A declared class
may define the sum from either side.
-/

namespace Host

open Run

/-- The sum of two numbers, if they go together: the less exact type prevails, and decimal numbers
    go with whole numbers only. -/
def numberSum? (a b : Value) : Run (Option Value) := do
  let whole? : Value → Option Int
    | .int n => some n
    | .bool b => some (if b then 1 else 0)
    | _ => none
  let decimal? : Value → Option Decimal
    | .decimal d => some d
    | v => (whole? v).map .ofInt
  let real (v : Value) : Run (Option Double) :=
    match v with
    | .real x => return some x
    | .int _ | .bool _ | .fraction _ => match v.ratio? with
      | some r => do return some (← realOfRatio r)
      | none => return none
    | _ => return none
  let parts (v : Value) : Run (Option (Double × Double)) := do
    match v with
    | .complex re im => return some (re, im)
    | v => do return (← real v).map (·, .zero)
  match a, b with
  | .complex .., _ | _, .complex .. =>
    match ← parts a, ← parts b with
    | some (x, y), some (z, w) => do return some (← newScalar (.complex (x.add z) (y.add w)))
    | _, _ => return none
  | .real _, _ | _, .real _ =>
    match ← real a, ← real b with
    | some x, some y => do return some (← newScalar (.real (x.add y)))
    | _, _ => return none
  | .decimal _, _ | _, .decimal _ =>
    match decimal? a, decimal? b with
    | some x, some y => do return some (← newScalar (.decimal (← orRefuse (x.add? y))))
    | _, _ => return none
  | .fraction _, _ | _, .fraction _ =>
    return do return .fraction ((← a.ratio?).add (← b.ratio?))
  | a, b => return do return .int ((← whole? a) + (← whole? b))

/-- The sum that library classes know. -/
def contentSum? (a b : Value) : Run (Option Value) := do
  let s ← store
  match s.scalar a, s.scalar b with
  | .text x, .text y => return some (.text (x ++ y))
  | x, y =>
    match s.content? a, s.content? b with
    | some (.list xs), some (.list ys) => do return some (← newList (xs ++ ys))
    | some (.tuple xs), some (.tuple ys) => do return some (← newTuple (xs ++ ys))
    | some (.deque xs limit), some (.deque ys _) => do
      let all := xs ++ ys
      let kept := limit.elim all fun n => all.drop (all.length - n)
      return some (← alloc { kind := s.kindOf a, body := .deque kept limit })
    | some (.bytes xs), p => match bytesOf? p with
      | some ys => do return some (← alloc { kind := .library .bytes, body := .bytes (xs ++ ys) })
      | none => return none
    | some (.byteArray xs), p => match bytesOf? p with
      | some ys => do
        return some (← alloc { kind := .library .byteArray, body := .byteArray (xs ++ ys) })
      | none => return none
    | _, _ => numberSum? x y

/-- The sum of two values. The class of the right one comes first where it is more specific. -/
def add (call : Call) (a b : Value) : Run Value := do
  let s ← store
  let j := s.kindOf a
  let k := s.kindOf b
  let fromRight (otherwise : Run Value) : Run Value := do
    match if j = k then none else s.declaredSpecial? k "__radd__" with
    | some (_, entry) => callEntry call b entry [a]
    | none => otherwise
  let fromLeft : Run Value := do
    match ← callSpecial? call a "__add__" [b] with
    | some r => return r
    | none => match ← contentSum? a b with
      | some r => return r
      | none => fromRight (fail .typeError)
  if (s.lineage k).contains j then fromRight fromLeft else fromLeft

end Host

end ScriptBridge
