import ScriptBridge.Hint.Value
import ScriptBridge.Number.Integer

namespace ScriptBridge

/-!
# Operators of written hints

* `HintValue.binary`, `HintValue.unary` apply operators of arithmetic;
* `HintValue.compare` applies those that compare;
* `HintValue.item` picks an item by its place or its key, `HintValue.items` lists all.
-/

namespace HintValue

/-! ### Numbers -/

/-- The integer that a value is. -/
def int? : HintValue → Option Int
  | .int n => some n
  | .bool b => some (if b then 1 else 0)
  | _ => none

/-- The floating-point number that a value is or can become. -/
def real? : HintValue → Option Double
  | .real x => some x
  | v => v.int?.map fun n => Double.ofRatio (.ofInt n)

/-- The quotient of two floating-point numbers, the second of which is not zero. -/
def quotient (a b : Double) : Double :=
  let negative := a.isNegative != b.isNegative
  match a, b, a.magnitude.ratio?, b.magnitude.ratio? with
  | .nan, _, _, _ | _, .nan, _, _ | .infinite _, .infinite _, _, _ => .nan
  | .infinite _, _, _, _ => .infinite negative
  | _, .infinite _, _, _ => .finite negative 0 Double.leastExponent
  | _, _, some x, some y =>
    Double.ofQuotient negative (x.num.natAbs * y.den) (x.den * y.num.natAbs)
  | _, _, _, _ => .nan

/-- A floating-point result that is not told, but for its class. -/
def someReal : HintValue := .sample (.library .real) true

/-- The bound on the exponents and shifts that are computed. -/
def powerLimit : Int := 20000

/-- An operator between two integers. -/
def intBinary (operator : String) (a b : Int) : Except LibraryKind HintValue :=
  let unlessZero (v : HintValue) : Except LibraryKind HintValue :=
    if b = 0 then .error .zeroDivisionError else .ok v
  match operator with
  | "+" => .ok (.int (a + b))
  | "-" => .ok (.int (a - b))
  | "*" => .ok (.int (a * b))
  | "//" => unlessZero (.int (a.fdiv b))
  | "%" => unlessZero (.int (a.fmod b))
  | "/" => do
    let _ ← unlessZero .empty
    match Double.ofQuotient ((a < 0) != (b < 0)) a.natAbs b.natAbs with
    | .infinite _ => .error .overflowError
    | x => .ok (.real x)
  | "**" =>
    if 0 ≤ b then
      -- Too great to be computed; which number it is makes no difference to a hint.
      if powerLimit < b && 1 < a.natAbs then .ok (.sample (.library .int) true)
      else if 1 < a.natAbs then .ok (.int (Int.pow a b.toNat))
      else .ok (.int (if b = 0 || a = 1 || (a = -1 && b % 2 = 0) then 1 else a))
    else if a = 0 then .error .zeroDivisionError
    else .ok someReal
  | "<<" =>
    if b < 0 then .error .valueError
    else if powerLimit < b then .ok (.sample (.library .int) (a ≠ 0))
    else .ok (.int (a * Nat.pow 2 b.toNat))
  | ">>" =>
    if b < 0 then .error .valueError
    else if powerLimit < b then .ok (.int (if a < 0 then -1 else 0))
    else .ok (.int (a.fdiv (Nat.pow 2 b.toNat)))
  | "&" | "|" | "^" =>
    -- Negative numbers have no last binary digit; only the class of the result is told.
    let bits (f : Nat → Nat → Nat) : HintValue :=
      if 0 ≤ a && 0 ≤ b then .int (f a.toNat b.toNat) else .sample (.library .int) true
    match operator with
    | "&" => .ok (bits Nat.land)
    | "|" => .ok (bits Nat.lor)
    | _ => .ok (bits Nat.xor)
  | _ => .error .typeError

/-- An operator between two floating-point numbers. -/
def realBinary (operator : String) (a b : Double) : Except LibraryKind HintValue :=
  match operator with
  | "+" => .ok (.real (a.add b))
  | "-" => .ok (.real (a.add b.negate))
  | "*" => .ok (.real (a.times b))
  | "/" => if b.isZero then .error .zeroDivisionError else .ok (.real (quotient a b))
  | "//" | "%" => if b.isZero then .error .zeroDivisionError else .ok someReal
  | "**" =>
    if a.isZero && b.isNegative && !b.isZero then .error .zeroDivisionError else .ok someReal
  | _ => .error .typeError

/-! ### Equality and order -/

/-- Whether two numbers are equal. -/
def equalNumbers (a b : HintValue) : Bool :=
  match a.real?, b.real?, a.int?, b.int? with
  | _, _, some m, some n => m = n
  | some x, some y, _, _ => match x.ratio?, y.ratio? with
    | some p, some q => p = q
    | _, _ => x ≠ .nan && x = y
  | _, _, _, _ => false

mutual

/-- Whether two values are equal. -/
def equal (a b : HintValue) : Bool :=
  match a, b with
  | .hint g, .hint h => g.same h
  | .form m, .form n | .function m, .function n => m = n
  | .text s, .text t => s = t
  | .package, .package | .ellipsis, .ellipsis => true
  | .list xs, .list ys | .tuple xs, .tuple ys => equalAll xs ys
  | .set xs, .set ys => xs.length = ys.length && allAmong xs ys
  | .dict ps, .dict qs => ps.length = qs.length && pairsAmong ps qs
  | a, b => equalNumbers a b

/-- Whether two lists of values are equal. -/
def equalAll : List HintValue → List HintValue → Bool
  | [], [] => true
  | x :: xs, y :: ys => equal x y && equalAll xs ys
  | _, _ => false

/-- Whether values are all among others. -/
def allAmong : List HintValue → List HintValue → Bool
  | [], _ => true
  | x :: xs, ys => ys.any (equal x) && allAmong xs ys

/-- Whether pairs are all among others. -/
def pairsAmong : List (HintValue × HintValue) → List (HintValue × HintValue) → Bool
  | [], _ => true
  | (k, x) :: ps, qs => (qs.any fun (l, y) => equal k l && equal x y) && pairsAmong ps qs

end

/-- Whether two values are one and the same, as far as that can be told. -/
def identical (a b : HintValue) : Bool :=
  match a, b with
  | .hint (.kind k), .hint (.kind l) => k = l
  | .hint .nothing, .hint .nothing | .hint .any, .hint .any => true
  | .form m, .form n | .function m, .function n => m = n
  | .bool x, .bool y => x = y
  | .int m, .int n => m = n
  | .text s, .text t => s = t
  | .ellipsis, .ellipsis | .package, .package | .tuple [], .tuple [] => true
  | _, _ => false

/-- Whether one number is less than another. -/
def lessNumber (a b : Double) : Bool :=
  match a, b, a.ratio?, b.ratio? with
  | .nan, _, _, _ | _, .nan, _, _ => false
  | .infinite n, .infinite m, _, _ => n && !m
  | .infinite n, _, _, _ => n
  | _, .infinite n, _, _ => !n
  | _, _, some p, some q => p.less q
  | _, _, _, _ => false

mutual

/-- Whether one value comes before another. -/
def less (a b : HintValue) : Except LibraryKind Bool :=
  match a, b with
  | .text s, .text t => .ok (s < t)
  | .list xs, .list ys | .tuple xs, .tuple ys => lessAll xs ys
  -- Sets are ordered by inclusion.
  | .set xs, .set ys => .ok (xs.length < ys.length && allAmong xs ys)
  | a, b => match a.int?, b.int?, a.real?, b.real? with
    | some m, some n, _, _ => .ok (m < n)
    | _, _, some x, some y => .ok (lessNumber x y)
    | _, _, _, _ => .error .typeError

/-- Whether one list comes before another: the first items that differ decide, and else the
    length. -/
def lessAll : List HintValue → List HintValue → Except LibraryKind Bool
  | _, [] => .ok false
  | [], _ :: _ => .ok true
  | x :: xs, y :: ys => if equal x y then lessAll xs ys else less x y

end

/-- Whether a value can be the key of a map or a member of a set. -/
def isHashable : HintValue → Bool
  | .list _ | .set _ | .dict _ | .slice .. => false
  | .tuple items => hashables items
  | _ => true
where
  /-- Whether several values can be keys. -/
  hashables : List HintValue → Bool
    | [] => true
    | v :: rest => isHashable v && hashables rest

/-- Whether a value is in another. -/
def isIn (a b : HintValue) : Except LibraryKind Bool :=
  match b with
  | .list items | .tuple items => .ok (items.any (equal a))
  | .set items => if a.isHashable then .ok (items.any (equal a)) else .error .typeError
  | .dict pairs => if a.isHashable then .ok (pairs.any fun p => equal a p.1) else .error .typeError
  | .text t => match a with
    | .text s => .ok (s.isEmpty || (t.splitOn s).length > 1)
    | _ => .error .typeError
  | .sample (.library .bytes) _ => .ok false
  | _ => .error .typeError

/-- An operator that compares. -/
def compare (operator : String) (a b : HintValue) : Except LibraryKind Bool :=
  match operator with
  | "==" => .ok (equal a b)
  | "!=" => .ok !(equal a b)
  | "is" => .ok (identical a b)
  | "is not" => .ok !(identical a b)
  | "in" => isIn a b
  | "not in" => (isIn a b).map (!·)
  | "<" => less a b
  | ">" => less b a
  | "<=" => do return (← less a b) || equal a b
  | _ => do return (← less b a) || equal a b

/-! ### Arithmetic -/

/-- Items, repeated. -/
def repeated (items : List HintValue) (n : Int) : List HintValue :=
  (List.replicate n.toNat items).flatten

/-- The items of some values, each once. -/
def distinct (items : List HintValue) : List HintValue :=
  items.foldl (fun found x => if found.any (equal x) then found else found ++ [x]) []

/-- The pairs of a map, of which the last of each key counts. -/
def distinctPairs (pairs : List (HintValue × HintValue)) : List (HintValue × HintValue) :=
  let put (found : List (HintValue × HintValue)) (p : HintValue × HintValue) :
      List (HintValue × HintValue) :=
    if found.any fun q => equal p.1 q.1 then
      found.map fun q => if equal p.1 q.1 then (q.1, p.2) else q
    else found ++ [p]
  pairs.foldl put []

/-- An operator between two values; those that compare or connect are not among them. -/
def binary (operator : String) (a b : HintValue) : Except LibraryKind HintValue :=
  match operator, a, b with
  | "+", .text s, .text t => .ok (.text (s ++ t))
  | "+", .list xs, .list ys => .ok (.list (xs ++ ys))
  | "+", .tuple xs, .tuple ys => .ok (.tuple (xs ++ ys))
  | "%", .text _, _ => .ok (.sample (.library .text) true)
  | "|", .dict ps, .dict qs => .ok (.dict (distinctPairs (ps ++ qs)))
  | "|", .set xs, .set ys => .ok (.set (distinct (xs ++ ys)))
  | "&", .set xs, .set ys => .ok (.set (xs.filter fun x => ys.any (equal x)))
  | "-", .set xs, .set ys => .ok (.set (xs.filter fun x => !ys.any (equal x)))
  | "^", .set xs, .set ys =>
    .ok (.set ((xs.filter fun x => !ys.any (equal x)) ++ ys.filter fun y => !xs.any (equal y)))
  | o, .bool x, .bool y => match o with
    | "&" => .ok (.bool (x && y))
    | "|" => .ok (.bool (x || y))
    | "^" => .ok (.bool (x != y))
    | o => intBinary o (if x then 1 else 0) (if y then 1 else 0)
  | o, a, b =>
    match o, a, a.int?, b, b.int? with
    | "*", .text s, _, _, some n | "*", _, some n, .text s, _ =>
      .ok (.text (String.join (List.replicate n.toNat s)))
    | "*", .list xs, _, _, some n | "*", _, some n, .list xs, _ => .ok (.list (repeated xs n))
    | "*", .tuple xs, _, _, some n | "*", _, some n, .tuple xs, _ => .ok (.tuple (repeated xs n))
    | o, _, some m, _, some n => intBinary o m n
    -- Between anything else than numbers and collections, the bar makes a union.
    | "|", a, _, b, _ => bar a b
    | o, a, _, b, _ => match a.real?, b.real? with
      | some x, some y => realBinary o x y
      | _, _ => .error .typeError

/-- A sign before a value. -/
def unary (operator : String) (v : HintValue) : Except LibraryKind HintValue :=
  match operator, v.int?, v with
  | "not", _, v => .ok (.bool !v.isTrue)
  | "-", some n, _ => .ok (.int (-n))
  | "+", some n, _ => .ok (.int n)
  | "~", some n, _ => .ok (.int (-n - 1))
  | "-", _, .real x => .ok (.real x.negate)
  | "+", _, .real x => .ok (.real x)
  | "-", _, .sample (.library .complex) b | "+", _, .sample (.library .complex) b =>
    .ok (.sample (.library .complex) b)
  | _, _, _ => .error .typeError

/-! ### Items -/

/-- The items of a value that can be walked through. -/
def items : HintValue → Except LibraryKind (List HintValue)
  | .list items | .tuple items | .set items => .ok items
  | .dict pairs => .ok (pairs.map (·.1))
  | .text s => .ok (s.toList.map fun c => .text (String.singleton c))
  | .sample (.library .bytes) _ | .sample (.core _) _ => .ok []
  | _ => .error .typeError

/-- The part of some items between two bounds, in steps. -/
def part (all : List HintValue) (start stop step : HintValue) :
    Except LibraryKind (List HintValue) := do
  let bound (v : HintValue) : Except LibraryKind (Option Int) :=
    match v, v.int? with
    | .hint .nothing, _ => .ok none
    | _, some n => .ok (some n)
    | _, none => .error .typeError
  let size : Int := all.length
  let step := (← bound step).getD 1
  if step = 0 then throw .valueError
  let inside (low high n : Int) : Int := max low (min high (if n < 0 then n + size else n))
  -- Backwards, the place before the first stands for the end.
  let (low, high) := if 0 < step then (0, size) else (-1, size - 1)
  let start := (← bound start).elim (if 0 < step then 0 else size - 1) (inside low high)
  let stop := (← bound stop).elim (if 0 < step then size else -1) (inside low high)
  let count := if 0 < step then (stop - start + step - 1) / step
    else (start - stop - step - 1) / (-step)
  let places := (List.range count.toNat).map fun (i : Nat) => start + step * i
  return places.filterMap fun i => all[i.toNat]?

/-- The item at a place, counted from the end if it is negative, or a part. -/
def itemAt (all : List HintValue) (wrap : List HintValue → HintValue) (index : HintValue) :
    Except LibraryKind HintValue :=
  match index, index.int? with
  | .slice start stop step, _ => do return wrap (← part all start stop step)
  | _, some n =>
    let i := if n < 0 then n + all.length else n
    match if 0 ≤ i then all[i.toNat]? else none with
    | some v => .ok v
    | none => .error .indexError
  | _, none => .error .typeError

/-- Some texts as one. -/
def joined (items : List HintValue) : HintValue :=
  .text (String.join (items.map fun
    | .text s => s
    | _ => ""))

/-- The item of a value at a place or under a key. -/
def item (v index : HintValue) : Except LibraryKind HintValue :=
  match v with
  | .list all => itemAt all .list index
  | .tuple all => itemAt all .tuple index
  | .text s => itemAt (s.toList.map fun c => .text (String.singleton c)) joined index
  | .dict pairs =>
    if !index.isHashable then .error .typeError
    else match pairs.find? fun p => equal index p.1 with
      | some p => .ok p.2
      | none => .error .keyError
  | _ => .error .typeError

end HintValue

end ScriptBridge
