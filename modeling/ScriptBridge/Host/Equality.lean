import ScriptBridge.Host.MapKey
import ScriptBridge.Host.NumberOrder

namespace ScriptBridge

/-!
# Equality of values

When two values count as equal. Each of the two may know how it compares with the other, the more
specific one first; if neither does, a value is equal to itself only. Inside containers a value is
always equal to itself.

* `Host.equalLists`, `Host.equalMaps` compare containers, given equality of values;
* `Host.contentEqual?` is what a library class knows;
* `Host.compare` gives what the comparison gives, `Host.equal` whether it counts as true.
-/

namespace Host

open Run

/-- Whether two lists are equal, element by element. -/
def equalLists (equal : Value → Value → Run Bool) : List Value → List Value → Run Bool
  | [], [] => return true
  | x :: xs, y :: ys => do if ← equal x y then equalLists equal xs ys else return false
  | _, _ => return false

/-- Whether two lists are equal; those of different length are not compared any further. -/
def equalSized (equal : Value → Value → Run Bool) (xs ys : List Value) : Run Bool :=
  if xs.length = ys.length then equalLists equal xs ys else return false

/-- Whether values are all equal to the ones found under the same key, if any. -/
def equalEntries (equal : Value → Value → Run Bool) : List (Value × Option Value) → Run Bool
  | [] => return true
  | (_, none) :: _ => return false
  | (x, some y) :: rest => do if ← equal y x then equalEntries equal rest else return false

/-- Whether two maps are equal: the same keys with equal values, in any order. -/
def equalMaps {κ φ : Type} [Keyed κ φ] [DecidableEq φ] (equal : Value → Value → Run Bool)
    (a b : OrderedMap κ Value) : Run Bool :=
  if a.size ≠ b.size then return false
  else equalEntries equal (a.entries.map fun (k, v) => (v, b.get? k))

/-- Whether the entries of one host map are in another with equal values. -/
def equalHostEntries (call : Call) (equal : Value → Value → Run Bool) (b : HostMap) :
    List (MapKey × Value) → Run Bool
  | [] => return true
  | (k, x) :: rest => do
    match b.get? (← keyIn call b k) with
    | none => return false
    | some y => if ← equal y x then equalHostEntries call equal b rest else return false

/-- Whether two host maps are equal: the same keys with equal values, in any order. -/
def equalHostMaps (call : Call) (equal : Value → Value → Run Bool) (a b : HostMap) : Run Bool :=
  if a.size ≠ b.size then return false else equalHostEntries call equal b a.entries

/-- The pairs of a map of any sort, as its method for that gives them. -/
def mapPairs (call : Call) (v : Value) : Run (List (Value × Value)) := do
  match ← libraryMethod? v "items", ← content? v with
  | some .dict, some (.dict m) | some .mapView, some (.mapView m) =>
    return m.entries.map fun (k, x) => (k.value, x)
  | _, _ =>
    -- A class that answers for its pairs may answer with anything.
    let listed ← operate call "items" [v]
    let s ← store
    match s.body? listed with
    | some (.list items) => return items.filterMap fun x => match s.body? x with
      | some (.tuple [k, y]) => some (k, y)
      | _ => none
    | _ => fail .typeError

/-- Whether a struct's entries are those of a value. -/
def structEqual? (call : Call) (equal : Value → Value → Run Bool) (m : OrderedMap Key Value)
    (b : Value) : Run (Option Bool) := do
  let s ← store
  if s.isA b .struct then
    match s.body? b with
    | some (.struct n _) => return some (← equalMaps equal m n)
    | _ => fail .attributeError
  else if s.isInstance b .mapping then do
    let pairs ← (← mapPairs call b).mapM fun (k, x) => do return (← keyOf call k, x)
    return some (← equalMaps equal m (.ofList pairs))
  else return none

/-- The bytes that a value holds. -/
def bytesOf? : Option Body → Option (List Nat)
  | some (.bytes items) | some (.byteArray items) | some (.byteView _ items) => some items
  | _ => none

/-- The bytes of machine words, the low ones first. -/
def wordBytes (words : List Int) : List Nat :=
  words.flatMap fun w =>
    let n := (w % 4294967296).toNat
    [n % 256, n / 256 % 256, n / 65536 % 256, n / 16777216]

/-- What a library class knows about the equality of two values, given equality of the values they
    hold; `none` when it knows nothing. -/
def contentEqual? (call : Call) (equal : Value → Value → Run Bool) (l : LibraryKind)
    (a b : Value) : Run (Option Bool) := do
  let s ← store
  let x := s.content? a
  let y := s.content? b
  match l with
  | .list | .tuple | .deque | .dict => match x, y with
    | some (.tuple xs), some (.tuple ys) => return some (← equalLists equal xs ys)
    | some (.list xs), some (.list ys) | some (.deque xs _), some (.deque ys _) =>
      return some (← equalSized equal xs ys)
    -- The order of the entries does not matter, unlike that of elements.
    | some (.dict m), some (.dict n) => return some (← equalHostMaps call equal m n)
    | _, _ => return none
  | .mapView => match x, y with
    | some (.mapView m), some (.dict n) | some (.mapView m), some (.mapView n) =>
      return some (← equalHostMaps call equal m n)
    | some (.mapView m), some (.struct n _) => do
      let pairs ← m.entries.mapM fun (k, v) => do return (← keyOf call k.value, v)
      return some (← equalMaps equal n (.ofList pairs))
    | _, _ => return some false
  | .struct => match x with
    | some (.struct m _) => structEqual? call equal m b
    | _ => fail .attributeError
  | .array => match x, y with
    | some (.array xs _), some (.array ys _) | some (.array xs _), some (.list ys) =>
      return some (← equalSized equal xs ys)
    | some (.array ..), _ => return none
    | _, _ => fail .attributeError
  | .mapping =>
    if s.isInstance b .mapping then do
      let m ← hostMapOf call (← mapPairs call a)
      let n ← hostMapOf call (← mapPairs call b)
      return some (← equalHostMaps call equal m n)
    else return none
  | .bytes | .byteArray | .byteView => match x, y with
    | some (.byteView _ items), some (.words words) =>
      return some (items.map Int.ofNat = words)
    | some (.byteArray items), some (.words words) => return some (items = wordBytes words)
    | _, _ => return do return decide ((← bytesOf? x) = (← bytesOf? y))
  | .range => match x, y with
    | some (.range a b c), some (.range d e f) =>
      return some (Store.rangeForm a b c = Store.rangeForm d e f)
    | _, _ => return none
  | .boundMethod => match x, y with
    | some (.bound f r), some (.bound g t) => return some (f = g && r = t)
    | _, _ => return none
  | .key => return do return (← s.key? a).same (← s.key? b)
  | _ => match s.scalar a, s.scalar b with
    | .text t, .text u => return some (t = u)
    | v, w => match ← numbersEqual? v w with
      | some r => return some r
      | none => return if a = b then some true else none

/-- What one value says about its equality to another, if anything. -/
def compareOneWay (call : Call) (equal : Value → Value → Run Bool) (a b : Value) :
    Run (Option Value) := do
  match ← callSpecial? call a "__eq__" [b] with
  | some r => return some r
  | none =>
    match ← librarySpecial? a "__eq__" with
    | some l => do return (← contentEqual? call equal l a b).map .bool
    | none => return if a = b then some (.bool true) else none

/-- What the comparison of two values gives, given equality of the values they hold. -/
def compareBy (call : Call) (equal : Value → Value → Run Bool) (a b : Value) : Run Value := do
  let s ← store
  let j := s.kindOf a
  let k := s.kindOf b
  -- A descendant knows better than its ancestor, on whichever side it stands.
  let (first, second) := if j ≠ k && (s.lineage k).contains j then (b, a) else (a, b)
  match ← compareOneWay call equal first second with
  | some r => return r
  | none =>
    match ← compareOneWay call equal second first with
    | some r => return r
    | none => return .bool (a = b)

/-- Whether two values are equal inside containers, as far as they are nested. -/
def equalWith (call : Call) (fuel : Nat) (a b : Value) : Run Bool := do
  match fuel with
  | 0 => fail (.host .recursionError "")
  | fuel + 1 =>
    if a = b then return true
    else match ← compareBy call (equalWith call fuel) a b with
      | .bool r => return r
      | r => do return (← operate call "truth" [r]) = .bool true

/-- Whether two values are equal inside containers. -/
def equal (call : Call) (a b : Value) : Run Bool := equalWith call nestingLimit a b

/-- What the comparison of two values gives. -/
def compare (call : Call) (a b : Value) : Run Value := compareBy call (equal call) a b

end Host

end ScriptBridge
