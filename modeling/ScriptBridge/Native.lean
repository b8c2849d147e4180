import ScriptBridge.Native.Engine

namespace ScriptBridge

/-!
# Functions of the host itself

The free functions and the members of library classes that scripts can call. `Native.invoke` runs
one of them on its arguments, the receiver first.
-/

namespace Native

open Run Host NativeCollection

/-! ### Numbers -/

/-- The absolute value of a number. -/
def magnitude (call : Call) (v : Value) : Run Value := do
  match ← callSpecial? call v "__abs__" [] with
  | some x => return x
  | none =>
    match (← store).scalar v with
    | .int n => return .int n.natAbs
    | .bool b => return .int (if b then 1 else 0)
    | .real x => newScalar (.real x.magnitude)
    | .complex re im =>
      match re.hypotenuse im, re, im with
      -- Only parts that are finite themselves can be too great together.
      | .infinite _, .finite .., .finite .. => fail overflow
      | x, _, _ => newScalar (.real x)
    | .decimal d => do newScalar (.decimal (← orRefuse d.magnitude?))
    | .fraction r => return .fraction ⟨r.num.natAbs, r.den⟩
    | _ => fail .typeError

/-- The number of binary digits of a number. -/
def bitLength (n : Nat) : Nat := if n = 0 then 0 else n.log2 + 1

/-- The two terms of a number as a tuple. -/
def termsOf (v : Value) : Run Value :=
  match v.exactRatio? with
  | some r => newTuple [.int r.num, .int r.den]
  | none => do return .int (← truncated v)

/-- Calls a method of a number. -/
def invokeNumber (name : String) (v : Value) (args : List Value) : Run Value := do
  let x : Value := match (← store).scalar v with
    | .bool b => .int (if b then 1 else 0)
    | x => x
  match name, x, args with
  | "bit_length", .int n, [] => return .int (bitLength n.natAbs)
  | "bit_count", .int n, [] =>
    return .int ((Nat.toDigits 2 n.natAbs).filter (· == '1')).length
  | "conjugate", .complex re im, [] =>
    let negated : Double := match im with
      | .finite n m e => .finite (!n) m e
      | .infinite n => .infinite (!n)
      | .nan => .nan
    newScalar (.complex re negated)
  | "conjugate", x, [] => newScalar x
  | "as_integer_ratio", x, [] => termsOf x
  | "is_integer", .real x, [] => return .bool (x.ratio?.any (·.den = 1))
  | _, _, _ => fail .typeError

/-! ### Errors and classes -/

/-- Adds a note to an error. -/
def addNote (call : Call) (v x : Value) : Run Value := silent do
  let _ ← NativeText.textArgument x
  match ← getAttrD call v "__notes__" .none with
  | .none => do setAttr call v "__notes__" (← newList [x])
  | notes => do
    let _ ← callMethod call notes "append" [x]

/-- Calls a method of an error. -/
def invokeError (call : Call) (name : String) (v : Value) (args : List Value) : Run Value := do
  match name, args with
  | "with_traceback", [.none] => return v
  | "add_note", [x] => addNote call v x
  | _, _ => fail .typeError

/-- The line of descent of a class, as a list. -/
def lineOf : Value → Run Value
  | .kind k => do newList (((← store).lineage k).map .kind)
  | _ => fail .typeError

/-! ### Methods of library classes -/

/-- Calls a method of one of the host's own classes, with arguments by position. -/
def invokePlain (call : Call) (owner : LibraryKind) (name : String) (v : Value)
    (args : List Value) : Run Value := do
  match owner, v with
  | .list, v => invokeList call v name args
  | .tuple, v => invokeTuple call v name args
  | .range, v => invokeRange call v name args
  | .deque, v => invokeDeque call v name args
  | .mapView, v => do
    match ← content? v with
    | some (.mapView m) => invokeMapView call v m name args
    | _ => fail .typeError
  | .baseError, v => invokeError call name v args
  | .type, v => if name = "mro" && args.isEmpty then lineOf v else fail .typeError
  | _, v => invokeNumber name v args

/-- Calls a member of a library class on a receiver. -/
def invokeMember (call : Call) (owner : LibraryKind) (name : String) (v : Value) (args : Args) :
    Run Value := do
  match owner, v with
  | .text, v => do
    match (← store).scalar v with
    | .text t => NativeText.invoke call name t args
    | _ => fail .typeError
  | .dict, .kind k =>
    if args.named.isEmpty then fromKeys call k args.positional else fail .typeError
  | .dict, v => invokeDict call v name args
  | owner, v =>
    let isShared :=
      [.mapping, .mutableMapping, .sequence, .mutableSequence].contains owner
    if owner.isEngineOwn || isShared then invokeOwn call owner name v args
    else if args.named.isEmpty then invokePlain call owner name v args.positional
    else fail .typeError

/-! ### Free functions -/

/-- The pairs of a map as a list of tuples, as its own method for that gives them. -/
def listPairs (call : Call) (v : Value) : Run Value := do
  let given ← itemsOf call (← callMethod call v "items" [])
  newList (← given.mapM fun x => do
    let (k, y) ← Mapping.twoOf call x
    newTuple [k, y])

/-- Calls a free function, or one of the operations that all values have. -/
def invokeFree (call : Call) (name : String) (args : List Value) : Run Value := do
  match name, args with
  | "len", [v] => do return .int (← length call v)
  | "abs", [v] => magnitude call v
  | "truth", [v] => do return .bool (← truth call v)
  | "equal", [v, w] => do return .bool (← equal call v w)
  | "str", [v] => do return .text (← textOf call v)
  | "list", [v] => do newList (← itemsOf call v)
  | "items", [v] => listPairs call v
  | "getitem", [v, k] => getItem call v k
  | "setitem", [v, k, x] => silent (setItem call v k x)
  | "contains", [v, k] => do return .bool (← contains call v k)
  | _, _ => fail .typeError

/-- Calls a function of the host itself. -/
def invoke (call : Call) (f : NativeFunction) (args : Args) : Run Value := do
  match f.owner, f.name, args.positional with
  | none, name, given =>
    if args.named.isEmpty then invokeFree call name given else fail .typeError
  | some owner, "__init__", _ => callInitialiser call owner args
  | some owner, name, v :: rest => invokeMember call owner name v { args with positional := rest }
  | _, _, [] => fail .typeError

end Native

end ScriptBridge
