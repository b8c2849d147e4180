import ScriptBridge.Host.Construct
import ScriptBridge.Host.Sort

namespace ScriptBridge

/-!
# Methods of host collections

The methods that the library gives to lists, tuples, queues, ranges and maps. They take their
arguments by position, and work on the content itself, whatever a declared class defines.
-/

namespace NativeCollection

open Run Host

/-- Does something that gives no value. -/
def silent (x : Run Unit) : Run Value := do
  x
  return .none

/-- The place of a value among some items, between bounds. -/
def indexBetween (call : Call) (items : List Value) (x : Value) (bounds : List Value) :
    Run Value := do
  if 2 < bounds.length then fail .typeError
  let bounds ← bounds.mapM (indexOf call)
  let start := boundPlace items.length ((bounds[0]?).getD 0)
  let stop := boundPlace items.length ((bounds[1]?).getD items.length)
  match ← Sequence.placeOf? call x start ((items.take stop).drop start) with
  | some i => return .int i
  | none => fail .valueError

/-- Some items without the one at a place, and that one. -/
def takeOut (items : List Value) (i : Int) : Run (List Value × Value) :=
  match place? items.length i with
  | none => fail outOfRange
  | some j => match items[j]? with
    | some x => return (items.eraseIdx j, x)
    | none => fail outOfRange

/-- Some items without the first that is equal to a value. -/
def without (call : Call) (items : List Value) (x : Value) : Run (List Value) := do
  match ← Sequence.placeOf? call x 0 items with
  | some i => return items.eraseIdx i
  | none => fail .valueError

/-- The items of a list. -/
def listItems (v : Value) : Run (List Value) := do
  match ← content? v with
  | some (.list items) => return items
  | _ => fail .typeError

/-- Replaces the items of a list. -/
def setItems (v : Value) (items : List Value) : Run Unit := setContent v (.list items)

/-- Sorts a list. Meanwhile it is empty, and it must be so in the end. -/
def sortItems (call : Call) (v : Value) (items : List Value) : Run Unit := do
  setItems v []
  let reached ← sorted call items
  let isTouched := match ← content? v with
    | some (.list items) => !items.isEmpty
    | _ => false
  setItems v reached.items
  match reached.fault with
  | some f => fail f
  | none => if isTouched then fail .valueError

/-- Calls a method of a list. -/
def invokeList (call : Call) (v : Value) (name : String) (args : List Value) : Run Value := do
  let items ← listItems v
  match name, args with
  | "append", [x] => silent (setItems v (items ++ [x]))
  | "insert", [i, x] => silent do setItems v (insertAt items (← wordIndexOf call i) x)
  | "extend", [x] => silent do
    let more ← itemsOf call x
    -- Read again: walking through the other value may have changed this list.
    setItems v ((← listItems v) ++ more)
  | "pop", args => do
    let i ← match args with
      | [] => pure (-1)
      | [i] => wordIndexOf call i
      | _ => fail .typeError
    let (rest, x) ← takeOut items i
    setItems v rest
    return x
  | "remove", [x] => silent do setItems v (← without call items x)
  | "reverse", [] => silent (setItems v items.reverse)
  | "clear", [] => silent (setItems v [])
  | "sort", [] => silent (sortItems call v items)
  | "count", [x] => do return .int (← Sequence.countOf call x items)
  | "index", x :: bounds => indexBetween call items x bounds
  | "copy", [] => newList items
  | _, _ => fail .typeError

/-- Calls a method of a tuple. -/
def invokeTuple (call : Call) (v : Value) (name : String) (args : List Value) : Run Value := do
  match ← content? v with
  | some (.tuple items) => match name, args with
    | "count", [x] => do return .int (← Sequence.countOf call x items)
    | "index", x :: bounds => indexBetween call items x bounds
    | _, _ => fail .typeError
  | _ => fail .typeError

/-- Calls a method of a range. -/
def invokeRange (call : Call) (v : Value) (name : String) (args : List Value) : Run Value := do
  match name, args with
  | "count", [x] => do return .int (← Sequence.countOf call x (← itemsOf call v))
  | "index", [x] => do indexBetween call (← itemsOf call v) x []
  | _, _ => fail .typeError

/-- The first items, as many as a queue holds at most. -/
def firstItems (limit : Option Nat) (items : List Value) : List Value :=
  match limit with
  | some n => items.take n
  | none => items

/-- Items moved around by a number of places. -/
def rotated (n : Int) (items : List Value) : List Value :=
  let k := (n % items.length).toNat
  items.drop (items.length - k) ++ items.take (items.length - k)

/-- Calls a method of a queue, which holds so many items at most. -/
def invokeQueue (call : Call) (v : Value) (items : List Value) (limit : Option Nat)
    (name : String) (args : List Value) : Run Value := do
  let put (items : List Value) : Run Value := silent (setBody v (.deque items limit))
  let takeAt (i : Int) : Run Value := do
    let (rest, x) ← takeOut items i
    let _ ← put rest
    return x
  match name, args with
  | "append", [x] => put (lastItems limit (items ++ [x]))
  | "appendleft", [x] => put (firstItems limit (x :: items))
  | "extend", [x] => do put (lastItems limit (items ++ (← itemsOf call x)))
  | "extendleft", [x] => do put (firstItems limit ((← itemsOf call x).reverse ++ items))
  | "insert", [i, x] => do
    -- A full queue makes room at its ends only.
    if limit = some items.length then fail outOfRange
    put (insertAt items (← wordIndexOf call i) x)
  | "pop", [] => takeAt (-1)
  | "popleft", [] => takeAt 0
  | "remove", [x] => do put (← without call items x)
  | "reverse", [] => put items.reverse
  | "rotate", [] => put (rotated 1 items)
  | "rotate", [n] => do put (rotated (← wordIndexOf call n) items)
  | "clear", [] => put []
  | "count", [x] => do return .int (← Sequence.countOf call x items)
  | "index", x :: bounds => indexBetween call items x bounds
  | "copy", [] => alloc { kind := ← kindOf v, body := .deque items limit }
  | _, _ => fail .typeError

/-- Calls a method of a queue. -/
def invokeDeque (call : Call) (v : Value) (name : String) (args : List Value) : Run Value := do
  match ← body? v with
  | some (.deque items limit) => invokeQueue call v items limit name args
  | _ => fail .typeError

/-! ### Maps -/

/-- A walk through a map, of the sort that its class gives. -/
def newSide (kind : LibraryKind) (side : MapSide) (of : Value) : Run Value :=
  alloc { kind := .library kind, body := .side side of }

/-- Calls a method that maps of both sorts share. -/
def invokeMapView (call : Call) (v : Value) (m : HostMap) (name : String) (args : List Value) :
    Run Value := do
  match name, args with
  | "get", [k] => do return (m.get? (← mapKeyIn call m k)).getD .none
  | "get", [k, d] => do return (m.get? (← mapKeyIn call m k)).getD d
  | "copy", [] => newDict m
  | "keys", [] => newSide .dictKeys .keys v
  | "values", [] => newSide .dictValues .values v
  | "items", [] => newSide .dictItems .items v
  | _, _ => fail .typeError

/-- Removes a key of a host map and gives its value, or a default. -/
def popKey (call : Call) (v : Value) (m : HostMap) (k : Value) (fallback : Option Value) :
    Run Value := do
  let missing : Run Value := match fallback with
    | some d => return d
    | none => fail keyMissing
  -- An empty map does not even look at the key, which may be none.
  if m.entries.isEmpty then missing
  else
    let key ← mapKeyIn call m k
    match m.get? key with
    | some x => do
      setContent v (.dict (m.erase key))
      return x
    | none => missing

/-- Calls a method of a host map. -/
def invokeDict (call : Call) (v : Value) (name : String) (args : Args) : Run Value := do
  let m ← match ← content? v with
    | some (.dict m) => pure m
    | _ => fail .typeError
  if !args.named.isEmpty && name != "update" then fail .typeError
  match name, args.positional with
  | "setdefault", k :: rest => do
    if 1 < rest.length then fail .typeError
    let key ← mapKeyIn call m k
    match m.get? key with
    | some x => return x
    | none => do
      let d := rest.headD .none
      setContent v (.dict (m.insert key d))
      return d
  | "pop", [k] => popKey call v m k none
  | "pop", [k, d] => popKey call v m k (some d)
  | "popitem", [] => do
    match m.entries.getLast? with
    | some (k, x) => do
      setContent v (.dict (m.erase k))
      newTuple [k.value, x]
    | none => fail keyMissing
  | "update", given => silent do
    match given with
    | [] => pure ()
    | [x] => Mapping.putAll call v x
    | _ => fail .typeError
    args.named.forM fun (n, x) => Mapping.put call v (.text n) x
  | "clear", [] => silent (setContent v (.dict {}))
  | name, args => invokeMapView call v m name args

/-- Makes a host map of keys that share a value. A declared class makes an instance first and is
    filled key by key. -/
def fromKeys (call : Call) (k : Kind) (args : List Value) : Run Value := do
  match args with
  | keys :: rest => do
    if 1 < rest.length then fail .typeError
    let x := rest.headD .none
    let v ← call (.kind k) {}
    (← itemsOf call keys).forM fun key => setItem call v key x
    return v
  | [] => fail .typeError

end NativeCollection

end ScriptBridge
