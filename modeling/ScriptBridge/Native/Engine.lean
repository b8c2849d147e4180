import ScriptBridge.Native.Collection
import ScriptBridge.Native.Parameters
import ScriptBridge.Native.Text
import ScriptBridge.Wrapper

namespace ScriptBridge

/-!
# Methods of the engine's own values

The methods of structs, arrays, scripted instances, wrappers, scopes, keys and targets, and those
that every map and every sequence shares.
-/

namespace Native

open Run Host NativeCollection

/-! ### The three operations -/

/-- The key that an operation is given. Anything else in its place lacks what a key has. -/
def protocolKey (v : Value) : Run Key := do
  match (← store).key? v with
  | some k => return k
  | none => fail .attributeError

/-- Reads a key as a class of the library does. A struct asks no more of a key than that it can be
    looked up, as long as it need not say that it is missing. -/
def invokeRead (call : Call) (owner : LibraryKind) (v scope key : Value) (safe : Bool) :
    Run Value := do
  match owner with
  | .wrapper =>
    let key ← keyOf call key
    Service.passRequest call (.read safe) v scope key
  | .struct =>
    match (← store).key? key with
    | some key => Container.readNative call .struct v scope key safe
    | none => do
      -- Looked up as any value would be: one that cannot be a key of a map is refused.
      let _ ← mapKey call key
      if safe then return .absent else fail .attributeError
  | .referenceable => fail notImplemented
  | owner => do Container.readNative call owner v scope (← protocolKey key) safe

/-- Writes a key as a class of the library does. -/
def invokeWrite (call : Call) (owner : LibraryKind) (v scope key x : Value) : Run Value := do
  match owner with
  | .wrapper =>
    let key ← keyOf call key
    Service.passRequest call (.write x) v scope key
  | .referenceable => fail notImplemented
  | .struct | .scripted => do Container.writeNative call owner v scope (← keyOf call key) x
  | owner => do Container.writeNative call owner v scope (← protocolKey key) x

/-- Calls a member as a class of the library does. -/
def invokeCall (call : Call) (owner : LibraryKind) (v scope key args : Value) (safe : Bool) :
    Run Value := do
  match owner with
  | .wrapper =>
    let key ← keyOf call key
    Service.passRequest call (.call args safe) v scope key
  | .referenceable => fail notImplemented
  | owner => do Container.invokeNative call owner v scope (← protocolKey key) args safe

/-- Calls one of the methods of values that answer for themselves. -/
def invokeProtocol (call : Call) (owner : LibraryKind) (v : Value) (name : String)
    (args : List (Option Value)) : Run Value := do
  match name, args with
  | "dereference", [some scope, some key, some safe] => do
    invokeRead call owner v scope key (← truth call safe)
  | "assign", [some scope, some key, some x] => invokeWrite call owner v scope key x
  | "dereference_and_invoke", [some scope, some key, some args, some safe] => do
    invokeCall call owner v scope key args (← truth call safe)
  | "get_box_meta", [] => keptDescription call v
  | "key_names", [] => do
    match ← body? v with
    | some (.struct m _) => newList (m.keys.map fun k => .text k.name)
    | _ => fail .attributeError
  | "pseudo_constructor", _ => fail notImplemented
  | "insert", [some i, some x] => do
    match ← body? v with
    | some (.array items card) => silent do
      setBody v (.array (insertAt items (← wordIndexOf call i) x) card)
    | _ => fail .attributeError
  | _, _ => fail .typeError

/-! ### Maps and sequences -/

/-- Calls a method that every map has. -/
def invokeMapping (call : Call) (v : Value) (name : String) (args : List (Option Value)) :
    Run Value := do
  match name, args with
  | "get", [some key, some d] => Mapping.getD call v key d
  | "pop", [some key, d] => Mapping.pop call v key d
  | "popitem", [] => do
    let (k, x) ← Mapping.popItem call v
    newTuple [k, x]
  | "clear", [] => silent (Mapping.clear call v)
  | "setdefault", [some key, some d] => Mapping.setDefault call v key d
  | "keys", [] => newSide .keysView .keys v
  | "items", [] => newSide .itemsView .items v
  | "values", [] => newSide .valuesView .values v
  | _, _ => fail .typeError

/-- Sets all pairs of a value in a map, then some by name. -/
def invokeUpdate (call : Call) (v : Value) (args : Args) : Run Value := silent do
  match args.positional with
  | [] => pure ()
  | [x] => Mapping.update call v x
  | _ => fail .typeError
  args.named.forM fun (n, x) => setItem call v (.text n) x

/-- Calls a method that every sequence has. -/
def invokeSequence (call : Call) (v : Value) (name : String) (args : List (Option Value)) :
    Run Value := do
  match name, args with
  | "append", [some x] => silent (Sequence.append call v x)
  | "extend", [some x] => silent (Sequence.extend call v x)
  | "pop", [some i] => Sequence.pop call v i
  | "remove", [some x] => silent (Sequence.remove call v x)
  | "reverse", [] => silent (Sequence.reverse call v)
  | "clear", [] => silent (Sequence.clear call v)
  | "count", [some x] => do return .int (← Sequence.count call v x)
  | "index", [some x, some start, some stop] => do
    return .int (← Sequence.index call v x start stop)
  | "insert", _ => fail outOfRange
  | _, _ => fail .typeError

/-! ### Wrappers -/

/-- The first argument of a call, by position or by name, and the rest. -/
def firstArgument (name : String) (args : Args) : Run (Value × Args) := do
  match args.positional, args.named.lookup name with
  | v :: rest, none => return (v, { args with positional := rest })
  | [], some v => return (v, { args with named := args.named.filter (·.1 != name) })
  | _, _ => fail .typeError

/-- Calls a method of a wrapper. -/
def invokeWrapper (call : Call) (v : Value) (name : String) (args : List (Option Value)) :
    Run Value := do
  match name, args with
  | "has_instance", [] => do return .bool (← Wrapper.hasInstance call v)
  | "unwrap", [] => wrapped v
  | "get_field", [some field, d] => Wrapper.getField call v field d
  | "set_field", [some field, some x] => Wrapper.setField call v field x
  | "has_field", [some x] => do
    return .bool (← Service.hasField call (← Service.wrapperTarget call v) x)
  | "has_field_no_case", [some x] => do
    return .bool (← Service.hasFieldNoCase call (← Service.wrapperTarget call v) x)
  | "has_method", [some x] => do
    return .bool (← Service.hasMethod call (← Service.wrapperTarget call v) x)
  | "has_method_no_case", [some x] => do
    return .bool (← Service.hasMethodNoCase call (← Service.wrapperTarget call v) x)
  | "get_field_names", [] => do newList ((← Wrapper.fieldNames call v).map .text)
  | "get_field_names_no_case", [] => do
    newList ((← Wrapper.fieldNames call v).map fun n => .text (upperCase n))
  | "get_method_names", [] => do newList ((← Wrapper.methodNames call v).map .text)
  | "is_interface", [] => do return .bool (← Wrapper.isInterface call v)
  | name, args => invokeProtocol call .wrapper v name args

/-- Calls a method of a wrapper that takes any number of arguments. -/
def invokeOpen (call : Call) (v : Value) (name : String) (args : Args) : Run Value := do
  let (first, args) ← firstArgument (if name = "invoke_constructor" then "context" else "name") args
  match name, args.named with
  | "invoke_constructor", [] => Wrapper.construct call v first args.positional
  | "invoke_static", [] => Wrapper.invokeStatic call v first args.positional
  | "invoke", [] => Wrapper.invoke call v first args.positional (.bool false)
  | "invoke", [("safe", safe)] => Wrapper.invoke call v first args.positional safe
  | _, _ => fail .typeError

/-- Wraps a value for a service, which is asked for where none is given. -/
def wrapFor (call : Call) (k : Kind) (x svc : Value) : Run Value := do
  match k, svc with
  | .library .wrapper, .service id => Wrapper.of x id
  | k, svc =>
    if (← store).isA x .wrapper then return x
    -- A descendant is made by calling it, so that its initialiser has its say.
    else match x with
      | .kind c => call (.kind k) { positional := [.kind c, .none, svc] }
      | x => do call (.kind k) { positional := [.kind (← kindOf x), x, svc] }

/-! ### Scopes, keys and targets -/

/-- The scope that has a variable, and its variables. -/
def scopeLookup (call : Call) (v key : Value) : Run (Option (Value × Value)) :=
  match v with
  | .scope i => findOwner call i key
  | _ => fail .attributeError

/-- Calls a method of a scope. -/
def invokeScope (call : Call) (v : Value) (name : String) (args : List (Option Value)) :
    Run Value := do
  let service : Run Value := do
    match v with
    | .scope i => serviceOfScope call i
    | _ => fail .attributeError
  match name, args with
  | "find_owner", [some key] => do return (← scopeLookup call v key).elim .none (·.1)
  | "get", [some key, some d] => do
    match ← scopeLookup call v key with
    | some (_, bindings) => getItem call bindings key
    | none => return d
  | "get_interop", [] => service
  | "get_function_service", [] => do functionsOf call (← service)
  | _, _ => fail .typeError

/-- Makes a key of a class from a value; a key stays as it is. -/
def keyFrom (call : Call) (k : Kind) (x : Value) : Run Value := do
  let s ← store
  if (s.key? x).isSome then return x
  else match s.scalar x, k with
    | .int _, _ => call (.kind (.library .indexKey)) { positional := [x] }
    | _, k => call (.kind k) { positional := [x] }

/-- Calls a method of a class of the engine's own, given the class. -/
def invokeClass (call : Call) (owner : LibraryKind) (k : Kind) (name : String)
    (args : List (Option Value)) : Run Value := do
  match owner, name, args with
  | .key, "of", [some x] => keyFrom call k x
  | .wrapper, "of", [some x, some svc] => wrapFor call k x svc
  | .targetRef, "of", [some x] => do
    call (.kind k) { positional := [.kind (← kindOf x), x] }
  | .targetRef, "of_type", [some x] => call (.kind k) { positional := [x, .none] }
  | _, _, _ => fail .typeError

/-- Calls a method of the engine's own, or one that every map or sequence has, on a receiver. -/
def invokeOwn (call : Call) (owner : LibraryKind) (name : String) (v : Value) (args : Args) :
    Run Value := do
  match parameters? owner name with
  -- Methods that take any number of arguments.
  | none => match owner, name, v with
    | .struct, "of", .kind k =>
      if args.named.isEmpty then Mapping.ofAlternating call k args.positional else fail .typeError
    | .mutableMapping, "update", v => invokeUpdate call v args
    | .wrapper, name, v => invokeOpen call v name args
    | _, _, _ => fail .typeError
  | some params => do
    let bound ← bindParameters params args
    match owner, v with
    | .mapping, v | .mutableMapping, v => invokeMapping call v name bound
    | .sequence, v | .mutableSequence, v => invokeSequence call v name bound
    | .scope, v => invokeScope call v name bound
    | owner, .kind k => invokeClass call owner k name bound
    | .wrapper, v => invokeWrapper call v name bound
    | owner, v => invokeProtocol call owner v name bound

end Native

end ScriptBridge
