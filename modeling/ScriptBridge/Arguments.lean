import ScriptBridge.Scope

namespace ScriptBridge

/-!
# Arguments and functions that ask for the scope

Scripts pass arguments as one value: a map gives them by name, anything else by position. A function
that has a parameter named `context` is also given the scope it is called from; whether it has one
is remembered on the function itself.

* `Host.acceptsScope` tells whether a function asks for the scope;
* `Host.callFunction` calls a function the way scripts do;
* `Host.unwrapArguments` takes arguments out of their wrappers.
-/

namespace Store

/-- The names of the parameters of a function without its receiver. -/
def boundNames? (s : Store) (f : Value) : Option (List String) :=
  match f with
  | .native _ => some []
  | f => do
    let f ← s.function? f
    return (← dropReceiver? f.params).map (·.name)

/-- The names of the parameters of a function. -/
def plainNames? (s : Store) (f : Value) : Option (List String) :=
  (s.function? f).map fun f => f.params.map (·.name)

/-- The names of the parameters that an entry of a class leaves to its caller. One place is the
    instance's or the class's, however the entry is marked; a class method has its own receiver
    before it. -/
def entryNames? (s : Store) (entry : Value) : Option (List String) :=
  match s.body? entry with
  | some (.classMethod f) => do
    let params ← dropReceiver? (← s.function? f).params
    return (← dropReceiver? params).map (·.name)
  | some (.staticMethod f) => s.boundNames? f
  | _ => s.boundNames? entry

/-- The names of the parameters that a class takes, as far as the definition tells that its
    signature is read from. No library class but the decimal numbers asks for anything that is of
    interest. -/
def constructorNames? (s : Store) (k : Kind) : Option (List String) :=
  match s.writtenMaker? k with
  | some (.declared entry) => s.entryNames? entry
  | some (.library _) => some []
  | none => if s.descends k .decimal then some ["value", "context"] else some []

/-- The methods of the library that ask for the scope. -/
def asksForScope (f : NativeFunction) : Bool :=
  f.owner.any (·.isEngineOwn) &&
    ["assign", "dereference", "dereference_and_invoke", "invoke_constructor",
     "pseudo_constructor"].contains f.name

/-- The names of the parameters that a value asks for when it is called, if they can be read. -/
def paramNames? (s : Store) (v : Value) : Option (List String) :=
  match v with
  | .kind k => s.constructorNames? k
  | .native f => some (if asksForScope f then ["context"] else [])
  | v =>
    match s.body? v with
    | some (.function f) => some (f.params.map (·.name))
    | some (.bound (.native f) _) => some (if asksForScope f then ["context"] else [])
    | some (.bound f _) => s.boundNames? f
    | some (.staticMethod f) => s.plainNames? f
    | _ =>
      match s.special? (s.kindOf v) "__call__" with
      | some (.declared _ entry) => s.entryNames? entry
      | _ => none

end Store

namespace Host

open Run

/-- The attribute in which a function remembers whether it asks for the scope. -/
def scopeMark : String := "_box_accepts_context"

/-- Whether a function asks for the scope: as remembered, else as its parameters say, which is then
    remembered where it can be. -/
def acceptsScope (call : Call) (f : Value) : Run Value := do
  -- Read like any attribute, so an instance sees a mark that its class keeps.
  match ← getAttrD call f scopeMark .none with
  | .none =>
    let needs := ((← store).paramNames? f).any (·.contains "context")
    match ← outcome (setAttr call f scopeMark (.bool needs)) with
    | .ok () => return .bool needs
    | .error e =>
      let s ← store
      -- Nothing can be remembered on this one; it is looked through at every call.
      if faultIsA s e .attributeError || faultIsA s e .typeError then return .bool needs
      else fail e
  | mark => return mark

/-- Calls a function the way scripts do, with some values before the arguments. -/
def callFunction (call : Call) (f : Value) (before : List Value) (scope args : Value) :
    Run Value := do
  let given : OrderedMap String Value :=
    if ← truth call (← acceptsScope call f) then .ofList [("context", scope)] else {}
  if (← store).isInstance args .mapping then do
    -- An argument of that name takes the place of the scope.
    let pairs ← (← mapPairs call args).mapM fun (k, v) => do return (← textOf call k, v)
    call f { positional := before, named := (given.insertAll pairs).entries }
  else do
    let values ← itemsOf call args
    call f { positional := before ++ values, named := given.entries }

/-- What a wrapper holds: the instance, or else the class. -/
def wrapped (v : Value) : Run Value := do
  match ← body? v with
  | some (.wrapper cls inst _) => return if inst = .none then cls else inst
  | _ => fail .attributeError

/-- A value without its wrapper. -/
def unwrap (call : Call) (v : Value) : Run Value := do
  if (← store).isA v .wrapper then viaMethod call v "unwrap" [] fun _ => wrapped v
  else return v

/-- Arguments without wrappers: a map of them, or a tuple. -/
def unwrapArguments (call : Call) (args : Value) : Run Value := do
  if (← store).isInstance args .mapping then do
    let pairs ← (← mapPairs call args).mapM fun (k, v) => do return (k, ← unwrap call v)
    newDict (← hostMapOf call pairs)
  else do newTuple (← (← itemsOf call args).mapM (unwrap call))

end Host

end ScriptBridge
