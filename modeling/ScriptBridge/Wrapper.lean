import ScriptBridge.Dispatch

namespace ScriptBridge

/-!
# Wrappers and paths

A wrapper holds a class, and an instance of it once there is one, and passes everything on to its
service. Dotted access follows a path of keys from a value, through the service in charge of a
scope.

* `Wrapper.of` wraps a value, `Wrapper.construct` fills a wrapper;
* `Access.get`, `Access.set`, `Access.invoke` take one step, `Access.setDeep` a whole path.
-/

namespace Wrapper

open Run Host

/-- A new wrapper. -/
def make (cls inst : Value) (svc : ServiceId) : Run Value :=
  alloc { kind := .library .wrapper, body := .wrapper cls inst (.service svc) }

/-- Wraps a value: a class alone, anything else with its class. A wrapper stays as it is. -/
def of (v : Value) (svc : ServiceId) : Run Value := do
  if (← store).isA v .wrapper then return v
  else match v with
    | .kind k => make (.kind k) .none svc
    | v => do make (.kind (← kindOf v)) v svc

/-- Whether a wrapper holds an instance. -/
def hasInstance (call : Call) (v : Value) : Run Bool := do
  return (← getAttr call v "target_instance") ≠ .none

/-- The class that a wrapper holds. -/
def heldClass (call : Call) (v : Value) : Run Value := getAttr call v "target_class"

/-- Makes an instance of the wrapped class and keeps it, and its class with it. -/
def construct (call : Call) (v scope : Value) (args : List Value) : Run Value := do
  let given ← newTuple args
  let inst ← match ← getAttr call v "interop" with
    | .service svc => do
      match ← heldClass call v with
      | .kind k => Service.construct call svc scope k given
      | _ => fail .typeError
    | svc => do callMethod call svc "invoke_constructor" [scope, ← heldClass call v, given]
  setAttr call v "target_instance" inst
  -- The instance may be of another class than the one that was asked to make it.
  setAttr call v "target_class" (.kind (← kindOf inst))
  return v

/-- Calls a member of what is wrapped. -/
def invoke (call : Call) (v name : Value) (args : List Value) (safe : Value) : Run Value := do
  let given ← newTuple args
  Service.viaService call v "invoke"
    (fun t => do return [← newTarget t.kind t.inst, name, given, safe])
    (fun svc t => do
      Service.invokeTarget call svc t (← keyOf call name) given (← truth call safe))

/-- Calls a member of the wrapped class. -/
def invokeStatic (call : Call) (v name : Value) (args : List Value) : Run Value := do
  let given ← newTuple args
  match ← getAttr call v "interop" with
  | .service svc => do Service.invokeStatic call svc (← heldClass call v) name given
  | svc => do callMethod call svc "invoke_static" [← heldClass call v, name, given]

/-- Reads a field of what is wrapped. -/
def getField (call : Call) (v name : Value) (fallback : Option Value) : Run Value :=
  Service.viaService call v "get_field"
    (fun t => do return [← newTarget t.kind t.inst, name] ++ fallback.toList)
    (fun svc t => do Service.readField call svc t (← keyOf call name) false fallback)

/-- Writes a field of what is wrapped. -/
def setField (call : Call) (v name x : Value) : Run Value := do
  let _ ← Service.viaService call v "set_field"
    (fun t => do return [← newTarget t.kind t.inst, name, x])
    (fun svc t => do
      Service.writeField call svc t (← keyOf call name) x
      return .none)
  return v

/-- The names of the fields of what is wrapped. -/
def fieldNames (call : Call) (v : Value) : Run (List String) := do
  let t ← Service.wrapperTarget call v
  return (← store).fieldNames t.kind t.inst

/-- The names of the methods of what is wrapped. -/
def methodNames (call : Call) (v : Value) : Run (List String) := do
  Service.methodNames (← Service.wrapperTarget call v).kind

/-- Whether the wrapped class is an interface. -/
def isInterface (call : Call) (v : Value) : Run Bool := do
  match ← heldClass call v with
  | .kind k => Service.isInterface call k
  | _ => return false

end Wrapper

namespace Access

open Run Host

/-- The service in charge of a scope, or the one for where there is none. -/
def serviceFor (call : Call) (scope : Value) : Run ServiceId := do
  let service ← match scope with
    | .none => pure .none
    | .scope i => serviceOfScope call i
    | scope => callMethod call scope "get_interop" []
  match service with
  | .service id => return id
  -- Anything else that counts as true is used as a service, and has not what it takes.
  | v => do if ← truth call v then fail .attributeError else return .fallback

/-- Reads a key. -/
def get (call : Call) (scope v key : Value) (safe : Bool) : Run Value := do
  Service.dereference call (← serviceFor call scope) v key safe scope

/-- Calls a member. -/
def invoke (call : Call) (scope v key args : Value) (safe : Bool) : Run Value := do
  Service.dereferenceAndInvoke call (← serviceFor call scope) v key args safe scope

/-- Writes a key, and gives back the value it was written to. -/
def set (call : Call) (scope v key x : Value) : Run Value := do
  let _ ← Service.assign call (← serviceFor call scope) v key x scope
  return v

/-- Writes at the end of a path. A step that is missing or holds nothing becomes a new struct. -/
def setPath (call : Call) (scope x : Value) : Value → List Value → Run Unit
  | _, [] => return
  | v, [key] => do
    let _ ← set call scope v key x
  | v, key :: rest => do
    -- Read safely: a missing step and an empty one are filled alike.
    let step ← get call scope v key true
    if step = .absent || step = .none then
      let fresh ← newStruct {}
      -- Attached before the rest is written, and left there if that fails.
      let _ ← set call scope v key fresh
      setPath call scope x fresh rest
    else setPath call scope x step rest

/-- Writes at the end of a path, and gives back the value that the path starts from. -/
def setDeep (call : Call) (scope v x : Value) (path : List Value) : Run Value := do
  setPath call scope x v path
  return v

end Access

end ScriptBridge
