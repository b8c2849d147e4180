import ScriptBridge.Container
import ScriptBridge.Dispatch.Lookup

namespace ScriptBridge

/-!
# Calls of host members and construction

A call names a member; the kinds of the arguments choose among overloads. What the host code raises
is reported as the cause of an error of the engine.

* `Service.invoke`, `Service.invokeStatic` call members;
* `Service.construct` makes an instance, and runs the two phases of a scripted one.
-/

namespace Store

/-- The library classes whose members insist on a receiver of their class. -/
def insistsOnReceiver (k : LibraryKind) : Bool :=
  k.home?.isNone || k = .deque || k = .decimal

end Store

namespace Service

open Run Host

/-- The values that take positions in a call of a host member. Of named arguments these are the
    names. -/
def positions (call : Call) (args : Value) : Run (List Value) := do
  itemsOf call (← unwrapArguments call args)

/-- What is called for a member, with its receiver. -/
def bindCallee (c : Callee) (inst : Value) (k : Kind) : Run Value := do
  match c.handle with
  | .kind k => return .kind k
  | .native f =>
    if c.isStatic then attach c.handle (.kind k)
    else match f.owner with
      | some owner =>
        -- A method of the library checks its receiver when it is bound, before any argument.
        if Store.insistsOnReceiver owner && !(← store).isA inst owner then fail .typeError
        else attach c.handle inst
      | none => attach c.handle inst
  -- What the class holds is bound here; the instance is not asked for it again.
  | h => do
    match ← body? h with
    | some (.staticMethod f) => return f
    | some (.classMethod f) => attach f (.kind k)
    | _ => attach h inst

/-- Reports an ordinary fault as the cause of another; other faults pass. -/
def reporting (call : Call) (x : Run Value) (reason : String → Reason) : Run Value := do
  match ← outcome x with
  | .ok v => return v
  | .error f =>
    -- What ends a whole program is not an error of the call, and passes as it is.
    if isOrdinary (← store) f then do
      let text ← describe call f
      fail (.wrapped (reason text) f)
    else fail f

/-- Runs a member. -/
def execute (call : Call) (f : Value) (args : List Value) (name : String) (k : Kind) :
    Run Value := do
  let type ← typeName k
  reporting call (call f { positional := args }) (.invocationFailed name type)

/-- Runs a member that was found for a target. -/
def runCallee (call : Call) (c : Callee) (t : Target) (args : List Value) : Run Value := do
  if !c.isStatic && !t.hasInstance then refuse .invokeNeedsInstance
  else
    let f ← bindCallee c t.inst t.kind
    execute call f args c.name t.kind

/-- Calls a member of a target. -/
def invokeTarget (call : Call) (svc : ServiceId) (t : Target) (key : Key) (args : Value)
    (safe : Bool) : Run Value := do
  if key.name.isEmpty then refuse .emptyMethodName
  else
    let args ← positions call args
    let kinds := args.map (← store).kindOf
    match ← outcome (calleeOf svc (.method t.kind key kinds)) with
    -- Only the refusal of the lookup is silenced; what the host code raises passes either way.
    | .error (.engine r) => if safe then return .absent else refuse r
    | .error f => fail f
    | .ok callee => runCallee call callee t args

/-- Calls a member by name. -/
def invoke (call : Call) (svc : ServiceId) (target name args : Value) (safe : Bool) :
    Run Value := do
  let key ← keyOf call name
  invokeTarget call svc ((← store).asTarget target) key args safe

/-- Calls a member of a class by name. -/
def invokeStatic (call : Call) (svc : ServiceId) (target name args : Value) : Run Value := do
  let s ← store
  let t : Target := match target with
    | .kind k => ⟨k, .none⟩
    | v => s.asTarget v
  let key ← keyOf call name
  if key.name.isEmpty then refuse .emptyMethodName
  let args ← positions call args
  let kinds := args.map (← store).kindOf
  let callee ← calleeOf svc (.method t.kind key kinds)
  if !callee.isStatic then refuse (.notStatic key.name (← typeName t.kind))
  let f ← bindCallee callee .none t.kind
  execute call f args callee.name t.kind

/-! ### Construction -/

/-- Whether a class is an interface: it has abstract members left, or is marked as a protocol. -/
def isInterface (call : Call) (k : Kind) : Run Bool := do
  if (← store).isAbstract k || k = .library .protocolBase then return true
  else match k with
    | .label _ => return false
    | k => do truth call (← getAttrD call (.kind k) "_is_protocol" (.bool false))

/-- The scope that an operation runs in: the given one, unless it counts as false. -/
def scopeOrRoot (call : Call) (svc : ServiceId) (scope : Value) : Run Value := do
  match scope with
  | .scope i => return .scope i
  | scope => do
    if ← truth call scope then return scope else return .scope (← service svc).root

/-- Runs the initialiser block of a scripted instance, and then its `init` with the arguments of the
    constructor. What `init` returns takes the place of the instance, unless it is nothing. -/
def bringUp (call : Call) (svc : ServiceId) (scope inst args : Value) : Run Value := do
  let parent ← scopeOrRoot call svc scope
  -- This scope is made before anything is reported: if it fails, its fault is the answer.
  let inner := Value.scope (← newClassScope call parent inst)
  let type ← typeNameOf inst
  let name := (← store).name (← kindOf inst)
  let result ← reporting call
    (do
      trace svc ["BRINGUP", "pseudo_constructor", name]
      let _ ← callMethod call inst "pseudo_constructor" [inner]
      -- A class without `init` is done after its block, so this read is safe.
      let init ← Container.read call inst inner .init true
      if init = .absent || init = .none then return inst
      trace svc ["BRINGUP", "init", name]
      Container.invoke call inst inner .init args false)
    (.bringUpFailed type)
  if result = .none || result = .absent then return inst else return result

/-- Makes an instance of a class. A scripted class is allocated without arguments, which go to its
    `init`. -/
def construct (call : Call) (svc : ServiceId) (scope : Value) (k : Kind) (args : Value) :
    Run Value := do
  let args ← unwrapArguments call args
  let type ← typeName k
  if ← isInterface call k then refuse (.constructorAbstract type)
  match k with
  | .label _ => fail .typeError
  | k =>
    let allocated ← do
      if (← store).descends k .scripted then pure [] else itemsOf call args
    let kinds := allocated.map (← store).kindOf
    match ← outcome (calleeOf svc (.constructor k kinds)) with
    -- Here the refusal becomes a cause; there is no safe construction.
    | .error (.engine r) => fail (.wrapped (.constructorLookupFailed type) (.engine r))
    | .error f => fail f
    | .ok callee =>
      let make ← bindCallee callee .none k
      let inst ← reporting call (call make { positional := allocated }) (.constructorFailed type)
      if (← store).isA inst .scripted then bringUp call svc scope inst args else return inst

end Service

end ScriptBridge
