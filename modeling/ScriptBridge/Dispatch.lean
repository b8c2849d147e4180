import ScriptBridge.Container.Sequence
import ScriptBridge.Dispatch.Invoke

namespace ScriptBridge

/-!
# The dispatcher

Every read, write and call that a script makes. The target is sorted, and the rules for its sort are
followed: values that answer for themselves are asked, host containers follow their own rules, and
anything else is looked up among members and fields.

* `Service.dereference` reads, `Service.assign` writes, `Service.dereferenceAndInvoke` calls;
* `Service.serve` answers any of these requests. A wrapper passes it on to what it wraps, so the
  number of objects bounds how often;
* `Service.getField`, `Service.setField` go straight to the fields.
-/

/-- What a request does with a key: reads it, writes a value there, or calls it with arguments. A
    safe one gives the absent value where it finds nothing. -/
inductive KeyUse where
  | read (safe : Bool)
  | write (x : Value)
  | call (args : Value) (safe : Bool)
deriving DecidableEq, Repr

namespace KeyUse

/-- The method that values which answer for themselves have for a request. -/
def method : KeyUse → String
  | read _ => "dereference"
  | write _ => "assign"
  | call .. => "dereference_and_invoke"

/-- The word for a request in a trace. -/
def traceName : KeyUse → String
  | read _ => "DEREF"
  | write _ => "ASSIGN"
  | call .. => "INVOKE"

/-- What a request says beyond the key, as arguments of its method. -/
def arguments : KeyUse → List Value
  | read safe => [.bool safe]
  | write x => [x]
  | call args safe => [args, .bool safe]

end KeyUse

namespace Service

open Run Host

/-! ### Wrappers -/

/-- The target of a wrapper: its class and instance, unless a declared class says otherwise. -/
def wrapperTarget (call : Call) (v : Value) : Run Target := do
  match ← kindOf v, ← body? v with
  | .library .wrapper, some (.wrapper (.kind k) inst _) => return ⟨k, inst⟩
  -- Scripts may have put anything in the place of the class.
  | .library .wrapper, some (.wrapper ..) => fail .typeError
  | _, _ => do
    let t ← getAttr call v "target_ref"
    return (← store).asTarget t

/-- Asks the service of a wrapper; anything else in its place is asked by the name of the
    operation. -/
def viaService (call : Call) (v : Value) (name : String) (args : Target → Run (List Value))
    (native : ServiceId → Target → Run Value) : Run Value := do
  match ← getAttr call v "interop" with
  | .service id => do native id (← wrapperTarget call v)
  | svc => do
    let f ← getAttr call svc name
    call f { positional := ← args (← wrapperTarget call v) }

/-- The number of wrappers that can lie around a value, and one more. -/
def wrapperDepth : Run Nat := do return (← store).objects.size + 2

/-! ### Reading -/

/-- Reads an element of a host sequence. -/
def readElement (call : Call) (v : Value) (key : Key) (safe : Bool) : Run Value := do
  let n ← length call v
  match ← orFail (key.readIndex n safe) with
  | none => return .absent
  | some i => getItem call v (.int (i - 1))

/-- Reads a host sequence: its length, or an element. -/
def readSequence (call : Call) (v : Value) (key : Key) (safe : Bool) : Run Value := do
  -- The name decides, even if the key also remembers a number.
  if key.same .length then return .int (← length call v) else readElement call v key safe

/-- The keys of a host map that the refusal of a missing key tells of: as its message lists them and
    as the error carries them. They are asked for each time. -/
def listMapKeys (call : Call) (svc : ServiceId) (v : Value) : Run (Listing × List Value) := do
  let keys (_ : Unit) : Run (List Value) := do itemsOf call (← callMethod call v "keys" [])
  let shown ← (← keys ()).mapM (textOf call)
  let limit := (← service svc).config.listingLimit
  return (⟨shown, limit⟩, ← keys ())

/-- Reads a host map: under the value of the key, then under its name. -/
def readMap (call : Call) (svc : ServiceId) (v : Value) (key : Key) (safe : Bool) :
    Run Value := do
  if ← contains call v key.toValue then getItem call v key.toValue
  -- A key that is no text gets a second try under its text.
  else if ← (if key.toValue = .text key.name then pure false else contains call v (.text key.name))
  then getItem call v (.text key.name)
  else if safe then return .absent
  else
    let (shown, keys) ← listMapKeys call svc v
    refuse (.mapKeyMissing key.name shown keys v)

/-- The message of an error: its only argument, else its readable form. -/
def errorMessage (call : Call) (v : Value) : Run Value := do
  let args ← getAttr call v "args"
  if (← length call args) = 1 then return .text (← textOf call (← getItem call args (.int 0)))
  else return .text (← textOf call v)

/-- Reads a target that does not answer for itself. -/
def readHost (call : Call) (svc : ServiceId) (t : Target) (kind : TargetKind) (key : Key)
    (safe : Bool) : Run Value := do
  -- No entry, element or field can stand in the way of the description.
  if key.same .metadata then Host.description call svc t.subject
  else match kind with
    | .orderedMap => readMap call svc t.inst key safe
    | .sequence | .array => readSequence call t.inst key safe
    | .errorLike =>
      if key.same .message then errorMessage call t.inst
      else if Key.errorKeys.any key.same then return .text ""
      else readField call svc t key safe none
    -- Numbers index a text; words name what its class offers.
    | .text =>
      if key.reading = .word then readField call svc t key safe none
      else readElement call t.inst key safe
    | _ => readField call svc t key safe none

/-- Reads a field of a value by name. -/
def getField (call : Call) (svc : ServiceId) (target name : Value) (fallback : Option Value) :
    Run Value := do
  let t := (← store).asTarget target
  readField call svc t (← keyOf call name) false fallback

/-! ### Writing -/

/-- Writes a host map, if it can be written. -/
def writeMap (call : Call) (v : Value) (key : Key) (x : Value) : Run Unit := do
  if (← store).isInstance v .mutableMapping then setItem call v key.toValue x
  else refuse (.mapReadOnly (← typeNameOf v))

/-- Adds absent values to a sequence until it has a number of elements; `fuel` bounds the steps. -/
def padTo (call : Call) (v : Value) (n : Int) : Nat → Run Unit
  | 0 => fail (.host .recursionError "")
  | fuel + 1 => do
    if (← length call v) < n then
      let _ ← callMethod call v "append" [.absent]
      padTo call v n fuel

/-- Writes a growing host sequence. The places before a new one are filled with absent values. -/
def writeSequence (call : Call) (v : Value) (key : Key) (x : Value) : Run Unit := do
  let i ← orFail (key.writeIndex (← length call v) false)
  -- The two classes of the library grow in one step; any other sequence is asked to append.
  match ← kindOf v, ← content? v with
  | .library .list, some (.list items) => setContent v (.list (setPadded items (i.toNat - 1) x))
  | .library .deque, some (.deque items none) =>
    setBody v (.deque (setPadded items (i.toNat - 1) x) none)
  | _, _ => do
    padTo call v i (walkLimit + i.toNat)
    setItem call v (.int (i - 1)) x

/-- Writes an element of a host array. One that takes no such value counts as immutable. -/
def writeArray (call : Call) (v : Value) (key : Key) (x : Value) : Run Unit := do
  let i ← orFail (key.writeIndex (← length call v) true)
  match ← outcome (setItem call v (.int (i - 1)) x) with
  | .ok () => return
  | .error f =>
    -- A value of the right type that is out of range is not a sign of immutability.
    if faultIsA (← store) f .typeError then fail (.wrapped (.arrayImmutable (← typeNameOf v)) f)
    else fail f

/-- Writes a field of an error. A write that is refused is dropped. -/
def writeError (call : Call) (svc : ServiceId) (t : Target) (key : Key) (x : Value) :
    Run Unit := do
  match ← outcome (writeField call svc t key x) with
  | .ok () => return
  | .error f =>
    let s ← store
    -- These three only: whatever else a setter raises is passed on.
    if [.noFieldError, .attributeError, .typeError].any (faultIsA s f) then
      trace svc ["ASSIGN", "discarded", key.name, faultName s f]
    else fail f

/-- Writes a target that does not answer for itself. -/
def writeHost (call : Call) (svc : ServiceId) (t : Target) (kind : TargetKind) (key : Key)
    (x : Value) : Run Unit :=
  match kind with
  | .orderedMap => writeMap call t.inst key x
  | .sequence => writeSequence call t.inst key x
  | .array => writeArray call t.inst key x
  | .errorLike => writeError call svc t key x
  | _ => writeField call svc t key x

/-- Writes a field of a value by name. -/
def setField (call : Call) (svc : ServiceId) (target name x : Value) : Run Unit := do
  let t := (← store).asTarget target
  writeField call svc t (← keyOf call name) x

/-! ### Calling -/

/-- The function registered under a name for the instance of a target. -/
def registeredFor? (svc : ServiceId) (t : Target) (key : Key) : Run (Option MemberFunction) :=
  if t.hasInstance then memberFunction? svc key t.inst else return none

/-- The entry of a host map under the value of a key. -/
def mapValue? (call : Call) (kind : TargetKind) (v : Value) (key : Key) : Run (Option Value) := do
  if kind = .orderedMap then
    if ← contains call v key.toValue then return some (← getItem call v key.toValue)
    else return none
  else return none

/-- Calls a member of a target that does not answer for itself: a registered function comes first,
    then the entry of a map, then a host member. -/
def invokeHost (call : Call) (svc : ServiceId) (t : Target) (kind : TargetKind) (key : Key)
    (args : Value) (safe : Bool) (scope : Value) : Run Value := do
  match ← registeredFor? svc t key with
  | some f => invokeMember call f scope t.inst args
  | none =>
    match ← mapValue? call kind t.inst key with
    | some f =>
      if (← store).isCallable f then callFunction call f [] scope args
      else refuse (.notAFunction key.name (← typeNameOf t.inst))
    | none =>
      -- Functions take arguments by name too, members of host classes only by position.
      if (← store).isInstance args .mapping then refuse .namedArguments
      else invokeTarget call svc t key args safe

/-! ### Requests -/

/-- Answers a request as a library class does for its values. -/
def answerOwn (call : Call) (l : LibraryKind) (v scope : Value) (key : Key) :
    KeyUse → Run Value
  | .read safe => Container.readNative call l v scope key safe
  | .write x => Container.writeNative call l v scope key x
  | .call args safe => Container.invokeNative call l v scope key args safe

/-- Answers a request for a target that does not answer for itself. -/
def answerHost (call : Call) (svc : ServiceId) (t : Target) (kind : TargetKind) (key : Key)
    (scope : Value) : KeyUse → Run Value
  | .read safe => readHost call svc t kind key safe
  | .write x => do
    writeHost call svc t kind key x
    return x
  | .call args safe => invokeHost call svc t kind key args safe scope

/-- Sorts the target of a request. -/
def sortTarget (svc : ServiceId) (r : KeyUse) (t : Target) (key : Key) : Run TargetKind := do
  let s ← store
  let kind := s.targetKind t
  trace svc [r.traceName, kind.traceName, s.typeName t.kind, key.name]
  return kind

/-- Sorts the target of a request and settles the scope: a call does so at once, anything else only
    if the target answers for itself. -/
def receive (call : Call) (svc : ServiceId) (r : KeyUse) (t : Target) (key : Key) (scope : Value) :
    Run (TargetKind × Value) := do
  match r with
  | .call .. => do
    let scope ← scopeOrRoot call svc scope
    return (← sortTarget svc r t key, scope)
  | .read _ | .write _ => do
    let kind ← sortTarget svc r t key
    if kind = .referenceable then return (kind, ← scopeOrRoot call svc scope)
    else return (kind, scope)

/-- Passes a request for a wrapper on to its service. -/
def passOn (call : Call) (r : KeyUse) (v scope : Value) (key : Key)
    (native : ServiceId → Target → Run Value) : Run Value :=
  viaService call v r.method
    (fun t => do
      let target ← newTarget t.kind t.inst
      let key ← keyArgument key
      return target :: key :: r.arguments ++ [scope])
    native

/-- Answers a request for a key of a target. -/
def serve (call : Call) (r : KeyUse) (key : Key) :
    Nat → ServiceId → Target → Value → Run Value
  | 0, _, _, _ => fail (.host .recursionError "")
  | fuel + 1, svc, t, scope => do
    match ← receive call svc r t key scope with
    | (.referenceable, scope) =>
      viaKeyed call t.inst r.method key (fun k => scope :: k :: r.arguments) fun l =>
        match l with
        -- A wrapper costs one unit of fuel; only a chain of them without an end uses it up.
        | .wrapper => passOn call r t.inst scope key fun svc t => serve call r key fuel svc t scope
        | l => answerOwn call l t.inst scope key r
    | (kind, scope) => answerHost call svc t kind key scope r

/-- Answers a request for a key of a target, through all wrappers around it. -/
def request (call : Call) (r : KeyUse) (svc : ServiceId) (t : Target) (key : Key)
    (scope : Value) : Run Value := do
  serve call r key (← wrapperDepth) svc t scope

/-- Answers a request for a key of a wrapper. -/
def passRequest (call : Call) (r : KeyUse) (v scope : Value) (key : Key) : Run Value :=
  passOn call r v scope key fun svc t => request call r svc t key scope

/-- Reads a key of a value. Nothing has no keys. -/
def dereference (call : Call) (svc : ServiceId) (target key : Value) (safe : Bool)
    (scope : Value) : Run Value := do
  let key ← keyOf call key
  -- The key has been made by now: one that cannot be is refused even here.
  if target = .none then
    if safe then return .absent else refuse (.nullDereference key.name)
  else request call (.read safe) svc ((← store).asTarget target) key scope

/-- Writes a key of a value, and gives back what was written. -/
def assign (call : Call) (svc : ServiceId) (target key x scope : Value) : Run Value := do
  let key ← keyOf call key
  request call (.write x) svc ((← store).asTarget target) key scope

/-- Calls a member of a value. -/
def dereferenceAndInvoke (call : Call) (svc : ServiceId) (target key args : Value) (safe : Bool)
    (scope : Value) : Run Value := do
  let key ← keyOf call key
  request call (.call args safe) svc ((← store).asTarget target) key scope

end Service

end ScriptBridge
