import ScriptBridge.Host.Wording
import ScriptBridge.Session.Service

namespace ScriptBridge

/-!
# Functions, access, wrappers and scopes

The commands that reach the services by way of something else: a registered function, a value that
answers for itself, a wrapper or a scope.
-/

namespace Session

open Run Host

/-- Registers a function with the main service. -/
def register (name : Value) (category : String) (function : Value) : Run MemberFunction := do
  let m : MemberFunction :=
    { name := ← keyOf call name, category := ← categoryNamed category, function }
  modifyService .main fun x => { x with registry := Registry.register x.registry m }
  return m

/-- Carries out a command about functions. -/
def runFunction : FunctionCommand → Run Reply
  | .register name category function => do
    let name ← valueOf name
    let m ← register name category (← valueOf function)
    return .facts (registeredFacts (← store) m)
  | .registerAndReturn name category function => do
    let name ← valueOf name
    let f ← valueOf function
    let _ ← register name category f
    return .value f
  | .getMember name target => do
    let key ← keyOf call (← valueOf name)
    let v ← valueOf target
    match ← memberFunction? .main key v with
    | some m => return .facts (registeredFacts (← store) m)
    | none => return nothing
  | .hasMember name target => do
    let name ← valueOf name
    let v ← valueOf target
    return flag (← memberFunction? .main (← keyOf call name) v).isSome
  | .memberNames category => do
    let c ← categoryNamed category
    names (Registry.names (← service .main).registry c)
  | .invokeMember name target args scope => do
    let name ← valueOf name
    let v ← valueOf target
    let args ← argumentsFrom args
    match ← memberFunction? .main (← keyOf call name) v with
    | some m => return .value (← Host.invokeMember call m (← scopeFrom scope) v args)
    | none => fail .attributeError
  | .callFunction function args scope => do
    let f ← valueOf function
    let args ← argumentsFrom args
    let scope ← scopeFrom scope
    return .value (← Host.callFunction call f [] scope args)
  | .acceptsScope function => do
    let f ← valueOf function
    let accepts ← acceptsScope call f
    let stored ← getAttrD call f scopeMark .none
    -- Asked once more, since the first time may have left a mark.
    let again ← acceptsScope call f
    tell [("accepts", accepts), ("stored", stored), ("again", again)]

/-- A key from a value. -/
def keyFrom (v : Value) : Run Value := Native.keyFrom call (.library .key) v

/-- Carries out a command that reads, writes or calls without naming the service. -/
def runAccess : AccessCommand → Run Reply
  | .askDereference target key safe scope => do
    let v ← valueOf target
    let key ← keyFrom (← valueOf key)
    let scope ← scopeFrom scope
    return .value (← callMethod call v "dereference" [scope, key, .bool safe])
  | .askAssign target key value scope => do
    let v ← valueOf target
    let key ← keyFrom (← valueOf key)
    let x ← valueOf value
    let scope ← scopeFrom scope
    return .value (← callMethod call v "assign" [scope, key, x])
  | .askCall target key args safe scope => do
    let v ← valueOf target
    let key ← keyFrom (← valueOf key)
    let args ← argumentsFrom args
    let scope ← scopeFrom scope
    return .value (← callMethod call v "dereference_and_invoke" [scope, key, args, .bool safe])
  | .get target key safe scope => do
    let scope ← scopeFrom scope
    let v ← valueOf target
    return .value (← Access.get call scope v (← valueOf key) safe)
  | .getAndInvoke target key args safe scope => do
    let scope ← scopeFrom scope
    let v ← valueOf target
    let key ← valueOf key
    return .value (← Access.invoke call scope v key (← argumentsFrom args) safe)
  | .set target key value scope => do
    let scope ← scopeFrom scope
    let v ← valueOf target
    let key ← valueOf key
    return .value (← Access.set call scope v key (← valueOf value))
  | .setDeep target value keys scope => do
    let scope ← scopeFrom scope
    let v ← valueOf target
    let x ← valueOf value
    return .value (← Access.setDeep call scope v x (← valuesOf keys))

/-- The answers of a value to several methods. -/
def askAll (v : Value) (args : List Value) (methods : List (String × String)) : Run Reply := do
  tell (← methods.mapM fun (word, name) => do return (word, ← callMethod call v name args))

/-- Carries out a command about wrappers. -/
def runWrapper : WrapperCommand → Run Reply
  | .new kind inst viaFallback => do
    let k ← kindFrom kind
    let inst ← valueOf inst
    return .value
      (← Wrapper.make (.kind k) inst (if viaFallback then .fallback else .main))
  | .of value => do return .value (← Wrapper.of (← valueOf value) .main)
  | .construct wrapper args scope => do
    let v ← valueOf wrapper
    let args ← itemsOf call (← argumentsFrom args)
    let scope ← scopeFrom scope
    return .value (← callMethod call v "invoke_constructor" (scope :: args))
  | .invoke wrapper name args safe => do
    let v ← valueOf wrapper
    let name ← valueOf name
    let args ← itemsOf call (← argumentsFrom args)
    let f ← getAttr call v "invoke"
    return .value (← call f { positional := name :: args, named := [("safe", .bool safe)] })
  | .invokeStatic wrapper name args => do
    let v ← valueOf wrapper
    let name ← valueOf name
    let args ← itemsOf call (← argumentsFrom args)
    return .value (← callMethod call v "invoke_static" (name :: args))
  | .getField wrapper name fallback => do
    let v ← valueOf wrapper
    let name ← valueOf name
    let fallback ← valueOf? fallback
    return .value (← callMethod call v "get_field" (name :: fallback.toList))
  | .setField wrapper name value => do
    let v ← valueOf wrapper
    let name ← valueOf name
    return .value (← callMethod call v "set_field" [name, ← valueOf value])
  | .info wrapper => do
    let v ← valueOf wrapper
    askAll v []
      [("has_instance", "has_instance"), ("unwrap", "unwrap"), ("is_interface", "is_interface"),
       ("fields", "get_field_names"), ("fields_no_case", "get_field_names_no_case"),
       ("methods", "get_method_names")]
  | .has wrapper name => do
    let v ← valueOf wrapper
    askAll v [← valueOf name]
      [("field", "has_field"), ("field_no_case", "has_field_no_case"), ("method", "has_method"),
       ("method_no_case", "has_method_no_case")]

/-- The name of a scope: the root, or the first variable that holds it. -/
def scopeName? (v : Value) : Run (Option String) := do
  if v = .scope (← service .main).root then return some "root"
  else return ((← bindings).entries.find? fun (_, x) => x = v).map (·.1)

/-- Carries out a command about scopes. Whatever a variable holds in the place of a scope is
    asked. -/
def runScope : ScopeCommand → Run Reply
  | .new parent ownsService => do
    let parent ← scopeFrom parent
    let service := if ownsService then some .main else none
    return .value (.scope (← newScope parent service))
  | .ofInstance parent inst => do
    let parent ← scopeFrom parent
    return .value (.scope (← newClassScope call parent (← valueOf inst)))
  | .set scope key value => do
    let v ← scopeNamed scope
    let key ← valueOf key
    setItem call v key (← valueOf value)
    return nothing
  | .item scope key => do
    let v ← scopeNamed scope
    return .value (← wordedItem call v (← valueOf key))
  | .get scope key fallback => do
    let v ← scopeNamed scope
    let key ← valueOf key
    return .value (← callMethod call v "get" [key, ← valueOf fallback])
  | .has scope key => do
    let v ← scopeNamed scope
    return flag (← contains call v (← valueOf key))
  | .owner scope key => do
    let v ← scopeNamed scope
    match ← callMethod call v "find_owner" [← valueOf key] with
    | .none => return nothing
    | owner => return .facts (.optionalText (← scopeName? owner))
  | .service scope => do
    let v ← scopeNamed scope
    return match ← callMethod call v "get_interop" [] with
      | .service .main => words "svc"
      | .none => nothing
      | _ => words "other"
  | .functions scope => do
    let v ← scopeNamed scope
    return flag ((← callMethod call v "get_function_service" []) = .service .main)

end Session

end ScriptBridge
