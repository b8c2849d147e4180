import ScriptBridge.Session.Given
import ScriptBridge.Session.Reply

namespace ScriptBridge

/-!
# Commands to the service
-/

namespace Session

open Run Host

/-- The names of the fields of a value. -/
def fieldNamesOf (v : Value) : Run (List String) := do
  let s ← store
  let t := s.asTarget v
  return s.fieldNames t.kind t.inst

/-- The names of the methods of a value. -/
def methodNamesOf (v : Value) : Run (List String) := do
  Service.methodNames ((← store).asTarget v).kind

/-- What a value is as the target of a lookup. -/
def targetOf (v : Value) : Run Target := do return (← store).asTarget v

/-- Carries out a command to the main service. -/
def runService : ServiceCommand → Act Reply
  | .dereference target key safe scope => do
    let target ← valueOf target
    let key ← valueOf key
    return .value (← Service.dereference call .main target key safe (← scopeFrom scope))
  | .assign target key value scope => do
    let target ← valueOf target
    let key ← valueOf key
    let value ← valueOf value
    return .value (← Service.assign call .main target key value (← scopeFrom scope))
  | .call target key args safe scope => do
    let target ← valueOf target
    let key ← valueOf key
    let args ← argumentsFrom args
    return .value
      (← Service.dereferenceAndInvoke call .main target key args safe (← scopeFrom scope))
  | .invoke target name args safe => do
    let target ← valueOf target
    let name ← valueOf name
    return .value (← Service.invoke call .main target name (← argumentsFrom args) safe)
  | .invokeStatic target name args => do
    let target ← valueOf target
    let name ← valueOf name
    return .value (← Service.invokeStatic call .main target name (← argumentsFrom args))
  | .construct kind args scope => do
    let k ← kindFrom kind
    let args ← argumentsFrom args
    return .value (← Service.construct call .main (← scopeFrom scope) k args)
  | .resolve target name kinds => do
    let target ← valueOf target
    let key ← keyOf call (← valueOf name)
    let kinds ← kindsFrom kinds
    let r ← Service.resolveMethod .main ((← store).asTarget target).kind key kinds
    return .facts (← recordFacts r)
  | .resolveConstructor kind kinds => do
    let k ← kindFrom kind
    let r ← Service.resolveConstructor .main k (← kindsFrom kinds)
    return .facts (← recordFacts r)
  | .resolveField kind name => do
    let k ← kindFrom kind
    let f ← Service.resolveField .main k (← keyOf call (← valueOf name))
    return .facts (fieldFacts (← store) f)
  | .listFields kind => do
    let k ← kindFrom kind
    let s ← store
    return .facts (.list ((s.fields k).map (fieldFacts s)))
  | .ownAttribute target name => do
    let v ← valueOf target
    let key ← keyOf call (← valueOf name)
    let s ← store
    return .facts ((s.ownAttribute? v key).elim .null (fieldFacts s))
  | .listMethods kind => do
    let k ← kindFrom kind
    let s ← store
    match s.methodsFailure? k with
    | some e => fail (.host e "")
    | none => return .facts (.list ((s.methods k).map (memberFacts s)))
  | .listConstructors kind => do
    let k ← kindFrom kind
    let s ← store
    match s.constructorFailure? k with
    | some e => fail (.host e "")
    | none => return .facts (.list ((s.constructors k).map (memberFacts s)))
  | .isInterface kind => do
    let k ← kindFrom kind
    return flag (← Service.isInterface call k)
  | .getField target name fallback => do
    let target ← valueOf target
    let name ← valueOf name
    let fallback ← valueOf? fallback
    return .value (← Service.getField call .main target name fallback)
  | .setField target name value => do
    let target ← valueOf target
    let name ← valueOf name
    let value ← valueOf value
    Service.setField call .main target name value
    return nothing
  | .fieldNames target => do names (← fieldNamesOf (← valueOf target))
  | .fieldNamesNoCase target => do
    names ((← fieldNamesOf (← valueOf target)).map upperCase)
  | .hasField target name => do
    let t ← targetOf (← valueOf target)
    return flag (← Service.hasField call t (← valueOf name))
  | .hasFieldNoCase target name => do
    let t ← targetOf (← valueOf target)
    return flag (← Service.hasFieldNoCase call t (← valueOf name))
  | .methodNames target => do names (← methodNamesOf (← valueOf target))
  | .hasMethod target name => do
    let t ← targetOf (← valueOf target)
    return flag (← Service.hasMethod call t (← valueOf name))
  | .hasMethodNoCase target name => do
    let t ← targetOf (← valueOf target)
    return flag (← Service.hasMethodNoCase call t (← valueOf name))
  | .cacheInfo => do
    let r := (← get).resolver .main
    return .facts (.record
      [("size", .number r.cache.size), ("discoveries", .number r.discoveries),
       ("enabled", .flag r.enabled)])
  | .cacheClear => do
    modify fun w => w.withResolver .main (w.resolver .main).clear
    return nothing
  | .cacheEnable value => do
    let v ← valueOf value
    let enabled ← truth call v
    modify fun w => w.withResolver .main { w.resolver .main with enabled }
    return .value v
  | .cacheHas kind name kinds => do
    let k ← kindFrom kind
    let kinds ← match kinds with
      | none => pure none
      | some refs => do pure (some (← kindsFrom refs))
    return flag (((← get).resolver .main).cache.contains ⟨k, name, kinds⟩)

end Session

end ScriptBridge
