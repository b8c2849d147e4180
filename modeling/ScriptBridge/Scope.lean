import ScriptBridge.Host.Item

namespace ScriptBridge

/-!
# Scopes

Scopes of variables form a forest: a variable is looked up in a scope, then in its parent, and so
on. A scope may own a service, which the scopes below it use too.

* `Host.serviceOfScope` is the service that is in charge of a scope, `Host.functionsOf` where its
  functions are registered;
* `Run.newScope`, `Run.newClassScope` make scopes.
-/

namespace Host

open Run

/-- The first service on the way from a scope to the root, if there is one. What stands in the place
    of a scope is asked for its service and its parent. -/
def serviceFrom (call : Call) : Nat → Value → Run Value
  | 0, _ | _, .none => return .none
  | fuel + 1, .scope i => do
    match (← store).scopes[i]? with
    | none => return .none
    | some c =>
      match c.service with
      | some id => return .service id
      | none => serviceFrom call fuel c.parent
  | fuel + 1, v => do
    match ← getAttr call v "_interop" with
    | .none => do serviceFrom call fuel (← getAttr call v "parent")
    | x => return x

/-- The service in charge of a scope, or nothing. -/
def serviceOfScope (call : Call) (i : Nat) : Run Value := do
  serviceFrom call (scopeLimit (← store)) (.scope i)

/-- Where the functions of a service are registered: a service keeps them itself. -/
def functionsOf (call : Call) : Value → Run Value
  | .none => return .none
  | .service id => return .service id
  | v => getAttr call v "functions"

end Host

namespace Run

/-- A new scope with variables of its own. -/
def newScope (parent : Value) (svc : Option ServiceId) : Run Nat := do
  let bindings ← Host.newStruct {}
  let id := (← store).scopes.size
  modifyStore fun s =>
    { s with scopes := s.scopes.push { parent, bindings, service := svc, owner := none } }
  return id

/-- A new scope that shares the variables of an instance. -/
def newClassScope (call : Call) (parent inst : Value) : Run Nat := do
  let bindings ← Host.getAttr call inst "variables_scope"
  let id := (← store).scopes.size
  let scope : Scope := { parent, bindings, service := none, owner := some inst }
  modifyStore fun s => { s with scopes := s.scopes.push scope }
  return id

end Run

end ScriptBridge
