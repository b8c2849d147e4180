import ScriptBridge.Arguments

namespace ScriptBridge

/-!
# Registered functions

Functions may be registered under a name for a category of values. A function for the value's own
category comes before one for all values, and the latest registration of a name counts.

* `Registry.find?` is the function that counts;
* `Host.scopedFunction?` asks whatever a scope gives for a registry.
-/

namespace Store

/-- The category of a value; the first that applies. -/
def category (s : Store) (v : Value) : Category :=
  -- A truth value is a number too, bytes are a sequence: the order decides.
  if s.isInstance v .bool then .boolean
  else if s.isInstance v .text then .string
  else if s.isInstance v .number then .numeric
  else if s.isInstance v .mapping then .struct
  else if s.isInstance v .bytes || s.isInstance v .byteArray then .any
  else if s.isInstance v .sequence then .array
  else .any

end Store

namespace Registry

/-- Registers a function. -/
def register (r : Registry) (m : MemberFunction) : Registry :=
  r.insert ⟨m.category, m.name⟩ m

/-- The function registered under a name for values of a category, or for all values. -/
def find? (r : Registry) (c : Category) (name : Key) : Option MemberFunction :=
  -- Registered for the category beats registered later for all.
  r.get? ⟨c, name⟩ <|> r.get? ⟨.any, name⟩

/-- The names registered for exactly one category. -/
def names (r : Registry) (c : Category) : List String :=
  (r.values.filter (·.category = c)).map (·.name.name)

end Registry

namespace Host

open Run

/-- The function that a service has registered under a name for a value. -/
def memberFunction? (svc : ServiceId) (name : Key) (v : Value) : Run (Option MemberFunction) := do
  return Registry.find? (← service svc).registry ((← store).category v) name

/-- Calls a registered function on a value. -/
def invokeMember (call : Call) (m : MemberFunction) (scope v args : Value) : Run Value :=
  callFunction call m.function [v] scope args

/-- What was found for a name and a value: a registered function, or what another registry gives. -/
inductive Found where
  | registered (m : MemberFunction)
  | other (v : Value)

/-- Where functions are registered for a scope. Anything else in the place of a scope is asked. -/
def registryFor (call : Call) (scope : Value) : Run Value := do
  match scope with
  | .none => return .none
  | .scope i => do functionsOf call (← serviceOfScope call i)
  | scope => callMethod call scope "get_function_service" []

/-- The function registered under a name for a value with the service in charge of a scope, or with
    whatever takes its place. -/
def scopedFunction? (call : Call) (scope : Value) (name : Key) (v : Value) :
    Run (Option Found) := do
  match ← registryFor call scope with
  | .none => return none
  | .service svc => return (← memberFunction? svc name v).map .registered
  | functions => do
    let found ← callMethod call functions "get_member_method" [name.asValue, v]
    return if found = .none then none else some (.other found)

/-- Calls what was found for a name on a value. -/
def invokeFound (call : Call) (found : Found) (scope v args : Value) : Run Value :=
  match found with
  | .registered m => invokeMember call m scope v args
  | .other f => callMethod call f "invoke" [scope, v, args]

end Host

end ScriptBridge
