import ScriptBridge.Container
import ScriptBridge.Proofs.Discreet.Item

namespace ScriptBridge

/-!
# Discreet functions, descriptions and lookups

Functions are called with a scope, values are described, and the methods of the scripts' own values
are looked up. Nothing of this is refused for what is missing; that is said where it is looked for.

* `Host.discreet_callFunction` calls a function, `Host.discreet_scopedFunction?` finds the one that
  is registered for a value;
* `Host.discreet_description` describes a value;
* `Host.discreet_viaKeyed` leads to the library's method or to one that a class declares.
-/

open Run

namespace Host

variable {call : Call} {n : ServiceId → Int} {P : Reason → Prop} [DiscreetCall call]

/-! ### Scopes, arguments and functions -/

/-- The way out from a scope is looked along until a scope has a service. -/
@[grind ←] theorem discreet_serviceFrom (fuel : Nat) (v : Value) :
    (serviceFrom call fuel v).Discreet n P := by
  fun_induction serviceFrom call fuel v with grind

@[grind ←] theorem discreet_serviceOfScope (i : Nat) :
    (serviceOfScope call i).Discreet n P := by
  unfold serviceOfScope
  grind

/-- The functions that are registered with a service are read off it. -/
@[grind ←] theorem discreet_functionsOf (v : Value) : (functionsOf call v).Discreet n P := by
  unfold functionsOf
  grind

/-- A mark that cannot be kept is not missed: the error is dropped. -/
@[grind ←] theorem discreet_acceptsScope (f : Value) : (acceptsScope call f).Discreet n P := by
  unfold acceptsScope
  refine .bind (discreet_getAttrD ..) fun mark => ?_
  split
  next =>
    refine .bind discreet_store fun s => ?_
    refine .rescue (Q := P) (discreet_setAttr ..) (fun _ => .pure _) fun e he => ?_
    grind
  next => exact .pure _

/-- A function is asked whether it takes the scope, and called with it or without. -/
@[grind ←] theorem discreet_callFunction (f : Value) (before : List Value) (scope args : Value) :
    (callFunction call f before scope args).Discreet n P := by
  have hcall := discreet_call call n P
  unfold callFunction
  refine .bind (discreet_acceptsScope f) fun mark => .bind (discreet_truth mark) fun asks => ?_
  dsimp only
  refine .bind discreet_store fun s => ?_
  grind

@[grind ←] theorem discreet_wrapped (v : Value) : (wrapped v).Discreet n P := by
  unfold wrapped
  grind

@[grind ←] theorem discreet_unwrap (v : Value) : (unwrap call v).Discreet n P := by
  unfold unwrap
  grind

/-- Arguments that are wrapped are passed as what they wrap. -/
@[grind ←] theorem discreet_unwrapArguments (args : Value) :
    (unwrapArguments call args).Discreet n P := by
  unfold unwrapArguments
  refine .bind discreet_store fun s => ?_
  grind

/-- The function that is registered for a value and a name is looked for without host code. -/
@[grind ←] theorem discreet_memberFunction? (svc : ServiceId) (name : Key) (v : Value) :
    (memberFunction? svc name v).Discreet n P := by
  unfold memberFunction?
  grind

@[grind ←] theorem discreet_invokeMember (m : MemberFunction) (scope v args : Value) :
    (invokeMember call m scope v args).Discreet n P := discreet_callFunction ..

/-- Where functions are registered is told by the service of a scope, or by a method of what takes
    its place. -/
@[grind ←] theorem discreet_registryFor (scope : Value) :
    (registryFor call scope).Discreet n P := by
  unfold registryFor
  grind

/-- A function is looked for with the service in charge, or by a method of what takes its place. -/
@[grind ←] theorem discreet_scopedFunction? (scope : Value) (name : Key) (v : Value) :
    (scopedFunction? call scope name v).Discreet n P := by
  unfold scopedFunction?
  refine .bind (discreet_registryFor scope) fun functions => ?_
  split <;> grind

@[grind ←] theorem discreet_invokeFound (found : Found) (scope v args : Value) :
    (invokeFound call found scope v args).Discreet n P := by
  unfold invokeFound
  grind

/-! ### Descriptions -/

@[grind ←] theorem discreet_newCard (v : Value) : (newCard v).Discreet n P := by
  unfold newCard newCardEntries
  grind

@[grind ←] theorem discreet_makeDescription (style : MetadataStyle) (v : Value) :
    (makeDescription style v).Discreet n P := by
  unfold makeDescription
  grind

/-- A value that keeps a description makes one when it is asked first. -/
@[grind ←] theorem discreet_keptDescription (v : Value) :
    (keptDescription call v).Discreet n P := by
  unfold keptDescription
  refine .bind (discreet_body? v) fun b => ?_
  split <;> grind

/-- A value is described by its own method, by what the service has kept, or by its style. -/
@[grind ←] theorem discreet_description (svc : ServiceId) (v : Value) :
    (description call svc v).Discreet n P := by
  have hcall := discreet_call call n P
  unfold description
  refine .bind (discreet_getAttrD ..) fun own => .bind discreet_store fun s => ?_
  refine .ite (hcall own {}) (.bind (discreet_service svc) fun service => ?_)
  refine .ite (discreet_makeDescription service.style v) ?_
  split
  next => exact .pure _
  next =>
    refine .bind (discreet_makeDescription service.style v) fun d => ?_
    exact .bind (discreet_modifyService svc fun _ => rfl) fun _ => .pure d

/-! ### Lookups -/

@[grind ←] theorem discreet_keyArgument (k : Key) : (keyArgument k).Discreet n P := by
  unfold keyArgument
  grind

/-- The method of the library is run with the key as it is. One that a class declares is called with
    the key as a value. -/
@[grind ←] theorem discreet_viaKeyed (v : Value) (name : String) (key : Key)
    (args : Value → List Value) {native : LibraryKind → Run Value}
    (h : ∀ l, (native l).Discreet n P) : (viaKeyed call v name key args native).Discreet n P := by
  unfold viaKeyed
  grind

end Host

end ScriptBridge
