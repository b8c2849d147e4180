import ScriptBridge.Resolver
import ScriptBridge.Scope
import ScriptBridge.Target
import ScriptBridge.Text.UpperCase

namespace ScriptBridge

/-!
# Lookups of a service

Members, constructors and fields as a service finds them: through its resolver, with its limit on
listings, and traced.

* `Service.inquire` answers an inquiry or refuses; `Service.resolveMethod`,
  `Service.resolveConstructor`, `Service.resolveField` give the whole record of what is found;
* `Service.findField?` also looks at what an instance itself holds;
* `Service.readField`, `Service.writeField` use what was found;
* `Service.hasField`, `Service.hasMethod` only tell whether there is one.
-/

namespace Service

open Run

/-- Answers an inquiry with a view of what is found; a finding that has none is refused as
    missing. -/
def inquire {α : Type} (svc : ServiceId) (q : Inquiry) (view : Finding → Option α) : Run α := do
  match ← consult svc q view with
  | some a => return a
  | none => refuse (q.missing (← store) (← service svc).config.listingLimit)

/-- The member of a name that takes arguments of some kinds. -/
def resolveMethod (svc : ServiceId) (k : Kind) (name : Key) (kinds : List Kind) :
    Run MethodRecord :=
  inquire svc (.method k name kinds) Finding.method?

/-- The constructor of a kind that takes arguments of some kinds. -/
def resolveConstructor (svc : ServiceId) (k : Kind) (kinds : List Kind) : Run MethodRecord :=
  inquire svc (.constructor k kinds) Finding.method?

/-- The declared field of a name. -/
def resolveField (svc : ServiceId) (k : Kind) (name : Key) : Run Field :=
  inquire svc (.field k name) Finding.field?

/-- What is called for an inquiry. -/
def calleeOf (svc : ServiceId) (q : Inquiry) : Run Callee :=
  inquire svc q fun f => f.method?.map MethodRecord.callee

/-! ### Fields of a target -/

/-- The field of a name: a declared one, else what the instance itself holds. -/
def findField? (svc : ServiceId) (t : Target) (name : Key) : Run (Option FieldPlace) := do
  match ← outcome (inquire svc (.field t.kind name) fun f => f.field?.map Field.place) with
  | .ok f => return some f
  -- A refusal counts as not declared; a fault of the host is passed on.
  | .error (.engine _) =>
    if t.hasInstance then return ((← store).ownAttribute? t.inst name).map Field.place
    else return none
  | .error f => fail f

/-- The names of a target's fields, as a listing of the service. -/
def fieldListing (svc : ServiceId) (t : Target) : Run Listing := do
  return ⟨(← store).fieldNames t.kind t.inst, (← service svc).config.listingLimit⟩

/-- What a field was looked for on. -/
def searchOf (t : Target) : Search := if t.hasInstance then .onInstance else .onClass

/-- Reads a field that was found. A declared field that was never filled reads as `none`. -/
def readFound (call : Call) (t : Target) (f : FieldPlace) : Run Value :=
  -- The class is read without a default: a static field that was never filled fails.
  if f.isStatic then Host.getAttr call (.kind t.kind) f.name
  else match f.form with
    | .attribute => Host.getAttrD call t.inst f.name .none
    | _ => Host.getAttr call t.inst f.name

/-- Reads a field. One that does not exist gives the default, or nothing when the read is safe. -/
def readField (call : Call) (svc : ServiceId) (t : Target) (name : Key) (safe : Bool)
    (fallback : Option Value) : Run Value := do
  match ← findField? svc t name with
  | none =>
    match fallback with
    | some v => return v
    | none =>
      if safe then return .absent
      else
        refuse (.fieldNotFound (searchOf t) name.name (← typeName t.kind) (← fieldListing svc t)
          t.inst)
  | some f =>
    -- The default is for a field that does not exist, not for one that cannot be read here.
    if !f.isStatic && !t.hasInstance then refuse (.fieldNeedsInstance .get name.name)
    else readFound call t f

/-- Writes a field. -/
def writeField (call : Call) (svc : ServiceId) (t : Target) (name : Key) (v : Value) :
    Run Unit := do
  match ← findField? svc t name with
  | none =>
    refuse (.fieldMissing (searchOf t) name.name (← typeName t.kind) (← fieldListing svc t))
  | some f =>
    if f.isStatic then Host.setAttr call (.kind t.kind) f.name v
    else if !t.hasInstance then refuse (.fieldNeedsInstance .set name.name)
    else Host.setAttr call t.inst f.name v

/-! ### Names of members -/

/-- Whether a value is among some names. -/
def isListed (call : Call) (x : Value) (names : List String) : Run Bool :=
  Host.isAmong call x (names.map .text)

/-- Whether a target has a field of a name. -/
def hasField (call : Call) (t : Target) (x : Value) : Run Bool := do
  isListed call x ((← store).fieldNames t.kind t.inst)

/-- Whether a target has a field of a name, whatever the case. -/
def hasFieldNoCase (call : Call) (t : Target) (x : Value) : Run Bool := do
  let upper ← Host.callMethod call x "upper" []
  isListed call upper (((← store).fieldNames t.kind t.inst).map upperCase)

/-- The names of the methods of a kind, if they can be listed. -/
def methodNames (k : Kind) : Run (List String) := do
  let s ← store
  match s.methodsFailure? k with
  | some e => fail (.host e "")
  | none => return s.methodNames k

/-- Whether a target has a method of a name. -/
def hasMethod (call : Call) (t : Target) (x : Value) : Run Bool := do
  isListed call x (← methodNames t.kind)

/-- A name without regard to case: a text folds itself. -/
def foldedName (call : Call) (x : Value) : Run Value :=
  Host.viaMethod call x "casefold" [] fun _ => do
    match (← store).scalar x with
    | .text name => return .text (foldCase name)
    | _ => fail .typeError

/-- Whether a target has a method of a name, whatever the case. -/
def hasMethodNoCase (call : Call) (t : Target) (x : Value) : Run Bool := do
  let folded ← foldedName call x
  isListed call folded ((← methodNames t.kind).map foldCase)

end Service

end ScriptBridge
