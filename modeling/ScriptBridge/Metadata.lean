import ScriptBridge.Arguments

namespace ScriptBridge

/-!
# Descriptions of types

Every value has a description of its type under the key of that purpose. Values that can be tracked
keep the one they were given; the scripts' own containers keep theirs themselves.
-/

namespace Store

/-- Whether instances of a library class can be tracked without being kept. -/
def isTrackableLibrary : LibraryKind → Bool
  | .byteView | .deque | .absent | .metadata | .function | .nativeFunction | .scope | .classScope
  | .struct | .array | .scripted | .wrapper | .referenceable | .service | .boundMethod
  | .nativeMethod => true
  | .engineError | .engineRuntimeError | .validationError | .noFieldError | .noMethodError
  | .keyNotFoundError | .invocationError | .constructionError => true
  | _ => false

/-- Whether a value can be tracked without being kept. -/
def isTrackable (s : Store) (v : Value) : Bool :=
  match v with
  | .kind _ => true
  | v => match s.kindOf v with
    | .library k => isTrackableLibrary k
    | .words _ => true
    | .declared i =>
      -- Instances that vary in size leave no room for it, whatever their class says.
      s.classes[i]?.any (·.isTrackable) &&
        !(s.isA v .int || s.isA v .tuple || s.isA v .bytes)
    | .core _ | .label _ => false

end Store

namespace Host

open Run

/-- The class that a description speaks of: a class describes itself. -/
def describedKind (s : Store) : Value → Kind
  | .kind k => k
  | v => s.kindOf v

/-- The entries of a description of a value's type. -/
def newCardEntries (v : Value) : Run Value := do
  let s ← store
  let k := describedKind s v
  let isClass := match v with
    | .kind _ => true
    | _ => false
  newStruct (.ofList
    [(.ofText "name", .text (s.name k)), (.ofText "qualifiedName", .text (s.typeName k)),
     (.ofText "module", .text ((s.home? k).getD "")), (.ofText "isClass", .bool isClass)])

/-- A new description of a value's type. -/
def newCard (v : Value) : Run Value := do
  let card ← newCardEntries v
  alloc { kind := .library .metadata, attrs := .ofList [("target", v), ("meta", card)] }

/-- The description that a service gives of a value's type. -/
def makeDescription (style : MetadataStyle) (v : Value) : Run Value := do
  match style with
  | .card => newCard v
  | .pair => newTuple [.text "meta", .text ((← store).name ((← store).kindOf v))]

/-- The description that one of the scripts' own values keeps. -/
def keptDescription (call : Call) (v : Value) : Run Value := do
  match ← body? v with
  | some (.struct _ (some card)) | some (.array _ (some card)) => return card
  | some (.struct m none) => do
    let card ← newCard v
    setBody v (.struct m (some card))
    return card
  | some (.array items none) => do
    let card ← newCard v
    setBody v (.array items (some card))
    return card
  | _ =>
    match ← getAttr call v "_box_meta" with
    | .none => do
      let card ← newCard v
      setAttr call v "_box_meta" card
      return card
    | card => return card

/-- The description of a value by a service: the value's own, else the one given before, else a new
    one. -/
def description (call : Call) (svc : ServiceId) (v : Value) : Run Value := do
  let own ← getAttrD call v "get_box_meta" .none
  let s ← store
  let isClass := match v with
    | .kind _ => true
    | _ => false
  -- A class has the method too, but for its instances.
  if s.isCallable own && !isClass then call own {}
  else
    let service ← service svc
    -- Nothing would tell when to forget it, so it is made anew each time.
    if !s.isTrackable v then makeDescription service.style v
    else match service.described.lookup v with
      | some d => return d
      | none => do
        let d ← makeDescription service.style v
        modifyService svc fun x => { x with described := (v, d) :: x.described }
        return d

end Host

end ScriptBridge
