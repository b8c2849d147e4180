import ScriptBridge.Host.Field

namespace ScriptBridge

/-!
# Attributes

Reading and writing an attribute of a value by the host's rules. A computed field of the class comes
first, then what the instance holds, then any other entry of the class; functions found in the class
are bound to the instance. A declared class may take reading and writing over.

* `Host.getAttr?` reads, with `none` for an attribute that does not exist; `Host.getAttr` fails
  then;
* `Host.setAttr` writes;
* `Host.callMethod` calls a method by name, `Host.viaMethod` skips the search where the library's
  own method would be found.
-/

namespace Store

/-- The entry of a class under a name: what was set on it, else what the library declares. -/
def entryNamed? (s : Store) (k : Kind) (name : String) : Option ClassEntry :=
  match (s.classAttrs k).get? name with
  | some v => some (.value v)
  | none =>
    match k with
    | .library l =>
      (l.members.find? fun m => m.name == name && !isHint m).map .library
    | _ => none
where
  /-- Whether a member is only announced. -/
  isHint : LibraryMember → Bool
    | .hint _ => true
    | _ => false

/-- The nearest entry under a name along a line of descent, and the class that has it. -/
def inherited? (s : Store) (k : Kind) (name : String) : Option (Kind × ClassEntry) :=
  (s.lineage k).findSome? fun owner => (s.entryNamed? owner name).map (owner, ·)

/-- Whether a value takes new attributes. -/
def takesAttrs (s : Store) (v : Value) : Bool :=
  match v with
  | .scope _ => true
  | v =>
    match s.deref? v with
    | none => false
    | some o =>
      match o.kind with
      | .declared i => s.classes[i]?.any (·.hasAttrs)
      | .words _ => true
      | _ => match o.body with
        | .function _ | .error _ | .struct .. | .array .. | .wrapper .. | .plain => true
        | .staticMethod _ | .classMethod _ => true
        | _ => false

/-- Whether attributes can be set on a class. The host's core classes are closed. -/
def isOpenClass : Kind → Bool
  | .declared _ => true
  | .library k => k.isEngineOwn
  | _ => false

/-- Whether a value can be called. -/
def isCallable (s : Store) (v : Value) : Bool :=
  s.isCallableKind (s.kindOf v)

/-- The library class whose method a call by name would run; `none` when a declared class or the
    value itself puts something else in its place. -/
def libraryMethod? (s : Store) (v : Value) (name : String) : Option LibraryKind :=
  match s.inherited? (s.kindOf v) name with
  | some (owner, .library (.method ..)) =>
    -- An attribute of the instance hides a method, and so may a class that takes reading over.
    let replaced := (s.ownNames v).contains name ||
      (s.declaredSpecial? (s.kindOf v) "__getattribute__").isSome
    if replaced then none else owner.library?
  | _ => none

/-- Whether a value that a class holds decides over what instances hold under its name. -/
def governs (s : Store) (x : Value) : Bool :=
  s.isDataEntry x || (s.special? (s.kindOf x) "__delete__").isSome

end Store

namespace Host

open Run

/-- What a value that a class holds reads as through an instance of a kind. -/
def bindValue (call : Call) (v : Value) (k : Kind) (x : Value) : Run Value := do
  let s ← store
  match s.body? x with
  | some (.property getter _) => call getter { positional := [v] }
  | some (.slotEntry owner n) =>
    match (s.deref? v).bind fun o => o.slots.get? ⟨owner, n⟩ with
    | some y => return y
    | none => fail .attributeError
  | _ =>
    match ← callSpecial? call x "__get__" [v, .kind k] with
    | some y => return y
    | none => bindPlainly v k x

/-- What a class's entry reads as through an instance. -/
def bindEntry (call : Call) (v : Value) (k owner : Kind) : ClassEntry → Run Value
  | .library (.method name _) => attach (.native ⟨owner.library?, name⟩) v
  | .library (.static name _) => attach (.native ⟨owner.library?, name⟩) (.kind k)
  | .library (.property name) | .library (.slot name) =>
    match owner.library? with
    | some l => readLibraryField v l name
    | none => fail .attributeError
  | .library (.hint _) => fail .attributeError
  | .value x => bindValue call v k x

/-- What a class's entry reads as through the class. -/
def bindEntryToClass (call : Call) (k owner : Kind) : ClassEntry → Run Value
  | .library (.method name _) => return .native ⟨owner.library?, name⟩
  | .library (.property name) | .library (.slot name) | .library (.hint name) =>
    return .nativeField ⟨owner.library?, name⟩
  | .library (.static name _) => attach (.native ⟨owner.library?, name⟩) (.kind k)
  | .value x => do
    match ← body? x with
    | some (.staticMethod f) => return f
    | some (.classMethod f) => attach f (.kind k)
    | _ =>
      match ← callSpecial? call x "__get__" [.none, .kind k] with
      | some y => return y
      | none => return x

/-- What a scope holds under a name. -/
def scopeAttr? (c : Scope) : String → Option Value
  | "parent" => some c.parent
  | "variables" => some c.bindings
  | "_interop" => some (c.service.elim .none .service)
  | "this" => c.owner
  | n => c.attrs.get? n

/-- The attribute of an object under which its inner content is kept, made on first use. -/
def innerContent (v : Value) (o : Object) (name : String) (kind : LibraryKind) (b : Body) :
    Run Value := do
  match o.attrs.get? name with
  | some x => return x
  | none =>
    let x ← alloc { kind := .library kind, body := b }
    modifyStore (·.modify v fun o => { o with attrs := o.attrs.insert name x })
    return x

/-- What a value itself holds under a name. -/
def ownValue? (v : Value) (name : String) : Run (Option Value) := do
  let s ← store
  match v with
  | .scope i => return (s.scopes[i]?).bind fun c => scopeAttr? c name
  | v =>
    match s.deref? v with
    | none => return none
    | some o =>
      match o.body, name with
      | .struct .., "_data" => do return some (← innerContent v o name .dict (.entriesOf v))
      | .array .., "_items" => do return some (← innerContent v o name .list (.itemsOf v))
      | .struct _ card, "_box_meta" | .array _ card, "_box_meta" => return some (card.getD .none)
      | .wrapper cls _ _, "target_class" => return some cls
      | .wrapper _ inst _, "target_instance" => return some inst
      | .wrapper _ _ svc, "interop" => return some svc
      | .bound f _, name =>
        return ((s.deref? f).bind fun o => o.attrs.get? name)
      | _, _ => return o.attrs.get? name

/-- The attributes of every class that its own entries do not replace. -/
def classAttr? (s : Store) (k : Kind) : String → Option Value
  | "__name__" => some (.text (s.name k))
  | "__qualname__" => some (.text (s.qualifiedName k))
  | "__module__" => some ((s.home? k).elim .none .text)
  | "__class__" => some (.kind (.library (s.metaclass k)))
  | _ => none

/-- The attributes that every value has. -/
def commonAttr? (s : Store) (v : Value) : String → Option Value
  | "__class__" => some (.kind (s.kindOf v))
  | "__module__" => match s.kindOf v with
    | .declared i => some ((s.home? (.declared i)).elim .none .text)
    | _ => none
  | "__doc__" => some .none
  | "__name__" => match s.body? v with
    | some (.function f) => some (.text f.name)
    | _ => none
  | _ => none

/-- Reads an attribute of a class. -/
def getClassAttr? (call : Call) (k : Kind) (name : String) : Run (Option Value) := do
  let s ← store
  match classAttr? s k name with
  | some x => return some x
  | none =>
    match s.inherited? k name with
    | some (owner, e) => return some (← bindEntryToClass call k owner e)
    | none =>
      -- To its metaclass a class is an instance like any other.
      let m : Kind := .library (s.metaclass k)
      match s.inherited? m name with
      | some (owner, e) => return some (← bindEntry call (.kind k) m owner e)
      | none => return if name == "__doc__" then some .none else none

/-- Whether an entry of a class decides over what instances hold. -/
def entryGoverns (s : Store) : ClassEntry → Bool
  | .library (.property _) | .library (.slot _) => true
  | .library _ => false
  | .value x => s.governs x

/-- Reads an attribute of an instance as all classes do that do not take it over. -/
def getInstanceAttr? (call : Call) (v : Value) (name : String) : Run (Option Value) := do
  let s ← store
  let k := s.kindOf v
  match s.inherited? k name with
  | none =>
    match ← ownValue? v name with
    | some x => return some x
    | none => return commonAttr? s v name
  | some (owner, e) =>
    if entryGoverns s e then return some (← bindEntry call v k owner e)
    else match ← ownValue? v name with
      | some x => return some x
      | none => return some (← bindEntry call v k owner e)

/-- Reads an attribute; `none` when it does not exist. What a declared class does about attributes
    comes first, and what it does about missing ones last. -/
def getAttr? (call : Call) (v : Value) (name : String) : Run (Option Value) := do
  match v with
  | .kind k => getClassAttr? call k name
  | v =>
    let s ← store
    let k := s.kindOf v
    let regular : Run (Option Value) := do
      match ← callSpecial? call v "__getattribute__" [.text name] with
      | some x => return some x
      | none => getInstanceAttr? call v name
    match s.declaredSpecial? k "__getattr__" with
    | none => regular
    | some (_, entry) =>
      let otherwise : Run (Option Value) := do
        return some (← callEntry call v entry [.text name])
      -- The regular way may say so by an error or by finding nothing.
      match ← catching .attributeError regular otherwise with
      | some x => return some x
      | none => otherwise

/-- The words in which the host refuses an attribute. -/
def missingWords (v : Value) (name : String) : Run String := do
  let s ← store
  let about := match v with
    | .kind k => "type object '" ++ s.name k ++ "'"
    | v => "'" ++ s.wordedName (s.kindOf v) ++ "' object"
  return about ++ " has no attribute " ++ Quoted.text name

/-- Reads an attribute. -/
def getAttr (call : Call) (v : Value) (name : String) : Run Value := do
  match ← getAttr? call v name with
  | some x => return x
  | none => do fail (.host .attributeError (← missingWords v name))

/-- Reads an attribute, or gives a default when the host says that it does not exist. -/
def getAttrD (call : Call) (v : Value) (name : String) (fallback : Value) : Run Value :=
  catching .attributeError (getAttr call v name) (return fallback)

/-- Writes an attribute that a scope holds. -/
def setScopeAttr (i : Nat) (name : String) (x : Value) : Run Unit :=
  modifyStore fun s => { s with scopes := s.scopes.modify i fun c =>
    match name, x with
    | "variables", x => { c with bindings := x }
    | "parent", x => { c with parent := x }
    | "_interop", .service id => { c with service := some id }
    | "_interop", .none => { c with service := none }
    | "this", x => { c with owner := some x }
    | n, x => { c with attrs := c.attrs.insert n x } }

/-- Writes an attribute that the instance itself holds. -/
def setOwn (v : Value) (name : String) (x : Value) : Run Unit := do
  let s ← store
  if !s.takesAttrs v then fail .attributeError
  let keep : Run Unit := modifyStore (·.modify v fun o => { o with attrs := o.attrs.insert name x })
  let card : Option Value := if x = .none then none else some x
  match v with
  | .scope i => setScopeAttr i name x
  | v =>
    match s.body? v, name with
    | some (.wrapper _ inst svc), "target_class" => setBody v (.wrapper x inst svc)
    | some (.wrapper cls _ svc), "target_instance" => setBody v (.wrapper cls x svc)
    | some (.wrapper cls inst _), "interop" => setBody v (.wrapper cls inst x)
    -- What the library keeps in an attribute is part of the content here.
    | some (.struct m _), "_box_meta" => setBody v (.struct m card)
    | some (.array items _), "_box_meta" => setBody v (.array items card)
    -- The map that was set stays readable as the same object.
    | some (.struct _ card), "_data" => do
      match s.content? x with
      | some (.dict m) => setBody v (.struct (s.entriesOfHostMap m) card)
      | _ => pure ()
      keep
    | some (.array _ card), "_items" => do
      match s.content? x with
      | some (.list items) => setBody v (.array items card)
      | _ => pure ()
      keep
    | _, _ => keep

/-- Writes an attribute of an instance as all classes do that do not take it over. -/
def setInstanceAttr (call : Call) (v : Value) (name : String) (x : Value) : Run Unit := do
  let s ← store
  match s.inherited? (s.kindOf v) name with
  | some (owner, .library (.property _)) | some (owner, .library (.slot _)) =>
    match owner.library? with
    | some l => writeLibraryField call v l name x
    | none => fail .attributeError
  | some (_, .value e) =>
    match s.body? e with
    | some (.property _ (some setter)) => let _ ← call setter { positional := [v, x] }
    | some (.property _ none) => fail .attributeError
    | some (.slotEntry owner n) =>
      modifyStore (·.modify v fun o => { o with slots := o.slots.insert ⟨owner, n⟩ x })
    | _ =>
      match ← callSpecial? call e "__set__" [v, x] with
      | some _ => pure ()
      -- An entry that decides over reading and takes no values makes the name read-only.
      | none => if s.governs e then fail .attributeError else setOwn v name x
  | _ => setOwn v name x

/-- Writes an attribute. -/
def setAttr (call : Call) (v : Value) (name : String) (x : Value) : Run Unit := do
  match v with
  | .kind k =>
    if Store.isOpenClass k then modifyStore (·.setClassAttr k name x) else fail .typeError
  | v =>
    match ← callSpecial? call v "__setattr__" [.text name, x] with
    | some _ => pure ()
    | none => setInstanceAttr call v name x

/-! ### Methods -/

/-- Calls a method of a value by name. -/
def callMethod (call : Call) (v : Value) (name : String) (args : List Value) : Run Value := do
  let f ← getAttr call v name
  call f { positional := args }

/-- The library class whose method a call by name would run. -/
def libraryMethod? (v : Value) (name : String) : Run (Option LibraryKind) := do
  return (← store).libraryMethod? v name

/-- Calls a method of a value: what the library does where the library's own method would be found,
    and else whatever is found. -/
def viaMethod (call : Call) (v : Value) (name : String) (args : List Value)
    (native : LibraryKind → Run Value) : Run Value := do
  match ← libraryMethod? v name with
  | some l => native l
  | none => callMethod call v name args

end Host

end ScriptBridge
