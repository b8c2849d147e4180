import ScriptBridge.Assignable
import ScriptBridge.Kind.Names
import ScriptBridge.Signature

namespace ScriptBridge

/-!
# Members

What a class exposes to scripts: callable members and fields, its own before inherited ones and in
order of declaration.

* `Store.exposedMethods` lists every callable member along the line of descent, `Store.methods` only
  the first of each signature;
* `Store.declaredFields` lists every declaration of a field, `Store.fields` only the first of each
  folded name;
* `Store.ownAttribute?`, `Store.fieldNames` add what was set on an instance itself.
-/

/-- A callable member as overload resolution sees it. -/
structure Member where
  /-- The name scripts see. -/
  name : String
  /-- The name in the class that declares it. -/
  attr : String
  /-- What is called, before it is bound to a receiver. -/
  handle : Value
  owner : Kind
  isStatic : Bool
  /-- The kinds each parameter accepts; unreadable ones take anything. -/
  params : Option (List (List Kind))
deriving DecidableEq, Repr

namespace Member

/-- The number of parameters, `-1` when they cannot be read. -/
def arity (m : Member) : Int :=
  m.params.elim (-1) fun ps => ps.length

/-- What tells two members apart for scripts. -/
def signature (m : Member) : String × Option (List (List Kind)) × Bool :=
  (foldCase m.name, m.params, m.isStatic)

/-- Whether a number of arguments fits. -/
def acceptsArity (m : Member) (n : Nat) : Bool :=
  m.params.all fun ps => n == ps.length

end Member

/-- Where a field's value lives. -/
inductive FieldForm where
  /-- With the class or in a declared place of the instance. -/
  | attribute
  /-- Computed by the class. -/
  | property
  /-- With the instance only. -/
  | own
deriving DecidableEq, Repr

/-- A field. -/
structure Field where
  name : String
  owner : Kind
  isStatic : Bool
  form : FieldForm
deriving DecidableEq, Repr

/-- What a read or a write of a field goes by. -/
structure FieldPlace where
  name : String
  isStatic : Bool
  form : FieldForm
deriving DecidableEq, Repr

/-- Where a field is. -/
def Field.place (f : Field) : FieldPlace := ⟨f.name, f.isStatic, f.form⟩

/-- An entry of a class: a library member, or a value. -/
inductive ClassEntry where
  | library (m : LibraryMember)
  | value (v : Value)
deriving DecidableEq, Repr

/-- Whether a name is meant for scripts. -/
def isPublic (name : String) : Bool :=
  !name.startsWith "_"

/-- Keeps the first of all elements that agree on a feature. -/
def firstBy [DecidableEq β] (feature : α → β) (seen : List β) : List α → List α
  | [] => []
  | a :: rest =>
    if feature a ∈ seen then firstBy feature seen rest
    else a :: firstBy feature (feature a :: seen) rest

namespace Store

/-- The classes whose entries a kind exposes; those of the root class only to itself. -/
def exposedLineage (s : Store) (k : Kind) : List Kind :=
  (s.lineage k).filter fun owner => owner ≠ .library .object ∨ k = .library .object

/-- A class's own entries, in order. -/
def entries (s : Store) (k : Kind) : List (String × ClassEntry) :=
  let fixed := match k with
    | .library l => l.members.map fun m => (m.name, ClassEntry.library m)
    | _ => []
  fixed ++ (s.classAttrs k).entries.map fun (n, v) => (n, ClassEntry.value v)

/-! ### Callable members -/

/-- The name under which a function was explicitly exposed to scripts. -/
def exposedName? (s : Store) (function : Value) : Option String :=
  match (s.deref? function).bind fun o => o.attrs.get? "_host_name" with
  | some (.text t) => some t
  | _ => none

/-- A member with a signature, unless no script can call it. -/
def memberOf? (signature : Signature) (m : Member) : Option Member :=
  match signature with
  | .unreachable => none
  | .unreadable => some { m with params := none }
  | .takes ps => some { m with params := some ps }

/-- The parameters of a method that was taken out of a library class, if there is such a method. The
    core classes' initialisers leave no place that must be filled. -/
def nativeParams? (l : LibraryKind) (name : String) : Option LibraryParams :=
  let declared := l.members.findSome? fun
    | .method n ps => if n = name then some ps else none
    | _ => none
  match declared, l.construction with
  | some ps, _ => some ps
  | none, .initialiser ps => if name = "__init__" then some (some ps) else none
  | none, _ => if name = "__init__" then some (some []) else none

/-- The member that a function of the library is, if scripts can see it. -/
def libraryMember? (owner : Kind) (attr : String) (handle : Value) (isStatic : Bool)
    (params : LibraryParams) : Option Member :=
  if isPublic attr then
    some { name := attr, attr, handle, owner, isStatic, params := params.map liftParams }
  else none

/-- The member that a function is, if scripts can see it and can call it; `handle` is what the class
    holds for the function. -/
def functionMember? (s : Store) (owner : Kind) (attr : String) (handle function : Value)
    (isStatic : Bool) (signature : List Param → Signature) : Option Member :=
  let exposed := s.exposedName? function
  if exposed.isNone && !isPublic attr then none
  else match s.function? function with
    | none => none
    | some f =>
      -- An empty exposed name is no name, but still lets scripts see the function.
      let name := match exposed with
        | some "" | none => attr
        | some n => n
      memberOf? (signature f.params) { name, attr, handle, owner, isStatic, params := none }

/-- The callable member that an entry of a class is, if scripts can see it. -/
def member? (s : Store) (owner : Kind) (attr : String) : ClassEntry → Option Member
  | .library (.method _ ps) =>
    libraryMember? owner attr (.native ⟨owner.library?, attr⟩) false ps
  | .library (.static _ ps) =>
    libraryMember? owner attr (.native ⟨owner.library?, attr⟩) true ps
  | .library _ => none
  -- A class may hold a method of the library as if it were its own.
  | .value (.native ⟨some l, name⟩) =>
    (nativeParams? l name).bind (libraryMember? owner attr (.native ⟨some l, name⟩) false)
  | .value v =>
    match s.body? v with
    | some (.function _) => s.functionMember? owner attr v v false s.methodSignature
    | some (.staticMethod f) => s.functionMember? owner attr v f true s.plainSignature
    | some (.classMethod f) => s.functionMember? owner attr v f true s.boundSignature
    | _ => none

/-- All callable members of a kind, along its line of descent. -/
def exposedMethods (s : Store) (k : Kind) : List Member :=
  (s.exposedLineage k).flatMap fun owner =>
    (s.entries owner).filterMap fun (attr, e) => s.member? owner attr e

/-- The error that listing the callable members of a kind ends in, if it does: a hint of one that
    scripts can see fails to be read. -/
def methodsFailure? (s : Store) (k : Kind) : Option LibraryKind :=
  (s.exposedLineage k).findSome? fun owner =>
    (s.classAttrs owner).entries.findSome? fun (attr, v) =>
      match s.body? v with
      | some (.function _) | some (.staticMethod _) | some (.classMethod _) =>
        -- A function that scripts cannot see is left out before its hints are read.
        if isPublic attr || (s.member? owner attr (.value v)).isSome then
          s.hintFailure? (s.entryParams v)
        else none
      | _ => none

/-- The callable members of a kind, the first of each signature. -/
def methods (s : Store) (k : Kind) : List Member :=
  firstBy Member.signature [] (s.exposedMethods k)

/-- The names of the callable members of a kind. -/
def methodNames (s : Store) (k : Kind) : List String :=
  firstBy id [] ((s.methods k).map (·.name))

/-- The constructor of a kind as a nameless member, unless no script can call it. -/
def constructors (s : Store) (k : Kind) : List Member :=
  (memberOf? (s.constructorSignature k)
    { name := Key.newInstance.name, attr := "__init__", handle := .kind k, owner := k,
      isStatic := true, params := none }).toList

/-- Whether a kind has abstract members left. -/
def isAbstract (s : Store) (k : Kind) : Bool := s.lacksMembers k

/-! ### Fields -/

/-- Whether a value that a class holds is looked up through the class even on instances. -/
def isDataEntry (s : Store) (v : Value) : Bool :=
  (s.special? (s.kindOf v) "__set__").isSome

/-- Whether a value that a class holds is a routine. -/
def isRoutine (s : Store) (v : Value) : Bool :=
  match s.kindOf v with
  | .library l =>
    [.function, .nativeFunction, .boundMethod, .nativeMethod, .staticMethod,
      .classMethod].contains l
  | k => (s.special? k "__get__").isSome && !(s.isDataEntry v)

/-- The field that an entry of a class declares, if scripts can see it. -/
def fieldOfEntry? (s : Store) (owner : Kind) (name : String) (e : ClassEntry) : Option Field :=
  if !isPublic name then none
  else match e with
    | .library (.property _) => some ⟨name, owner, false, .property⟩
    | .library (.slot _) => some ⟨name, owner, false, .attribute⟩
    | .library _ => none
    | .value v =>
      if s.kindOf v = .library .slotEntry then some ⟨name, owner, false, .attribute⟩
      else if s.isDataEntry v then some ⟨name, owner, false, .property⟩
      else match v with
        -- A class inside a class is neither a field nor a method.
        | .kind _ => none
        | _ => if s.isRoutine v then none else some ⟨name, owner, true, .attribute⟩

/-- The fields that a class announces by hints. -/
def hintedFields (s : Store) (owner : Kind) : List Field :=
  let names : List (String × Bool) := match owner with
    | .library l => l.members.filterMap fun (m : LibraryMember) => match m with
      | .hint n => some (n, false)
      | _ => none
    | k => (s.class? k).elim [] (·.hints.entries)
  (names.filter fun h => isPublic h.1).map fun (n, classWide) => ⟨n, owner, classWide, .attribute⟩

/-- All declarations of fields of a kind: class by class along its line of descent, and within a
    class the hints before the entries. -/
def declaredFields (s : Store) (k : Kind) : List Field :=
  (s.exposedLineage k).flatMap fun owner =>
    s.hintedFields owner ++ (s.entries owner).filterMap fun (n, e) => s.fieldOfEntry? owner n e

/-- The fields of a kind, the first declaration of each name. -/
def fields (s : Store) (k : Kind) : List Field :=
  firstBy (fun f => foldCase f.name) [] (s.declaredFields k)

/-- The declared field of a name. -/
def findField? (s : Store) (k : Kind) (key : Key) : Option Field :=
  (s.fields k).find? fun f => foldCase f.name == key.folded

/-! ### Attributes of instances -/

/-- The entries that the host adds to a declared class by itself. -/
def hostEntries (s : Store) (k : Kind) : List String :=
  match s.class? k with
  | none => []
  | some c =>
    ["__module__", "__doc__"] ++
      (if c.hints.entries.isEmpty then [] else ["__annotations__"]) ++
      (if c.ownsDict then ["__dict__"] else []) ++
      (if c.ownsTracking then ["__weakref__"] else []) ++
      (if c.metaclass = .type then [] else ["__abstractmethods__", "_abc_impl"])

/-- The names of the entries of a class. -/
def classNames (s : Store) (k : Kind) : List String :=
  let members := (s.entries k).filter fun e => match e.2 with
    | .library (.hint _) => false
    | _ => true
  let hidden := k.library?.elim [] LibraryKind.hiddenNames
  members.map (·.1) ++ hidden ++ s.hostEntries k

/-- The names of the attributes that an object itself holds. -/
def objectNames (o : Object) : List String :=
  let fixed := match o.kind, o.body with
    | .library _, .struct .. => ["_data", "_box_meta"]
    | .library _, .array .. => ["_items", "_box_meta"]
    | _, .wrapper .. => ["target_class", "target_instance", "interop"]
    | _, _ => []
  fixed ++ (o.attrs.keys.filter fun n => !fixed.contains n)

/-- The names of the attributes that a value itself holds. A bound function shows those of the
    function. -/
def ownNames (s : Store) : Value → List String
  | .object id =>
    match s.objects[id]? with
    | none => []
    | some o => match o.body with
      | .bound f _ => (s.deref? f).elim [] fun o => o.attrs.keys
      | _ => objectNames o
  | .kind k => s.classNames k
  | .scope id =>
    ["parent", "variables", "_interop"] ++ s.scopes[id]?.elim [] fun c =>
      (if c.owner.isSome then ["this"] else []) ++ c.attrs.keys
  | _ => []

/-- The attribute of a name that a value itself holds. -/
def ownAttribute? (s : Store) (v : Value) (key : Key) : Option Field :=
  -- Unlike a listing, this search also finds names that are not public.
  ((s.ownNames v).find? fun n => foldCase n == key.folded).map fun n =>
    ⟨n, s.kindOf v, false, .own⟩

/-- The names of the fields of a kind, followed by the public attributes of an instance that none of
    them names. -/
def fieldNames (s : Store) (k : Kind) (inst : Value) : List String :=
  let names := (s.fields k).map (·.name)
  let folded := names.map foldCase
  names ++ (s.ownNames inst).filter fun n => isPublic n && !folded.contains (foldCase n)

end Store

end ScriptBridge
