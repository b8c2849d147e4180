import ScriptBridge.Eval
import ScriptBridge.Lineage

namespace ScriptBridge

/-!
# Declared classes

How a declaration becomes a class of the store: its line of descent is merged from its bases, its
members become entries in order, its fixed places follow, and the abstract members that are left are
counted.
-/

namespace Host

open Run

/-- The attribute that marks an abstract function. -/
def abstractMark : String := "__isabstractmethod__"

/-- A function as a member of a class. -/
def newMember (call : Call) (owner : Kind) (name : String) (receiver : Option String)
    (params : List ParamDecl) (body : Expr) (attrs : List (String × Value)) : Run Value := do
  let declared ← buildParams call params
  let first : List Param := receiver.toList.map fun n =>
    { name := n, form := .normal, hint := none, fallback := none }
  let params ← arranged (first ++ declared)
  alloc { kind := .library .function, attrs := .ofList attrs,
          body := .function { name, params, body, hasReceiver := receiver.isSome,
                              frame := { owner := some owner } } }

/-- The entry that a member declaration makes, if it makes one. -/
def entryOf (call : Call) (owner : Kind) : MemberDecl → Run (Option (String × Value))
  | .field name _ value => do
    match value with
    | some l => do return some (name, ← build call l)
    | none => return none
  | .constant name l => do return some (name, ← build call l)
  | .property name getter setter => do
    let get ← newMember call owner name (some "self") [] getter []
    let set ← match setter with
      | some e => do
        let value : ParamDecl :=
          { name := "value", form := .normal, hint := none, fallback := none }
        pure (some (← newMember call owner name (some "self") [value] e []))
      | none => pure none
    return some (name, ← alloc { kind := .library .property, body := .property get set })
  | .method name params body binding exposedAs isAbstract takesReceiver => do
    let receiver := match binding, takesReceiver with
      | .toInstance, true => some "self"
      | .toClass, true => some "cls"
      | _, _ => none
    let attrs := (exposedAs.toList.map fun t => ("_host_name", Value.text t)) ++
      (if isAbstract then [(abstractMark, .bool true)] else [])
    let f ← newMember call owner name receiver params body attrs
    match binding with
    | .toInstance => return some (name, f)
    | .unbound =>
      return some (name, ← alloc { kind := .library .staticMethod, body := .staticMethod f })
    | .toClass =>
      return some (name, ← alloc { kind := .library .classMethod, body := .classMethod f })

/-- The hint that a member declaration gives to a field. -/
def hintOf : MemberDecl → Option (String × Bool)
  | .field name hint _ => some (name, hint.isClassWide)
  | _ => none

end Host

namespace Store

/-- Whether an entry of a class is marked as abstract. -/
def isAbstractEntry (s : Store) (v : Value) : Bool :=
  let f := match s.body? v with
    | some (.staticMethod f) | some (.classMethod f) => f
    | _ => v
  ((s.deref? f).bind fun o => o.attrs.get? Host.abstractMark) = some (.bool true)

/-- The abstract members that a class has left. -/
def abstractNamesOf (s : Store) : Kind → List String
  | .library k => k.abstractNames
  | .declared i => s.classes[i]?.elim [] (·.abstractNames)
  | _ => []

/-- The abstract members of a class: its own, and those of its bases that stay abstract. -/
def abstractMembers (s : Store) (k : Kind) (bases : List Kind) : List String :=
  let own := (s.classAttrs k).entries.filterMap fun (n, v) =>
    if s.isAbstractEntry v then some n else none
  let inherited := (bases.flatMap s.abstractNamesOf).filter fun n =>
    match s.inherited? k n with
    | some (_, .value v) => s.isAbstractEntry v
    | some (owner, .library _) => (s.abstractNamesOf owner).contains n
    -- Nothing on the line defines it, so it is still left.
    | none => true
  own ++ inherited

/-- The class of a class with some bases. -/
def metaclassOf (s : Store) (bases : List Kind) : LibraryKind :=
  let all := bases.map s.metaclass
  if all.contains .protocolType then .protocolType
  else if all.contains .abcType then .abcType
  else .type

/-- Whether instances of a kind take new attributes. -/
def kindTakesAttrs (s : Store) : Kind → Bool
  | .library k => k.lineage.contains .baseError || k = .staticMethod || k = .classMethod ||
      k.isEngineOwn && k ≠ .key && k ≠ .indexKey && k ≠ .targetRef
  | .declared i => s.classes[i]?.any (·.hasAttrs)
  | _ => false

/-- Whether instances of a kind can be tracked without being kept. -/
def kindIsTrackable (s : Store) : Kind → Bool
  | .library k => isTrackableLibrary k
  | .declared i => s.classes[i]?.any (·.isTrackable)
  | _ => false

end Store

namespace Host

open Run

/-- Sorts names. -/
def sortNames (names : List String) : List String := names.mergeSort fun a b => a ≤ b

/-- The name of a fixed place within a class: a private one carries the name of the class. -/
def slotName (className name : String) : String :=
  let owner := String.ofList (className.toList.dropWhile (· = '_'))
  let isPrivate := name.startsWith "__" && !name.endsWith "__" && !name.contains '.'
  if isPrivate && !owner.isEmpty then "_" ++ owner ++ name else name

/-- An entry as the class keeps it: the functions of some special names are bound to the class, or
    to nothing. -/
def keptEntry (name : String) (v : Value) : Run Value := do
  match ← body? v with
  | some (.function _) =>
    if name = "__new__" then alloc { kind := .library .staticMethod, body := .staticMethod v }
    else if name = "__init_subclass__" || name = "__class_getitem__" then
      alloc { kind := .library .classMethod, body := .classMethod v }
    else return v
  | _ => return v

/-- The entries of a class, in order: its members, then its fixed places. Instances that define when
    they are equal, but no hash, have none. -/
def entriesOfClass (call : Call) (self : Kind) (d : ClassDecl) :
    Run (OrderedMap String Value) := do
  let members ← d.members.filterMapM (entryOf call self)
  let entries : OrderedMap String Value := .ofList members
  let entries : OrderedMap String Value :=
    ⟨← entries.entries.mapM fun (n, v) => do return (n, ← keptEntry n v)⟩
  -- Fixed places come in the order of their names, not as declared.
  let names := sortNames ((d.slots.getD []).map (slotName d.name))
  let slots ← (names.filter fun n => n != "__dict__" && n != "__weakref__").mapM fun n => do
    return (n, ← alloc { kind := .library .slotEntry, body := .slotEntry self n })
  let entries := entries.insertAll slots
  return if entries.contains "__eq__" && !entries.contains "__hash__" then
    entries.insert "__hash__" .none else entries

/-- A class as it is declared, with its entries. -/
def classInfo (s : Store) (d : ClassDecl) (bases lineage : List Kind)
    (attrs : OrderedMap String Value) : ClassInfo :=
  let inheritsAttrs := bases.any s.kindTakesAttrs
  let inheritsTracking := bases.any s.kindIsTrackable
  -- Instances of these vary in size, which leaves no room for tracking.
  let isCompact := [.int, .tuple, .bytes].any fun k => lineage.contains (.library k)
  let has (name : String) : Bool := d.slots.all (·.contains name)
  { name := d.name, qualifiedName := d.qualifiedName, home := d.home, bases, lineage, attrs
    metaclass := s.metaclassOf bases
    hints := .ofList (d.members.filterMap hintOf)
    hasAttrs := inheritsAttrs || has "__dict__"
    isTrackable := inheritsTracking || has "__weakref__"
    ownsDict := !inheritsAttrs && has "__dict__"
    ownsTracking := !inheritsTracking && !isCompact && has "__weakref__" }

/-- Tells what a class holds that it does, and its ancestors that they have a descendant. -/
def announce (call : Call) (self : Kind) : Run Unit := do
  (← store).classAttrs self |>.entries.forM fun (n, v) => do
    let _ ← callSpecial? call v "__set_name__" [.kind self, .text n]
  let s ← store
  match ((s.lineage self).drop 1).findSome? fun k => (s.classAttrs k).get? "__init_subclass__" with
  | some entry => do
    let f ← match s.body? entry with
      | some (.classMethod f) => attach f (.kind self)
      | some (.staticMethod f) => pure f
      | _ => pure entry
    let _ ← call f {}
  | none => return

/-- Marks a descendant of the protocol class: it is a protocol if it says so or descends from that
    class directly, and then has no instances, unless it initialises them itself. -/
def markProtocol (call : Call) (self : Kind) (bases : List Kind) : Run Unit := do
  let s ← store
  if s.descends self .protocolBase then
    let own := ((s.classAttrs self).get? "_is_protocol").getD (.bool false)
    let isDirect := bases.contains (.library .protocolBase)
    let isMarked ← truth call own
    if !isMarked then modifyStore (·.setClassAttr self "_is_protocol" (.bool isDirect))
    if (isMarked || isDirect) &&
        s.initialiser? (s.lineage self) = some (.library .object) then
      modifyStore (·.setClassAttr self "__init__" protocolInitialiser)

/-- Notes the abstract members that a class has left. -/
def noteAbstract (self : Kind) (bases : List Kind) : Run Unit :=
  modifyStore fun s =>
    let names := if s.metaclass self = .type then [] else s.abstractMembers self bases
    match self with
    | .declared i =>
      { s with classes := s.classes.modify i fun c => { c with abstractNames := names } }
    | _ => s

/-- Declares a class. Its members are built before it is known by its name. -/
def declare (call : Call) (d : ClassDecl) : Run Unit := do
  let self : Kind := .declared (← store).classes.size
  let bases ← if d.bases.isEmpty then pure [Kind.library .object] else d.bases.mapM kindNamed
  let entries ← entriesOfClass call self d
  let s ← store
  match s.lineageOfBases? self bases with
  | none => fail .typeError
  | some lineage => do
    modifyStore fun s =>
      { s with classes := s.classes.push (classInfo s d bases lineage entries) }
    announce call self
    markProtocol call self bases
    noteAbstract self bases

end Host

end ScriptBridge
