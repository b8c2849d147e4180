import ScriptBridge.Kind.Members
import ScriptBridge.Kind.Special
import ScriptBridge.Object

namespace ScriptBridge

/-!
# The store

All objects, declared classes and scopes of a session. Objects and scopes are only ever added, and a
reference is the number of an object.

* `Store.alloc` adds an object, `Store.modify` changes one;
* `Store.deref?_modify_self`, `Store.deref?_modify_of_ne` say what is read after a change;
* `Store.key?` is the key that a value is;
* `Store.content?` is the content of an object, seen through views, the inner map of a struct and
  the inner list of an array;
* `Store.kindOf` is the kind of a value;
* `Store.lineage` is the line of descent of a kind, `Store.typeName` its full name;
* `Store.special?` is the nearest definition of a special method.
-/

/-- A declared class. -/
structure ClassInfo where
  name : String
  qualifiedName : String
  home : Option String
  bases : List Kind
  /-- The line of descent, itself first. -/
  lineage : List Kind
  metaclass : LibraryKind
  /-- The fields that carry a hint, in order, and whether each belongs to the class. -/
  hints : OrderedMap String Bool := {}
  /-- The class's own entries, in order. -/
  attrs : OrderedMap String Value := {}
  /-- The abstract members that are left. -/
  abstractNames : List String := []
  /-- Whether instances take new attributes. -/
  hasAttrs : Bool := true
  /-- Whether instances can be tracked without being kept. -/
  isTrackable : Bool := true
  /-- Whether the class is the one that lets its instances take new attributes. -/
  ownsDict : Bool := true
  /-- Whether the class is the one that lets its instances be tracked. -/
  ownsTracking : Bool := true
deriving Inhabited

/-- A scope of variables. The variables are a value of the store, at first a struct; a class scope
    shares those of the instance it belongs to. -/
structure Scope where
  /-- The scope that is asked next, or nothing. Whatever else stands here is asked like a scope. -/
  parent : Value
  bindings : Value
  service : Option ServiceId
  /-- The instance whose class scope this is. -/
  owner : Option Value
  /-- Whatever else was set on the scope. -/
  attrs : OrderedMap String Value := {}
deriving Inhabited

/-- Objects, declared classes and scopes. -/
structure Store where
  objects : Array Object := #[]
  classes : Array ClassInfo := #[]
  scopes : Array Scope := #[]
  /-- Attributes that were set on library classes. -/
  library : List (LibraryKind × OrderedMap String Value) := []
  /-- How many keys were given a stamp. -/
  stamps : Nat := 0
deriving Inhabited

namespace Store

/-! ### Objects -/

/-- The object behind a value. -/
def deref? (s : Store) : Value → Option Object
  | .object id => s.objects[id]?
  | _ => none

/-- The content of the object behind a value; scalars have none. -/
def body? (s : Store) (v : Value) : Option Body :=
  (s.deref? v).map (·.body)

/-- Adds an object. -/
def alloc (s : Store) (o : Object) : Value × Store :=
  (.object s.objects.size, { s with objects := s.objects.push o })

/-- Changes the object behind a value. -/
def modify (s : Store) (v : Value) (f : Object → Object) : Store :=
  match v with
  | .object id => { s with objects := s.objects.modify id f }
  | _ => s

/-- Replaces the content of an object. -/
def setBody (s : Store) (v : Value) (b : Body) : Store :=
  s.modify v fun o => { o with body := b }

/-- The entries of a struct as a host map. -/
def hostMapOfEntries (m : OrderedMap Key Value) : HostMap :=
  ⟨m.entries.map fun (k, v) => (⟨k.asValue, .name k.folded⟩, v)⟩

/-- The key that a value is. -/
def key? (s : Store) (v : Value) : Option Key :=
  match v with
  | .key k => some k
  | .object id => match s.body? v with
    -- Keys of declared classes are objects, and stay told apart from plain ones.
    | some (.key k) => some { k with object := some id }
    | _ => none
  | _ => none

/-- The entries of a struct that a host map stands for; only keys are kept. -/
def entriesOfHostMap (s : Store) (m : HostMap) : OrderedMap Key Value :=
  ⟨m.entries.filterMap fun (k, v) => (s.key? k.value).map (·, v)⟩

/-- The content of the object behind a value. The inner map of a struct and the inner list of an
    array show what their owner holds. -/
def ownContent? (s : Store) (v : Value) : Option Body :=
  match s.body? v with
  | some (.entriesOf owner) => match s.body? owner with
    | some (.struct m _) => some (.dict (hostMapOfEntries m))
    | _ => some (.dict {})
  | some (.itemsOf owner) => match s.body? owner with
    | some (.array items _) => some (.list items)
    | _ => some (.list [])
  | b => b

/-- The content of the object behind a value, seen through a view of another object. -/
def content? (s : Store) (v : Value) : Option Body :=
  match s.ownContent? v with
  -- A view shows its owner as it is now.
  | some (.viewOf owner) => match s.ownContent? owner with
    | some (.bytes items) => some (.byteView false items)
    | some (.byteArray items) => some (.byteView true items)
    | some (.dict m) => some (.mapView m)
    | _ => some (.byteView false [])
  | b => b

/-- Replaces the content of an object, or that of the owner it shows. -/
def setContent (s : Store) (v : Value) (b : Body) : Store :=
  match s.body? v, b with
  | some (.entriesOf owner), .dict m => match s.body? owner with
    | some (.struct _ card) => s.setBody owner (.struct (s.entriesOfHostMap m) card)
    | _ => s
  | some (.itemsOf owner), .list items => match s.body? owner with
    | some (.array _ card) => s.setBody owner (.array items card)
    | _ => s
  -- Only a view of bytes that can change is ever written through.
  | some (.viewOf owner), .byteView _ items => s.setBody owner (.byteArray items)
  | _, b => s.setBody v b

/-! ### What a read sees after a change -/

/-- A fresh reference stands for the object that was added. -/
@[simp] theorem deref?_alloc_self (s : Store) (o : Object) :
    (s.alloc o).2.deref? (s.alloc o).1 = some o := by
  simp [alloc, deref?]

/-- Adding an object changes none that is there. -/
theorem deref?_alloc_of_isSome {s : Store} {v : Value} (h : (s.deref? v).isSome) (o : Object) :
    (s.alloc o).2.deref? v = s.deref? v := by
  cases v with
  | object i =>
    have hi : i < s.objects.size := by simpa [deref?] using h
    simp [alloc, deref?, Array.getElem?_push, Nat.ne_of_lt hi]
  | _ => rfl

/-- An object reads as it was changed to. -/
@[simp] theorem deref?_modify_self (s : Store) (v : Value) (f : Object → Object) :
    (s.modify v f).deref? v = (s.deref? v).map f := by
  cases v with
  | object i => simp [modify, deref?, Array.getElem?_modify]
  | _ => rfl

/-- Changing one object changes no other. -/
theorem deref?_modify_of_ne (s : Store) {v w : Value} (h : w ≠ v) (f : Object → Object) :
    (s.modify v f).deref? w = s.deref? w := by
  cases v with
  | object i =>
    cases w with
    | object j =>
      have hij : i ≠ j := fun e => h (by rw [e])
      simp [modify, deref?, Array.getElem?_modify, hij]
    | _ => rfl
  | _ => rfl

/-- The content of an object is the one that was put there. -/
@[simp] theorem body?_setBody_self (s : Store) (v : Value) (b : Body) :
    (s.setBody v b).body? v = (s.body? v).map fun _ => b := by
  simp [body?, setBody, Function.comp_def]

/-- Replacing the content of one object keeps that of every other. -/
theorem body?_setBody_of_ne (s : Store) {v w : Value} (h : w ≠ v) (b : Body) :
    (s.setBody v b).body? w = s.body? w := by
  simp [body?, setBody, deref?_modify_of_ne s h]

/-! ### Classes -/

/-- The declared class of a number. -/
def class? (s : Store) : Kind → Option ClassInfo
  | .declared i => s.classes[i]?
  | _ => none

/-- The name of a kind. -/
def name (s : Store) : Kind → String
  | .library k => k.name
  | .declared i => s.classes[i]?.elim "" (·.name)
  | .words n => "c_int_Array_" ++ toString n
  | .core t | .label t => t

/-- The name of a kind within its package. -/
def qualifiedName (s : Store) : Kind → String
  | .declared i => s.classes[i]?.elim "" (·.qualifiedName)
  | k => s.name k

/-- The package of a kind. The host's core package has a name too, but is never written. -/
def home? (s : Store) : Kind → Option String
  | .library k => some (k.home?.getD "builtins")
  | .declared i => s.classes[i]?.bind (·.home)
  | .words _ => some "host"
  | .core _ => some "builtins"
  | .label _ => none

/-- The full name of a kind. -/
def typeName (s : Store) (k : Kind) : String :=
  match s.home? k with
  | none | some "builtins" => s.qualifiedName k
  | some home => home ++ "." ++ s.qualifiedName k

/-- The name that a kind goes by in the words of the host. -/
def wordedName (s : Store) (k : Kind) : String :=
  if k = .library .decimal || k = .library .deque then s.typeName k else s.name k

/-- The line of descent of a kind, itself first. -/
def lineage (s : Store) : Kind → List Kind
  | .library k => k.lineage.map .library
  | .declared i => s.classes[i]?.elim [] (·.lineage)
  | .words n => [.words n, .library .wordArray, .library .object]
  | .core t => [.core t, .library .object]
  | .label _ => []

/-- The library classes in the line of descent of a kind. -/
def libraryLineage (s : Store) (k : Kind) : List LibraryKind :=
  (s.lineage k).filterMap Kind.library?

/-- Whether a kind descends from a library class. -/
def descends (s : Store) (k : Kind) (a : LibraryKind) : Bool :=
  (s.lineage k).contains (.library a)

/-- The class of a kind. -/
def metaclass (s : Store) : Kind → LibraryKind
  | .library k => k.metaclass
  | .declared i => s.classes[i]?.elim .type (·.metaclass)
  | _ => .type

/-- The attributes set on a class: those of a declared class, or those added to one of the engine's
    own. -/
def classAttrs (s : Store) : Kind → OrderedMap String Value
  | .declared i => s.classes[i]?.elim {} (·.attrs)
  | .library k => if k.isEngineOwn then (s.library.find? (·.1 = k)).elim {} (·.2) else {}
  | _ => {}

/-- Sets an attribute of a class. -/
def setClassAttr (s : Store) (k : Kind) (name : String) (v : Value) : Store :=
  match k with
  | .declared i =>
    { s with classes := s.classes.modify i fun c => { c with attrs := c.attrs.insert name v } }
  | .library l =>
    { s with library := (l, (s.classAttrs k).insert name v) :: s.library.filter (·.1 ≠ l) }
  | _ => s

/-- The declared class of a name; of several the last. -/
def declaredNamed? (s : Store) (name : String) : Option Kind :=
  (s.classes.toList.zipIdx.reverse.find? (·.1.name == name)).map fun c => .declared c.2

/-- The kind of a name: a declared class, else a library class. -/
def kindNamed? (s : Store) (name : String) : Option Kind :=
  s.declaredNamed? name <|> (LibraryKind.ofName? name).map .library

/-! ### Special methods -/

/-- A definition of a special method: by a library class, or by an entry of a declared one. -/
inductive Special where
  | library (owner : LibraryKind)
  | declared (owner : Kind) (entry : Value)
deriving DecidableEq, Repr

/-- The definition of a special method that a class itself has. -/
def ownSpecial? (s : Store) (name : String) : Kind → Option Special
  | .library l => if l.hasSpecial name then some (.library l) else none
  -- An entry counts whatever it is: `none` in its place hides the one of an ancestor.
  | .declared i => ((s.classAttrs (.declared i)).get? name).map (.declared (.declared i))
  | _ => none

/-- The nearest definition of a special method along a line of descent. -/
def special? (s : Store) (k : Kind) (name : String) : Option Special :=
  (s.lineage k).findSome? (s.ownSpecial? name)

/-- The entry of a declared class that defines a special method for a kind, if such an entry comes
    first. -/
def declaredSpecial? (s : Store) (k : Kind) (name : String) : Option (Kind × Value) :=
  match s.special? k name with
  | some (.declared owner v) => some (owner, v)
  | _ => none

/-! ### Kinds of values -/

/-- The sort of object that a class holds for one of its fields. -/
def fieldSort (f : NativeFunction) : LibraryKind :=
  match f.owner with
  | none => .nativeField
  | some l =>
    let isSlot := l.members.any fun m => m = .slot f.name
    if isSlot then .slotEntry
    else if l.isEngineOwn || l = .fraction || l.home? = some "numbers" then .property
    else .nativeField

/-- The kind of a value. -/
def kindOf (s : Store) : Value → Kind
  | .none => .library .noneType
  | .absent => .library .absent
  | .bool _ => .library .bool
  | .int _ => .library .int
  | .real _ => .library .real
  | .complex .. => .library .complex
  | .fraction _ => .library .fraction
  | .decimal _ => .library .decimal
  | .text _ => .library .text
  | .key k => .library (if k.number.isSome then .indexKey else .key)
  | .kind k => .library (s.metaclass k)
  | .native f => .library (if f.owner.isNone then .nativeFunction else .nativeMethod)
  | .nativeField f => .library (fieldSort f)
  | .service _ => .library .service
  | .scope i => .library (if s.scopes[i]?.any (·.owner.isSome) then .classScope else .scope)
  | .object i => s.objects[i]?.elim (.library .object) (·.kind)

/-- Whether a value is an instance of a library class by descent. -/
def isA (s : Store) (v : Value) (a : LibraryKind) : Bool :=
  s.descends (s.kindOf v) a

end Store

end ScriptBridge
