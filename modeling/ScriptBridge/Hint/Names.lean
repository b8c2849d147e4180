import ScriptBridge.Assignable
import ScriptBridge.Hint.Written
import ScriptBridge.Kind.Names

namespace ScriptBridge

/-!
# Names in written hints

What the classes of a store tell to written hints: every declared class is visible, also a later
one, and so are the library's.

* `Store.hintNames` is what names refer to.
-/

namespace Store

/-- Whether a class itself has an entry of a name, hidden ones included, and the class that it is,
    if it is one. -/
def hintEntry? (s : Store) (name : String) (owner : Kind) : Option (Option Kind) :=
  match (s.classAttrs owner).get? name, owner with
  | some (.kind k), _ => some (some k)
  | some _, _ => some none
  | none, .library l =>
    if l.hiddenNames.contains name || l.members.any (·.name == name) then some none else none
  | none, _ => none

/-- Whether a class has an attribute, of its own or as an instance of its class, and the class that
    it is, if it is one. -/
def hintAttribute? (s : Store) (k : Kind) (name : String) : Option (Option Kind) :=
  if name = "__class__" then some (some (.library (s.metaclass k)))
  else
    let above := (s.metaclass k).lineage.map Kind.library
    (s.lineage k ++ above).findSome? (s.hintEntry? name)

/-- Whether the instances of a class have an attribute. -/
def hasHintMember (s : Store) (k : Kind) (name : String) : Bool :=
  ((s.lineage k).findSome? (s.hintEntry? name)).isSome

/-- The core classes that take arguments in brackets. -/
def coreGenerics : List String := ["set", "frozenset", "enumerate", "BaseExceptionGroup"]

/-- How a class takes arguments in brackets: as the nearest class does that says how. -/
def hintSubscript (s : Store) (k : Kind) : HintValue.Subscript :=
  let own (owner : Kind) : Option HintValue.Subscript :=
    match owner with
    | .library .callable => some .callable
    | .library .protocolBase | .library .genericBase => some .protocol
    | .library l =>
      if [.list, .dict, .tuple, .deque, .container, .iterable, .mapView, .wordArray].contains l then
        some .plain
      else none
    | .declared i =>
      if (s.classAttrs (.declared i)).contains "__class_getitem__" then some .plain else none
    | _ => none
  match k with
  | .core t => if coreGenerics.contains t then .plain else .refused
  | .library .type => .plain
  | k => ((s.lineage k).findSome? own).getD .refused

/-- Whether a class has no instances because members are missing. -/
def lacksMembers (s : Store) : Kind → Bool
  | .library k => k.isAbstract
  | .declared i => s.classes[i]?.any fun c => !c.abstractNames.isEmpty
  | _ => false

/-- What the names in written hints refer to. -/
def hintNames (s : Store) : HintNames :=
  { kind? := fun n => s.declaredNamed? n <|> (LibraryKind.ofHintName? n).map .library
    attribute? := s.hintAttribute?
    hasMember := s.hasHintMember
    subscript := s.hintSubscript
    metaclass := fun k => .library (s.metaclass k)
    isSubclass := s.isSubclass
    isAbstract := s.lacksMembers }

end Store

end ScriptBridge
