import ScriptBridge.Store

namespace ScriptBridge

/-!
# Assignability

Whether a value of one kind can be passed where another is asked for.

* `Store.subclass?` is the host's test of descent. It refuses to answer for a text in the place of a
  kind and for a protocol as the second kind;
* `Store.unboxedKind?` is the primitive number kind that a number kind compares as;
* `Store.isAssignable` adds widening of numbers and the rules for `none`.
-/

namespace Store

/-- The kinds that a kind counts as a subclass of, by descent and by registration. -/
def supertypes (s : Store) (k : Kind) : List Kind :=
  (s.lineage k).flatMap fun
    | .library a => a.supertypes.map .library
    | a => [a]

/-- Whether a kind has a special method; one that is declared as nothing is none. -/
def hasMethod (s : Store) (k : Kind) (name : String) : Bool :=
  match s.special? k name with
  | none | some (.declared _ .none) => false
  | some _ => true

/-- Whether instances of a kind can be called. -/
def isCallableKind (s : Store) (k : Kind) : Bool := (s.special? k "__call__").isSome

/-- Whether a kind counts as callable: by what it does, or by descent. -/
def isCallableClass (s : Store) (k : Kind) : Bool :=
  s.hasMethod k "__call__" || s.descends k .callable

/-- Whether a kind counts as one that can be walked through: by what it does, or by descent. -/
def isIterableClass (s : Store) (k : Kind) : Bool :=
  s.hasMethod k "__iter__" || s.descends k .iterable

/-- Whether a plain value counts as true. -/
def isTrueScalar : Value → Bool
  | .none | .absent | .bool false => false
  | .text t => !t.isEmpty
  | .real x => !x.isZero
  | .complex re im => !(re.isZero && im.isZero)
  | .decimal d => !d.isZero
  | v => v.ratio?.all (·.num ≠ 0)

/-- Whether a kind is itself marked as a protocol. -/
def isProtocol (s : Store) (k : Kind) : Bool :=
  s.descends k .protocolBase && ((s.classAttrs k).get? "_is_protocol").any isTrueScalar

/-- Whether one kind is a subclass of another, if the host answers at all. -/
def subclass? (s : Store) (a b : Kind) : Option Bool :=
  match a, b with
  | .label _, _ | _, .label _ => none
  | a, .library .callable => some (s.isCallableClass a)
  | a, .library .iterable => some (s.isIterableClass a)
  -- A protocol that was not made for such questions answers with an error.
  | a, b => if s.isProtocol b then none else some ((s.supertypes a).contains b)

/-- Whether one kind is a subclass of another, as far as the host answers. -/
def isSubclass (s : Store) (a b : Kind) : Bool :=
  (s.subclass? a b).getD false

/-- Whether a value is an instance of a library class, abstract ones included. -/
def isInstance (s : Store) (v : Value) (k : LibraryKind) : Bool :=
  s.isSubclass (s.kindOf v) k

/-- The primitive kinds of numbers. -/
def primitiveKinds : List Kind :=
  [.library .bool, .library .int, .library .real, .library .complex]

/-- The primitive kinds a primitive number widens to, itself included. -/
def widensTo : LibraryKind → List Kind
  | .bool => [.library .bool, .library .int, .library .real, .library .complex]
  | .int => [.library .int, .library .real, .library .complex]
  | .real => [.library .real, .library .complex]
  | .complex => [.library .complex]
  | _ => []

/-- The primitive number kind that a number kind compares as. -/
def unboxedKind? (s : Store) (k : Kind) : Option LibraryKind :=
  -- The narrowest first, as each of these counts as all that follow.
  if s.isSubclass k (.library .bool) then some .bool
  else if s.isSubclass k (.library .integralNumber) then some .int
  else if s.isSubclass k (.library .realNumber) then some .real
  else if s.isSubclass k (.library .complexNumber) then some .complex
  else none

/-- Whether an argument of one kind can be passed to a parameter of another. Everything can be
    passed to the root kind, `none` to everything but a primitive number. -/
def isAssignable (s : Store) (arg param : Kind) : Bool :=
  if param = .library .object then true
  else if arg = .library .noneType then !primitiveKinds.contains param
  else match s.subclass? arg param with
    -- The host refuses to answer: nothing fits, not even a number that widens.
    | none => false
    | some true => true
    | some false =>
      match s.unboxedKind? arg with
      | some p => primitiveKinds.contains param && (widensTo p).contains param
      | none => false

/-- Whether arguments of some kinds can be passed to parameters that each accept several. Only the
    pairs that exist on both sides are looked at. -/
def acceptsKinds (s : Store) (args : List Kind) (params : List (List Kind)) : Bool :=
  (args.zip params).all fun (arg, accepted) => accepted.any (s.isAssignable arg)

end Store

end ScriptBridge
