import ScriptBridge.Hint.Names

namespace ScriptBridge

/-!
# Signatures

What the parameters of a function tell about the arguments it takes. Every parameter that takes an
argument by position counts, with a default or without; a parameter that must be given by name makes
a function unreachable for scripts.

* `Store.methodSignature`, `Store.boundSignature` read a method without its receiver;
* `Store.maker?` is the function that the signature of a constructor is read from;
* `Store.constructorSignature` reads the constructor of a kind.
-/

/-- What can be read off a function's parameters. -/
inductive Signature where
  /-- Nothing: any arguments may be tried. -/
  | unreadable
  /-- No call by position can succeed. -/
  | unreachable
  /-- One argument for each parameter, of one of the kinds it accepts. -/
  | takes (params : List (List Kind))
deriving DecidableEq, Repr

namespace Store

/-! ### Written hints -/

/-- The place of a parameter in the order in which hints are read. -/
def readingRank : ParamForm → Nat
  | .normal => 0
  | .positional => 1
  | .rest => 2
  | .named => 3
  | .restNamed => 4

/-- The written hints of some parameters, in the order of reading. -/
def writtenHints (params : List Param) : List (String × String) :=
  let inOrder := params.mergeSort fun a b => readingRank a.form ≤ readingRank b.form
  inOrder.filterMap fun p => match p.hint with
    | some (.written t) => some (p.name, t)
    | _ => none

/-- What the written hints of some parameters mean, by parameter; the first that has no meaning
    fails with the host's class of error. -/
def readHints (s : Store) (params : List Param) : Except LibraryKind (List (String × Hint)) :=
  let reading : HintReading (List (String × Hint)) :=
    (writtenHints params).mapM fun (n, t) => do return (n, ← Hint.read s.hintNames t)
  (reading.run []).map (·.1)

/-- What becomes of a signature when a hint has no meaning. -/
inductive HintRefusal where
  /-- All texts stay texts: one is no expression, or names something unknown. -/
  | unread
  /-- Nothing can be read: one applies something to a wrong type or value. -/
  | unreadable
  /-- The error goes on to whoever reads. -/
  | failed (error : LibraryKind)
deriving DecidableEq, Repr

/-- What becomes of a signature when a hint fails with an error. -/
def hintRefusal (error : LibraryKind) : HintRefusal :=
  if [.nameError, .attributeError, .syntaxError].any error.lineage.contains then .unread
  else if [.typeError, .valueError].any error.lineage.contains then .unreadable
  else .failed error

/-- A parameter with its hint replaced by what it means, if that is known. -/
def readParam (read : List (String × Hint)) (p : Param) : Param :=
  match read.lookup p.name with
  | some h => { p with hint := some h }
  | none => p

/-- The parameters with all hints read, if they can be. -/
def readParams? (s : Store) (params : List Param) : Option (List Param) :=
  match s.readHints params with
  | .ok read => some (params.map (readParam read))
  | .error e => match hintRefusal e with
    | .unread => some params
    | _ => none

/-- The error that reading a signature ends in, if it does. -/
def hintFailure? (s : Store) (params : List Param) : Option LibraryKind :=
  match s.readHints params with
  | .ok _ => none
  | .error e => match hintRefusal e with
    | .failed e => some e
    | _ => none

/-! ### Signatures of functions -/

/-- The kinds that a parameter accepts. -/
def acceptedKinds (p : Param) : List Kind :=
  (p.hint.getD .any).kinds

/-- The signature made of some parameters. -/
def positionalSignature (params : List Param) : Signature :=
  -- Scripts pass arguments by position and have no way to fill this one.
  if params.any fun p => p.form = .named ∧ p.fallback.isNone then .unreachable
  else .takes ((params.filter Param.takesPosition).map acceptedKinds)

/-- The signature of a function that is called as it is. -/
def plainSignature (s : Store) (params : List Param) : Signature :=
  match s.readParams? params with
  | none => .unreadable
  | some ps => positionalSignature ps

/-- The signature of a method without its receiver, which takes the first position if there is
    one. -/
def methodSignature (s : Store) (params : List Param) : Signature :=
  match s.readParams? params with
  | none => .unreadable
  | some [] => .takes []
  -- Without a place of its own the receiver is taken up by the rest.
  | some (p :: ps) => positionalSignature (if p.takesPosition then ps else p :: ps)

/-- The parameters that are left when a receiver has been supplied, if it can be. -/
def dropReceiver? : List Param → Option (List Param)
  | [] => none
  | p :: ps => if p.takesPosition then some ps else if p.form = .rest then some (p :: ps) else none

/-- The signature of a function to which a receiver has been supplied. -/
def boundSignature (s : Store) (params : List Param) : Signature :=
  match s.readParams? params with
  | none => .unreadable
  | some ps => match dropReceiver? ps with
    | none => .unreadable
    | some ps => positionalSignature ps

/-- The function behind a value. -/
def function? (s : Store) (v : Value) : Option Function :=
  match s.body? v with
  | some (.function f) => some f
  | _ => none

/-- Library parameters over all kinds. -/
def liftParams (params : List (List LibraryKind)) : List (List Kind) :=
  params.map (·.map .library)

/-! ### Constructors -/

/-- The nearest definition of one of the two functions that make an instance: an entry of a declared
    class, or that of a library class. -/
inductive Maker where
  | declared (entry : Value)
  | library (k : LibraryKind)
deriving DecidableEq, Repr

/-- The library classes that initialise their instances in a way of their own. -/
def initialises : LibraryKind → Bool
  | .object | .list | .dict | .byteArray | .deque | .type | .property | .staticMethod
  | .classMethod | .baseError | .osError | .wordArray => true
  | .protocolBase => false
  | k => match k.construction with
    | .initialiser _ => true
    | _ => false

/-- The library classes that allocate their instances in a way of their own. -/
def allocates : LibraryKind → Bool
  | .object | .list | .dict | .byteArray | .deque | .type | .property | .staticMethod
  | .classMethod | .baseError | .osError | .wordArray | .int | .bool | .real | .complex | .text
  | .tuple | .bytes | .range | .byteView | .mapView | .function | .nativeFunction | .boundMethod
  | .noneType | .decimal | .fraction | .absent => true
  | _ => false

/-- The first definition along some classes of a function that makes instances; `own` tells the
    library classes that define one. -/
def maker? (s : Store) (name : String) (own : LibraryKind → Bool) : List Kind → Option Maker
  | [] => none
  | k :: rest =>
    match (s.classAttrs k).get? name with
    | some f => some (.declared f)
    | none =>
      match k with
      | .library l => if own l then some (.library l) else s.maker? name own rest
      | _ => s.maker? name own rest

/-- The first initialiser along some classes. -/
def initialiser? (s : Store) (line : List Kind) : Option Maker :=
  s.maker? "__init__" initialises line

/-- The first allocator along some classes. -/
def allocator? (s : Store) (line : List Kind) : Option Maker :=
  s.maker? "__new__" allocates line

/-- The signature that a line of descent documents, when no initialiser can be read. -/
def documentedSignature (ls : List LibraryKind) : Signature :=
  let documented := ls.findSome? fun l => match l.construction with
    | .documented ps => some ps
    | _ => none
  match documented with
  | some ps => .takes (liftParams ps)
  -- A class that tells nothing at all takes no arguments.
  | none => if ls.any (·.construction = .unreadable) then .unreadable else .takes []

/-- The signature of an entry of a class that makes instances. One place is the instance's or the
    class's, however the entry is marked; a class method has its own receiver before it. -/
def entrySignature (s : Store) (entry : Value) : Signature :=
  match s.body? entry with
  | some (.function f) => s.boundSignature f.params
  | some (.staticMethod f) => (s.function? f).elim .unreadable fun f => s.boundSignature f.params
  | some (.classMethod f) => (s.function? f).elim .unreadable fun f =>
    match dropReceiver? f.params with
    | some ps => s.boundSignature ps
    | none => .unreadable
  | _ => .unreadable

/-- The signature of a definition that is written in the host's language, if it is one. -/
def makerSignature? (s : Store) (isAllocator : Bool) : Maker → Option Signature
  -- A class may set the name to nothing to have no such function.
  | .declared .none => none
  | .declared (.native ⟨some l, _⟩) => match l.construction with
    | .initialiser ps => some (.takes (liftParams ps))
    | _ => none
  | .declared f => some (s.entrySignature f)
  | .library l => match l.construction, isAllocator with
    | .initialiser ps, false => some (.takes (liftParams ps))
    | .allocator ps, true => some (.takes (liftParams ps))
    | _, _ => none

/-- Whether a class itself has a definition. -/
def definesMaker (s : Store) (name : String) (own : LibraryKind → Bool) (k : Kind) : Bool :=
  (s.maker? name own [k]).isSome

/-- The definition that the signature of a kind is read from: the nearer of allocator and
    initialiser, of those that are written in the host's language, the allocator first. -/
def writtenMaker? (s : Store) (k : Kind) : Option Maker :=
  let line := s.lineage k
  let new := (s.allocator? line).filter fun m => (s.makerSignature? true m).isSome
  let init := (s.initialiser? line).filter fun m => (s.makerSignature? false m).isSome
  line.findSome? fun owner =>
    if new.isSome && s.definesMaker "__new__" allocates owner then new
    else if init.isSome && s.definesMaker "__init__" initialises owner then init
    else none

/-- The signature of the constructor of a kind: that of the nearer of allocator and initialiser, as
    far as they are written in the host's language, the allocator first; else what is documented. -/
def constructorSignature (s : Store) (k : Kind) : Signature :=
  let line := s.lineage k
  let new := (s.allocator? line).bind (s.makerSignature? true)
  let init := (s.initialiser? line).bind (s.makerSignature? false)
  let nearest := line.findSome? fun owner =>
    if new.isSome && s.definesMaker "__new__" allocates owner then new
    else if init.isSome && s.definesMaker "__init__" initialises owner then init
    else none
  nearest.getD (documentedSignature (s.libraryLineage k))

/-! ### Signatures that cannot be read at all -/

/-- The parameters of the function that an entry of a class stands for. -/
def entryParams (s : Store) (entry : Value) : List Param :=
  let f := match s.body? entry with
    | some (.staticMethod f) | some (.classMethod f) => f
    | _ => entry
  (s.function? f).elim [] (·.params)

/-- The error that reading the constructor of a kind ends in, if it does: that of the nearer of
    allocator and initialiser. -/
def constructorFailure? (s : Store) (k : Kind) : Option LibraryKind :=
  let line := s.lineage k
  let new := s.allocator? line
  let init := s.initialiser? line
  let read (m : Option Maker) : List Param := match m with
    | some (.declared entry) => s.entryParams entry
    | _ => []
  let nearest := line.findSome? fun owner =>
    if (new.bind (s.makerSignature? true)).isSome && s.definesMaker "__new__" allocates owner then
      some (read new)
    else if (init.bind (s.makerSignature? false)).isSome &&
        s.definesMaker "__init__" initialises owner then some (read init)
    else none
  nearest.bind s.hintFailure?

end Store

end ScriptBridge
