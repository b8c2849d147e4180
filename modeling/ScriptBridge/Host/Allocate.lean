import ScriptBridge.Container.Mapping
import ScriptBridge.Container.Sequence
import ScriptBridge.Host.Number
import ScriptBridge.Text.Encoding

namespace ScriptBridge

/-!
# Allocation

How library classes allocate instances. Scalars, tuples and errors get their content at once, from
the arguments of the constructor; other instances start empty and are filled by an initialiser.

* `Host.bindNames` binds arguments to the names of parameters;
* `Host.allocateLibrary` allocates as a library class does.
-/

namespace Host

open Run

/-! ### Arguments -/

/-- The arguments of a call, by a list of parameter names; those that are not given are `none`.
    Fails when there are too many, or when a name is unknown or given twice. -/
def bindNames (names : List String) (args : Args) : Run (List (Option Value)) := do
  if names.length < args.positional.length then fail .typeError
  -- A parameter that has its value by position must not be named again.
  let taken := names.take args.positional.length
  if args.named.any fun (n, _) => taken.contains n || !names.contains n then fail .typeError
  return names.zipIdx.map fun (n, i) => args.positional[i]? <|> args.named.lookup n

/-- The only argument of a call, if any is given; names are not taken. -/
def optionalArgument (args : Args) : Run (Option Value) := do
  match args.positional, args.named with
  | [], [] => return none
  | [v], [] => return some v
  | _, _ => fail .typeError

/-! ### Texts and bytes -/

/-- The error that a conversion between texts and bytes ends in. -/
def encodingFault : EncodingFault → Fault
  | .undecodable => .host .unicodeDecodeError ""
  | .unencodable => .host .unicodeEncodeError ""
  | .unknownHandling => .host .lookupError ""
  | .wrongHandling => .typeError

/-- A name of an encoding, or of a way to handle what it has no room for. -/
def nameArgument (usual : String) : Option Value → Run String
  | none => return usual
  | some v => do
    match (← store).scalar v with
    | .text t => if t.contains (Char.ofNat 0) then fail .valueError else return t
    | _ => fail .typeError

/-- The encoding of a name. -/
def encodingNamed (name : String) : Run Encoding :=
  match Encoding.ofName? name with
  | some e => return e
  | none => fail (.host .lookupError "")

/-- The result of a conversion between texts and bytes. -/
def orUnfit {α : Type} : Except EncodingFault α → Run α
  | .ok a => return a
  | .error f => fail (encodingFault f)

/-- The bytes that a value shows. -/
def shownBytes? : Option Body → Option (List Nat)
  | some (.words words) => some (wordBytes words)
  | b => bytesOf? b

/-- The text that a call of the text class gives. -/
def makeText (call : Call) (args : Args) : Run String := do
  match ← bindNames ["object", "encoding", "errors"] args with
  | [some v, none, none] => textOf call v
  | [v, encoding, errors] =>
    let name ← nameArgument "utf-8" encoding
    let handling ← nameArgument "strict" errors
    match v with
    | none => return ""
    | some v =>
      match shownBytes? (← content? v) with
      | some [] => return ""
      | some items => do orUnfit ((← encodingNamed name).decode handling items)
      | none => fail .typeError
  | _ => return ""

/-- The bytes that a call of a byte class gives. -/
def makeBytes (call : Call) (args : Args) : Run (List Nat) := do
  match ← bindNames ["source", "encoding", "errors"] args with
  | [none, none, none] => return []
  | [some v, none, none] =>
    match (← store).scalar v with
    -- A text needs the name of an encoding to become bytes.
    | .text _ => fail .typeError
    | x =>
      match shownBytes? (← content? v) with
      | some items => return items
      | none =>
        let s ← store
        let isNumber := match x with
          | .int _ | .bool _ => true
          | _ => (s.special? (s.kindOf v) "__index__").isSome
        -- A number is how many zeros there are, not an element.
        if isNumber then
          let n ← wordIndexOf call v
          if n < 0 then fail .valueError else return List.replicate n.toNat 0
        else (← itemsOf call v).mapM (byteOf call)
  | [some v, some encoding, errors] =>
    let name ← nameArgument "utf-8" (some encoding)
    let handling ← nameArgument "strict" errors
    match (← store).scalar v with
    | .text t => do orUnfit ((← encodingNamed name).encode handling t)
    | _ => fail .typeError
  | _ => fail .typeError

/-! ### Numbers -/

/-- The integer that a call of the integer class gives. -/
def makeInt (call : Call) (args : Args) : Run Int := do
  match args.positional, args.named with
  | [], [] => return 0
  | [v], [] => intOf call v
  | [v, base], [] | [v], [("base", base)] => intInBase call v base
  | _, _ => fail .typeError

/-- The complex number that a call of the class for that gives. -/
def makeComplex (call : Call) (args : Args) : Run (Double × Double) := do
  match ← bindNames ["real", "imag"] args with
  | [some re, none] => complexOf call [re]
  | [none, some im] => complexOf call [.int 0, im]
  | [some re, some im] => complexOf call [re, im]
  | _ => return (.zero, .zero)

/-- The fraction that a call of the class for that gives. -/
def makeFraction (args : Args) : Run Ratio := do
  match ← bindNames ["numerator", "denominator"] args with
  | [n, d] => orFail (fractionOf (← store) [n.getD (.int 0), d.getD .none])
  | _ => fail .typeError

/-- The decimal number that a call of the class for that gives. -/
def makeDecimal (args : Args) : Run Decimal := do
  match ← bindNames ["value", "context"] args with
  | [v, context] =>
    if (context.getD .none) ≠ .none then fail .typeError
    match v with
    | none => return .ofInt 0
    | some v => orFail (decimalOf (← store) v)
  | _ => fail .typeError

/-- The range that a call of the range class gives. -/
def makeRange (call : Call) (args : Args) : Run Body := do
  if !args.named.isEmpty then fail .typeError
  let ends ← args.positional.mapM (indexOf call)
  let (start, stop, step) ← match ends with
    | [stop] => pure (0, stop, 1)
    | [start, stop] => pure (start, stop, 1)
    | [start, stop, step] => pure (start, stop, step)
    | _ => fail .typeError
  if step = 0 then fail .valueError else return .range start stop step

/-! ### Errors of the system -/

/-- The class that the number of an error of the system makes it. -/
def systemErrorOf? : Int → Option LibraryKind
  | 1 | 13 => some .permissionError
  | 2 => some .fileNotFoundError
  | 3 => some .processLookupError
  | 4 => some .interruptedError
  | 10 => some .childProcessError
  | 11 | 114 | 115 => some .blockingIoError
  | 17 => some .fileExistsError
  | 20 => some .notADirectoryError
  | 21 => some .isADirectoryError
  | 32 | 108 => some .brokenPipeError
  | 103 => some .connectionAbortedError
  | 104 => some .connectionResetError
  | 110 => some .timeoutError
  | 111 => some .connectionRefusedError
  | _ => none

/-- The class of an error of the system: with two to five arguments, the number makes the general
    class more precise. -/
def systemErrorKind (s : Store) (k : Kind) (args : List Value) : Kind :=
  match k, args with
  | .library .osError, n :: _ :: rest =>
    if 3 < rest.length then k
    else match s.scalar n with
      | .int n => (systemErrorOf? n).elim k .library
      | .bool b => (systemErrorOf? (if b then 1 else 0)).elim k .library
      | _ => k
  | k, _ => k

/-- Fills a fixed place that the class of system errors declares. -/
def setSystemSlot (v : Value) (name : String) (x : Value) : Run Unit :=
  modifyStore (·.modify v fun o =>
    { o with slots := o.slots.insert ⟨.library .osError, name⟩ x })

/-- Fills an error of the system with its arguments: a number and words, and perhaps the names of
    two files, which its arguments then do not show. -/
def fillSystemError (call : Call) (v : Value) (args : List Value) : Run Unit := do
  match args with
  | number :: words :: rest =>
    if 3 < rest.length then setBody v (.error args)
    else
      let file := rest.headD .none
      let other := (rest[2]?).getD .none
      let s ← store
      let isCount := s.kindOf v = .library .blockingIoError &&
        ["__index__", "__int__", "__float__"].any fun n => (s.special? (s.kindOf file) n).isSome
      -- Without a file all arguments are shown; with one, only the first two.
      if file = .none then setBody v (.error args)
      else if isCount then
        setSystemSlot v "characters_written" (.int (← countOf call file))
        setBody v (.error args)
      else
        setSystemSlot v "filename" file
        if other ≠ .none then setSystemSlot v "filename2" other
        setBody v (.error [number, words])
      setSystemSlot v "errno" number
      setSystemSlot v "strerror" words
  | args => setBody v (.error args)

/-- Whether a class of system errors leaves its arguments to the initialiser. -/
def leavesToInitialiser (s : Store) (k : Kind) : Bool :=
  s.initialiser? (s.lineage k) ≠ some (.library .osError) &&
    s.allocator? (s.lineage k) = some (.library .osError)

/-! ### Allocation by class -/

/-- A plain scalar as an instance of a kind. -/
def scalarInstance (k : Kind) (v : Value) : Run Value :=
  match k with
  | .library _ => newScalar v
  | k => alloc { kind := k, body := .scalar v }

/-- Allocates an instance without content. An abstract class has none, and arguments are refused
    where nothing else would take them. -/
def allocateObject (k : Kind) (args : Args) : Run Value := do
  let s ← store
  if !args.isEmpty && s.initialiser? (s.lineage k) = some (.library .object) then fail .typeError
  else if s.isAbstract k then fail .typeError
  else alloc { kind := k }

/-- Allocates an instance of a kind as a library class does, for the arguments of the
    constructor. -/
def allocateLibrary (call : Call) (l : LibraryKind) (k : Kind) (args : Args) : Run Value := do
  let s ← store
  match l with
  | .text => do scalarInstance k (.text (← makeText call args))
  | .bool => do
    match ← optionalArgument args with
    | some v => return .bool (← truth call v)
    | none => return .bool false
  | .int => do scalarInstance k (.int (← makeInt call args))
  | .real => do
    match ← optionalArgument args with
    | some v => do scalarInstance k (.real (← realOf call v))
    | none => scalarInstance k (.real .zero)
  | .complex => do
    let (re, im) ← makeComplex call args
    scalarInstance k (.complex re im)
  | .fraction => do scalarInstance k (.fraction (← makeFraction args))
  | .decimal => do scalarInstance k (.decimal (← makeDecimal args))
  | .tuple => do
    let items ← match ← optionalArgument args with
      | some v => itemsOf call v
      | none => pure []
    alloc { kind := k, body := .tuple items }
  | .bytes => do alloc { kind := k, body := .bytes (← makeBytes call args) }
  | .list => alloc { kind := k, body := .list [] }
  | .dict => alloc { kind := k, body := .dict {} }
  | .deque => alloc { kind := k, body := .deque [] none }
  | .byteArray => alloc { kind := k, body := .byteArray [] }
  | .baseError => alloc { kind := k, body := .error args.positional }
  | .osError => do
    if leavesToInitialiser s k then alloc { kind := k, body := .error [] }
    else
      if !args.named.isEmpty then fail .typeError
      let v ← alloc { kind := systemErrorKind s k args.positional, body := .error [] }
      fillSystemError call v args.positional
      return v
  | .noneType => if args.isEmpty then return .none else fail .typeError
  | .absent => if args.isEmpty then return .absent else fail .typeError
  | .type => match args.positional, args.named with
    | [v], [] => return .kind (s.kindOf v)
    | _, _ => fail .typeError
  | .range => do alloc { kind := k, body := ← makeRange call args }
  -- A view of a view shows what that one shows.
  | .byteView => do
    match ← bindNames ["object"] args with
    | [some v] => match s.body? v with
      | some (.bytes _) | some (.byteArray _) => alloc { kind := k, body := .viewOf v }
      | some (.viewOf owner) =>
        if (bytesOf? (s.content? v)).isSome then alloc { kind := k, body := .viewOf owner }
        else fail .typeError
      | _ => fail .typeError
    | _ => fail .typeError
  | .mapView => do
    match ← bindNames ["mapping"] args with
    | [some v] => match s.content? v with
      | some (.dict _) => alloc { kind := k, body := .viewOf v }
      | some (.mapView _) => match s.body? v with
        | some (.viewOf owner) => alloc { kind := k, body := .viewOf owner }
        | _ => fail .typeError
      | _ => fail .typeError
    | _ => fail .typeError
  | .staticMethod => do
    match ← optionalArgument args with
    | some f => alloc { kind := k, body := .staticMethod f }
    | none => fail .typeError
  | .classMethod => do
    match ← optionalArgument args with
    | some f => alloc { kind := k, body := .classMethod f }
    | none => fail .typeError
  | .property => do
    match ← bindNames ["fget", "fset", "fdel", "doc"] args with
    | [get, set, _, _] =>
      alloc { kind := k, body := .property (get.getD .none) (set.bind fun f =>
        if f = .none then none else some f) }
    | _ => fail .typeError
  | .object => allocateObject k args
  | _ => fail .typeError

end Host

end ScriptBridge
