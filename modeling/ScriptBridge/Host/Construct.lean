import ScriptBridge.Host.Allocate

namespace ScriptBridge

/-!
# Instances

How a class makes an instance when it is called: the nearest allocator along its line of descent
allocates it, and if that gave an instance of the class then the nearest initialiser of that
instance's class initialises it.

* `Host.initLibrary` initialises as a library class does;
* `Host.runInitialiser` runs any initialiser, `Host.instantiate` makes an instance.
-/

namespace Host

open Run

/-! ### Containers -/

/-- Notes that an instance of a declared class holds its content in an attribute. -/
def noteContent (v : Value) (name : String) (inner : LibraryKind) (b : Body) : Run Unit := do
  match ← kindOf v with
  | .declared _ => do
    let x ← alloc { kind := .library inner, body := b }
    modifyStore (·.modify v fun o => { o with attrs := o.attrs.insert name x })
  | _ => return

/-- Notes that an instance of a declared class keeps the description of its type. -/
def noteDescription (v : Value) : Run Unit := do
  match ← kindOf v with
  | .declared _ =>
    modifyStore (·.modify v fun o => { o with attrs := o.attrs.insert "_box_meta" .none })
  | _ => return

/-- The map that the initialiser of structs is given, if it is given one. -/
def structData (args : Args) : Run (Option Value) := do
  -- The receiver is a parameter too, and is already given.
  if (args.named.lookup "self").isSome then fail .typeError
  match args.positional with
  | [] => return args.named.lookup "data"
  | [d] => if (args.named.lookup "data").isSome then fail .typeError else return some d
  | _ => fail .typeError

/-- The pairs that the initialiser of structs is given: those of a map, then those by name. -/
def structPairs (call : Call) (data : Option Value) (named : List (String × Value)) :
    Run (List (Value × Value)) := do
  let pairs ← match data with
    | none | some .none => pure []
    | some d => mapPairs call d
  return pairs ++ (named.filter (·.1 != "data")).map fun (n, x) => (.text n, x)

/-- Sets items of a value one after the other. -/
def setItems (call : Call) (v : Value) (pairs : List (Value × Value)) : Run Unit :=
  pairs.forM fun (k, x) => setItem call v k x

/-- Makes a struct forget the description of its type. -/
def forgetCard (v : Value) : Run Unit := do
  match ← body? v with
  | some (.struct m _) => setBody v (.struct m none)
  | _ => return

/-- Initialises a struct: it is filled with pairs, and has no description of its type yet. -/
def initStruct (call : Call) (v : Value) (args : Args) : Run Unit := do
  let data ← structData args
  -- Emptied first: the pairs are set one by one, by what the class does about that.
  setBody v (.struct {} none)
  noteContent v "_data" .dict (.entriesOf v)
  setItems call v (← structPairs call data args.named)
  forgetCard v
  noteDescription v

/-- Initialises an array with the elements of a value, if one is given. -/
def initArray (call : Call) (v : Value) (args : Args) : Run Unit := do
  match ← bindNames ["items"] args with
  | [given] => do
    let items ← match given with
      | none | some .none => pure []
      | some x => itemsOf call x
    setBody v (.array items none)
    noteContent v "_items" .list (.itemsOf v)
    noteDescription v
  | _ => fail .typeError

/-- The last of some items, as many as a queue holds at most. -/
def lastItems (limit : Option Nat) (items : List Value) : List Value :=
  match limit with
  | some n => items.drop (items.length - n)
  | none => items

/-- Initialises a queue. -/
def initDeque (call : Call) (v : Value) (args : Args) : Run Unit := do
  match ← bindNames ["iterable", "maxlen"] args with
  | [given, bound] => do
    let limit ← match bound with
      | none | some .none => pure none
      | some x => do
        match (← store).scalar x with
        | .int _ | .bool _ =>
          let n ← wordIndexOf call x
          if n < 0 then fail .valueError else pure (some n.toNat)
        | _ => fail .typeError
    -- Emptied before it is filled: a queue that is initialised with itself ends up empty.
    setBody v (.deque [] limit)
    match given with
    | none => pure ()
    | some x => do setBody v (.deque (lastItems limit (← itemsOf call x)) limit)
  | _ => fail .typeError

/-! ### Errors -/

/-- The details that an error takes by name. -/
def errorDetails (s : Store) (v : Value) : List String :=
  if s.isA v .attributeError then ["name", "obj"]
  else if s.isA v .nameError then ["name"]
  else []

/-- Initialises an error with its arguments. -/
def initError (v : Value) (args : Args) : Run Unit := do
  let s ← store
  let details := errorDetails s v
  if args.named.any fun (n, _) => !details.contains n then fail .typeError
  setBody v (.error args.positional)
  let owner : LibraryKind := if s.isA v .attributeError then .attributeError else .nameError
  args.named.forM fun (n, x) =>
    modifyStore (·.modify v fun o => { o with slots := o.slots.insert ⟨.library owner, n⟩ x })

/-! ### Initialisers -/

/-- Initialises an instance as the root class does: it takes no arguments, unless the class
    allocates in a way of its own and initialises in none. -/
def initObject (v : Value) (args : Args) : Run Unit := do
  let s ← store
  let line := s.lineage (s.kindOf v)
  -- Arguments are let pass only if the allocator has already made use of them.
  let taken := s.initialiser? line = some (.library .object) &&
    s.allocator? line ≠ some (.library .object)
  if !args.isEmpty && !taken then fail .typeError

/-- Initialises an instance as a library class does. -/
def initLibrary (call : Call) (l : LibraryKind) (v : Value) (args : Args) : Run Unit := do
  match l with
  | .object => initObject v args
  | .list => do
    let items ← match ← optionalArgument args with
      | some x => itemsOf call x
      | none => pure []
    setContent v (.list items)
  | .deque => initDeque call v args
  | .dict => do
    match args.positional with
    | [] => pure ()
    | [x] => Mapping.putAll call v x
    | _ => fail .typeError
    args.named.forM fun (n, x) => Mapping.put call v (.text n) x
  | .byteArray => do setBody v (.byteArray (← makeBytes call args))
  | .baseError => initError v args
  | .osError => do
    if leavesToInitialiser (← store) (← kindOf v) then
      if !args.named.isEmpty then fail .typeError
      fillSystemError call v args.positional
  | .keyNotFoundError => do
    match ← bindNames ["message", "keys", "target"] args with
    | [some message, keys, target] => do
      setBody v (.error [message])
      let listed ← match keys with
        | none | some .none => pure []
        | some keys => itemsOf call keys
      setAttr call v "keys" (← newList listed)
      setAttr call v "target" (target.getD .none)
    | _ => fail .typeError
  | .struct => initStruct call v args
  | .array => initArray call v args
  | .key => do
    match ← bindNames ["name"] args with
    | [some x] => do setBody v (.key (.ofText (← textOf call x)))
    | _ => fail .typeError
  | .indexKey => do
    match ← bindNames ["value"] args with
    | [some x] => do
      -- The text is taken before the number, and may fail for too many digits.
      let name ← textOf call x
      setBody v (.key { name, number := some (← intOf call x) })
    | _ => fail .typeError
  | .metadata => do
    match ← bindNames ["target"] args with
    | [some x] => do
      setAttr call v "target" x
      setAttr call v "meta" (← newCardEntries x)
    | _ => fail .typeError
  | .scripted => do
    if !args.isEmpty then fail .typeError
    setAttr call v "this_scope" (← newStruct {})
    setAttr call v "variables_scope" (← newStruct {})
    setAttr call v "_box_meta" .none
  | .wrapper => do
    match ← bindNames ["target_class", "target_instance", "interop"] args with
    | [some cls, inst, svc] => do
      let svc := svc.getD .none
      let svc ← do if ← truth call svc then pure svc else pure (.service .fallback)
      setBody v (.wrapper cls (inst.getD .none) svc)
    | _ => fail .typeError
  | .targetRef => do
    match ← bindNames ["target_type", "target_instance"] args with
    | [some (.kind cls), inst] => setBody v (.target cls (inst.getD .none))
    | _ => fail .typeError
  | .property | .staticMethod | .classMethod | .type => return
  | _ => fail .typeError

/-- The mark by which a class of protocols keeps its instances from being made. -/
def protocolInitialiser : Value := .native ⟨some .protocolBase, "__init__"⟩

/-- The first initialiser of a line of descent that is not the mark of a protocol, as a value. -/
def initialiserAfterProtocols (s : Store) : List Kind → Value
  | [] => .native ⟨some .object, "__init__"⟩
  | k :: rest =>
    match s.initialiser? [k] with
    | some (.declared f) =>
      if f = protocolInitialiser then initialiserAfterProtocols s rest else f
    | some (.library l) => .native ⟨some l, "__init__"⟩
    | none => initialiserAfterProtocols s rest

/-- Initialises an instance of a descendant of a protocol: on the first time, its class finds the
    initialiser that it uses from then on. -/
def initProtocol (call : Call) (v : Value) (args : Args) : Run Unit := do
  let s ← store
  let k := s.kindOf v
  if ← truth call (← getAttr call (.kind k) "_is_protocol") then fail .typeError
  match s.initialiser? (s.lineage k) with
  | some (.declared f) =>
    if f = protocolInitialiser then do
      let found := initialiserAfterProtocols s (s.lineage k)
      -- The first instance changes the class for all later ones.
      modifyStore (·.setClassAttr k "__init__" found)
      let f ← getAttr call (.kind k) "__init__"
      let _ ← call f { args with positional := v :: args.positional }
  | _ => return

/-- Calls an initialiser of the library as a function: the instance comes first. -/
def callInitialiser (call : Call) (l : LibraryKind) (args : Args) : Run Value := do
  match args.positional with
  | v :: rest => do
    let args := { args with positional := rest }
    if l = .protocolBase then initProtocol call v args else initLibrary call l v args
    return .none
  | [] => fail .typeError

/-- Runs an initialiser on an instance, and gives what it gives. -/
def runInitialiser (call : Call) (init : Store.Maker) (v : Value) (args : Args) :
    Run Value := do
  match init with
  | .declared f => do
    let f ← bindValue call v (← kindOf v) f
    call f args
  | .library l => do
    initLibrary call l v args
    return .none

/-! ### Construction -/

/-- Allocates an instance of a kind: by the nearest allocator, which is given the class first. -/
def allocate (call : Call) (k : Kind) (args : Args) : Run Value := do
  let s ← store
  match s.allocator? (s.lineage k) with
  | some (.declared _) => do
    let f ← getAttr call (.kind k) "__new__"
    call f { args with positional := .kind k :: args.positional }
  | some (.library l) => allocateLibrary call l k args
  | none => fail .typeError

/-- Makes a plain key; its class is told by what it is made from. -/
def makeKey (call : Call) (isIndex : Bool) (args : Args) : Run Value := do
  match ← bindNames [if isIndex then "value" else "name"] args with
  | [some x] => do
    let name ← textOf call x
    if isIndex then newKey { name, number := some (← intOf call x) } else newKey (.ofText name)
  | _ => fail .typeError

/-- Makes an instance of a kind. An initialiser must give nothing. -/
def instantiate (call : Call) (k : Kind) (args : Args) : Run Value := do
  match k with
  | .library .key => makeKey call false args
  | .library .indexKey => makeKey call true args
  | k =>
    let v ← allocate call k args
    let s ← store
    let line := s.lineage (s.kindOf v)
    -- An allocator may give an instance of another class, which is left as it is.
    if !line.contains k then return v
    else match s.initialiser? line with
      | some init => do
        if (← runInitialiser call init v args) ≠ .none then fail .typeError
        return v
      | none => return v

end Host

end ScriptBridge
