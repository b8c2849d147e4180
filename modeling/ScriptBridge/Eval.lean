import ScriptBridge.Host.Sum
import ScriptBridge.Native

namespace ScriptBridge

/-!
# Evaluation

Building the values of literals, running the bodies of functions, and calling values of every sort.
Everything that calls a value takes the call as an argument; `Host.callAt` ties the knot, and a
chain of calls that is too deep fails.

* `Host.build` builds the value of a literal;
* `Host.eval` runs a body in a frame;
* `Host.callAt` calls a value, up to a depth.
-/

namespace Host

open Run

/-- The class of a name. -/
def kindNamed (name : String) : Run Kind := do
  match (← store).kindNamed? name with
  | some k => return k
  | none => fail (.host .keyError (Quoted.text name))

/-- The value of a variable of the session. -/
def variableNamed (name : String) : Run Value := do
  match (← bindings).get? name with
  | some v => return v
  | none => fail (.host .keyError (Quoted.text name))

/-- The number of a class that a text spells. -/
def spelled (call : Call) (k : LibraryKind) (t : String) : Run Value :=
  call (.kind (.library k)) { positional := [.text t] }

/-! ### Hints -/

/-- A result that may fail with a class of the host's errors. -/
def orHostError {α : Type} : Except LibraryKind α → Run α
  | .ok a => return a
  | .error k => fail (.host k "")

mutual

/-- Makes the value of a hint. Its classes must be known, and each form must accept its
    arguments. -/
def hintValue : HintDecl → Run HintValue
  | .any => return .hint .any
  | .nothing => return .empty
  | .kind name => do return .hint (.kind (← kindNamed name))
  | .optional h => do orHostError (← hintValue h).optional
  | .union members => do orHostError (HintValue.union (← hintValues members))
  | .bars members => do
    match ← hintValues members with
    | [] => fail .typeError
    | v :: rest => rest.foldlM (fun a b => orHostError (a.bar b)) v
  | .generic name args => do
    let k ← kindNamed name
    let args ← hintValues args
    orHostError (HintValue.applyKind ((← store).hintSubscript k) k args)
  | .callable parts => do
    match (← hintValues parts).reverse with
    | [] => fail .valueError
    | result :: params => orHostError (HintValue.callable params.reverse result)
  | .unspecific => return .hint .unspecific
  | .newName h => do
    let _ ← hintValue h
    return .hint .unspecific
  | .annotated h => do orHostError (← hintValue h).annotated
  | .classWide none => return .form "ClassVar"
  | .classWide (some h) => do orHostError (← hintValue h).classWide
  | .written t => return .text t

/-- Makes the values of several hints, in order. -/
def hintValues : List HintDecl → Run (List HintValue)
  | [] => return []
  | h :: rest => do
    let v ← hintValue h
    return v :: (← hintValues rest)

end

/-- Makes a hint. A text by itself is read when a signature is. -/
def makeHint (h : HintDecl) : Run Hint := do
  match ← hintValue h with
  | .text t => return .written t
  | v => return v.toHint

/-- Parameters as the host takes them. -/
def arranged (params : List Param) : Run (List Param) :=
  match Param.arrange? params with
  | some params => return params
  | none => fail (.host .syntaxError "")

/-! ### Literals -/

/-- Some integers as bytes. -/
def bytesFrom (items : List Int) : Run (List Nat) :=
  items.mapM fun n => if 0 ≤ n ∧ n ≤ 255 then return n.toNat else fail .valueError

mutual

/-- Builds the value of a literal. -/
def build (call : Call) : Literal → Run Value
  | .none => return .none
  | .absent => return .absent
  | .bool b => return .bool b
  | .int n => return .int n
  | .numeral t => spelled call .int t
  | .real t => spelled call .real t
  | .complex t => spelled call .complex t
  | .fraction t => spelled call .fraction t
  | .decimal t => spelled call .decimal t
  | .text t => return .text t
  | .repeated t n => return .text (String.join (List.replicate n t))
  | .list items => do newList (← buildAll call items)
  | .tuple items => do newTuple (← buildAll call items)
  | .deque items => do
    alloc { kind := .library .deque, body := .deque (← buildAll call items) none }
  | .array items => do newArray (← buildAll call items)
  | .dict pairs => do newDict (← buildEntries call {} pairs)
  | .mapView pairs => do
    let owner ← newDict (← buildEntries call {} pairs)
    alloc { kind := .library .mapView, body := .viewOf owner }
  | .struct pairs => do
    let v ← newStruct {}
    buildInto call v pairs
    return v
  | .bytes items => do alloc { kind := .library .bytes, body := .bytes (← bytesFrom items) }
  | .byteArray items => do
    alloc { kind := .library .byteArray, body := .byteArray (← bytesFrom items) }
  | .byteView writable items => do
    let items ← bytesFrom items
    let owner ←
      if writable then alloc { kind := .library .byteArray, body := .byteArray items }
      else alloc { kind := .library .bytes, body := .bytes items }
    alloc { kind := .library .byteView, body := .viewOf owner }
  | .words items => alloc { kind := .words items.length, body := .words (items.map wrapWord) }
  | .range start stop step =>
    if step = 0 then fail .valueError
    else alloc { kind := .library .range, body := .range start stop step }
  | .key l => do
    Native.keyFrom call (.library .key) (← build call l)
  | .new name args => do
    let args ← buildAll call args
    call (.kind (← kindNamed name)) { positional := args }
  | .kind name => do return .kind (← kindNamed name)
  | .target name inst => do newTarget (← kindNamed name) (← buildOption call inst)
  | .wrapped l => do Wrapper.of (← build call l) .main
  | .function d => newFunction call d
  -- Two of the functions that stand for themselves are classes.
  | .native "str" => return .kind (.library .text)
  | .native "int" => return .kind (.library .int)
  | .native name => return .native ⟨none, name⟩
  | .scope "root" => do return .scope (← service .main).root
  | .scope name | .variable name => variableNamed name

/-- Builds the values of several literals, in order. -/
def buildAll (call : Call) : List Literal → Run (List Value)
  | [] => return []
  | l :: rest => do
    let v ← build call l
    return v :: (← buildAll call rest)

/-- Builds the entries of a host map one after the other: the key, then the value. -/
def buildEntries (call : Call) (m : HostMap) : List (Literal × Literal) → Run HostMap
  | [] => return m
  | (k, x) :: rest => do
    let k ← build call k
    let x ← build call x
    buildEntries call (← insertKey call m k x) rest

/-- Writes entries into a container one after the other: the value is built before the key. -/
def buildInto (call : Call) (v : Value) : List (Literal × Literal) → Run Unit
  | [] => return
  | (k, x) :: rest => do
    let x ← build call x
    setItem call v (← build call k) x
    buildInto call v rest

/-- Builds the value of an optional literal. -/
def buildOption (call : Call) : Option Literal → Run Value
  | none => return .none
  | some l => build call l

/-- Builds the default of a parameter. -/
def buildFallback (call : Call) : Option Literal → Run (Option Value)
  | none => return none
  | some l => do return some (← build call l)

/-- Builds parameters: their hints are made and their defaults become values. -/
def buildParams (call : Call) : List ParamDecl → Run (List Param)
  | [] => return []
  | ⟨name, form, hint, fallback⟩ :: rest => do
    let hint ← hint.mapM makeHint
    let fallback ← buildFallback call fallback
    let p : Param := { name, form, hint, fallback }
    return p :: (← buildParams call rest)

/-- Builds a function that stands by itself. -/
def newFunction (call : Call) : FunctionDecl → Run Value
  | ⟨name, params, body⟩ => do
    let params ← arranged (← buildParams call params)
    alloc { kind := .library .function,
            body := .function { name, params, body, hasReceiver := false, frame := {} } }

end

/-! ### Calling functions -/

/-- The values of parameters for the arguments of a call, or the host's refusal. -/
def bindParams (params : List Param) (args : Args) : Run (List (String × Value)) := do
  let places := params.filter Param.takesPosition
  let byPosition := (places.map (·.name)).zip args.positional
  let surplus := args.positional.drop places.length
  let rest := params.find? (·.form = .rest)
  if !surplus.isEmpty && rest.isNone then fail .typeError
  -- A parameter of any other form is unknown by its name, which then goes to the rest.
  let byName (n : String) : Bool :=
    params.any fun p => p.name == n && (p.form = .normal || p.form = .named)
  let (known, unknown) := args.named.partition fun (n, _) => byName n
  let restNamed := params.find? (·.form = .restNamed)
  if !unknown.isEmpty && restNamed.isNone then fail .typeError
  -- Given both by position and by name.
  if known.any fun (n, _) => (byPosition.lookup n).isSome then fail .typeError
  let given := byPosition ++ known
  params.mapM fun p => do
    match p.form with
    | .rest => do return (p.name, ← newTuple surplus)
    | .restNamed => do
      return (p.name, ← newDict (.ofList (unknown.map fun (n, v) => (MapKey.ofText n, v))))
    | _ =>
      match given.lookup p.name <|> p.fallback with
      | some v => return (p.name, v)
      | none => fail .typeError

/-- The frame that the body of a function runs in. The receiver is the first parameter of a method;
    any other function sees the one of the frame it was created in, if there is one. -/
def frameOf (f : Function) (bound : List (String × Value)) : Frame :=
  { locals := bound ++ f.frame.locals
    receiver := if f.hasReceiver then bound.head?.map (·.2) else f.frame.receiver
    owner := f.frame.owner }

/-- The receiver that a body runs on. A function that stands by itself has none. -/
def receiverOf (frame : Frame) : Run Value :=
  match frame.receiver with
  | some v => return v
  | none => fail (.host .keyError (Quoted.text "self"))

/-- The value of a parameter. -/
def paramNamed (frame : Frame) (name : String) : Run Value :=
  match frame.locals.lookup name with
  | some v => return v
  | none => fail (.host .keyError (Quoted.text name))

/-- The scope that a body was given. -/
def givenScope (frame : Frame) : Run Value := paramNamed frame "context"

/-- Runs the next initialiser along the line of descent of a receiver, after a class. -/
def initialiseNext (call : Call) (owner : Option Kind) (self : Value) (args : List Value) :
    Run Unit := do
  let s ← store
  -- The search starts after the class that the code stands in, in the line of the instance.
  match (s.lineage (s.kindOf self)).dropWhile fun k => some k ≠ owner with
  | [] => fail .typeError
  | _ :: rest =>
    match s.initialiser? rest with
    | some init => do
      let _ ← runInitialiser call init self { positional := args }
    | none => return

/-- Raises an instance of an error class. What is raised is marked first, so a value that takes no
    attributes is refused on that account. -/
def raiseError (v : Value) : Run Value := do
  let s ← store
  if s.isA v .baseError then fail (.raised v)
  else if s.takesAttrs v then fail .typeError
  else fail .attributeError

mutual

/-- Runs an expression in a frame. -/
def eval (call : Call) (frame : Frame) : Expr → Run Value
  | .literal l => build call l
  | .param name => paramNamed frame name
  | .self => receiverOf frame
  | .attr name => do getAttr call (← receiverOf frame) name
  -- What is written is run before the receiver is asked for, here and below.
  | .setAttr name e => do
    let v ← eval call frame e
    setAttr call (← receiverOf frame) name v
    return v
  | .add a b => do
    let x ← eval call frame a
    let y ← eval call frame b
    add call x y
  | .concat parts => do return .text (String.join (← evalTexts call frame parts))
  | .tuple items => do newTuple (← evalAll call frame items)
  | .list items => do newList (← evalAll call frame items)
  | .struct fields => do
    let pairs ← evalFields call frame fields
    newStruct (.ofList (pairs.map fun (n, v) => (Key.ofText n, v)))
  | .sequence steps => do return (← evalAll call frame steps).getLastD .none
  | .cond c a b => do
    let test ← eval call frame c
    if ← truth call test then eval call frame a else eval call frame b
  | .isNone e => do return .bool ((← eval call frame e) = .none)
  | .raise name args => do
    let args ← evalAll call frame args
    raiseError (← call (.kind (← kindNamed name)) { positional := args })
  | .scopeGet name => do
    match ← givenScope frame with
    | .none => return .text "<no context>"
    | scope => callMethod call scope "get" [.text name, .text "<none>"]
  | .scopeSet name e => do
    let v ← eval call frame e
    setItem call (← givenScope frame) (.text name) v
    return .none
  | .thisGet name => do
    getItem call (← getAttr call (← receiverOf frame) "this_scope") (.text name)
  | .thisSet name e => do
    let v ← eval call frame e
    setItem call (← getAttr call (← receiverOf frame) "this_scope") (.text name) v
    return .none
  | .closure ⟨name, params, body⟩ => do
    let params ← arranged (← buildParams call params)
    alloc { kind := .library .function,
            body := .function { name, params, body, hasReceiver := false, frame } }
  | .superInit args => do
    let args ← evalAll call frame args
    initialiseNext call frame.owner (← receiverOf frame) args
    return .none
  | .new name args => do
    let args ← evalAll call frame args
    call (.kind (← kindNamed name)) { positional := args }
  | .kindName e => do return .text (← typeNameOf (← eval call frame e))

/-- Runs several expressions, in order. -/
def evalAll (call : Call) (frame : Frame) : List Expr → Run (List Value)
  | [] => return []
  | e :: rest => do
    let v ← eval call frame e
    return v :: (← evalAll call frame rest)

/-- Runs several expressions, in order, and reads the text of each before the next. -/
def evalTexts (call : Call) (frame : Frame) : List Expr → Run (List String)
  | [] => return []
  | e :: rest => do
    let t ← textOf call (← eval call frame e)
    return t :: (← evalTexts call frame rest)

/-- Runs the expressions of named fields, in order. -/
def evalFields (call : Call) (frame : Frame) : List (String × Expr) → Run (List (String × Value))
  | [] => return []
  | (n, e) :: rest => do
    let v ← eval call frame e
    return (n, v) :: (← evalFields call frame rest)

end

/-- Calls a value, given how to call the values it calls. -/
def callStep (call : Call) (v : Value) (args : Args) : Run Value := do
  match v with
  | .kind k => instantiate call k args
  | .native f => Native.invoke call f args
  | v =>
    let s ← store
    match s.body? v with
    | some (.function f) => do
      let bound ← bindParams f.params args
      eval call (frameOf f bound) f.body
    | some (.bound f receiver) => call f { args with positional := receiver :: args.positional }
    | some (.staticMethod f) => call f args
    | _ =>
      let k := s.kindOf v
      -- The class decides how an instance is called; what the instance holds does not count.
      match s.declaredSpecial? k "__call__" with
      | some (_, entry) => do
        let f ← bindValue call v k entry
        call f args
      | none => fail .typeError

/-- Calls a value, with calls nested up to a depth. -/
def callAt : Nat → Call
  | 0 => fun _ _ => fail (.host .recursionError "")
  | depth + 1 => callStep (callAt depth)

/-- How deep calls may be nested. -/
def depthLimit : Nat := 1000

/-- Calls a value. -/
def callValue : Call := callAt depthLimit

end Host

end ScriptBridge
