import ScriptBridge.Host.Attribute
import ScriptBridge.Number.Complex

namespace ScriptBridge

/-!
# Texts of values and keys

How values are shown inside messages, keys and other values, and the readable form of a value. A
declared class may define both itself. Addresses are not shown: an object without content of its own
shows its kind only.

* `Host.display` is the form that tells values of different types apart;
* `Host.textOf` is the readable form;
* `Host.keyOf` is the key of a value: a key stands for itself, an integer remembers its number, and
  anything else goes by its readable form;
* `Host.describe` is how a fault is reported as the cause of another.
-/

/-- How deep values may be nested for display and comparison. -/
def nestingLimit : Nat := 1000

namespace Store

/-- Names with commas between. -/
def commas (parts : List String) : String := ", ".intercalate parts

/-- An object that is shown by its kind only. -/
def showByKind (s : Store) (k : Kind) : String :=
  "<" ++ s.typeName k ++ " object at #ID>"

/-- A class, and whether an instance goes with it. -/
def showTarget (word cls : String) (inst : Value) : String :=
  "<" ++ word ++ " " ++ cls ++ " " ++ (if inst = .none then "static" else "instance=#ID") ++ ">"

/-- A key as it is shown. -/
def showKey (k : Key) : String :=
  match k.number with
  | some n => "IntKey<" ++ toString n ++ ">"
  | none => "Key<" ++ Quoted.text k.name ++ ">"

/-- The name of a function or of whatever else can be called. -/
def functionName (s : Store) (v : Value) : String :=
  match v with
  | .kind k => s.name k
  | .native f => f.name
  | v => match s.body? v with
    | some (.function f) => f.name
    | some (.bound (.native f) _) => f.name
    | some (.bound f _) => match s.body? f with
      | some (.function f) => f.name
      | _ => ""
    | _ => ""

/-- The text of a fraction, unless its terms have too many digits. -/
def fractionText (r : Ratio) : Except Fault String :=
  if (decimalText? r.num).isSome && (decimalText? r.den).isSome then .ok r.text
  else .error .tooManyDigits

/-- A value without content, as it is shown. -/
def showScalar (s : Store) (kindName : String) (v : Value) : Except Fault String :=
  match v with
  | .none => .ok "None"
  | .absent => .ok "<absent>"
  | .bool b => .ok (if b then "True" else "False")
  | .int n => match decimalText? n with
    | some t => .ok t
    | none => .error .tooManyDigits
  | .real x => .ok x.text
  | .complex re im => .ok (Double.complexText re im)
  | .fraction r => match decimalText? r.num, decimalText? r.den with
    | some n, some d => .ok (kindName ++ "(" ++ n ++ ", " ++ d ++ ")")
    | _, _ => .error .tooManyDigits
  | .decimal d => .ok ("Decimal('" ++ d.text ++ "')")
  | .text t => .ok (Quoted.text t)
  | .key k => .ok (showKey k)
  | .kind k => .ok ("<class '" ++ s.typeName k ++ "'>")
  | .native f => .ok <| match f.owner with
    | none => "<built-in function " ++ f.name ++ ">"
    | some k => "<method '" ++ f.name ++ "' of '" ++ k.name ++ "' objects>"
  | .nativeField f => .ok <| match f.owner with
    | none => "<attribute '" ++ f.name ++ "'>"
    | some k => match fieldSort f with
      | .property => s.showByKind (.library .property)
      | .slotEntry => "<member '" ++ f.name ++ "' of '" ++ k.name ++ "' objects>"
      | _ => "<attribute '" ++ f.name ++ "' of '" ++ k.name ++ "' objects>"
  | v => .ok (s.showByKind (s.kindOf v))

end Store

namespace Host

open Run

/-- The qualified name of a class given as a value. -/
def qualifiedNameOf (call : Call) : Value → Run String
  | .kind k => do return (← store).qualifiedName k
  | v => do textResult (← getAttr call v "__qualname__")

/-- The names of the variables of a scope, as it shows them. -/
def variableNames (call : Call) (bindings : Value) : Run (List String) := do
  match ← body? bindings with
  | some (.struct m _) => return m.keys.map (·.name)
  | _ => do
    let names ← operate call "list" [← callMethod call bindings "keys" []]
    match ← body? names with
    | some (.list items) => items.mapM textResult
    | _ => fail .typeError

/-- Shows a value; `within` are the containers it is shown in, which are not entered again. -/
def showWith (call : Call) (fuel : Nat) (within : List Value) (v : Value) : Run String := do
  match fuel with
  | 0 => fail (.host .recursionError "")
  | fuel + 1 =>
    let s ← store
    let k := s.kindOf v
    match ← callSpecial? call v "__repr__" [] with
    | some r => textResult r
    | none =>
      let item := showWith call fuel
      let inner := v :: within
      -- Meeting a container inside itself ends the walk, each class with a sign of its own.
      let guarded (cycle : String) (x : Run String) : Run String :=
        if v ∈ within then return cycle else x
      let listed (items : List Value) : Run String := do
        return "[" ++ Store.commas (← items.mapM (item inner)) ++ "]"
      let pairs (m : HostMap) : Run String := do
        let shown ← m.entries.mapM fun (k, v) => do
          return (← item inner k.value) ++ ": " ++ (← item inner v)
        return "\x7b" ++ Store.commas shown ++ "\x7d"
      match v with
      | .scope i =>
        match s.scopes[i]? with
        | none => return ""
        | some c => do
          let names ← variableNames call c.bindings
          let parent ← match c.parent with
            | .none => pure false
            | .scope _ => pure true
            | v => do pure ((← operate call "truth" [v]) = .bool true)
          let parent := if parent then ", parent=#ID" else ""
          return "<" ++ s.name k ++ " variables=[" ++ Store.commas names ++ "]" ++ parent ++ ">"
      | v =>
        match s.content? v with
        | none => orFail (s.showScalar (s.name k) v)
        | some b =>
          match b with
          | .list items => guarded "[...]" (listed items)
          | .deque items limit => guarded "[...]" do
            let bound := limit.elim "" fun n => ", maxlen=" ++ toString n
            return s.name k ++ "(" ++ (← listed items) ++ bound ++ ")"
          | .tuple items => guarded "(...)" do
            let shown ← items.mapM (item inner)
            return match shown with
              | [one] => "(" ++ one ++ ",)"
              | _ => "(" ++ Store.commas shown ++ ")"
          | .dict m => guarded "\x7b...\x7d" (pairs m)
          | .mapView m => do return "mappingproxy(" ++ (← pairs m) ++ ")"
          -- A struct does not guard itself; only the fuel ends a circle of structs.
          | .struct m _ => do
            let shown ← m.entries.mapM fun (k, v) => do
              return k.name ++ ": " ++ (← item within v)
            return "Struct\x7b" ++ Store.commas shown ++ "\x7d"
          | .array items _ => do
            return "Array(" ++ (← guarded "[...]" (listed items)) ++ ")"
          | .side .. => do
            match ← operate call "list" [v] with
            | x => match ← body? x with
              | some (.list items) => guarded "..." do
                return s.name k ++ "(" ++ (← listed items) ++ ")"
              | _ => return s.showByKind k
          | .bytes items => return Quoted.bytes items
          | .byteArray items => return s.name k ++ "(" ++ Quoted.bytes items ++ ")"
          | .byteView .. => return "<memory at #ID>"
          | .range start stop step =>
            let ends := toString start ++ ", " ++ toString stop
            return "range(" ++ ends ++ (if step = 1 then "" else ", " ++ toString step) ++ ")"
          | .scalar x => orFail (s.showScalar (s.name k) x)
          | .error args => do
            return s.name k ++ "(" ++ Store.commas (← args.mapM (item inner)) ++ ")"
          | .key k => return Store.showKey k
          | .wrapper cls inst _ => do
            return Store.showTarget "DynamicObject" (← qualifiedNameOf call cls) inst
          | .target cls inst =>
            return Store.showTarget "TargetRef" (s.qualifiedName cls) inst
          | .function f => return "<function " ++ f.name ++ " at #ID>"
          | .bound _ r => do
            return "<bound method " ++ s.functionName v ++ " of " ++ (← item within r) ++ ">"
          | .staticMethod f => do return "<staticmethod(" ++ (← item within f) ++ ")>"
          | .classMethod f => do return "<classmethod(" ++ (← item within f) ++ ")>"
          | .slotEntry owner name =>
            return "<member '" ++ name ++ "' of '" ++ s.name owner ++ "' objects>"
          | .property .. | .words _ | .entriesOf _ | .itemsOf _ | .viewOf _ => return s.showByKind k
          | .plain =>
            if s.descends k .metadata then do
              let card ← getAttr call v "meta"
              let name ← operate call "getitem" [card, .text "qualifiedName"]
              return "<GenericMeta " ++ (← textResult (← operate call "str" [name])) ++ ">"
            else return s.showByKind k

/-- Shows a value. -/
def display (call : Call) (v : Value) : Run String :=
  showWith call nestingLimit [] v

/-! ### Readable forms -/

/-- The readable form of an error: its argument, shown quoted for a missing key; an error of the
    system shows its number. -/
def errorText (call : Call) (v : Value) (args : List Value) : Run String := do
  let s ← store
  let ofSystem := s.isA v .osError
  let text (x : Value) : Run String := do textResult (← operate call "str" [x])
  let numbered (number words : Value) : Run String := do
    return "[Errno " ++ (← text number) ++ "] " ++ (← text words)
  let number ← slotValue? v .osError "errno"
  let words ← slotValue? v .osError "strerror"
  let file ← slotValue? v .osError "filename"
  let other ← slotValue? v .osError "filename2"
  match ofSystem, file, number, words with
  | true, some file, _, _ => do
    let start ← numbered (number.getD .none) (words.getD .none)
    let shown ← display call file
    let more ← match other with
      | some other => do pure (" -> " ++ (← display call other))
      | none => pure ""
    return start ++ ": " ++ shown ++ more
  | true, none, some number, some words => numbered number words
  | _, _, _, _ => match args with
    | [] => return ""
    -- A missing key is quoted, so that an empty one can be seen.
    | [a] => if s.isA v .keyError then display call a else text a
    | args => do
      let shown ← args.mapM (display call)
      return "(" ++ Store.commas shown ++ ")"

/-- The readable form of a value. -/
def textOf (call : Call) (v : Value) : Run String := do
  match v with
  | .text t => return t
  | v =>
    match ← callSpecial? call v "__str__" [] with
    | some r => textResult r
    | none =>
      let s ← store
      match (← librarySpecial? v "__str__"), s.scalar v, s.content? v with
      | some .text, .text t, _ => return t
      | some .fraction, .fraction r, _ => orFail (Store.fractionText r)
      | some .decimal, .decimal d, _ => return d.text
      | some .key, .key k, _ => return k.name
      | some .key, _, some (.key k) => return k.name
      | some .mapView, _, some (.mapView m) => do display call (← newDict m)
      | some .object, _, _ => display call v
      | _, _, some (.error args) => errorText call v args
      | _, _, _ => display call v

/-- The key of a value. -/
def keyOf (call : Call) (v : Value) : Run Key := do
  let s ← store
  match s.key? v with
  | some k => return k
  | none =>
    let name ← textOf call v
    match s.scalar v with
    -- The name is what the value says of itself, which need not spell its number.
    | .int n => return { name, number := some n }
    | _ => return .ofText name

/-! ### Faults -/

/-- The name of the class of error that a fault is. -/
def faultName (s : Store) : Fault → String
  | .engine r | .wrapped r _ => r.kind.name
  | .host k _ => k.name
  | .raised e => s.name (s.kindOf e)

/-- Whether a fault is an ordinary error, which the engine may report as a cause. -/
def isOrdinary (s : Store) (f : Fault) : Bool := faultIsA s f .exception

/-- A value as it is written into a text. A declared class may write its instances itself. -/
def inlineText (call : Call) (v : Value) : Run String := do
  match ← callSpecial? call v "__format__" [.text ""] with
  | some r => textResult r
  | none => textOf call v

/-- How a fault is reported as a cause: its class and its text. The host's own wording is not
    shown. -/
def describe (call : Call) (f : Fault) : Run String := do
  let name := faultName (← store) f
  match f with
  | .engine r | .wrapped r _ => return name ++ ": " ++ r.message
  | .host .. => return name ++ ": *"
  | .raised e => return name ++ ": " ++ (← inlineText call e)

end Host

end ScriptBridge
