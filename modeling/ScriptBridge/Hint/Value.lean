import ScriptBridge.Hint
import ScriptBridge.Hint.Expression

namespace ScriptBridge

/-!
# Values in the making of hints

The expressions that hints are made by give values: hints, the forms that make hints of others, and
plain values, most of which are hints that accept anything. An operation on the wrong thing fails
with a class of error.

* `HintValue.toHint` is the hint that a value is taken for;
* `HintValue.asArgument` is a value as an argument of a form, which refuses some;
* `HintValue.optional`, `HintValue.union`, `HintValue.bar` and the like make hints.
-/

/-- A value in the making of a hint. -/
inductive HintValue where
  | hint (h : Hint)
  /-- A form of hint that takes arguments. -/
  | form (name : String)
  /-- The package that has the forms. -/
  | package
  | ellipsis
  | bool (b : Bool)
  | int (n : Int)
  | real (x : Double)
  | text (s : String)
  | list (items : List HintValue)
  | tuple (items : List HintValue)
  | set (items : List HintValue)
  | dict (pairs : List (HintValue × HintValue))
  /-- A part of a sequence, by its bounds and its step. -/
  | slice (start stop step : HintValue)
  /-- A function of the host's core. -/
  | function (name : String)
  /-- A method of a value. -/
  | method (of : HintValue) (name : String)
  /-- Some instance of a class, and whether it counts as true. -/
  | sample (k : Kind) (isTrue : Bool)
deriving Inhabited

namespace HintValue

/-- The empty value. -/
def empty : HintValue := .hint .nothing

/-- The forms of hints that stand for a class with arguments. -/
def formKind? : String → Option LibraryKind
  | "List" => some .list
  | "Dict" => some .dict
  | "Tuple" => some .tuple
  | _ => none

/-- The forms of hints that can be named. -/
def forms : List String := ["Optional", "Union", "List", "Dict", "Tuple", "ClassVar"]

/-- The hint that a value is taken for. -/
def toHint : HintValue → Hint
  | .hint h => h
  | .form "ClassVar" => .classWide none
  | .form n => match formKind? n with
    | some k => .typed (.library k) []
    | none => .unspecific
  | _ => .unspecific

/-- Whether a value counts as true. -/
def isTrue : HintValue → Bool
  | .hint .nothing => false
  | .bool b => b
  | .int n => n ≠ 0
  | .real x => !x.isZero
  | .text s => !s.isEmpty
  | .list items | .tuple items | .set items => !items.isEmpty
  | .dict pairs => !pairs.isEmpty
  | .sample _ b => b
  | _ => true

/-- Whether a value is a class, or is made of classes and the empty value by arguments and bars. -/
def isPlain : HintValue → Bool
  | .hint .any | .hint .nothing | .hint (.kind _) | .hint (.generic ..) | .hint (.union true ..) =>
    true
  | _ => false

/-- Whether a value is a form of hint, or made by one. -/
def isFormal (v : HintValue) : Bool :=
  match v with
  | .hint _ => !v.isPlain
  | .form _ => true
  | _ => false

/-- A text within another hint, which must be an expression. -/
def forward (t : String) : Except LibraryKind Hint :=
  -- a star before an expression spreads it
  let t' := if t.startsWith "*" then "(" ++ t ++ ",)[0]" else t
  if (HintExpr.parse? false t').isSome then .ok (.forward t) else .error .syntaxError

/-- A value within another hint: a text must be an expression, and the empty value stands for its
    class. -/
def converted : HintValue → Except LibraryKind Hint
  | .text t => forward t
  | .hint .nothing => .ok (.kind (.library .noneType))
  | v => .ok v.toHint

/-- A value as an argument of a form. Forms that lack their arguments, protocols, tuples and what
    announces fields of the class are refused; `announces` lets the last pass. -/
def asArgument (announces : Bool) (v : HintValue) : Except LibraryKind Hint :=
  match v with
  | .hint (.classWide of) => if announces then .ok (.classWide of) else .error .typeError
  | .form "ClassVar" => if announces then .ok (.classWide none) else .error .typeError
  | .hint (.kind (.library .protocolBase)) | .hint (.typed (.library .protocolBase) _)
  | .form "Optional" | .form "Union" | .tuple _ => .error .typeError
  | v => v.converted

/-- The union of some values, of which there must be one. -/
def union (args : List HintValue) : Except LibraryKind HintValue := do
  match ← args.mapM (asArgument false) with
  | [] => throw .typeError
  | first :: rest => return .hint (.unite false first rest)

/-- A value, or the empty value. -/
def optional (v : HintValue) : Except LibraryKind HintValue := do
  return .hint (.unite false (← v.asArgument false) [.kind (.library .noneType)])

/-- Two values with a bar between: classes are alternatives, and so is whatever a form made or is
    put beside. -/
def bar (a b : HintValue) : Except LibraryKind HintValue :=
  match a, b with
  -- Here the empty value is a value, not yet its class, and takes no bar.
  | .hint .nothing, .hint .nothing => .error .typeError
  | a, b =>
    if a.isFormal || b.isFormal then union [a, b]
    else if a.isPlain && b.isPlain then do
      return .hint (.unite true (← a.converted) [← b.converted])
    else .error .typeError

/-- Things that can be called, with the hints of parameters and result. -/
def callable (params : List HintValue) (result : HintValue) : Except LibraryKind HintValue := do
  let result ← result.asArgument false
  let params ← params.mapM converted
  return .hint (.typed (.library .callable) (params ++ [result]))

/-- A hint with remarks attached. -/
def annotated (v : HintValue) : Except LibraryKind HintValue := do
  return .hint (.annotated (← v.asArgument true))

/-- What announces a field of the class. -/
def classWide (v : HintValue) : Except LibraryKind HintValue := do
  return .hint (.classWide (some (← v.asArgument false)))

/-- A form of hint with arguments in brackets. -/
def applyForm (name : String) (args : List HintValue) : Except LibraryKind HintValue :=
  match name, args with
  | "Optional", [v] => optional v
  | "Union", args => union args
  | "ClassVar", [v] => classWide v
  | "List", [v] => typed .list [v]
  | "Dict", [k, v] => typed .dict [k, v]
  | "Tuple", [] => typed .tuple []
  | "Tuple", args =>
    -- Dots at the end leave open how many there are.
    let isOpen : Bool := match args.getLast? with
      | some .ellipsis => args.length ≥ 2
      | _ => false
    typed .tuple (if isOpen then args.dropLast else args)
  | _, _ => .error .typeError
where
  /-- The form of a class, with arguments. -/
  typed (k : LibraryKind) (args : List HintValue) : Except LibraryKind HintValue := do
    return .hint (.typed (.library k) (← args.mapM (asArgument false)))

/-- The class of functions with arguments: the parameters in a list or left open, and the result. -/
def applyCallable (k : Kind) (args : List HintValue) : Except LibraryKind HintValue :=
  match args with
  | [.list params, result] | [.tuple params, result] =>
    .ok (.hint (.generic k ((params ++ [result]).map toHint)))
  | [.ellipsis, result] => .ok (.hint (.generic k [result.toHint]))
  | _ => .error .typeError

/-- The protocol class with arguments, which must all be type variables. -/
def applyProtocol (k : Kind) (args : List HintValue) : Except LibraryKind HintValue := do
  let args ← args.mapM converted
  let isVariable (h : Hint) : Bool := match h with
    | .unspecific => true
    | _ => false
  if k = .library .protocolBase && !args.isEmpty && args.all isVariable then
    return .hint (.typed k args)
  else throw .typeError

/-- How a class takes arguments in brackets. -/
inductive Subscript where
  /-- It does not. -/
  | refused
  | plain
  /-- As the class of functions does. -/
  | callable
  /-- As protocols do. -/
  | protocol
deriving DecidableEq, Repr

/-- A class with arguments in brackets. -/
def applyKind (how : Subscript) (k : Kind) (args : List HintValue) :
    Except LibraryKind HintValue :=
  match how with
  | .refused => .error .typeError
  | .plain => .ok (.hint (.generic k (args.map toHint)))
  | .callable => applyCallable k args
  | .protocol => applyProtocol k args

end HintValue

end ScriptBridge
