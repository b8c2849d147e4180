import ScriptBridge.Hint.Operator
import ScriptBridge.Text.LowerCase
import ScriptBridge.Text.UpperCase

namespace ScriptBridge

/-!
# The meaning of written hints

What an expression denotes. Where it denotes nothing, it fails with the class of the host's error.
Functions and methods of the host's core are known as far as they tell hints apart; of anything else
that is called only the class of the result is told.

* `HintNames` is what the names of a program refer to;
* `HintExpr.meaning` is what an expression denotes;
* `Hint.read` reads a text as a hint.
-/

/-- What the names in written hints refer to. -/
structure HintNames where
  /-- The class of a name. -/
  kind? : String → Option Kind
  /-- Whether a class has an attribute, and the class that it is, if it is one. -/
  attribute? : Kind → String → Option (Option Kind)
  /-- Whether the instances of a class have an attribute. -/
  hasMember : Kind → String → Bool
  /-- How a class takes arguments in brackets. -/
  subscript : Kind → HintValue.Subscript
  /-- The class of a class. -/
  metaclass : Kind → Kind
  /-- Whether one class descends from another or is registered with it. -/
  isSubclass : Kind → Kind → Bool
  /-- Whether a class has no instances. -/
  isAbstract : Kind → Bool

namespace HintValue

/-! ### Classes of values -/

/-- The class of a value. -/
def kindOf (names : HintNames) : HintValue → Kind
  | .hint .nothing => .library .noneType
  | .hint .any => .core "typing._AnyMeta"
  | .hint (.kind k) => names.metaclass k
  | .hint (.generic ..) => .core "types.GenericAlias"
  | .hint (.union true ..) => .core "types.UnionType"
  | .hint (.union false ..) => .core "typing._UnionGenericAlias"
  | .hint _ => .core "typing._GenericAlias"
  | .form n =>
    .core (if (formKind? n).isSome then "typing._SpecialGenericAlias" else "typing._SpecialForm")
  | .package => .core "module"
  | .ellipsis => .core "ellipsis"
  | .bool _ => .library .bool
  | .int _ => .library .int
  | .real _ => .library .real
  | .text _ => .library .text
  | .list _ => .library .list
  | .tuple _ => .library .tuple
  | .set _ => .core "set"
  | .dict _ => .library .dict
  | .slice .. => .core "slice"
  | .function _ | .method .. => .library .nativeFunction
  | .sample k _ => k

/-- The classes that a value stands for where a class or several are asked for. -/
def classes : HintValue → Except LibraryKind (List Kind)
  | .hint (.kind k) => .ok [k]
  | .hint (.union true first rest) => .ok ((first :: rest).flatMap Hint.kinds)
  | .tuple items => items.mapM fun
    | .hint (.kind k) => .ok k
    | _ => .error .typeError
  | _ => .error .typeError

/-! ### Names and attributes -/

/-- The core classes that no value here is an instance of. -/
def coreClasses : List String :=
  ["set", "frozenset", "slice", "super", "zip", "map", "filter", "enumerate", "reversed",
   "AssertionError", "BaseExceptionGroup", "BufferError", "BytesWarning", "DeprecationWarning",
   "EOFError", "EncodingWarning", "ExceptionGroup", "FloatingPointError", "FutureWarning",
   "GeneratorExit", "ImportError", "ImportWarning", "IndentationError", "MemoryError",
   "ModuleNotFoundError", "PendingDeprecationWarning", "ReferenceError", "ResourceWarning",
   "RuntimeWarning", "StopAsyncIteration", "StopIteration", "SyntaxWarning", "SystemError",
   "SystemExit", "TabError", "UnboundLocalError", "UnicodeDecodeError", "UnicodeEncodeError",
   "UnicodeError", "UnicodeTranslateError", "UnicodeWarning", "UserWarning", "Warning"]

/-- The core functions. -/
def coreFunctions : List String :=
  ["__build_class__", "__import__", "abs", "aiter", "all", "anext", "any", "ascii", "bin",
   "breakpoint", "callable", "chr", "compile", "delattr", "dir", "divmod", "eval", "exec", "format",
   "getattr", "globals", "hasattr", "hash", "hex", "id", "input", "isinstance", "issubclass",
   "iter", "len", "locals", "max", "min", "next", "oct", "open", "ord", "pow", "print", "repr",
   "round", "setattr", "sorted", "sum", "vars"]

/-- The other core values with a name, by class. -/
def coreValues : List (String × String) :=
  [("NotImplemented", "NotImplementedType"), ("__builtins__", "dict"), ("__doc__", "str"),
   ("__loader__", "_frozen_importlib.BuiltinImporter"), ("__package__", "str"),
   ("__spec__", "_frozen_importlib.ModuleSpec"), ("copyright", "_sitebuiltins._Printer"),
   ("credits", "_sitebuiltins._Printer"), ("exit", "_sitebuiltins.Quitter"),
   ("help", "_sitebuiltins._Helper"), ("license", "_sitebuiltins._Printer"),
   ("quit", "_sitebuiltins.Quitter")]

/-- What a name denotes. -/
def ofName (names : HintNames) (t : String) : Except LibraryKind HintValue :=
  match t with
  | "None" => .ok .empty
  | "True" | "__debug__" => .ok (.bool true)
  | "False" => .ok (.bool false)
  | "Any" => .ok (.hint .any)
  | "Ellipsis" => .ok .ellipsis
  | "typing" => .ok .package
  | t =>
    match names.kind? t with
    | some k => .ok (.hint (.kind k))
    | none =>
      if forms.contains t then .ok (.form t)
      else if coreClasses.contains t then .ok (.hint (.kind (.core t)))
      else if coreFunctions.contains t then .ok (.function t)
      else if t = "__name__" then .ok (.text t)
      else match coreValues.lookup t with
        | some k => .ok (.sample (.core k) true)
        | none => .error .nameError

/-- What an attribute of a hint that a class stands behind denotes. -/
def aliasAttribute (names : HintNames) (k : Kind) (args : List Hint) (n : String) :
    Except LibraryKind HintValue :=
  match n with
  | "__origin__" => .ok (.hint (.kind k))
  | "__args__" => .ok (.tuple (args.map .hint))
  | n => if (names.attribute? k n).isSome then .ok (.sample (.library .object) true)
    else .error .attributeError

/-- What an attribute denotes. -/
def attributeOf (names : HintNames) (v : HintValue) (n : String) : Except LibraryKind HintValue :=
  match v with
  | .package => if n = "Any" || forms.contains n then ofName names n else .error .attributeError
  | .hint (.kind k) => match names.attribute? k n with
    | some (some k) => .ok (.hint (.kind k))
    | some none => .ok (.sample (.library .object) true)
    | none => .error .attributeError
  | .hint (.generic k args) | .hint (.typed k args) => aliasAttribute names k args n
  | .hint (.union _ first rest) =>
    if n = "__args__" then .ok (.tuple ((first :: rest).map .hint))
    else member (.hint (.union true first rest))
  | .int m => if n = "real" || n = "numerator" then .ok (.int m) else member v
  | v => member v
where
  /-- An attribute that all instances of a class have. -/
  member (v : HintValue) : Except LibraryKind HintValue :=
    if n = "__class__" then .ok (.hint (.kind (v.kindOf names)))
    else if names.hasMember (v.kindOf names) n then .ok (.method v n)
    else .error .attributeError

/-! ### Calls -/

/-- A text of which only the class is told. -/
def someText : HintValue := .sample (.library .text) true

/-- The integer that a value becomes. -/
def toInt (v : HintValue) : Except LibraryKind HintValue :=
  match v, v.int? with
  | _, some n => .ok (.int n)
  | .real x, _ => match x, x.ratio? with
    | _, some r => .ok (.int r.truncate)
    | .nan, _ => .error .valueError
    | _, _ => .error .overflowError
  | .text s, _ => match Numeral.integer? 10 s with
    | some n => .ok (.int n)
    | none => .error .valueError
  | _, _ => .error .typeError

/-- The floating-point number that a value becomes. -/
def toReal (v : HintValue) : Except LibraryKind HintValue :=
  match v, v.real? with
  | _, some (.infinite _) => match v with
    | .real x => .ok (.real x)
    | _ => .error .overflowError
  | _, some x => .ok (.real x)
  | .text s, _ => match Double.ofText? (stripSpace s) with
    | some x => .ok (.real x)
    | none => .error .valueError
  | _, _ => .error .typeError

/-- The text of a value, as far as it is told. -/
def toText : HintValue → HintValue
  | .text s => .text s
  | .int n => .text (toString n)
  | .bool b => .text (if b then "True" else "False")
  | .hint .nothing => .text "None"
  | _ => someText

/-- Pairs out of lists of two. -/
def pairOf (v : HintValue) : Except LibraryKind (HintValue × HintValue) := do
  match ← v.items with
  | [k, x] => if k.isHashable then .ok (k, x) else .error .typeError
  | _ => .error .valueError

/-- An instance of a class, made from arguments. -/
def construct (names : HintNames) (k : Kind) (args : List HintValue)
    (named : List (String × HintValue)) : Except LibraryKind HintValue :=
  let asText (p : String × HintValue) : HintValue × HintValue := (.text p.1, p.2)
  match k, args, named with
  | .library .type, [v], [] => .ok (.hint (.kind (v.kindOf names)))
  | .library .type, [_, _, _], _ => .ok (.sample (.library .type) true)
  | .library .type, _, _ => .error .typeError
  | .library .noneType, [], [] => .ok .empty
  | .library .noneType, _, _ => .error .typeError
  | .library .int, [], [] => .ok (.int 0)
  | .library .int, [v], [] => toInt v
  | .library .bool, [], [] => .ok (.bool false)
  | .library .bool, [v], [] => .ok (.bool v.isTrue)
  | .library .real, [], [] => .ok (.real .zero)
  | .library .real, [v], [] => toReal v
  | .library .text, [], [] => .ok (.text "")
  | .library .text, [v], [] => .ok (toText v)
  | .library .list, [], [] => .ok (.list [])
  | .library .list, [v], [] => do return .list (← v.items)
  | .library .tuple, [], [] => .ok (.tuple [])
  | .library .tuple, [v], [] => do return .tuple (← v.items)
  | .core "set", [], [] | .core "frozenset", [], [] => .ok (.set [])
  | .core "set", [v], [] | .core "frozenset", [v], [] => do
    let items ← v.items
    if items.all isHashable then return .set (distinct items) else throw .typeError
  | .library .dict, [], named => .ok (.dict (named.map asText))
  | .library .dict, [.dict pairs], named => .ok (.dict (distinctPairs (pairs ++ named.map asText)))
  | .library .dict, [v], named => do
    let pairs ← (← v.items).mapM pairOf
    return .dict (distinctPairs (pairs ++ named.map asText))
  | .library .object, [], [] => .ok (.sample k true)
  | .library .object, _, _ => .error .typeError
  | k, _, _ =>
    if names.isAbstract k then .error .typeError else .ok (.sample k true)

/-- The least of some values by an order. -/
def leastBy (less : HintValue → HintValue → Except LibraryKind Bool) :
    HintValue → List HintValue → Except LibraryKind HintValue
  | v, [] => .ok v
  | v, w :: rest => do leastBy less (if ← less w v then w else v) rest

/-- Inserts a value into a sorted list, after its equals. -/
def insertSorted (v : HintValue) : List HintValue → Except LibraryKind (List HintValue)
  | [] => .ok [v]
  | w :: rest => do
    if ← less v w then return v :: w :: rest else return w :: (← insertSorted v rest)

/-- What a core function gives. -/
def callFunction (names : HintNames) (f : String) (args : List HintValue) :
    Except LibraryKind HintValue :=
  let extreme (order : HintValue → HintValue → Except LibraryKind Bool) :
      Except LibraryKind HintValue := do
    let all ← match args with
      | [v] => v.items
      | args => pure args
    match all with
    | [] => throw (if args.isEmpty then .typeError else .valueError)
    | v :: rest => leastBy order v rest
  let sample (k : LibraryKind) : Except LibraryKind HintValue := .ok (.sample (.library k) true)
  match f, args with
  | "len", [v] => match v with
    | .list _ | .tuple _ | .set _ | .dict _ | .text _ => do return .int (← v.items).length
    | .sample (.library .bytes) _ => sample .int
    | _ => .error .typeError
  | "abs", [v] => match v.int?, v with
    | some n, _ => .ok (.int n.natAbs)
    | _, .real x => .ok (.real x.magnitude)
    | _, _ => .error .typeError
  | "isinstance", [v, k] => do
    return .bool ((← k.classes).any (names.isSubclass (v.kindOf names)))
  | "issubclass", [v, k] => match v with
    | .hint (.kind c) => do return .bool ((← k.classes).any (names.isSubclass c))
    | _ => .error .typeError
  | "callable", [v] => .ok <| .bool <| match v with
    | .hint (.kind _) | .hint (.generic ..) | .hint (.typed ..) | .hint .any | .form _
    | .function _ | .method .. => true
    | .sample k _ => names.hasMember k "__call__"
    | _ => false
  | "hasattr", [v, .text n] => .ok (.bool (attributeOf names v n).isOk)
  | "getattr", [v, .text n] => attributeOf names v n
  | "getattr", [v, .text n, d] => .ok ((attributeOf names v n).toOption.getD d)
  | "min", _ => extreme less
  | "max", _ => extreme fun a b => less b a
  | "any", [v] => do return .bool ((← v.items).any isTrue)
  | "all", [v] => do return .bool ((← v.items).all isTrue)
  | "sum", [v] => do (← v.items).foldlM (binary "+") (.int 0)
  | "sorted", [v] => do return .list (← (← v.items).foldlM (fun done x => insertSorted x done) [])
  | "ord", [.text s] => match s.toList with
    | [c] => .ok (.int c.toNat)
    | _ => .error .typeError
  | "chr", [.int n] =>
    if 0 ≤ n && n < 0x110000 then .ok (.text (String.singleton (Char.ofNat n.toNat)))
    else .error .valueError
  | "pow", [a, b] => binary "**" a b
  | "divmod", [a, b] => do return .tuple [← binary "//" a b, ← binary "%" a b]
  | "hash", [v] => if v.isHashable then sample .int else .error .typeError
  | "repr", [_] | "ascii", [_] | "format", [_] | "format", [_, _] => .ok someText
  | "bin", [v] | "hex", [v] | "oct", [v] =>
    if v.int?.isSome then .ok someText else .error .typeError
  | "id", [_] | "round", [.int _] | "round", [.real _] => sample .int
  | "print", _ => .ok .empty
  | "globals", [] | "locals", [] | "vars", [] => sample .dict
  | "dir", [] | "dir", [_] => sample .list
  | "exec", _ | "setattr", [_, _, _] | "delattr", [_, _] => .ok .empty
  | "iter", [v] => do
    let _ ← v.items
    sample .object
  | "len", _ | "abs", _ | "isinstance", _ | "issubclass", _ | "callable", _ | "hasattr", _
  | "getattr", _ | "any", _ | "all", _ | "ord", _ | "chr", _ | "hash", _ | "repr", _ | "id", _ =>
    .error .typeError
  | _, _ => sample .object

/-- What a method gives. -/
def callMethod (v : HintValue) (name : String) (args : List HintValue) :
    Except LibraryKind HintValue :=
  match v, name, args with
  | .text s, "upper", [] => .ok (.text (upperCase s))
  | .text s, "lower", [] => .ok (.text (lowerCase s))
  | .text s, "strip", [] => .ok (.text (stripSpace s))
  | .text s, "startswith", [.text t] => .ok (.bool (s.startsWith t))
  | .text s, "endswith", [.text t] => .ok (.bool (s.endsWith t))
  | .text s, "split", [.text t] =>
    if t.isEmpty then .error .valueError else .ok (.list ((s.splitOn t).map .text))
  | .text s, "join", [w] => do
    let parts ← (← w.items).mapM fun
      | .text t => pure t
      | _ => throw LibraryKind.typeError
    return .text (s.intercalate parts)
  | .text _, "index", [.text _] => .ok (.sample (.library .int) true)
  | .list items, "index", [w] | .tuple items, "index", [w] =>
    match items.findIdx? (equal w) with
    | some i => .ok (.int i)
    | none => .error .valueError
  | .list items, "count", [w] | .tuple items, "count", [w] =>
    .ok (.int (items.filter (equal w)).length)
  | .list items, "copy", [] => .ok (.list items)
  | .list items, "pop", [] => match items.getLast? with
    | some w => .ok w
    | none => .error .indexError
  | .list items, "pop", [i] => itemAt items .list i
  | .list _, "append", [_] | .list _, "clear", [] | .list _, "reverse", []
  | .dict _, "clear", [] => .ok .empty
  | .dict pairs, "get", k :: rest =>
    if !k.isHashable then .error .typeError
    else .ok (((pairs.find? fun p => equal k p.1).map (·.2)).getD (rest.headD .empty))
  | .dict pairs, "pop", [k] => item (.dict pairs) k
  | .dict pairs, "pop", [k, d] =>
    if !k.isHashable then .error .typeError
    else .ok (((pairs.find? fun p => equal k p.1).map (·.2)).getD d)
  | .dict pairs, "keys", [] => .ok (.list (pairs.map (·.1)))
  | .dict pairs, "values", [] => .ok (.list (pairs.map (·.2)))
  | .dict pairs, "items", [] => .ok (.list (pairs.map fun p => .tuple [p.1, p.2]))
  | .dict pairs, "copy", [] => .ok (.dict pairs)
  | _, "__len__", [] => do return .int (← v.items).length
  | _, "__getitem__", [i] => item v i
  | _, _, _ => .ok (.sample (.library .object) true)

/-- What a call denotes. -/
def call (names : HintNames) (head : HintValue) (args : List HintValue)
    (named : List (String × HintValue)) : Except LibraryKind HintValue :=
  match head with
  | .hint (.kind k) => construct names k args named
  | .hint (.generic k _) => construct names k args named
  | .function f => callFunction names f args
  | .method v n => callMethod v n args
  | .hint _ | .form _ | .package | .ellipsis | .bool _ | .int _ | .real _ | .text _ | .list _
  | .tuple _ | .set _ | .dict _ | .slice .. => .error .typeError
  | .sample k _ =>
    if k = .library .object || names.hasMember k "__call__" then
      .ok (.sample (.library .object) true)
    else .error .typeError

/-- What arguments in brackets denote. -/
def subscript (names : HintNames) (head index : HintValue) : Except LibraryKind HintValue :=
  let args := match index with
    | .tuple items => items
    | v => [v]
  match head with
  | .form "Optional" => optional index
  | .form "ClassVar" => classWide index
  | .form n => applyForm n args
  | .hint (.kind k) => applyKind (names.subscript k) k args
  | .sample k _ =>
    if k = .library .object || names.hasMember k "__getitem__" then
      .ok (.sample (.library .object) true)
    else .error .typeError
  | v => item v index

end HintValue

/-- The making of a hint: names may be given to values on the way, and it may fail. -/
abbrev HintReading := StateT (List (String × HintValue)) (Except LibraryKind)

namespace HintExpr

/-- What a name denotes, if it was given to nothing on the way. -/
def nameMeaning (names : HintNames) (t : String) : HintReading HintValue := do
  match (← get).lookup t with
  | some v => return v
  | none => HintValue.ofName names t

mutual

/-- What an expression denotes, given what names refer to. -/
def meaning (names : HintNames) : HintExpr → HintReading HintValue
  | .name t => nameMeaning names t
  | .text s => return .text s
  | .quoted isBytes isEmpty =>
    return .sample (.library (if isBytes then .bytes else .text)) !isEmpty
  | .int n => return .int n
  | .real x => return .real x
  | .imaginary isZero => return .sample (.library .complex) !isZero
  | .ellipsis => return .ellipsis
  | .attribute e n => do HintValue.attributeOf names (← meaning names e) n
  | .subscript e index => do
    let head ← meaning names e
    HintValue.subscript names head (← meaning names index)
  | .slice start stop step => do
    let a ← optionalMeaning names start
    let b ← optionalMeaning names stop
    return .slice a b (← optionalMeaning names step)
  | .called e args named => do
    let head ← meaning names e
    let args ← meanings names args
    HintValue.call names head args (← namedMeanings names named)
  | .binary o a b => do
    let x ← meaning names a
    HintValue.binary o x (← meaning names b)
  | .unary o e => do HintValue.unary o (← meaning names e)
  | .compared first rest => do comparedMeaning names (← meaning names first) rest
  | .both a b => do
    let x ← meaning names a
    if x.isTrue then meaning names b else return x
  | .either a b => do
    let x ← meaning names a
    if x.isTrue then return x else meaning names b
  | .cond test yes no => do
    if (← meaning names test).isTrue then meaning names yes else meaning names no
  | .bind n e => do
    let v ← meaning names e
    modify ((n, v) :: ·)
    return v
  | .spread e => do return .tuple (← (← meaning names e).items)
  | .list es => do return .list (← meanings names es)
  | .tuple es => do return .tuple (← meanings names es)
  | .set es => do
    let items ← meanings names es
    if items.all HintValue.isHashable then return .set (HintValue.distinct items)
    else throw .typeError
  | .dict pairs => do return .dict (HintValue.distinctPairs (← pairMeanings names pairs))
  | .lambda => return .sample (.library .function) true
  | .comprehension bracket source => do
    let _ ← (← meaning names source).items
    return match bracket with
      | "]" => .sample (.library .list) true
      | "\x7d" => .sample (.core "set") true
      | "\x7b:" => .sample (.library .dict) true
      | _ => .sample (.core "generator") true

/-- What several expressions denote, in order; the items of one that is spread count each. -/
def meanings (names : HintNames) : List HintExpr → HintReading (List HintValue)
  | [] => return []
  | .spread e :: rest => do
    let items ← (← meaning names e).items
    return items ++ (← meanings names rest)
  | e :: rest => do
    let v ← meaning names e
    return v :: (← meanings names rest)

/-- What an optional expression denotes. -/
def optionalMeaning (names : HintNames) : Option HintExpr → HintReading HintValue
  | none => return HintValue.empty
  | some e => meaning names e

/-- What arguments that are given by name denote; a map that is spread gives several. -/
def namedMeanings (names : HintNames) :
    List (String × HintExpr) → HintReading (List (String × HintValue))
  | [] => return []
  | (n, e) :: rest => do
    let v ← meaning names e
    let first ← match n, v with
      | "", .dict pairs => pairs.mapM fun
        | (.text n, x) => pure (n, x)
        | _ => throw .typeError
      | "", _ => throw .typeError
      | n, v => pure [(n, v)]
    return first ++ (← namedMeanings names rest)

/-- What the pairs of a map denote. -/
def pairMeanings (names : HintNames) :
    List (Option HintExpr × HintExpr) → HintReading (List (HintValue × HintValue))
  | [] => return []
  | (none, e) :: rest => do
    match ← meaning names e with
    | .dict pairs => return pairs ++ (← pairMeanings names rest)
    | _ => throw .typeError
  | (some k, e) :: rest => do
    let key ← meaning names k
    let v ← meaning names e
    if !key.isHashable then throw .typeError
    return (key, v) :: (← pairMeanings names rest)

/-- What comparisons in a row denote: the first that fails ends them. -/
def comparedMeaning (names : HintNames) (left : HintValue) :
    List (String × HintExpr) → HintReading HintValue
  | [] => return .bool true
  | (o, e) :: rest => do
    let right ← meaning names e
    if ← HintValue.compare o left right then comparedMeaning names right rest
    else return .bool false

end

end HintExpr

namespace Hint

/-- Reads a text as a hint. -/
def read (names : HintNames) (text : String) : HintReading Hint :=
  match HintExpr.parse? true text with
  | some e => do return (← HintExpr.meaning names e).toHint
  | none => throw .syntaxError

end Hint

end ScriptBridge
