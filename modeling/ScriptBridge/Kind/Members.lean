import ScriptBridge.Kind

namespace ScriptBridge

/-!
# Members of library classes

What each class of the library itself declares for scripts to see, in order, and how its constructor
can be read. A parameter is given by the kinds it accepts; a member whose parameters cannot be read
takes any arguments.
-/

/-- The parameters of a member, each as the library kinds it accepts; none when unreadable. -/
abbrev LibraryParams := Option (List (List LibraryKind))

/-- One public member that a library class declares. -/
inductive LibraryMember where
  /-- A method of the instances. -/
  | method (name : String) (params : LibraryParams)
  /-- A method of the class. -/
  | static (name : String) (params : LibraryParams)
  /-- A computed field. -/
  | property (name : String)
  /-- A stored field with a fixed place in the instance. -/
  | slot (name : String)
  /-- A field that is announced but lives with the instance. -/
  | hint (name : String)
deriving DecidableEq, Repr

namespace LibraryMember

/-- The name of a member. -/
def name : LibraryMember → String
  | method n _ | static n _ | property n | slot n | hint n => n

/-- A method of the instances with parameters that accept anything. -/
def plainMethod (name : String) (arity : Nat) : LibraryMember :=
  .method name (some (List.replicate arity [.object]))

/-- A method of the class with parameters that accept anything. -/
def plainStatic (name : String) (arity : Nat) : LibraryMember :=
  .static name (some (List.replicate arity [.object]))

/-- A method of the instances whose parameters cannot be read. -/
def unreadMethod (name : String) : LibraryMember := .method name none

/-- A method of the class whose parameters cannot be read. -/
def unreadStatic (name : String) : LibraryMember := .static name none

end LibraryMember

namespace LibraryKind

/-- The public members that a library class itself declares, in order. -/
def members : LibraryKind → List LibraryMember
  | .int => [.unreadMethod "conjugate", .plainMethod "bit_length" 0, .plainMethod "bit_count" 0,
      .plainMethod "to_bytes" 2, .plainStatic "from_bytes" 2, .plainMethod "as_integer_ratio" 0,
      .property "real", .property "imag", .property "numerator", .property "denominator"]
  | .real => [.plainMethod "conjugate" 0, .plainMethod "as_integer_ratio" 0,
      .plainStatic "fromhex" 1, .plainMethod "hex" 0, .plainMethod "is_integer" 0,
      .property "real", .property "imag"]
  | .complex => [.plainMethod "conjugate" 0, .slot "real", .slot "imag"]
  | .text => [.plainMethod "encode" 2, .plainMethod "replace" 3, .plainMethod "split" 2,
      .plainMethod "rsplit" 2, .plainMethod "join" 1, .plainMethod "capitalize" 0,
      .plainMethod "casefold" 0, .plainMethod "title" 0, .plainMethod "center" 2,
      .unreadMethod "count", .plainMethod "expandtabs" 1, .unreadMethod "find",
      .plainMethod "partition" 1, .unreadMethod "index", .plainMethod "ljust" 2,
      .plainMethod "lower" 0, .plainMethod "lstrip" 1, .unreadMethod "rfind",
      .unreadMethod "rindex", .plainMethod "rjust" 2, .plainMethod "rstrip" 1,
      .plainMethod "rpartition" 1, .plainMethod "splitlines" 1, .plainMethod "strip" 1,
      .plainMethod "swapcase" 0, .plainMethod "translate" 1, .plainMethod "upper" 0,
      .unreadMethod "startswith", .unreadMethod "endswith", .plainMethod "removeprefix" 1,
      .plainMethod "removesuffix" 1, .plainMethod "isascii" 0, .plainMethod "islower" 0,
      .plainMethod "isupper" 0, .plainMethod "istitle" 0, .plainMethod "isspace" 0,
      .plainMethod "isdecimal" 0, .plainMethod "isdigit" 0, .plainMethod "isnumeric" 0,
      .plainMethod "isalpha" 0, .plainMethod "isalnum" 0, .plainMethod "isidentifier" 0,
      .plainMethod "isprintable" 0, .plainMethod "zfill" 1, .unreadMethod "format",
      .unreadMethod "format_map", .unreadStatic "maketrans"]
  | .list => [.plainMethod "clear" 0, .plainMethod "copy" 0, .plainMethod "append" 1,
      .plainMethod "insert" 2, .plainMethod "extend" 1, .plainMethod "pop" 1,
      .plainMethod "remove" 1, .plainMethod "index" 3, .plainMethod "count" 1,
      .plainMethod "reverse" 0, .plainMethod "sort" 0]
  | .tuple => [.plainMethod "index" 3, .plainMethod "count" 1]
  | .dict => [.plainMethod "get" 2, .plainMethod "setdefault" 2, .unreadMethod "pop",
      .plainMethod "popitem" 0, .unreadMethod "keys", .unreadMethod "items",
      .unreadMethod "values", .unreadMethod "update", .plainStatic "fromkeys" 2,
      .unreadMethod "clear", .unreadMethod "copy"]
  | .bytes => [.unreadMethod "capitalize", .plainMethod "center" 2, .unreadMethod "count",
      .plainMethod "decode" 2, .unreadMethod "endswith", .plainMethod "expandtabs" 1,
      .unreadMethod "find", .plainStatic "fromhex" 1, .unreadMethod "hex", .unreadMethod "index",
      .unreadMethod "isalnum", .unreadMethod "isalpha", .unreadMethod "isascii",
      .unreadMethod "isdigit", .unreadMethod "islower", .unreadMethod "isspace",
      .unreadMethod "istitle", .unreadMethod "isupper", .plainMethod "join" 1,
      .plainMethod "ljust" 2, .unreadMethod "lower", .plainMethod "lstrip" 1,
      .plainStatic "maketrans" 2, .plainMethod "partition" 1, .plainMethod "replace" 3,
      .plainMethod "removeprefix" 1, .plainMethod "removesuffix" 1, .unreadMethod "rfind",
      .unreadMethod "rindex", .plainMethod "rjust" 2, .plainMethod "rpartition" 1,
      .plainMethod "rsplit" 2, .plainMethod "rstrip" 1, .plainMethod "split" 2,
      .plainMethod "splitlines" 1, .unreadMethod "startswith", .plainMethod "strip" 1,
      .unreadMethod "swapcase", .unreadMethod "title", .plainMethod "translate" 2,
      .unreadMethod "upper", .plainMethod "zfill" 1]
  | .byteArray => [.plainMethod "append" 1, .unreadMethod "capitalize", .plainMethod "center" 2,
      .plainMethod "clear" 0, .plainMethod "copy" 0, .unreadMethod "count",
      .plainMethod "decode" 2, .unreadMethod "endswith", .plainMethod "expandtabs" 1,
      .plainMethod "extend" 1, .unreadMethod "find", .plainStatic "fromhex" 1,
      .unreadMethod "hex", .unreadMethod "index", .plainMethod "insert" 2,
      .unreadMethod "isalnum", .unreadMethod "isalpha", .unreadMethod "isascii",
      .unreadMethod "isdigit", .unreadMethod "islower", .unreadMethod "isspace",
      .unreadMethod "istitle", .unreadMethod "isupper", .plainMethod "join" 1,
      .plainMethod "ljust" 2, .unreadMethod "lower", .plainMethod "lstrip" 1,
      .plainStatic "maketrans" 2, .plainMethod "partition" 1, .plainMethod "pop" 1,
      .plainMethod "remove" 1, .plainMethod "replace" 3, .plainMethod "removeprefix" 1,
      .plainMethod "removesuffix" 1, .plainMethod "reverse" 0, .unreadMethod "rfind",
      .unreadMethod "rindex", .plainMethod "rjust" 2, .plainMethod "rpartition" 1,
      .plainMethod "rsplit" 2, .plainMethod "rstrip" 1, .plainMethod "split" 2,
      .plainMethod "splitlines" 1, .unreadMethod "startswith", .plainMethod "strip" 1,
      .unreadMethod "swapcase", .unreadMethod "title", .plainMethod "translate" 2,
      .unreadMethod "upper", .plainMethod "zfill" 1]
  | .range => [.unreadMethod "count", .unreadMethod "index", .slot "start", .slot "stop",
      .slot "step"]
  | .deque => [.unreadMethod "append", .unreadMethod "appendleft", .unreadMethod "clear",
      .unreadMethod "copy", .unreadMethod "count", .unreadMethod "extend",
      .unreadMethod "extendleft", .unreadMethod "index", .unreadMethod "insert",
      .unreadMethod "pop", .unreadMethod "popleft", .unreadMethod "remove",
      .unreadMethod "reverse", .unreadMethod "rotate", .property "maxlen"]
  | .byteView => [.plainMethod "release" 0, .plainMethod "tobytes" 1, .unreadMethod "hex",
      .plainMethod "tolist" 0, .unreadMethod "cast", .plainMethod "toreadonly" 0, .property "obj",
      .property "nbytes", .property "readonly", .property "itemsize", .property "format",
      .property "ndim", .property "shape", .property "strides", .property "suboffsets",
      .property "c_contiguous", .property "f_contiguous", .property "contiguous"]
  | .mapView => [.unreadMethod "get", .unreadMethod "keys", .unreadMethod "values",
      .unreadMethod "items", .unreadMethod "copy"]
  | .fraction => [.plainStatic "from_float" 1, .plainStatic "from_decimal" 1,
      .plainMethod "as_integer_ratio" 0, .plainMethod "limit_denominator" 1,
      .property "numerator", .property "denominator"]
  | .decimal => [.plainMethod "exp" 1, .plainMethod "ln" 1, .plainMethod "log10" 1,
      .plainMethod "next_minus" 1, .plainMethod "next_plus" 1, .plainMethod "normalize" 1,
      .plainMethod "to_integral" 2, .plainMethod "to_integral_exact" 2,
      .plainMethod "to_integral_value" 2, .plainMethod "sqrt" 1, .plainMethod "compare" 2,
      .plainMethod "compare_signal" 2, .plainMethod "max" 2, .plainMethod "max_mag" 2,
      .plainMethod "min" 2, .plainMethod "min_mag" 2, .plainMethod "next_toward" 2,
      .plainMethod "quantize" 3, .plainMethod "remainder_near" 2, .plainMethod "fma" 3,
      .plainMethod "is_canonical" 0, .plainMethod "is_finite" 0, .plainMethod "is_infinite" 0,
      .plainMethod "is_nan" 0, .plainMethod "is_qnan" 0, .plainMethod "is_snan" 0,
      .plainMethod "is_signed" 0, .plainMethod "is_zero" 0, .plainMethod "is_normal" 1,
      .plainMethod "is_subnormal" 1, .plainMethod "adjusted" 0, .plainMethod "canonical" 0,
      .plainMethod "conjugate" 0, .plainMethod "radix" 0, .plainMethod "copy_abs" 0,
      .plainMethod "copy_negate" 0, .plainMethod "logb" 1, .plainMethod "logical_invert" 1,
      .plainMethod "number_class" 1, .plainMethod "to_eng_string" 1,
      .plainMethod "compare_total" 2, .plainMethod "compare_total_mag" 2,
      .plainMethod "copy_sign" 2, .plainMethod "same_quantum" 2, .plainMethod "logical_and" 2,
      .plainMethod "logical_or" 2, .plainMethod "logical_xor" 2, .plainMethod "rotate" 2,
      .plainMethod "scaleb" 2, .plainMethod "shift" 2, .plainStatic "from_float" 1,
      .plainMethod "as_tuple" 0, .plainMethod "as_integer_ratio" 0, .property "real",
      .property "imag"]
  | .type => [.plainMethod "mro" 0]
  | .struct => [.plainStatic "of" 0, .plainMethod "key_names" 0, .plainMethod "get_box_meta" 0,
      .method "assign" (some [[.object], [.key], [.object]]),
      .method "dereference" (some [[.object], [.key], [.bool]]),
      .method "dereference_and_invoke" (some [[.object], [.key], [.object], [.bool]])]
  | .array => [.plainMethod "insert" 2, .plainMethod "get_box_meta" 0,
      .method "assign" (some [[.object], [.key], [.object]]),
      .method "dereference" (some [[.object], [.key], [.bool]]),
      .method "dereference_and_invoke" (some [[.object], [.key], [.object], [.bool]])]
  | .key => [.plainStatic "of" 1, .property "name", .property "name_no_case",
      .property "original_value", .property "int_value"]
  | .metadata => [.hint "target", .hint "meta"]
  | .wrapper => [.static "of" (some [[.object], [.service, .noneType]]), .property "target_ref",
      .plainMethod "has_instance" 0, .plainMethod "unwrap" 0, .plainMethod "invoke_constructor" 1,
      .method "invoke" (some [[.text]]), .method "invoke_static" (some [[.text]]),
      .method "get_field" (some [[.text], [.object]]),
      .method "set_field" (some [[.text], [.object]]), .method "has_field" (some [[.text]]),
      .method "has_field_no_case" (some [[.text]]), .plainMethod "get_field_names" 0,
      .plainMethod "get_field_names_no_case" 0, .plainMethod "get_method_names" 0,
      .method "has_method" (some [[.text]]), .method "has_method_no_case" (some [[.text]]),
      .plainMethod "is_interface" 0, .method "assign" (some [[.object], [.key], [.object]]),
      .method "dereference" (some [[.object], [.key], [.bool]]),
      .method "dereference_and_invoke" (some [[.object], [.key], [.object], [.bool]])]
  | .referenceable => [.method "assign" (some [[.object], [.key], [.object]]),
      .method "dereference" (some [[.object], [.key], [.bool]]),
      .method "dereference_and_invoke" (some [[.object], [.key], [.object], [.bool]])]
  | .scripted => [.plainMethod "pseudo_constructor" 1, .plainMethod "get_box_meta" 0,
      .method "assign" (some [[.object], [.key], [.object]]),
      .method "dereference" (some [[.object], [.key], [.bool]]),
      .method "dereference_and_invoke" (some [[.object], [.key], [.object], [.bool]])]
  | .mapping => [.plainMethod "get" 2, .plainMethod "keys" 0, .plainMethod "items" 0,
      .plainMethod "values" 0]
  | .baseError => [.unreadMethod "with_traceback", .unreadMethod "add_note", .property "args"]
  | .osError => [.slot "errno", .slot "strerror", .slot "filename", .slot "filename2",
      .property "characters_written"]
  | .complexNumber => [.property "real", .property "imag", .plainMethod "conjugate" 0]
  | .realNumber => [.property "real", .property "imag", .plainMethod "conjugate" 0]
  | .rationalNumber => [.property "numerator", .property "denominator"]
  | .integralNumber => [.property "numerator", .property "denominator"]
  | .mutableMapping => [.plainMethod "pop" 2, .plainMethod "popitem" 0, .plainMethod "clear" 0,
      .plainMethod "update" 1, .plainMethod "setdefault" 2]
  | .sequence => [.plainMethod "index" 3, .plainMethod "count" 1]
  | .mutableSequence => [.plainMethod "insert" 2, .plainMethod "append" 1, .plainMethod "clear" 0,
      .plainMethod "reverse" 0, .plainMethod "extend" 1, .plainMethod "pop" 1,
      .plainMethod "remove" 1]
  | .abcType => [.plainMethod "register" 1]
  | .attributeError => [.slot "name", .slot "obj"]
  | .nameError => [.slot "name"]
  | .indexKey => [.property "original_value", .property "int_value"]
  | .property => [.plainMethod "getter" 1, .plainMethod "setter" 1, .plainMethod "deleter" 1,
      .slot "fget", .slot "fset", .slot "fdel"]
  | .targetRef => [.plainStatic "of" 1, .static "of_type" (some [[.type]]),
      .property "has_instance", .slot "target_instance", .slot "target_type"]
  | .dictKeys | .dictItems => [.unreadMethod "isdisjoint", .property "mapping"]
  | .dictValues => [.property "mapping"]
  | .scope => [.plainMethod "find_owner" 1, .plainMethod "get" 2, .plainMethod "get_interop" 0,
      .plainMethod "get_function_service" 0]
  | _ => []

/-- How the parameters of a class's constructor are found. -/
inductive Construction where
  /-- By an initialiser with readable parameters. -/
  | initialiser (params : List (List LibraryKind))
  /-- By an allocator with readable parameters, which takes precedence along a line of descent. -/
  | allocator (params : List (List LibraryKind))
  /-- By the documentation of a core class. -/
  | documented (params : List (List LibraryKind))
  /-- Not at all: the class builds its instances in a way that cannot be read. -/
  | unreadable
  /-- As its ancestors do. -/
  | inherited
deriving DecidableEq, Repr

/-- How the constructor of a library class is read. -/
def construction : LibraryKind → Construction
  | .real | .list | .tuple | .byteView => .documented [[.object]]
  | .complex | .decimal | .boundMethod => .documented [[.object], [.object]]
  | .property => .documented [[.object], [.object], [.object], [.object]]
  | .function => .documented [[.object], [.object], [.object], [.object], [.object]]
  | .fraction => .allocator [[.object], [.object]]
  | .absent => .allocator []
  | .struct => .initialiser [[.mapping, .noneType]]
  | .array => .initialiser [[.iterable, .noneType]]
  | .key | .metadata => .initialiser [[.object]]
  | .indexKey => .initialiser [[.int]]
  | .targetRef => .initialiser [[.type], [.object]]
  | .wrapper => .initialiser [[.type], [.object], [.service, .noneType]]
  | .scripted | .protocolBase => .initialiser []
  | .scope => .initialiser [[.object, .noneType], [.object]]
  | .classScope => .initialiser [[.scope, .noneType], [.object]]
  | .keyNotFoundError => .initialiser [[.text], [.iterable, .noneType], [.object]]
  | .type | .abcType | .protocolType | .noneType | .int | .bool | .text | .dict | .bytes
  | .byteArray | .range | .mapView | .deque | .wordArray | .staticMethod | .classMethod
  | .baseError => .unreadable
  | _ => .inherited

end LibraryKind

end ScriptBridge
