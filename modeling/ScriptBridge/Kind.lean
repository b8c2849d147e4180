namespace ScriptBridge

/-!
# Kinds

A kind is what a value is an instance of: a class of the host's library, a class that the host
program declares, or the type of a fixed-size array of machine words. Hints may also name core
classes that no value here is an instance of. Where a kind is asked for, a mere text may be given
instead; it is a kind to which nothing is related.

* `LibraryKind` lists the library's classes, with their names, their lines of descent and the
  abstract classes they are registered with;
* `Kind` is the sum of all these.
-/

/-- The classes of the host's library. -/
inductive LibraryKind where
  | object | type | abcType | protocolType | noneType | int | bool | real | complex | text | list
  | dict | tuple | bytes | byteArray | range | byteView | mapView | deque | fraction | decimal
  | wordArray | function | nativeFunction | boundMethod | nativeMethod | nativeField | property
  | staticMethod | classMethod | slotEntry | number | complexNumber | realNumber | rationalNumber
  | integralNumber | container | iterable | sized | callable | reversible | collection | sequence
  | mutableSequence | mapping | mutableMapping | abstractBase | genericBase | protocolBase
  | annotated | absent | key | indexKey | targetRef | referenceable | struct | array | metadata
  | scripted | wrapper | service | scope | classScope | baseError | exception | valueError
  | typeError | runtimeError | attributeError | osError | lookupError | arithmeticError
  | nameError | syntaxError | keyError | indexError | zeroDivisionError | overflowError
  | invalidOperation | decimalOverflow | memoryError | unicodeError | unicodeDecodeError
  | unicodeEncodeError | recursionError | notImplementedError | fileNotFoundError
  | fileExistsError | permissionError | blockingIoError | brokenPipeError | childProcessError
  | connectionError | connectionAbortedError | connectionRefusedError | connectionResetError
  | isADirectoryError | notADirectoryError | interruptedError | processLookupError
  | timeoutError | keyboardInterrupt | documentError | dictKeys | dictValues | dictItems
  | keysView | valuesView | itemsView | engineError | engineRuntimeError | validationError
  | noFieldError | noMethodError | keyNotFoundError | invocationError | constructionError
deriving DecidableEq, Repr, Inhabited

/-- A kind of value. -/
inductive Kind where
  /-- A class of the library. -/
  | library (k : LibraryKind)
  /-- A class of the host program, by its place in the order of declaration. -/
  | declared (index : Nat)
  /-- The arrays of a given number of machine words. -/
  | words (length : Nat)
  /-- A core class of the host that no value here is an instance of. -/
  | core (name : String)
  /-- A text that stands where a kind is expected. -/
  | label (text : String)
deriving DecidableEq, Repr, Inhabited

instance : Coe LibraryKind Kind := ⟨Kind.library⟩

namespace Kind

/-- The library class that a kind is. -/
def library? : Kind → Option LibraryKind
  | .library k => some k
  | _ => none

end Kind

namespace LibraryKind

/-- The name of a class. -/
def name : LibraryKind → String
  | object => "object"
  | type => "type"
  | abcType => "ABCMeta"
  | protocolType => "_ProtocolMeta"
  | noneType => "NoneType"
  | int => "int"
  | bool => "bool"
  | real => "float"
  | complex => "complex"
  | text => "str"
  | list => "list"
  | dict => "dict"
  | tuple => "tuple"
  | bytes => "bytes"
  | byteArray => "bytearray"
  | range => "range"
  | byteView => "memoryview"
  | mapView => "mappingproxy"
  | deque => "deque"
  | fraction => "Fraction"
  | decimal => "Decimal"
  | wordArray => "Array"
  | function => "function"
  | nativeFunction => "builtin_function_or_method"
  | boundMethod => "method"
  | nativeMethod => "method_descriptor"
  | nativeField => "getset_descriptor"
  | property => "property"
  | staticMethod => "staticmethod"
  | classMethod => "classmethod"
  | slotEntry => "member_descriptor"
  | number => "Number"
  | complexNumber => "Complex"
  | realNumber => "Real"
  | rationalNumber => "Rational"
  | integralNumber => "Integral"
  | container => "Container"
  | iterable => "Iterable"
  | sized => "Sized"
  | callable => "Callable"
  | reversible => "Reversible"
  | collection => "Collection"
  | sequence => "Sequence"
  | mutableSequence => "MutableSequence"
  | mapping => "Mapping"
  | mutableMapping => "MutableMapping"
  | abstractBase => "ABC"
  | genericBase => "Generic"
  | protocolBase => "Protocol"
  | annotated => "Annotated"
  | absent => "Absent"
  | key => "Key"
  | indexKey => "IntKey"
  | targetRef => "TargetRef"
  | referenceable => "Referenceable"
  | struct => "Struct"
  | array => "Array"
  | metadata => "GenericMeta"
  | scripted => "ClassRunnable"
  | wrapper => "DynamicObject"
  | service => "InteropService"
  | scope => "BoxContext"
  | classScope => "ClassBoxContext"
  | baseError => "BaseException"
  | exception => "Exception"
  | valueError => "ValueError"
  | typeError => "TypeError"
  | runtimeError => "RuntimeError"
  | attributeError => "AttributeError"
  | osError => "OSError"
  | lookupError => "LookupError"
  | arithmeticError => "ArithmeticError"
  | nameError => "NameError"
  | syntaxError => "SyntaxError"
  | keyError => "KeyError"
  | indexError => "IndexError"
  | zeroDivisionError => "ZeroDivisionError"
  | overflowError => "OverflowError"
  | invalidOperation => "InvalidOperation"
  | decimalOverflow => "Overflow"
  | memoryError => "MemoryError"
  | unicodeError => "UnicodeError"
  | unicodeDecodeError => "UnicodeDecodeError"
  | unicodeEncodeError => "UnicodeEncodeError"
  | recursionError => "RecursionError"
  | notImplementedError => "NotImplementedError"
  | fileNotFoundError => "FileNotFoundError"
  | fileExistsError => "FileExistsError"
  | permissionError => "PermissionError"
  | blockingIoError => "BlockingIOError"
  | brokenPipeError => "BrokenPipeError"
  | childProcessError => "ChildProcessError"
  | connectionError => "ConnectionError"
  | connectionAbortedError => "ConnectionAbortedError"
  | connectionRefusedError => "ConnectionRefusedError"
  | connectionResetError => "ConnectionResetError"
  | isADirectoryError => "IsADirectoryError"
  | notADirectoryError => "NotADirectoryError"
  | interruptedError => "InterruptedError"
  | processLookupError => "ProcessLookupError"
  | timeoutError => "TimeoutError"
  | dictKeys => "dict_keys"
  | dictValues => "dict_values"
  | dictItems => "dict_items"
  | keysView => "KeysView"
  | valuesView => "ValuesView"
  | itemsView => "ItemsView"
  | keyboardInterrupt => "KeyboardInterrupt"
  | documentError => "YAMLError"
  | engineError => "BoxLangError"
  | engineRuntimeError => "BoxRuntimeError"
  | validationError => "BoxValidationError"
  | noFieldError => "NoFieldError"
  | noMethodError => "NoMethodError"
  | keyNotFoundError => "KeyNotFoundError"
  | invocationError => "InvocationError"
  | constructionError => "ConstructionError"

/-- The package a class lives in; the host's core classes live in none. -/
def home? : LibraryKind → Option String
  | .abcType | .abstractBase => some "abc"
  | .protocolType | .genericBase | .protocolBase | .annotated => some "typing"
  | .deque => some "collections"
  | .fraction => some "fractions"
  | .decimal | .invalidOperation | .decimalOverflow => some "decimal"
  | .wordArray => some "_ctypes"
  | .number | .complexNumber | .realNumber | .rationalNumber | .integralNumber => some "numbers"
  | .container | .iterable | .sized | .callable | .reversible | .collection | .sequence
  | .mutableSequence | .mapping | .mutableMapping | .keysView | .valuesView | .itemsView =>
    some "collections.abc"
  | .absent | .key | .indexKey | .targetRef | .referenceable => some "boxref.boxref_datatypes"
  | .struct | .array | .metadata | .scripted => some "boxref.boxref_containers"
  | .wrapper => some "boxref.boxref_dynamic"
  | .service => some "boxref.boxref_interop"
  | .scope | .classScope => some "boxref.boxref_context"
  | .documentError => some "yaml.error"
  | .engineError | .engineRuntimeError | .validationError | .noFieldError
  | .noMethodError | .keyNotFoundError | .invocationError | .constructionError =>
    some "boxref.boxref_errors"
  | _ => none

/-- Whether a class is one of the engine's own, and not one of the host's. -/
def isEngineOwn : LibraryKind → Bool
  | .absent | .key | .indexKey | .targetRef | .referenceable | .struct | .array | .metadata
  | .scripted | .wrapper | .service | .scope | .classScope | .engineError | .engineRuntimeError
  | .validationError | .noFieldError | .noMethodError | .keyNotFoundError | .invocationError
  | .constructionError => true
  | _ => false

/-- The classes a class descends from, nearest first, without itself and the root class. -/
def ancestors : LibraryKind → List LibraryKind
  | .abcType =>
    [.type]
  | .protocolType =>
    [.abcType, .type]
  | .bool =>
    [.int]
  | .fraction | .integralNumber =>
    [.rationalNumber, .realNumber, .complexNumber, .number]
  | .complexNumber =>
    [.number]
  | .realNumber =>
    [.complexNumber, .number]
  | .rationalNumber =>
    [.realNumber, .complexNumber, .number]
  | .reversible =>
    [.iterable]
  | .collection =>
    [.sized, .iterable, .container]
  | .sequence =>
    [.reversible, .collection, .sized, .iterable, .container]
  | .mutableSequence =>
    [.sequence, .reversible, .collection, .sized, .iterable, .container]
  | .mapping =>
    [.collection, .sized, .iterable, .container]
  | .mutableMapping =>
    [.mapping, .collection, .sized, .iterable, .container]
  | .protocolBase =>
    [.genericBase]
  | .indexKey =>
    [.key]
  | .referenceable =>
    [.abstractBase]
  | .struct =>
    [.mutableMapping, .mapping, .collection, .sized, .iterable, .container, .referenceable,
     .abstractBase]
  | .array =>
    [.mutableSequence, .sequence, .reversible, .collection, .sized, .iterable, .container,
     .referenceable, .abstractBase]
  | .scripted | .wrapper =>
    [.referenceable, .abstractBase]
  | .classScope =>
    [.scope]
  | .exception | .keyboardInterrupt =>
    [.baseError]
  | .valueError | .typeError | .runtimeError | .attributeError | .osError | .lookupError
  | .arithmeticError | .nameError | .syntaxError | .memoryError | .documentError | .engineError =>
    [.exception, .baseError]
  | .keyError | .indexError =>
    [.lookupError, .exception, .baseError]
  | .zeroDivisionError | .overflowError | .invalidOperation | .decimalOverflow =>
    [.arithmeticError, .exception, .baseError]
  | .recursionError | .notImplementedError =>
    [.runtimeError, .exception, .baseError]
  | .unicodeError =>
    [.valueError, .exception, .baseError]
  | .unicodeDecodeError | .unicodeEncodeError =>
    [.unicodeError, .valueError, .exception, .baseError]
  | .fileNotFoundError | .fileExistsError | .permissionError | .blockingIoError
  | .childProcessError | .connectionError | .isADirectoryError | .notADirectoryError
  | .interruptedError | .processLookupError | .timeoutError =>
    [.osError, .exception, .baseError]
  | .brokenPipeError | .connectionAbortedError | .connectionRefusedError
  | .connectionResetError =>
    [.connectionError, .osError, .exception, .baseError]
  | .keysView | .itemsView | .valuesView =>
    [.collection, .sized, .iterable, .container]
  | .engineRuntimeError =>
    [.engineError, .exception, .baseError]
  | .validationError | .noFieldError | .noMethodError | .keyNotFoundError
  | .invocationError | .constructionError =>
    [.engineRuntimeError, .engineError, .exception, .baseError]
  | _ => []

/-- The line of descent of a class: itself, its ancestors, the root class. -/
def lineage (k : LibraryKind) : List LibraryKind :=
  if k = .object then [.object] else k :: (k.ancestors ++ [.object])

/-- The class of a class. -/
def metaclass : LibraryKind → LibraryKind
  | .fraction | .number | .complexNumber | .realNumber | .rationalNumber
  | .integralNumber | .container | .iterable | .sized | .callable | .reversible
  | .collection | .sequence | .mutableSequence | .mapping | .mutableMapping
  | .abstractBase | .referenceable | .struct | .array | .scripted | .wrapper => .abcType
  | .protocolBase => .protocolType
  | _ => .type

/-- The abstract class a concrete class is registered with. -/
def registeredWith? : LibraryKind → Option LibraryKind
  | .int => some .integralNumber
  | .real => some .realNumber
  | .complex => some .complexNumber
  | .decimal => some .number
  | .list | .deque | .byteArray => some .mutableSequence
  | .tuple | .text | .range | .byteView | .bytes => some .sequence
  | .dict => some .mutableMapping
  | .mapView => some .mapping
  | _ => none

/-- The classes that a class counts as a subclass of by descent and by registration. -/
def supertypes (k : LibraryKind) : List LibraryKind :=
  k.lineage.flatMap fun a => a :: (a.registeredWith?.elim [] lineage)

/-- The classes that have abstract members left. -/
def isAbstract : LibraryKind → Bool
  | .complexNumber | .realNumber | .rationalNumber | .integralNumber | .container | .iterable
  | .sized | .callable | .reversible | .collection | .sequence | .mutableSequence | .mapping
  | .mutableMapping | .referenceable | .scripted => true
  | _ => false

/-- The names of the abstract members a class has left. -/
def abstractNames : LibraryKind → List String
  | .referenceable => ["assign", "dereference", "dereference_and_invoke"]
  | .scripted => ["pseudo_constructor"]
  | .container => ["__contains__"]
  | .iterable => ["__iter__"]
  | .sized => ["__len__"]
  | .callable => ["__call__"]
  | .reversible => ["__reversed__", "__iter__"]
  | .collection => ["__len__", "__iter__", "__contains__"]
  | .sequence => ["__getitem__", "__len__"]
  | .mutableSequence => ["__getitem__", "__setitem__", "__delitem__", "__len__", "insert"]
  | .mapping => ["__getitem__", "__iter__", "__len__"]
  | .mutableMapping => ["__getitem__", "__setitem__", "__delitem__", "__iter__", "__len__"]
  | .complexNumber | .realNumber | .rationalNumber | .integralNumber => ["__hash__"]
  | _ => []

/-- The classes outside the host's core that can be named. -/
def namedOutside : List LibraryKind :=
  [.deque, .fraction, .decimal, .struct, .array, .key, .indexKey, .absent, .metadata, .wrapper,
   .referenceable, .scripted, .mapping, .sequence, .mutableSequence, .callable, .number,
   .complexNumber, .realNumber, .integralNumber, .abstractBase, .protocolBase, .engineError,
   .engineRuntimeError, .validationError, .noFieldError, .noMethodError, .keyNotFoundError,
   .invocationError, .constructionError, .noneType]

/-- The classes of the host's core that can be named in a program or a command. -/
def namedInside : List LibraryKind :=
  [.object, .type, .int, .bool, .real, .complex, .text, .list, .dict, .tuple, .bytes, .byteArray,
   .range, .baseError, .exception, .valueError, .typeError, .runtimeError, .attributeError,
   .osError, .lookupError, .arithmeticError, .keyError, .indexError, .zeroDivisionError,
   .keyboardInterrupt]

/-- The further classes of the host's core that can be named in a written hint. -/
def namedInHints : List LibraryKind :=
  [.byteView, .property, .staticMethod, .classMethod, .nameError, .syntaxError, .overflowError,
   .recursionError, .notImplementedError, .fileNotFoundError, .fileExistsError,
   .permissionError, .blockingIoError, .brokenPipeError, .childProcessError, .connectionError,
   .connectionAbortedError, .connectionRefusedError, .connectionResetError, .isADirectoryError,
   .notADirectoryError, .interruptedError, .processLookupError, .timeoutError]

/-- The class of a name in a program or a command. -/
def ofName? (s : String) : Option LibraryKind :=
  (namedOutside ++ namedInside).find? (·.name == s)

/-- The class that a name stands for in a written hint. -/
def ofHintName? (s : String) : Option LibraryKind :=
  (namedOutside ++ namedInside ++ namedInHints).find? (·.name == s)

end LibraryKind

end ScriptBridge
