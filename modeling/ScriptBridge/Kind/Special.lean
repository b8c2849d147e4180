import ScriptBridge.Kind

namespace ScriptBridge

/-!
# Special methods of library classes

The host's own operations (length, items, comparison, text and so on) ask the class of a value for a
method of a special name. A declared class may define one; here is which of them each library class
defines itself, so that the nearest definition along a line of descent can be told.
-/

namespace LibraryKind

/-- The special methods of everything that is shown and compared in a way of its own. -/
def comparable : List String := ["__repr__", "__eq__", "__hash__", "__lt__"]

/-- The special methods of collections that can be read. -/
def readable : List String := comparable ++ ["__len__", "__getitem__", "__contains__", "__iter__"]

/-- The special methods of collections that can be read and changed. -/
def changeable : List String := readable ++ ["__setitem__", "__delitem__"]

/-- The special methods of numbers. -/
def numeric : List String := comparable ++ ["__bool__", "__abs__", "__add__", "__radd__"]

/-- The special methods that a library class itself defines. -/
def specials : LibraryKind → List String
  | .object => ["__repr__", "__str__", "__eq__", "__hash__", "__format__", "__getattribute__",
      "__setattr__", "__delattr__"]
  | .type => ["__repr__", "__call__", "__getattribute__", "__setattr__"]
  | .int => numeric ++ ["__format__", "__index__", "__int__", "__float__"]
  | .bool => ["__repr__"]
  | .real => numeric ++ ["__format__", "__int__", "__float__"]
  | .complex => numeric ++ ["__format__"]
  | .fraction => numeric ++ ["__str__", "__int__"]
  | .decimal => numeric ++ ["__format__", "__str__", "__int__", "__float__"]
  | .text => readable ++ ["__str__", "__format__", "__add__"]
  | .list => changeable ++ ["__add__"]
  | .dict => changeable
  | .tuple => readable ++ ["__add__"]
  | .bytes => readable ++ ["__str__", "__add__"]
  | .byteArray => changeable ++ ["__str__", "__add__"]
  | .range => readable ++ ["__bool__"]
  | .byteView => comparable ++ ["__len__", "__getitem__", "__setitem__", "__delitem__", "__iter__"]
  | .mapView => readable ++ ["__str__"]
  | .deque => changeable ++ ["__bool__", "__add__"]
  | .wordArray => ["__len__", "__getitem__", "__setitem__"]
  | .function | .nativeFunction | .nativeMethod => ["__repr__", "__call__", "__get__"]
  | .boundMethod => ["__repr__", "__call__", "__get__", "__eq__", "__hash__"]
  | .staticMethod => ["__repr__", "__call__", "__get__"]
  | .classMethod => ["__repr__", "__get__"]
  | .property | .slotEntry | .nativeField => ["__get__", "__set__", "__repr__"]
  | .absent => ["__repr__", "__bool__"]
  | .key => ["__repr__", "__str__", "__eq__", "__hash__"]
  | .indexKey | .targetRef | .metadata | .wrapper => ["__repr__"]
  | .struct => ["__repr__", "__eq__", "__hash__", "__len__", "__getitem__", "__setitem__",
      "__delitem__", "__contains__", "__iter__"]
  | .array => ["__repr__", "__eq__", "__hash__", "__len__", "__getitem__", "__setitem__",
      "__delitem__"]
  | .scope => ["__repr__", "__getitem__", "__setitem__", "__contains__"]
  | .baseError => ["__repr__", "__str__", "__getattribute__", "__setattr__"]
  | .osError | .keyError | .syntaxError => ["__str__"]
  | .mapping => ["__getitem__", "__contains__", "__eq__", "__hash__"]
  | .mutableMapping => ["__setitem__", "__delitem__"]
  | .sequence => ["__getitem__", "__contains__", "__iter__"]
  | .mutableSequence => ["__setitem__", "__delitem__"]
  | .container => ["__contains__"]
  | .iterable => ["__iter__"]
  | .sized => ["__len__"]
  | .callable => ["__call__"]
  | .number => ["__hash__"]
  | .complexNumber => ["__bool__", "__eq__", "__abs__", "__add__", "__radd__"]
  | .realNumber => ["__lt__", "__float__"]
  | .rationalNumber => ["__float__"]
  | .integralNumber => ["__int__", "__index__", "__float__"]
  | .dictKeys | .dictItems | .keysView | .itemsView =>
    ["__repr__", "__eq__", "__hash__", "__len__", "__contains__", "__iter__"]
  | .dictValues | .valuesView => ["__repr__", "__len__", "__contains__", "__iter__"]
  | _ => []

/-- Whether a library class itself defines a special method. -/
def hasSpecial (k : LibraryKind) (name : String) : Bool := k.specials.contains name

end LibraryKind

end ScriptBridge
