import ScriptBridge.Kind

namespace ScriptBridge

/-!
# Hidden names of library classes

The names that a library class itself holds an entry for and that are not meant for scripts: those
that start with an underscore. Scripts never reach these entries, but a class that is asked for an
attribute of its own has them.

* `LibraryKind.hiddenNames` lists them, in the order in which the class holds them.
-/

namespace LibraryKind

/-- The words of some texts. -/
def words (lines : List String) : List String := lines.flatMap (·.splitOn " ")

/-- The hidden names that a library class itself holds. -/
def hiddenNames : LibraryKind → List String
  | .object =>
    words ["__new__ __repr__ __hash__ __str__ __getattribute__ __setattr__ __delattr__ __lt__",
      "__le__ __eq__ __ne__ __gt__ __ge__ __init__ __reduce_ex__ __reduce__ __getstate__",
      "__subclasshook__ __init_subclass__ __format__ __sizeof__ __dir__ __class__ __doc__"]
  | .type =>
    words ["__new__ __repr__ __call__ __getattribute__ __setattr__ __delattr__ __init__ __or__",
      "__ror__ __subclasses__ __prepare__ __instancecheck__ __subclasscheck__ __dir__",
      "__sizeof__ __basicsize__ __itemsize__ __flags__ __weakrefoffset__ __base__",
      "__dictoffset__ __mro__ __name__ __qualname__ __bases__ __module__ __abstractmethods__",
      "__dict__ __doc__ __text_signature__ __annotations__"]
  | .abcType =>
    words ["__module__ __doc__ __new__ __instancecheck__ __subclasscheck__ _dump_registry",
      "_abc_registry_clear _abc_caches_clear"]
  | .protocolType =>
    words ["__module__ __instancecheck__ __doc__"]
  | .noneType =>
    words ["__new__ __repr__ __bool__ __doc__"]
  | .int =>
    words ["__new__ __repr__ __hash__ __getattribute__ __lt__ __le__ __eq__ __ne__ __gt__ __ge__",
      "__add__ __radd__ __sub__ __rsub__ __mul__ __rmul__ __mod__ __rmod__ __divmod__",
      "__rdivmod__ __pow__ __rpow__ __neg__ __pos__ __abs__ __bool__ __invert__ __lshift__",
      "__rlshift__ __rshift__ __rrshift__ __and__ __rand__ __xor__ __rxor__ __or__ __ror__",
      "__int__ __float__ __floordiv__ __rfloordiv__ __truediv__ __rtruediv__ __index__",
      "__trunc__ __floor__ __ceil__ __round__ __getnewargs__ __format__ __sizeof__ __doc__"]
  | .bool =>
    words ["__new__ __repr__ __and__ __rand__ __xor__ __rxor__ __or__ __ror__ __doc__"]
  | .real =>
    words ["__new__ __repr__ __hash__ __getattribute__ __lt__ __le__ __eq__ __ne__ __gt__ __ge__",
      "__add__ __radd__ __sub__ __rsub__ __mul__ __rmul__ __mod__ __rmod__ __divmod__",
      "__rdivmod__ __pow__ __rpow__ __neg__ __pos__ __abs__ __bool__ __int__ __float__",
      "__floordiv__ __rfloordiv__ __truediv__ __rtruediv__ __trunc__ __floor__ __ceil__",
      "__round__ __getnewargs__ __getformat__ __format__ __doc__"]
  | .complex =>
    words ["__new__ __repr__ __hash__ __getattribute__ __lt__ __le__ __eq__ __ne__ __gt__ __ge__",
      "__add__ __radd__ __sub__ __rsub__ __mul__ __rmul__ __pow__ __rpow__ __neg__ __pos__",
      "__abs__ __bool__ __truediv__ __rtruediv__ __complex__ __getnewargs__ __format__",
      "__doc__"]
  | .text =>
    words ["__new__ __repr__ __hash__ __str__ __getattribute__ __lt__ __le__ __eq__ __ne__ __gt__",
      "__ge__ __iter__ __mod__ __rmod__ __len__ __getitem__ __add__ __mul__ __rmul__",
      "__contains__ __format__ __sizeof__ __getnewargs__ __doc__"]
  | .list =>
    words ["__new__ __repr__ __hash__ __getattribute__ __lt__ __le__ __eq__ __ne__ __gt__ __ge__",
      "__iter__ __init__ __len__ __getitem__ __setitem__ __delitem__ __add__ __mul__ __rmul__",
      "__contains__ __iadd__ __imul__ __reversed__ __sizeof__ __class_getitem__ __doc__"]
  | .dict =>
    words ["__new__ __repr__ __hash__ __getattribute__ __lt__ __le__ __eq__ __ne__ __gt__ __ge__",
      "__iter__ __init__ __or__ __ror__ __ior__ __len__ __getitem__ __setitem__ __delitem__",
      "__contains__ __sizeof__ __reversed__ __class_getitem__ __doc__"]
  | .tuple =>
    words ["__new__ __repr__ __hash__ __getattribute__ __lt__ __le__ __eq__ __ne__ __gt__ __ge__",
      "__iter__ __len__ __getitem__ __add__ __mul__ __rmul__ __contains__ __getnewargs__",
      "__class_getitem__ __doc__"]
  | .bytes =>
    words ["__new__ __repr__ __hash__ __str__ __getattribute__ __lt__ __le__ __eq__ __ne__ __gt__",
      "__ge__ __iter__ __mod__ __rmod__ __len__ __getitem__ __add__ __mul__ __rmul__",
      "__contains__ __getnewargs__ __bytes__ __doc__"]
  | .byteArray =>
    words ["__new__ __repr__ __str__ __getattribute__ __lt__ __le__ __eq__ __ne__ __gt__ __ge__",
      "__iter__ __init__ __mod__ __rmod__ __len__ __getitem__ __setitem__ __delitem__ __add__",
      "__mul__ __rmul__ __contains__ __iadd__ __imul__ __alloc__ __reduce__ __reduce_ex__",
      "__sizeof__ __doc__ __hash__"]
  | .range =>
    words ["__new__ __repr__ __hash__ __getattribute__ __lt__ __le__ __eq__ __ne__ __gt__ __ge__",
      "__iter__ __bool__ __len__ __getitem__ __contains__ __reversed__ __reduce__ __doc__"]
  | .byteView =>
    words ["__new__ __repr__ __hash__ __getattribute__ __lt__ __le__ __eq__ __ne__ __gt__ __ge__",
      "__iter__ __len__ __getitem__ __setitem__ __delitem__ __enter__ __exit__ __doc__"]
  | .mapView =>
    words ["__new__ __repr__ __str__ __getattribute__ __lt__ __le__ __eq__ __ne__ __gt__ __ge__",
      "__iter__ __or__ __ror__ __ior__ __len__ __getitem__ __contains__ __class_getitem__",
      "__reversed__ __doc__ __hash__"]
  | .deque =>
    words ["__new__ __repr__ __hash__ __getattribute__ __lt__ __le__ __eq__ __ne__ __gt__ __ge__",
      "__iter__ __init__ __len__ __add__ __mul__ __rmul__ __getitem__ __setitem__ __delitem__",
      "__contains__ __iadd__ __imul__ __copy__ __reduce__ __reversed__ __sizeof__",
      "__class_getitem__ __doc__"]
  | .fraction =>
    words ["__module__ __doc__ __slots__ __new__ __repr__ __str__ _operator_fallbacks _add __add__",
      "__radd__ _sub __sub__ __rsub__ _mul __mul__ __rmul__ _div __truediv__ __rtruediv__",
      "_floordiv __floordiv__ __rfloordiv__ _divmod __divmod__ __rdivmod__ _mod __mod__",
      "__rmod__ __pow__ __rpow__ __pos__ __neg__ __abs__ __int__ __trunc__ __floor__ __ceil__",
      "__round__ __hash__ __eq__ _richcmp __lt__ __gt__ __le__ __ge__ __bool__ __reduce__",
      "__copy__ __deepcopy__ _denominator _numerator __abstractmethods__ _abc_impl"]
  | .decimal =>
    words ["__new__ __repr__ __hash__ __str__ __getattribute__ __lt__ __le__ __eq__ __ne__ __gt__",
      "__ge__ __add__ __radd__ __sub__ __rsub__ __mul__ __rmul__ __mod__ __rmod__ __divmod__",
      "__rdivmod__ __pow__ __rpow__ __neg__ __pos__ __abs__ __bool__ __int__ __float__",
      "__floordiv__ __rfloordiv__ __truediv__ __rtruediv__ __copy__ __deepcopy__ __format__",
      "__reduce__ __round__ __ceil__ __floor__ __trunc__ __complex__ __sizeof__ __doc__",
      "__module__"]
  | .wordArray =>
    words ["__new__ __init__ __len__ __getitem__ __setitem__ __delitem__ __class_getitem__ __doc__"]
  | .function =>
    words ["__new__ __repr__ __call__ __get__ __closure__ __doc__ __globals__ __module__",
      "__builtins__ __code__ __defaults__ __kwdefaults__ __annotations__ __dict__ __name__",
      "__qualname__"]
  | .nativeFunction =>
    words ["__repr__ __hash__ __call__ __getattribute__ __lt__ __le__ __eq__ __ne__ __gt__ __ge__",
      "__reduce__ __module__ __doc__ __name__ __qualname__ __self__ __text_signature__"]
  | .boundMethod =>
    words ["__new__ __repr__ __hash__ __call__ __getattribute__ __setattr__ __delattr__ __lt__",
      "__le__ __eq__ __ne__ __gt__ __ge__ __reduce__ __func__ __self__ __doc__"]
  | .nativeMethod =>
    words ["__repr__ __call__ __getattribute__ __get__ __reduce__ __objclass__ __name__ __doc__",
      "__qualname__ __text_signature__"]
  | .nativeField =>
    words ["__repr__ __getattribute__ __get__ __set__ __delete__ __objclass__ __name__ __doc__",
      "__qualname__"]
  | .property =>
    words ["__new__ __getattribute__ __get__ __set__ __delete__ __init__ __set_name__ __doc__",
      "__isabstractmethod__"]
  | .staticMethod =>
    words ["__new__ __repr__ __call__ __get__ __init__ __func__ __wrapped__ __isabstractmethod__",
      "__dict__ __doc__"]
  | .classMethod =>
    words ["__new__ __repr__ __get__ __init__ __func__ __wrapped__ __isabstractmethod__ __dict__",
      "__doc__"]
  | .slotEntry =>
    words ["__repr__ __getattribute__ __get__ __set__ __delete__ __reduce__ __objclass__ __name__",
      "__doc__ __qualname__"]
  | .number =>
    words ["__module__ __doc__ __slots__ __hash__ __abstractmethods__ _abc_impl"]
  | .complexNumber =>
    words ["__module__ __doc__ __slots__ __complex__ __bool__ __add__ __radd__ __neg__ __pos__",
      "__sub__ __rsub__ __mul__ __rmul__ __truediv__ __rtruediv__ __pow__ __rpow__ __abs__",
      "__eq__ __hash__ __abstractmethods__ _abc_impl"]
  | .realNumber =>
    words ["__module__ __doc__ __slots__ __float__ __trunc__ __floor__ __ceil__ __round__",
      "__divmod__ __rdivmod__ __floordiv__ __rfloordiv__ __mod__ __rmod__ __lt__ __le__",
      "__complex__ __abstractmethods__ _abc_impl"]
  | .rationalNumber =>
    words ["__module__ __doc__ __slots__ __float__ __abstractmethods__ _abc_impl"]
  | .integralNumber =>
    words ["__module__ __doc__ __slots__ __int__ __index__ __pow__ __lshift__ __rlshift__",
      "__rshift__ __rrshift__ __and__ __rand__ __xor__ __rxor__ __or__ __ror__ __invert__",
      "__float__ __abstractmethods__ _abc_impl"]
  | .container =>
    words ["__module__ __slots__ __contains__ __subclasshook__ __class_getitem__ __doc__",
      "__abstractmethods__ _abc_impl"]
  | .iterable =>
    words ["__module__ __slots__ __iter__ __subclasshook__ __class_getitem__ __doc__",
      "__abstractmethods__ _abc_impl"]
  | .sized =>
    words ["__module__ __slots__ __len__ __subclasshook__ __doc__ __abstractmethods__ _abc_impl"]
  | .callable =>
    words ["__module__ __slots__ __call__ __subclasshook__ __class_getitem__ __doc__",
      "__abstractmethods__ _abc_impl"]
  | .reversible =>
    words ["__module__ __slots__ __reversed__ __subclasshook__ __doc__ __abstractmethods__",
      "_abc_impl"]
  | .collection =>
    words ["__module__ __slots__ __subclasshook__ __doc__ __abstractmethods__ _abc_impl"]
  | .sequence =>
    words ["__module__ __doc__ __slots__ __getitem__ __iter__ __contains__ __reversed__",
      "__abstractmethods__ _abc_impl"]
  | .mutableSequence =>
    words ["__module__ __doc__ __slots__ __setitem__ __delitem__ __iadd__ __abstractmethods__",
      "_abc_impl"]
  | .mapping =>
    words ["__module__ __doc__ __slots__ __getitem__ __contains__ __eq__ __reversed__ __hash__",
      "__abstractmethods__ _abc_impl"]
  | .mutableMapping =>
    words ["__module__ __doc__ __slots__ __setitem__ __delitem__ _MutableMapping__marker",
      "__abstractmethods__ _abc_impl"]
  | .abstractBase =>
    words ["__module__ __doc__ __slots__ __abstractmethods__ _abc_impl"]
  | .genericBase =>
    words ["__module__ __doc__ __slots__ _is_protocol __class_getitem__ __init_subclass__"]
  | .protocolBase =>
    words ["__module__ __doc__ __slots__ _is_protocol _is_runtime_protocol __init_subclass__",
      "__parameters__ __abstractmethods__ _abc_impl"]
  | .annotated =>
    words ["__module__ __doc__ __slots__ __new__ __class_getitem__ _class_getitem_inner",
      "__init_subclass__"]
  | .absent =>
    words ["__module__ __doc__ __new__ __bool__ __repr__ __reduce__ _instance __dict__ __weakref__"]
  | .key =>
    words ["__module__ __doc__ __slots__ __init__ __eq__ __hash__ __str__ __repr__ _hash _name",
      "_name_no_case"]
  | .indexKey =>
    words ["__module__ __doc__ __slots__ __init__ __repr__ _int"]
  | .targetRef =>
    words ["__module__ __doc__ __slots__ __init__ __repr__"]
  | .referenceable =>
    words ["__module__ __doc__ __dict__ __weakref__ __abstractmethods__ _abc_impl"]
  | .struct =>
    words ["__module__ __doc__ __init__ __getitem__ __setitem__ __delitem__ __contains__ __iter__",
      "__len__ __eq__ __hash__ __repr__ __dict__ __weakref__ __abstractmethods__ _abc_impl"]
  | .array =>
    words ["__module__ __doc__ __init__ __getitem__ __setitem__ __delitem__ __len__ __eq__",
      "__hash__ __repr__ __dict__ __weakref__ __abstractmethods__ _abc_impl"]
  | .metadata =>
    words ["__module__ __annotations__ __doc__ __init__ __repr__ __dict__ __weakref__"]
  | .scripted =>
    words ["__module__ __doc__ __init__ __abstractmethods__ _abc_impl"]
  | .wrapper =>
    words ["__module__ __doc__ __init__ __repr__ __abstractmethods__ _abc_impl"]
  | .service =>
    words ["__module__ __annotations__ __doc__ __init__ _dbg _keys _map_get _find_field",
      "_missing_field _get_field _set_field _box_meta _execute _bring_up _default",
      "_default_lock __dict__ __weakref__"]
  | .scope =>
    words ["__module__ __doc__ __init__ __setitem__ __getitem__ __contains__ __repr__ __dict__",
      "__weakref__"]
  | .classScope | .keyNotFoundError =>
    words ["__module__ __doc__ __init__"]
  | .baseError =>
    words ["__new__ __repr__ __str__ __getattribute__ __setattr__ __delattr__ __init__ __reduce__",
      "__setstate__ __suppress_context__ __dict__ __traceback__ __context__ __cause__ __doc__"]
  | .exception | .valueError | .typeError | .runtimeError | .lookupError
  | .arithmeticError | .indexError | .zeroDivisionError | .overflowError
  | .memoryError | .unicodeError | .recursionError | .notImplementedError | .keyboardInterrupt =>
    words ["__new__ __init__ __doc__"]
  | .attributeError | .nameError | .syntaxError | .keyError | .unicodeDecodeError
  | .unicodeEncodeError =>
    words ["__str__ __init__ __doc__"]
  | .osError =>
    words ["__new__ __str__ __init__ __reduce__ __doc__"]
  | .invalidOperation | .decimalOverflow | .engineRuntimeError | .validationError | .noFieldError
  | .noMethodError | .invocationError | .constructionError =>
    words ["__module__ __doc__"]
  | .documentError | .engineError =>
    words ["__module__ __doc__ __weakref__"]
  | .dictKeys | .dictItems =>
    words ["__repr__ __getattribute__ __lt__ __le__ __eq__ __ne__ __gt__ __ge__ __iter__ __sub__",
      "__rsub__ __and__ __rand__ __xor__ __rxor__ __or__ __ror__ __len__ __contains__",
      "__reversed__ __doc__ __hash__"]
  | .dictValues =>
    words ["__repr__ __getattribute__ __iter__ __len__ __reversed__ __doc__"]
  | .keysView | .itemsView =>
    words ["__module__ __slots__ _from_iterable __contains__ __iter__ __doc__ __abstractmethods__",
      "_abc_impl"]
  | .valuesView =>
    words ["__module__ __slots__ __contains__ __iter__ __doc__ __abstractmethods__ _abc_impl"]
  | _ => words ["__init__ __doc__"]

end LibraryKind

end ScriptBridge
