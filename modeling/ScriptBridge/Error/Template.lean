namespace ScriptBridge

/-!
# Message templates

The wording of every message of the engine: words with holes that are filled by name. A hole without
a value stays empty, and a value is never read as a template again.
-/

/-- A piece of a template. -/
inductive Piece where
  | words (text : String)
  | hole (name : String)
deriving DecidableEq, Repr

/-- The messages of the engine. -/
inductive Template where
  | noMethod | noConstructor | noField | noPublicField | noStaticField | mapKeyMissing
  | structKeyMissing | classKeyMissing | indexNotNumeric | indexOutOfBounds | indexBelowOne
  | arrayImmutable | mapReadOnly | emptyMethodName | invokeNeedsInstance | notStatic
  | invocationFailed | constructorAbstract | constructorLookupFailed | constructorFailed
  | bringUpFailed | fieldNeedsInstance | namedArgsUnsupported | notAFunction | nullDereference
  | configType
deriving DecidableEq, Repr

namespace Template

/-- The pieces of a template. -/
def pieces : Template → List Piece
  | .noMethod => [.words "No such method [", .hole "name", .words "] found in the class [",
      .hole "type", .words "] using [", .hole "arity", .words "] arguments of types [",
      .hole "kinds", .words "]. The available methods are [", .hole "methods", .words "]"]
  | .noConstructor => [.words "No constructor found in the class [", .hole "type",
      .words "] using [", .hole "arity", .words "] arguments of types [", .hole "kinds",
      .words "]"]
  | .noField => [.words "No such field [", .hole "name", .words "] found in the class [",
      .hole "type", .words "]."]
  | .noPublicField => [.words "The instance [", .hole "type", .words "] has no public field [",
      .hole "name", .words "]. The allowed fields are [", .hole "fields", .words "]"]
  | .noStaticField => [.words "The instance [", .hole "type", .words "] has no static field [",
      .hole "name", .words "]. The allowed fields are [", .hole "fields", .words "]"]
  | .mapKeyMissing => [.words "The key [", .hole "name",
      .words "] was not found in the map. Valid keys are (", .hole "keys", .words ")"]
  | .structKeyMissing => [.words "The key ", .hole "name",
      .words " was not found in the struct. Valid keys are (", .hole "keys", .words ")"]
  | .classKeyMissing => [.words "The key ", .hole "name", .words " was not found in the class [",
      .hole "type", .words "]. Valid keys are (", .hole "keys", .words ")"]
  | .indexNotNumeric => [.words "Array index [", .hole "name", .words "] is not a valid integer"]
  | .indexOutOfBounds => [.words "Index [", .hole "index",
      .words "] out of bounds for array of length ", .hole "size"]
  | .indexBelowOne => [.words "Array index [", .hole "index", .words "] must be 1 or greater"]
  | .arrayImmutable => [.words "The array of type [", .hole "type", .words "] cannot be modified"]
  | .mapReadOnly => [.words "The map of type [", .hole "type", .words "] is read only"]
  | .emptyMethodName => [.words "Method name cannot be null or empty."]
  | .invokeNeedsInstance => [
      .words "You can't call invoke on a null target instance. Use [invoke_static] instead or set the target instance manually or via the constructor."]
  | .notStatic => [.words "The method [", .hole "name", .words "] in the class [", .hole "type",
      .words "] is not static"]
  | .invocationFailed => [.words "Error invoking method ", .hole "name", .words " for class ",
      .hole "type", .words ": ", .hole "cause"]
  | .constructorAbstract => [.words "Cannot invoke a constructor on the abstract class [",
      .hole "type", .words "]"]
  | .constructorLookupFailed => [.words "Error getting constructor for class ", .hole "type"]
  | .constructorFailed => [.words "Error invoking constructor for class ", .hole "type",
      .words ": ", .hole "cause"]
  | .bringUpFailed => [.words "Error initializing instance of class ", .hole "type", .words ": ",
      .hole "cause"]
  | .fieldNeedsInstance => [.words "You are trying to ", .hole "action",
      .words " the public field [", .hole "name",
      .words "] but there is no instance set on the invoker, please make sure the [invoke_constructor] has been called."]
  | .namedArgsUnsupported => [
      .words "Methods on host objects cannot be called with named arguments"]
  | .notAFunction => [.words "The key [", .hole "name", .words "] of [", .hole "type",
      .words "] is not a function"]
  | .nullDereference => [.words "Cannot dereference the key [", .hole "name",
      .words "] on a null value"]
  | .configType => [.words "Config option [", .hole "option", .words "] must be a ",
      .hole "expected", .words ", got ", .hole "actual"]

/-- The name of a template. -/
def name : Template → String
  | .noMethod => "no_method"
  | .noConstructor => "no_constructor"
  | .noField => "no_field"
  | .noPublicField => "no_public_field"
  | .noStaticField => "no_static_field"
  | .mapKeyMissing => "map_key_missing"
  | .structKeyMissing => "struct_key_missing"
  | .classKeyMissing => "class_key_missing"
  | .indexNotNumeric => "index_not_numeric"
  | .indexOutOfBounds => "index_out_of_bounds"
  | .indexBelowOne => "index_below_one"
  | .arrayImmutable => "array_immutable"
  | .mapReadOnly => "map_read_only"
  | .emptyMethodName => "empty_method_name"
  | .invokeNeedsInstance => "invoke_needs_instance"
  | .notStatic => "not_static"
  | .invocationFailed => "invocation_failed"
  | .constructorAbstract => "constructor_abstract"
  | .constructorLookupFailed => "constructor_lookup_failed"
  | .constructorFailed => "constructor_failed"
  | .bringUpFailed => "bring_up_failed"
  | .fieldNeedsInstance => "field_needs_instance"
  | .namedArgsUnsupported => "named_args_unsupported"
  | .notAFunction => "not_a_function"
  | .nullDereference => "null_dereference"
  | .configType => "config_type"

/-- All templates. -/
def all : List Template :=
  [.noMethod, .noConstructor, .noField, .noPublicField, .noStaticField, .mapKeyMissing,
   .structKeyMissing, .classKeyMissing, .indexNotNumeric, .indexOutOfBounds, .indexBelowOne,
   .arrayImmutable, .mapReadOnly, .emptyMethodName, .invokeNeedsInstance, .notStatic,
   .invocationFailed, .constructorAbstract, .constructorLookupFailed, .constructorFailed,
   .bringUpFailed, .fieldNeedsInstance, .namedArgsUnsupported, .notAFunction, .nullDereference,
   .configType]

/-- The template of a name. -/
def ofName? (s : String) : Option Template :=
  all.find? (·.name == s)

/-- A piece with the holes filled. -/
def fill (values : List (String × String)) : Piece → String
  | .words t => t
  | .hole n => (values.lookup n).getD ""

/-- The message of a template. -/
def render (t : Template) (values : List (String × String)) : String :=
  String.join (t.pieces.map (fill values))

end Template

end ScriptBridge
