import ScriptBridge.Error.Template
import ScriptBridge.Value

namespace ScriptBridge

/-!
# Errors

Whatever stops an operation. The engine's own errors are reasons with the data they speak of; the
host's errors are a class of error; an error raised by a host program is the object it raised.

* `Listing` is a list of names that a message shows up to a limit;
* `Reason` is why the engine refuses, `Reason.kind` the class of error it is reported as and
  `Reason.message` its wording;
* `Fault` is any of the three.
-/

/-- Names that a message lists, and how many of them at most. A negative limit is none. -/
structure Listing where
  names : List String
  limit : Int
deriving DecidableEq, Repr

namespace Listing

/-- The number of names that messages list unless configured otherwise. -/
def defaultLimit : Int := 50

/-- Whether some names are left out. -/
def isCut (l : Listing) : Bool :=
  0 ≤ l.limit ∧ l.limit < l.names.length

/-- The names with commas between; dots stand for those beyond the limit. -/
def text (l : Listing) : String :=
  if l.isCut then ", ".intercalate (l.names.take l.limit.toNat) ++ ", ..."
  else ", ".intercalate l.names

end Listing

/-- What a field was looked for on. -/
inductive Search where
  | onInstance
  | onClass
deriving DecidableEq, Repr

/-- What a field is needed for. -/
inductive FieldUse where
  | get
  | set
deriving DecidableEq, Repr

namespace FieldUse

/-- The word for a use. -/
def word : FieldUse → String
  | get => "get"
  | set => "set"

end FieldUse

/-- Why the engine refuses. `type` is the full name of a kind throughout. -/
inductive Reason where
  | noMethod (name type : String) (kinds : List String) (methods : Listing)
  | noConstructor (type : String) (kinds : List String)
  | noField (name type : String)
  /-- A field cannot be written because it does not exist. -/
  | fieldMissing (search : Search) (name type : String) (fields : Listing)
  /-- A field cannot be read because it does not exist. -/
  | fieldNotFound (search : Search) (name type : String) (fields : Listing) (target : Value)
  | mapKeyMissing (name : String) (keys : Listing) (values : List Value) (target : Value)
  | structKeyMissing (name : String) (keys : Listing) (values : List Value) (target : Value)
  | classKeyMissing (name type : String) (keys : Listing) (values : List Value) (target : Value)
  | nullDereference (name : String)
  | indexNotNumeric (name : String)
  | indexOutOfBounds (index size : Int)
  | indexBelowOne (index : Int)
  | arrayImmutable (type : String)
  | mapReadOnly (type : String)
  | oddPairs
  | emptyMethodName
  | invokeNeedsInstance
  | notStatic (name type : String)
  | fieldNeedsInstance (use : FieldUse) (name : String)
  | namedArguments
  | notAFunction (name type : String)
  | invocationFailed (name type cause : String)
  | constructorAbstract (type : String)
  | constructorLookupFailed (type : String)
  | constructorFailed (type cause : String)
  | bringUpFailed (type cause : String)
  | configType (option expected actual : String)
deriving DecidableEq, Repr

namespace Reason

/-- The class of error a reason is reported as. -/
def kind : Reason → LibraryKind
  | .noMethod .. | .noConstructor .. => .noMethodError
  | .noField .. | .fieldMissing .. => .noFieldError
  | .fieldNotFound .. | .mapKeyMissing .. | .structKeyMissing .. | .classKeyMissing ..
  | .nullDereference _ => .keyNotFoundError
  | .indexNotNumeric _ | .indexOutOfBounds .. | .indexBelowOne _ | .arrayImmutable _
  | .mapReadOnly _ | .oddPairs | .configType .. => .validationError
  | .emptyMethodName | .invokeNeedsInstance | .notStatic .. | .fieldNeedsInstance ..
  | .namedArguments | .notAFunction .. => .engineRuntimeError
  | .invocationFailed .. => .invocationError
  | .constructorAbstract _ | .constructorLookupFailed _ | .constructorFailed ..
  | .bringUpFailed .. => .constructionError

/-- The template for a field that does not exist. -/
def fieldTemplate : Search → Template
  | .onInstance => .noPublicField
  | .onClass => .noStaticField

/-- The wording of a reason. -/
def message : Reason → String
  | .noMethod name type kinds methods =>
    Template.noMethod.render
      [("name", name), ("type", type), ("arity", toString kinds.length),
       ("kinds", ", ".intercalate kinds), ("methods", methods.text)]
  | .noConstructor type kinds =>
    Template.noConstructor.render
      [("type", type), ("arity", toString kinds.length), ("kinds", ", ".intercalate kinds)]
  | .noField name type => Template.noField.render [("name", name), ("type", type)]
  | .fieldMissing search name type fields | .fieldNotFound search name type fields _ =>
    (fieldTemplate search).render [("name", name), ("type", type), ("fields", fields.text)]
  | .mapKeyMissing name keys _ _ =>
    Template.mapKeyMissing.render [("name", name), ("keys", keys.text)]
  | .structKeyMissing name keys _ _ =>
    Template.structKeyMissing.render [("name", name), ("keys", keys.text)]
  | .classKeyMissing name type keys _ _ =>
    Template.classKeyMissing.render [("name", name), ("type", type), ("keys", keys.text)]
  | .nullDereference name => Template.nullDereference.render [("name", name)]
  | .indexNotNumeric name => Template.indexNotNumeric.render [("name", name)]
  | .indexOutOfBounds index size =>
    Template.indexOutOfBounds.render [("index", toString index), ("size", toString size)]
  | .indexBelowOne index => Template.indexBelowOne.render [("index", toString index)]
  | .arrayImmutable type => Template.arrayImmutable.render [("type", type)]
  | .mapReadOnly type => Template.mapReadOnly.render [("type", type)]
  | .oddPairs => "Struct.of expects an even number of arguments"
  | .emptyMethodName => Template.emptyMethodName.render []
  | .invokeNeedsInstance => Template.invokeNeedsInstance.render []
  | .notStatic name type => Template.notStatic.render [("name", name), ("type", type)]
  | .fieldNeedsInstance use name =>
    Template.fieldNeedsInstance.render [("action", use.word), ("name", name)]
  | .namedArguments => Template.namedArgsUnsupported.render []
  | .notAFunction name type => Template.notAFunction.render [("name", name), ("type", type)]
  | .invocationFailed name type cause =>
    Template.invocationFailed.render [("name", name), ("type", type), ("cause", cause)]
  | .constructorAbstract type => Template.constructorAbstract.render [("type", type)]
  | .constructorLookupFailed type => Template.constructorLookupFailed.render [("type", type)]
  | .constructorFailed type cause =>
    Template.constructorFailed.render [("type", type), ("cause", cause)]
  | .bringUpFailed type cause => Template.bringUpFailed.render [("type", type), ("cause", cause)]
  | .configType option expected actual =>
    Template.configType.render
      [("option", option), ("expected", expected), ("actual", actual)]

/-- The keys that an error about a missing key carries. -/
def keys : Reason → List Value
  | .fieldNotFound _ _ _ fields _ => fields.names.map .text
  | .mapKeyMissing _ _ values _ | .structKeyMissing _ _ values _
  | .classKeyMissing _ _ _ values _ => values
  | _ => []

/-- The value in which a key was missed. -/
def target : Reason → Value
  | .fieldNotFound _ _ _ _ v | .mapKeyMissing _ _ _ v | .structKeyMissing _ _ _ v
  | .classKeyMissing _ _ _ _ v => v
  | _ => .none

end Reason

/-- What stops an operation. -/
inductive Fault where
  /-- The engine refuses. -/
  | engine (reason : Reason)
  /-- The engine reports another fault. -/
  | wrapped (reason : Reason) (cause : Fault)
  /-- The host refuses. -/
  | host (kind : LibraryKind) (detail : String)
  /-- A host program raised an object. -/
  | raised (error : Value)
deriving DecidableEq, Repr

namespace Fault

/-- The host's refusal of a wrong type. -/
def typeError : Fault := .host .typeError ""

/-- The host's refusal of a wrong value. -/
def valueError : Fault := .host .valueError ""

/-- The host's refusal to write down a number of too many digits. -/
def tooManyDigits : Fault :=
  .host .valueError ("Exceeds the limit (4300 digits) for integer string conversion; " ++
    "use sys.set_int_max_str_digits() to increase the limit")

/-- The host's refusal of an unknown attribute. -/
def attributeError : Fault := .host .attributeError ""

end Fault

end ScriptBridge
