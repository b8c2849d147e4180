import ScriptBridge.Host.Allocate

namespace ScriptBridge

/-!
# Parameters of library methods

The methods of the engine's own classes, and those that every map or sequence shares, take their
arguments by position or by name. Their parameters are listed here, without the receiver.

* `Native.parameters?` lists the parameters of a method;
* `Native.bindParameters` binds arguments to them.
-/

namespace Native

open Run Host

/-- What becomes of a parameter that no argument is given for. -/
inductive Missing where
  /-- The call is refused. -/
  | refused
  /-- The method itself tells that it is missing. -/
  | noted
  /-- It has a default. -/
  | value (v : Value)
deriving DecidableEq, Repr

/-- A parameter of a library method. -/
structure Parameter where
  name : String
  missing : Missing := .refused
deriving DecidableEq, Repr

/-- A parameter that must be given. -/
def need (name : String) : Parameter := { name }

/-- A parameter with a default. -/
def optional (name : String) (v : Value) : Parameter := { name, missing := .value v }

/-- The parameters of the operations of values that answer for themselves. -/
def protocolParameters? : String → Option (List Parameter)
  | "assign" => some [need "context", need "key", need "value"]
  | "dereference" => some [need "context", need "key", optional "safe" (.bool false)]
  | "dereference_and_invoke" =>
    some [need "context", need "key", need "args", optional "safe" (.bool false)]
  | "get_box_meta" | "key_names" => some []
  | "pseudo_constructor" => some [need "context"]
  | _ => none

/-- The parameters of the methods that every map has. -/
def mapParameters? : String → Option (List Parameter)
  | "pop" => some [need "key", { name := "default", missing := .noted }]
  | "popitem" | "clear" | "keys" | "items" | "values" => some []
  | "setdefault" | "get" => some [need "key", optional "default" .none]
  | _ => none

/-- The parameters of the methods that every sequence has. -/
def sequenceParameters? : String → Option (List Parameter)
  | "insert" => some [need "index", need "value"]
  | "append" | "remove" | "count" => some [need "value"]
  | "extend" => some [need "values"]
  | "clear" | "reverse" => some []
  | "pop" => some [optional "index" (.int (-1))]
  | "index" => some [need "value", optional "start" (.int 0), optional "stop" .none]
  | _ => none

/-- The parameters of the methods of wrappers. -/
def wrapperParameters? : String → Option (List Parameter)
  | "has_instance" | "unwrap" | "get_field_names" | "get_field_names_no_case"
  | "get_method_names" | "is_interface" => some []
  | "get_field" => some [need "name", { name := "default", missing := .noted }]
  | "set_field" => some [need "name", need "value"]
  | "has_field" | "has_field_no_case" | "has_method" | "has_method_no_case" => some [need "name"]
  | "of" => some [need "value", optional "interop" .none]
  | name => protocolParameters? name

/-- The parameters of the methods of scopes. -/
def scopeParameters? : String → Option (List Parameter)
  | "find_owner" => some [need "key"]
  | "get" => some [need "key", optional "default" .none]
  | "get_interop" | "get_function_service" => some []
  | _ => none

/-- The parameters of a method that takes a fixed number of them, by position or by name. -/
def parameters? (owner : LibraryKind) (name : String) : Option (List Parameter) :=
  match owner with
  | .struct | .scripted | .referenceable => protocolParameters? name
  | .array => if name = "insert" then sequenceParameters? name else protocolParameters? name
  | .mapping | .mutableMapping => mapParameters? name
  | .sequence | .mutableSequence => sequenceParameters? name
  | .wrapper => wrapperParameters? name
  | .scope => scopeParameters? name
  | .key => some [need "value"]
  | .targetRef => some [need (if name = "of" then "instance" else "target_type")]
  | _ => none

/-- The arguments of a call by parameter; only one that the method tells itself may be missing. -/
def bindParameters (params : List Parameter) (args : Args) : Run (List (Option Value)) := do
  let given ← bindNames (params.map (·.name)) args
  (params.zip given).mapM fun (p, v) =>
    match v, p.missing with
    | some v, _ => return some v
    | none, .refused => fail .typeError
    | none, .noted => return none
    | none, .value v => return some v

end Native

end ScriptBridge
