import ScriptBridge.Host.Item
import ScriptBridge.Host.Text

namespace ScriptBridge

/-!
# How the host refuses an element

Most refusals of the host are known by their kind alone. Where an element of a value is asked for,
the words are told too; they depend on the sort of the container and on the key.

* `Body.refusal?` are the words about a key of the wrong type and about an index out of range;
* `Host.wordedItem` gives the element of a value, or fails with the words added.
-/

namespace Body

/-- What a content says about a key of a type that is no index, and about an index out of range. The
    name of the type is given as it stands and in quotes. -/
def refusal? (b : Body) (type quoted : String) : Option (String × String) :=
  let indices (of : String) := of ++ " indices must be integers or slices, not " ++ type
  match b with
  | .list _ | .array .. => some (indices "list", "list index out of range")
  | .tuple _ => some (indices "tuple", "tuple index out of range")
  | .bytes _ => some (indices "byte", "index out of range")
  | .byteArray _ => some (indices "bytearray", "bytearray index out of range")
  | .range .. => some (indices "range", "range object index out of range")
  | .scalar (.text _) =>
    some ("string indices must be integers, not " ++ quoted, "string index out of range")
  | .deque .. =>
    some ("sequence index must be integer, not " ++ quoted, "deque index out of range")
  | .byteView .. => some ("memoryview: invalid slice key", "index out of bounds on dimension 1")
  | .words _ => some ("indices must be integers", "invalid index")
  | _ => none

end Body

namespace Host

open Run

/-- The name, in the words of the host, of the first thing in a value that has no hash. `fuel`
    bounds how deep it is looked for. -/
def unhashableName (call : Call) : Nat → Value → Run String
  | 0, v => do return (← store).wordedName (← kindOf v)
  | fuel + 1, v => do
    match ← body? v with
    | some (.tuple items) =>
      match ← items.findM? fun x => do return !(← outcome (mapKey call x)).isOk with
      | some x => unhashableName call fuel x
      | none => return (← store).wordedName (← kindOf v)
    | _ => return (← store).wordedName (← kindOf v)

/-- The words in which a library value refuses an element, by the kind of error. -/
def itemWords (call : Call) (v key : Value) (kind : LibraryKind) : Run String := do
  let s ← store
  let quote (k : Kind) := "'" ++ s.wordedName k ++ "'"
  match ← librarySpecial? v "__getitem__", v with
  | none, .kind k => return "type " ++ quote k ++ " is not subscriptable"
  | none, v => return quote (← kindOf v) ++ " object is not subscriptable"
  | some .mapping, _ | some .sequence, _ | _, .scope _ => return ""
  | some _, v =>
    match ← wholeContent? v with
    | some (.dict _) | some (.mapView _) =>
      if kind = .keyError then display call key
      else return "unhashable type: '" ++ (← unhashableName call nestingLimit key) ++ "'"
    | some (.struct ..) =>
      if kind = .keyError then display call (← keyOf call key).asValue else return ""
    | some b =>
      let type := s.wordedName (← kindOf key)
      match b.refusal? type ("'" ++ type ++ "'"), kind, s.scalar key with
      | none, _, _ => return ""
      | some (_, beyond), .indexError, .int n =>
        match b with
        | .range .. => return beyond
        | _ =>
          if n.natAbs ≤ maxLength then return beyond
          else return "cannot fit '" ++ type ++ "' into an index-sized integer"
      | some (_, beyond), .indexError, _ => return beyond
      | some (wrong, _), _, _ => return wrong
    | none => return ""

/-- The element of a value under a key or at an index; where a library value refuses it, the words
    are told. -/
def wordedItem (call : Call) (v key : Value) : Run Value := do
  match ← outcome (getItem call v key) with
  | .ok x => return x
  | .error (.host kind "") =>
    match (← store).special? (← kindOf v) "__getitem__" with
    | none | some (.library _) => do fail (.host kind (← itemWords call v key kind))
    | some _ => fail (.host kind "")
  | .error f => fail f

end Host

end ScriptBridge
