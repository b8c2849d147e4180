import ScriptBridge.Index
import ScriptBridge.Metadata
import ScriptBridge.Registry
import ScriptBridge.Target

namespace ScriptBridge

/-!
# Values that answer for themselves

The scripts' own values decide how they are read, written and called: structs by key, arrays by
index, scripted instances by the members of their public scope. A declared class may replace any of
the three operations, and so may an instance.

* `Container.read`, `Container.write`, `Container.invoke` are the three operations;
* `Container.readNative`, `Container.writeNative`, `Container.invokeNative` are what a library class
  does about them;
* `setPadded` is how a sequence grows.
-/

namespace Host

open Run

/-- Calls the value that was read under a key. What is absent stays absent. -/
def invokeValue (call : Call) (scope owner : Value) (key : Key) (v args : Value) : Run Value := do
  if v = .absent then return .absent
  else if !(← store).isCallable v then refuse (.notAFunction key.name (← typeNameOf owner))
  else callFunction call v [] scope args

/-- The refusal of an operation that is only announced. -/
def notImplemented : Fault := .host .notImplementedError ""

/-- A key as an argument: one made for a lookup becomes an object of its own. -/
def keyArgument (k : Key) : Run Value :=
  if k.object.isSome || k.stamp ≠ 0 then return k.asValue else newKey k

/-- Calls a method that takes a key: what the library does where the library's own method would be
    found, and else whatever is found. -/
def viaKeyed (call : Call) (v : Value) (name : String) (key : Key) (args : Value → List Value)
    (native : LibraryKind → Run Value) : Run Value := do
  match ← libraryMethod? v name with
  | some l => native l
  | none => do callMethod call v name (args (← keyArgument key))

end Host

/-- A list with a value at a place counted from zero, filled up with absent values if it is too
    short. -/
def setPadded (items : List Value) (i : Nat) (v : Value) : List Value :=
  (items ++ List.replicate (i + 1 - items.length) Value.absent).set i v

/-- A list never shrinks, and grows just as far as the place asks for. -/
@[simp] theorem length_setPadded (items : List Value) (i : Nat) (v : Value) :
    (setPadded items i v).length = max items.length (i + 1) := by
  simp only [setPadded, List.length_set, List.length_append, List.length_replicate]
  omega

/-- The place holds the value. -/
@[simp] theorem getElem?_setPadded_self (items : List Value) (i : Nat) (v : Value) :
    (setPadded items i v)[i]? = some v := by
  have h : i < items.length + (i + 1 - items.length) := by omega
  simp [setPadded, h]

/-- Every other place holds what it held, and those that are new hold the absent value. -/
theorem getElem?_setPadded_of_ne (items : List Value) {i j : Nat} (h : j ≠ i) (v : Value) :
    (setPadded items i v)[j]? =
      if j < items.length then items[j]? else if j < i then some .absent else none := by
  rw [setPadded, List.getElem?_set_ne (Ne.symm h)]
  by_cases hj : j < items.length
  · rw [List.getElem?_append_left hj, if_pos hj]
  · rw [List.getElem?_append_right (by omega), if_neg hj, List.getElem?_replicate]
    by_cases hi : j < i
    · rw [if_pos (by omega), if_pos hi]
    · rw [if_neg (by omega), if_neg hi]

namespace Container

open Run Host

/-- The description of the type of one of the scripts' own values. -/
def description (call : Call) (v : Value) : Run Value :=
  viaMethod call v "get_box_meta" [] fun _ => keptDescription call v

/-- The names of the keys of a struct, as one value. -/
def keyNames (call : Call) (v : Value) : Run Value :=
  viaMethod call v "key_names" [] fun _ => do
    match ← body? v with
    | some (.struct m _) => newList (m.keys.map fun k => .text k.name)
    | _ => fail .attributeError

/-- The values that an error about a missing key lists; nothing lists none. -/
def listedKeys (call : Call) (keys : Value) : Run (List Value) :=
  if keys = .none then return [] else itemsOf call keys

/-- The keys that the refusal of a missing key tells of: as its message lists them and as the error
    carries them. They are asked for each time. -/
def listKeys (call : Call) (members : Value) : Run (Listing × List Value) := do
  let shown ← (← itemsOf call (← keyNames call members)).mapM (textOf call)
  let keys ← listedKeys call (← keyNames call members)
  -- These values know no service, so the limit is the usual one.
  return (⟨shown, Listing.defaultLimit⟩, keys)

/-- The refusal of a missing key. -/
def keyRefused (call : Call) (members : Value) (reason : Listing → List Value → Reason) :
    Run Value := do
  let (shown, keys) ← listKeys call members
  refuse (reason shown keys)

/-! ### Reading -/

/-- Reads a key of a struct. -/
def readStruct (call : Call) (v : Value) (m : OrderedMap Key Value) (key : Key) (safe : Bool) :
    Run Value := do
  if key.same .metadata then description call v
  else match m.get? key with
    | some x => return x
    | none =>
      if safe then return .absent
      else keyRefused call v fun shown keys => .structKeyMissing key.name shown keys v

/-- Reads an array: its length, or an element. -/
def readArray (call : Call) (v : Value) (items : List Value) (key : Key) (safe : Bool) :
    Run Value := do
  if key.same .metadata then description call v
  else if key.same .length then return .int items.length
  else match ← orFail (key.readIndex items.length safe) with
    | none => return .absent
    | some i => return items.getD (i.toNat - 1) .absent

/-- The public members of a scripted instance. -/
def publicScope (call : Call) (v : Value) : Run Value := getAttr call v "this_scope"

/-- Reads a public member of a scripted instance. -/
def readScripted (call : Call) (v scope : Value) (key : Key) (safe : Bool) : Run Value := do
  if key.same .metadata then description call v
  else
    let members ← publicScope call v
    -- The public scope is read safely: the absent value is what tells that a key is missing.
    let args (key : Value) : List Value := [scope, key, .bool true]
    let found ← viaKeyed call members "dereference" key args fun l => do
      match l, ← body? members with
      | .struct, some (.struct m _) => readStruct call members m key true
      | _, _ => do callMethod call members "dereference" (args (← keyArgument key))
    if found ≠ .absent || safe then return found
    else
      let type ← typeNameOf v
      -- A declared class may give another scope each time it is asked.
      keyRefused call (← publicScope call v) fun shown keys =>
        .classKeyMissing key.name type shown keys v

/-- Reads a key as a library class does. -/
def readNative (call : Call) (l : LibraryKind) (v scope : Value) (key : Key) (safe : Bool) :
    Run Value := do
  match l, ← body? v with
  | .struct, some (.struct m _) => readStruct call v m key safe
  | .array, some (.array items _) => readArray call v items key safe
  | .struct, _ | .array, _ => fail .attributeError
  | .scripted, _ => readScripted call v scope key safe
  | .referenceable, _ => fail notImplemented
  | _, _ => do callMethod call v "dereference" [scope, ← keyArgument key, .bool safe]

/-- Reads a key of a value that answers for itself. -/
def read (call : Call) (v scope : Value) (key : Key) (safe : Bool) : Run Value :=
  viaKeyed call v "dereference" key (fun k => [scope, k, .bool safe]) fun l =>
    readNative call l v scope key safe

/-! ### Writing -/

/-- Writes a key as a library class does, and gives back the value. -/
def writeNative (call : Call) (l : LibraryKind) (v scope : Value) (key : Key) (x : Value) :
    Run Value := do
  match l, ← body? v with
  | .struct, _ => do
    setItem call v key.asValue x
    return x
  -- An array writes past whatever its class says about setting elements; a struct does not.
  | .array, some (.array items card) => do
    let i ← orFail (key.writeIndex items.length false)
    setBody v (.array (setPadded items (i.toNat - 1) x) card)
    return x
  | .array, _ => fail .attributeError
  | .scripted, _ => do
    setItem call (← publicScope call v) key.asValue x
    return x
  | .referenceable, _ => fail notImplemented
  | _, _ => do callMethod call v "assign" [scope, ← keyArgument key, x]

/-- Writes a key of a value that answers for itself. -/
def write (call : Call) (v scope : Value) (key : Key) (x : Value) : Run Value :=
  viaKeyed call v "assign" key (fun k => [scope, k, x]) fun l => writeNative call l v scope key x

/-! ### Calling -/

/-- Calls what is stored under a key. -/
def invokeStored (call : Call) (v scope : Value) (key : Key) (args : Value) (safe : Bool) :
    Run Value := do
  invokeValue call scope v key (← read call v scope key safe) args

/-- Calls a member as a library class does: a registered function comes first, then the names of a
    struct's keys, then what is stored under the key. -/
def invokeNative (call : Call) (l : LibraryKind) (v scope : Value) (key : Key) (args : Value)
    (safe : Bool) : Run Value := do
  match l with
  | .struct =>
    match ← scopedFunction? call scope key v with
    | some f => invokeFound call f scope v args
    | none =>
      -- The names of the keys are there for calls only, and hide an entry of that name.
      if key.same .keyArray then do newArray (← listedKeys call (← keyNames call v))
      else invokeStored call v scope key args safe
  | .array =>
    match ← scopedFunction? call scope key v with
    | some f => invokeFound call f scope v args
    | none => invokeStored call v scope key args safe
  | .scripted => invokeStored call v scope key args safe
  | .referenceable => fail notImplemented
  | _ => do
    callMethod call v "dereference_and_invoke" [scope, ← keyArgument key, args, .bool safe]

/-- Calls a member of a value that answers for itself. -/
def invoke (call : Call) (v scope : Value) (key : Key) (args : Value) (safe : Bool) :
    Run Value :=
  viaKeyed call v "dereference_and_invoke" key (fun k => [scope, k, args, .bool safe]) fun l =>
    invokeNative call l v scope key args safe

end Container

end ScriptBridge
