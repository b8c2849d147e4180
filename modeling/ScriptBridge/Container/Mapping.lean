import ScriptBridge.Container

namespace ScriptBridge

/-!
# Maps by their elements

The operations that every map has once elements can be read, written, removed and walked through. A
key that is missing is the host's error for that.

* `Mapping.getD`, `Mapping.pop`, `Mapping.popItem`, `Mapping.setDefault`, `Mapping.update` and
  `Mapping.clear` work on any map;
* `Mapping.putAll` fills a host map;
* `Mapping.ofAlternating` makes a struct.
-/

namespace Mapping

open Run Host

/-- Whether a value has an attribute. -/
def hasAttr (call : Call) (v : Value) (name : String) : Run Bool :=
  catching .attributeError (do return (← getAttr? call v name).isSome) (return false)

/-- The value under a key, or a default. -/
def getD (call : Call) (v key fallback : Value) : Run Value :=
  catching .keyError (getItem call v key) (return fallback)

/-- Removes a key and gives its value, or a default. -/
def pop (call : Call) (v key : Value) (fallback : Option Value) : Run Value := do
  match ← outcome (getItem call v key) with
  | .ok x => do
    -- Only the reading is covered by the default, not a key that is missing by now.
    deleteItem call v key
    return x
  | .error f =>
    match fallback with
    | some d => if faultIsA (← store) f .keyError then return d else fail f
    | none => fail f

/-- The first element of a value that can be walked through. -/
def first? (call : Call) (v : Value) : Run (Option Value) := do
  match ← callSpecial? call v "__iter__" [] with
  | some walker =>
    -- What walks is asked for one element only, not walked to its end.
    match ← callSpecial? call walker "__next__" [] with
    | some x => return some x
    | none => fail .typeError
  | none => do return (← itemsOf call v).head?

/-- Removes the first pair and gives it. -/
def popItem (call : Call) (v : Value) : Run (Value × Value) := do
  match ← first? call v with
  | none => fail keyMissing
  | some k => do
    let x ← getItem call v k
    deleteItem call v k
    return (k, x)

/-- Removes pairs until there is none; `fuel` bounds their number. -/
def clearWith (call : Call) (v : Value) : Nat → Run Unit
  | 0 => fail (.host .recursionError "")
  | fuel + 1 => do
    let pair ← catching .keyError (do
      return some (← callMethod call v "popitem" [])) (return none)
    if pair.isSome then clearWith call v fuel

/-- Removes all pairs. -/
def clear (call : Call) (v : Value) : Run Unit := clearWith call v walkLimit

/-- The value under a key, which is set to a default first if it is missing. -/
def setDefault (call : Call) (v key fallback : Value) : Run Value :=
  catching .keyError (getItem call v key) (do
    setItem call v key fallback
    return fallback)

/-- The two values that one value consists of. -/
def twoOf (call : Call) (v : Value) : Run (Value × Value) := do
  match ← itemsOf call v with
  | [k, x] => return (k, x)
  | _ => fail .valueError

/-- Sets the elements under some keys of another value. -/
def copyKeys (call : Call) (v other : Value) (keys : List Value) : Run Unit :=
  keys.forM fun k => do setItem call v k (← getItem call other k)

/-- Sets all pairs of a value: those of a map, those under the keys that it names, or those that it
    consists of. -/
def update (call : Call) (v other : Value) : Run Unit := do
  if (← store).isInstance other .mapping then copyKeys call v other (← itemsOf call other)
  -- Whatever names its keys counts as a map, registered or not.
  else if ← hasAttr call other "keys" then
    copyKeys call v other (← itemsOf call (← callMethod call other "keys" []))
  else
    (← itemsOf call other).forM fun item => do
      let (k, x) ← twoOf call item
      setItem call v k x

/-- Sets alternating keys and values. -/
def setAlternating (call : Call) (v : Value) : List Value → Run Unit
  | k :: x :: rest => do
    setItem call v k x
    setAlternating call v rest
  | _ => return

/-- A new struct of a class, of alternating keys and values. -/
def ofAlternating (call : Call) (k : Kind) (values : List Value) : Run Value := do
  if values.length % 2 = 1 then refuse .oddPairs
  let v ← call (.kind k) {}
  setAlternating call v values
  return v

/-! ### Host maps -/

/-- Sets a key of a host map. -/
def put (call : Call) (v k x : Value) : Run Unit := do
  match ← content? v with
  | some (.dict m) => do setContent v (.dict (← insertKey call m k x))
  | _ => fail .typeError

/-- Sets all pairs of a value in a host map: those of another host map, those under the keys that it
    names, or those that it consists of. -/
def putAll (call : Call) (v other : Value) : Run Unit := do
  match ← content? other, ← librarySpecial? other "__iter__", ← content? v with
  | some (.dict n), some .dict, some (.dict m) => setContent v (.dict (m.insertAll n.entries))
  | _, _, _ =>
    if ← hasAttr call other "keys" then
      (← itemsOf call (← callMethod call other "keys" [])).forM fun k => do
        put call v k (← getItem call other k)
    else
      (← itemsOf call other).forM fun item => do
        let (k, x) ← twoOf call item
        put call v k x

end Mapping

end ScriptBridge
