import ScriptBridge.Session.Given
import ScriptBridge.Session.Reply

namespace ScriptBridge

/-!
# Commands on containers

The operations that every map and every sequence has, by whatever defines them for a value.
-/

namespace Session

open Run Host

/-- Calls a method for what it does. -/
def perform (v : Value) (name : String) (args : List Value) : Run Reply := do
  let _ ← callMethod call v name args
  return nothing

/-- Calls a method for what it gives. -/
def request (v : Value) (name : String) (args : List Value) : Run Reply := do
  return .value (← callMethod call v name args)

/-- Carries out a command on a struct. -/
def runStruct : StructCommand → Run Reply
  | .of pairs => do
    return .value (← Mapping.ofAlternating call (.library .struct) (← valuesOf pairs))
  | .new data named => do
    let data ← valueOf? data
    let named ← named.mapM fun (n, l) => do return (n, ← valueOf l)
    return .value
      (← call (.kind (.library .struct)) { positional := [data.getD .none], named })
  | .get target key => do
    let v ← valueOf target
    return .value (← getItem call v (← valueOf key))
  | .getD target key fallback => do
    let v ← valueOf target
    let key ← valueOf key
    request v "get" [key, ← valueOf fallback]
  | .set target key value => do
    let v ← valueOf target
    let key ← valueOf key
    setItem call v key (← valueOf value)
    return nothing
  | .delete target key => do
    let v ← valueOf target
    deleteItem call v (← valueOf key)
    return nothing
  | .has target key => do
    let v ← valueOf target
    return flag (← contains call v (← valueOf key))
  | .size target => do return number (← length call (← valueOf target))
  | .walk target => do return .value (← newList (← itemsOf call (← valueOf target)))
  | .names target => do request (← valueOf target) "key_names" []
  | .pop target key fallback => do
    let v ← valueOf target
    let key ← valueOf key
    request v "pop" (key :: (← valueOf? fallback).toList)
  | .popItem target => do request (← valueOf target) "popitem" []
  | .setDefault target key fallback => do
    let v ← valueOf target
    let key ← valueOf key
    request v "setdefault" [key, ← valueOf fallback]
  | .update target value => do
    let v ← valueOf target
    perform v "update" [← valueOf value]
  | .clear target => do perform (← valueOf target) "clear" []

/-- Carries out a command on an array. -/
def runArray : ArrayCommand → Run Reply
  | .get target index => do
    let v ← valueOf target
    return .value (← getItem call v (← valueOf index))
  | .set target index value => do
    let v ← valueOf target
    let i ← valueOf index
    setItem call v i (← valueOf value)
    return nothing
  | .delete target index => do
    let v ← valueOf target
    deleteItem call v (← valueOf index)
    return nothing
  | .insert target index value => do
    let v ← valueOf target
    let i ← valueOf index
    perform v "insert" [i, ← valueOf value]
  | .append target value => do
    let v ← valueOf target
    perform v "append" [← valueOf value]
  | .extend target value => do
    let v ← valueOf target
    perform v "extend" [← valueOf value]
  | .pop target index => do
    let v ← valueOf target
    request v "pop" (← valueOf? index).toList
  | .remove target value => do
    let v ← valueOf target
    perform v "remove" [← valueOf value]
  | .reverse target => do perform (← valueOf target) "reverse" []
  | .index target value => do
    let v ← valueOf target
    request v "index" [← valueOf value]
  | .count target value => do
    let v ← valueOf target
    request v "count" [← valueOf value]
  | .has target value => do
    let v ← valueOf target
    return flag (← contains call v (← valueOf value))
  | .size target => do return number (← length call (← valueOf target))

end Session

end ScriptBridge
