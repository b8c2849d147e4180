import ScriptBridge.Host.New

namespace ScriptBridge

/-!
# Special methods

The host's own operations ask the class of a value for a method of a special name. The nearest
definition along the line of descent counts, whatever the value itself holds.

* `Host.bindPlainly` is how functions that a class holds are read through an instance;
* `Host.callEntry` calls a declared definition, `Host.callSpecial?` does so if there is one.
-/

namespace Host

open Run

/-- What a class's entry reads as through an instance of a kind, as far as functions go. -/
def bindPlainly (v : Value) (k : Kind) (x : Value) : Run Value := do
  match x with
  | .native ⟨some _, _⟩ => attach x v
  | x =>
    match ← body? x with
    | some (.function _) => attach x v
    | some (.staticMethod f) => return f
    | some (.classMethod f) => attach f (.kind k)
    | _ => return x

/-- Calls an entry of a class on an instance. -/
def callEntry (call : Call) (v entry : Value) (args : List Value) : Run Value := do
  let f ← bindPlainly v (← kindOf v) entry
  call f { positional := args }

/-- Calls the nearest definition of a special method, if a declared class has it. -/
def callSpecial? (call : Call) (v : Value) (name : String) (args : List Value) :
    Run (Option Value) := do
  match (← store).declaredSpecial? (← kindOf v) name with
  | some (_, entry) => return some (← callEntry call v entry args)
  | none => return none

/-- The library class whose definition of a special method is the nearest for a value. -/
def librarySpecial? (v : Value) (name : String) : Run (Option LibraryKind) := do
  match (← store).special? (← kindOf v) name with
  | some (.library l) => return some l
  | _ => return none

/-- The integer that a value is as an index: an integer, or what its class turns it into. -/
def indexOf (call : Call) (v : Value) : Run Int := do
  match (← store).scalar v with
  | .int n => return n
  | .bool b => return if b then 1 else 0
  | _ =>
    match ← callSpecial? call v "__index__" [] with
    | some r => match (← store).scalar r with
      | .int n => return n
      | .bool b => return if b then 1 else 0
      | _ => fail .typeError
    | none => fail .typeError

/-- The greatest number of elements that the host counts. -/
def maxLength : Nat := 9223372036854775807

/-- The host's refusal of a number that does not fit. -/
def overflow : Fault := .host .overflowError ""

/-- The integer that a value is as an index, if it fits a machine word. -/
def wordIndexOf (call : Call) (v : Value) : Run Int := do
  let n ← indexOf call v
  if n < -(maxLength : Int) - 1 ∨ (maxLength : Int) < n then fail overflow else return n

/-- The integer that a value is as a count; one that does not fit a machine word is no such
    value. -/
def countOf (call : Call) (v : Value) : Run Int := do
  let n ← indexOf call v
  if n < -(maxLength : Int) - 1 ∨ (maxLength : Int) < n then fail .valueError else return n

/-- The text that a special method must give. -/
def textResult (v : Value) : Run String := do
  match (← store).scalar v with
  | .text t => return t
  | _ => fail .typeError

end Host

end ScriptBridge
