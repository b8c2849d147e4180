import ScriptBridge.Run

namespace ScriptBridge

/-!
# New objects

The objects that host code and the engine make all the time, and the test that tells the class of a
fault.
-/

namespace Store

/-- The plain scalar that a value is or holds. -/
def scalar (s : Store) (v : Value) : Value :=
  match s.body? v with
  | some (.scalar v) => v
  | _ => v

end Store

namespace Host

open Run

/-- A new tuple. -/
def newTuple (items : List Value) : Run Value :=
  alloc { kind := .library .tuple, body := .tuple items }

/-- A new list. -/
def newList (items : List Value) : Run Value :=
  alloc { kind := .library .list, body := .list items }

/-- A new host map. -/
def newDict (entries : HostMap) : Run Value :=
  alloc { kind := .library .dict, body := .dict entries }

/-- A new struct. -/
def newStruct (entries : OrderedMap Key Value) : Run Value :=
  alloc { kind := .library .struct, body := .struct entries none }

/-- A new array. -/
def newArray (items : List Value) : Run Value :=
  alloc { kind := .library .array, body := .array items none }

/-- A class with an instance of it as an object. -/
def newTarget (cls : Kind) (inst : Value) : Run Value :=
  alloc { kind := .library .targetRef, body := .target cls inst }

/-- A function bound to a receiver. -/
def attach (function receiver : Value) : Run Value :=
  alloc { kind := .library .boundMethod, body := .bound function receiver }

/-- A key that no other is the same object as. -/
def newKey (k : Key) : Run Value := do
  let n := (← store).stamps + 1
  modifyStore fun s => { s with stamps := n }
  return .key { k with stamp := n, object := none }

/-- A scalar as a value. What is not a number differs from every other of its sort, so each is an
    object of its own. -/
def newScalar (v : Value) : Run Value :=
  match v with
  | .real .nan => alloc { kind := .library .real, body := .scalar v }
  | .decimal (.undefined ..) => alloc { kind := .library .decimal, body := .scalar v }
  | .complex re im =>
    if re = .nan || im = .nan then alloc { kind := .library .complex, body := .scalar v }
    else return v
  | v => return v

/-- Whether a fault is an error of a class. -/
def faultIsA (s : Store) (f : Fault) (k : LibraryKind) : Bool :=
  match f with
  | .engine r | .wrapped r _ => r.kind.lineage.contains k
  | .host l _ => l.lineage.contains k
  | .raised e => s.isA e k

/-- Does something else where an operation fails with an error of a class. -/
def catching {α : Type} (k : LibraryKind) (x otherwise : Run α) : Run α := do
  match ← outcome x with
  | .ok a => return a
  | .error f => if faultIsA (← store) f k then otherwise else fail f

/-- An operation of the host on any values, by name. -/
def operate (call : Call) (name : String) (args : List Value) : Run Value :=
  call (.native ⟨none, name⟩) { positional := args }

end Host

end ScriptBridge
