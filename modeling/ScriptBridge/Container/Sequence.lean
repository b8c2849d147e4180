import ScriptBridge.Container
import ScriptBridge.Host.Order

namespace ScriptBridge

/-!
# Sequences by their elements

The operations that every sequence has once elements can be read, written, removed and inserted.
Sequences are counted from zero here, and negative indexes count from the end.

* `Sequence.index`, `Sequence.count` look for a value;
* `Sequence.append`, `Sequence.extend`, `Sequence.pop`, `Sequence.remove`, `Sequence.reverse` and
  `Sequence.clear` change any sequence.
-/

/-- The place before which something is inserted. -/
def insertionPlace (length : Nat) (i : Int) : Nat :=
  let j := if i < 0 then i + length else i
  (min (max j 0) length).toNat

/-- The place that a bound of a range means: one before the start is the start. -/
def boundPlace (length : Nat) (i : Int) : Nat :=
  (if i < 0 then i + length else i).toNat

/-- A list with an item inserted before an index. -/
def insertAt (items : List Value) (i : Int) (x : Value) : List Value :=
  let j := insertionPlace items.length i
  items.take j ++ x :: items.drop j

namespace Sequence

open Run Host

/-! ### Finding -/

/-- How many items are equal to a value. -/
def countOf (call : Call) (x : Value) : List Value → Run Nat
  | [] => return 0
  | y :: rest => do
    let here ← equal call y x
    let more ← countOf call x rest
    return if here then more + 1 else more

/-- How many elements are equal to a value. -/
def count (call : Call) (v x : Value) : Run Nat := do
  countOf call x (← itemsOf call v)

/-- The first place, counted from a given one, of an item that is equal to a value. -/
def placeOf? (call : Call) (x : Value) : Nat → List Value → Run (Option Nat)
  | _, [] => return none
  | i, y :: rest => do if ← equal call y x then return some i else placeOf? call x (i + 1) rest

/-- A bound of a search as an integer; a negative one counts from the end. -/
def boundOf (call : Call) (v bound : Value) : Run Int := do
  let n ← indexOf call bound
  if n < 0 then return n + (← length call v) else return n

/-- The first place from a given one, before a bound, where a sequence has a value; `fuel` bounds
    the search. -/
def search (call : Call) (v x : Value) (stop : Option Int) : Nat → Nat → Run Nat
  | 0, _ => fail (.host .recursionError "")
  | fuel + 1, i => do
    if stop.any (· ≤ (i : Int)) then fail .valueError
    match ← outcome (getItem call v (.int i)) with
    -- The end of the sequence is found by running past it.
    | .error f => if faultIsA (← store) f .indexError then fail .valueError else fail f
    | .ok y => if ← equal call y x then return i else search call v x stop fuel (i + 1)

/-- The first place of a value in a sequence, between two bounds. -/
def index (call : Call) (v x start stop : Value) : Run Nat := do
  let start ← boundOf call v start
  let stop ← if stop = .none then pure none else do pure (some (← boundOf call v stop))
  search call v x stop walkLimit start.toNat

/-! ### Changing -/

/-- Inserts an element before an index, as a class defines it. -/
def insert (call : Call) (v : Value) (i : Int) (x : Value) : Run Unit := do
  let _ ← viaMethod call v "insert" [.int i, x] fun l => do
    match l, ← body? v with
    | .array, some (.array items card) => do
      setBody v (.array (insertAt items i x) card)
      return .none
    | _, _ => callMethod call v "insert" [.int i, x]

/-- Adds an element at the end. -/
def append (call : Call) (v x : Value) : Run Unit := do
  insert call v (← length call v) x

/-- Adds an element at the end, as a class defines it. -/
def appendTo (call : Call) (v x : Value) : Run Unit := do
  let _ ← viaMethod call v "append" [x] fun l => do
    match l with
    | .mutableSequence => do
      append call v x
      return .none
    | _ => callMethod call v "append" [x]

/-- Adds all elements of a value at the end. -/
def extend (call : Call) (v other : Value) : Run Unit := do
  (← itemsOf call other).forM (appendTo call v)

/-- Removes the element at an index and gives it. -/
def pop (call : Call) (v i : Value) : Run Value := do
  let x ← getItem call v i
  deleteItem call v i
  return x

/-- Removes the first element that is equal to a value. -/
def remove (call : Call) (v x : Value) : Run Unit := do
  let i ← callMethod call v "index" [x]
  deleteItem call v i

/-- Swaps elements from both ends inwards. -/
def reverse (call : Call) (v : Value) : Run Unit := do
  let n ← length call v
  (List.range (n / 2)).forM fun i => do
    let last ← getItem call v (.int (n - i - 1 : Nat))
    let first ← getItem call v (.int i)
    setItem call v (.int i) last
    setItem call v (.int (n - i - 1 : Nat)) first

/-- Removes elements from the end until there is none; `fuel` bounds their number. -/
def clearWith (call : Call) (v : Value) : Nat → Run Unit
  | 0 => fail (.host .recursionError "")
  | fuel + 1 => do
    let last ← catching .indexError (do return some (← callMethod call v "pop" [])) (return none)
    if last.isSome then clearWith call v fuel

/-- Removes all elements. -/
def clear (call : Call) (v : Value) : Run Unit := clearWith call v walkLimit

end Sequence

end ScriptBridge
