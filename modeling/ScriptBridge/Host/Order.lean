import ScriptBridge.Host.Item

namespace ScriptBridge

/-!
# Order of values

When one value comes before another. Containers are compared element by element; a declared class
may define the order from either side.

* `Host.less` compares two values.
-/

namespace Host

open Run

/-- Whether one list comes before another, given equality and order of the elements: the first
    elements that differ decide, and else the length. -/
def lessLists (equal less : Value → Value → Run Bool) : List Value → List Value → Run Bool
  | _, [] => return false
  | [], _ :: _ => return true
  | x :: xs, y :: ys => do if ← equal x y then lessLists equal less xs ys else less x y

/-- What a library class knows about the order of two values. -/
def contentLess? (equal less : Value → Value → Run Bool) (a b : Value) : Run (Option Bool) := do
  let s ← store
  match s.scalar a, s.scalar b with
  | .text t, .text u => return some (t < u)
  | x, y =>
    match ← numberLess? x y with
    | some r => return some r
    | none =>
      match s.content? a, s.content? b with
      | some (.list xs), some (.list ys) | some (.tuple xs), some (.tuple ys)
      | some (.deque xs _), some (.deque ys _) => do return some (← lessLists equal less xs ys)
      | some (.bytes xs), some (.bytes ys) => return some (decide (xs < ys))
      | some (.byteArray xs), some (.words ys) => return some (decide (xs < wordBytes ys))
      | some (.words xs), some (.byteArray ys) => return some (decide (wordBytes xs < ys))
      | p@(some (.byteArray _)), q | p, q@(some (.byteArray _)) =>
        return do return decide ((← bytesOf? p) < (← bytesOf? q))
      | _, _ => return none

/-- Whether one value comes before another, as far as they are nested. -/
def lessWith (call : Call) (fuel : Nat) (a b : Value) : Run Bool := do
  match fuel with
  | 0 => fail (.host .recursionError "")
  | fuel + 1 =>
    let reflected : Run Bool := do
      match ← callSpecial? call b "__gt__" [a] with
      | some r => truth call r
      | none => fail .typeError
    match ← callSpecial? call a "__lt__" [b] with
    | some r => truth call r
    | none =>
      match ← contentLess? (equal call) (lessWith call fuel) a b with
      | some r => return r
      | none => reflected

/-- Whether one value comes before another. -/
def less (call : Call) (a b : Value) : Run Bool := lessWith call nestingLimit a b

end Host

end ScriptBridge
