import ScriptBridge.Error

namespace ScriptBridge

/-!
# Indexes

Scripts count from one. A key is checked before it is used as an index: it must be a number, and it
must lie within the sequence, unless a growing sequence is written.
-/

namespace Key

/-- The index that a key reads a sequence at. A safe read that misses has none. -/
def readIndex (k : Key) (size : Int) (safe : Bool) : Except Fault (Option Int) :=
  match k.reading with
  -- The number is never made, so there is no index that a safe read could miss.
  | .tooLong => .error .valueError
  | .word => if safe then .ok none else .error (.engine (.indexNotNumeric k.name))
  | .index i =>
    if i < 1 ∨ size < i then
      if safe then .ok none else .error (.engine (.indexOutOfBounds i size))
    else .ok (some i)

/-- The index that a key writes a sequence at. Only a sequence of fixed size has an upper bound. -/
def writeIndex (k : Key) (size : Int) (fixed : Bool) : Except Fault Int :=
  match k.reading with
  | .tooLong => .error .valueError
  | .word => .error (.engine (.indexNotNumeric k.name))
  | .index i =>
    if i < 1 then .error (.engine (.indexBelowOne i))
    else if fixed ∧ size < i then .error (.engine (.indexOutOfBounds i size))
    else .ok i

end Key

end ScriptBridge
