import ScriptBridge.OrderedMap

namespace ScriptBridge

/-!
# Caches

A cache maps keys to records that are made at most once. A record that cannot be made leaves the
cache as it was.
-/

/-- Records by key. -/
structure Cache (κ : Type) (α : Type) where
  records : OrderedMap κ α := {}

namespace Cache

variable {κ φ α ε : Type} [Keyed κ φ] [DecidableEq φ]

/-- The record under a key. -/
def get? (c : Cache κ α) (k : κ) : Option α := c.records.get? k

/-- Whether there is a record under a key. -/
def contains (c : Cache κ α) (k : κ) : Bool := c.records.contains k

/-- The number of records. -/
def size (c : Cache κ α) : Nat := c.records.size

/-- Stores a record. -/
def insert (c : Cache κ α) (k : κ) (a : α) : Cache κ α := ⟨c.records.insert k a⟩

/-- The record under a key, made now if there is none; `isRecord` tells stored values that count as
    records. The flag tells whether it was made. -/
def getOrCreate (c : Cache κ α) (isRecord : α → Bool) (k : κ) (make : Except ε α) :
    Except ε (α × Bool) × Cache κ α :=
  match (c.get? k).filter isRecord with
  | some a => (.ok (a, false), c)
  | none =>
    match make with
    | .ok a => (.ok (a, true), c.insert k a)
    | .error e => (.error e, c)

end Cache

end ScriptBridge
