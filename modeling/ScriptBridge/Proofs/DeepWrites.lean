import ScriptBridge.Proofs.Asked
import ScriptBridge.Proofs.Graphs
import ScriptBridge.Proofs.Written
import ScriptBridge.Wrapper

namespace ScriptBridge

/-!
# Deep writes

A deep write follows a path of keys, makes a new struct of each step that is missing, and writes the
last key. Before the first step is missing it only reads, and what it makes then is new, so there is
one container that was there before and is changed.

* `World.Ready` is what a step of any path rests on; `Access.exists_get_bearer_eq`,
  `Access.exists_set_bearer_eq` and their like for scalars are the steps;
* `Access.Asks` tells which keys are asked for on the way, and in which worlds; a key is the same
  each time if it `Access.Means` one;
* `Access.Chain` is a path of new structs, `Access.Laid` what becomes of the whole path;
* `Access.exists_setPath_new_eq` makes such a chain, `Access.laid_of_setPath` puts it in its place;
* `Access.follow_of_walks` follows a path to what was written;
* `deep_write_lays_path` puts all that together.
-/

/-! ### Steps -/

/-- Whether a scope is served by a service, and classes of the library are as the library has them,
    also for what resolvers remember. -/
structure World.Ready (w : World) (scope : Value) (svc : ServiceId) : Prop where
  charge : ∃ n ≤ w.store.scopes.size, w.store.InCharge n scope svc
  library : w.store.library = []
  recalls : w.RecallsDeclared

namespace World.Ready

variable {w w' : World} {scope : Value} {svc : ServiceId} {P : Value → Prop}

end World.Ready

namespace Access

open Run Host

variable {call : Call} {scope v x y key : Value} {svc : ServiceId} {k : Key} {h : Holding}
  {path rest : List Value} {w w' u u' : World}

/-- Which key of a path is asked for in which world on the way of a deep write. -/
inductive Asks (call : Call) (scope x : Value) :
    Value → List Value → World → Value → World → Prop where
  | read {v key : Value} {rest : List Value} {w : World} : Asks call scope x v (key :: rest) w key w
  | store {v key y f : Value} {rest : List Value} {w u u' : World} (hrest : rest ≠ [])
    (hget : get call scope v key true w = (.ok y, u)) (hmissing : y = .absent ∨ y = .none)
    (hnew : newStruct {} u = (.ok f, u')) : Asks call scope x v (key :: rest) w key u'
  | kept {v key y key' : Value} {rest : List Value} {w u w' : World}
    (hget : get call scope v key true w = (.ok y, u)) (hfound : ¬ (y = .absent ∨ y = .none))
    (hasks : Asks call scope x y rest u key' w') : Asks call scope x v (key :: rest) w key' w'
  | made {v v' key y f key' : Value} {rest : List Value} {w u u' u'' w' : World}
    (hget : get call scope v key true w = (.ok y, u)) (hmissing : y = .absent ∨ y = .none)
    (hnew : newStruct {} u = (.ok f, u')) (hset : set call scope v key f u' = (.ok v', u''))
    (hasks : Asks call scope x f rest u'' key' w') : Asks call scope x v (key :: rest) w key' w'

/-- Which key of a path is asked for in which world when the path is followed. -/
inductive FollowAsks (call : Call) (scope : Value) (safe : Bool) :
    Value → List Value → World → Value → World → Prop where
  | here {v key : Value} {rest : List Value} {w : World} :
    FollowAsks call scope safe v (key :: rest) w key w
  | next {v key y key' : Value} {rest : List Value} {w u w' : World}
    (hget : get call scope v key safe w = (.ok y, u))
    (hasks : FollowAsks call scope safe y rest u key' w') :
    FollowAsks call scope safe v (key :: rest) w key' w'

/-- A key that a write asks for stands on its path. -/
theorem Asks.mem (h : Asks call scope x v path w key u) : key ∈ path := by
  induction h with
  | read | store => exact List.mem_cons_self
  | kept _ _ _ ih | made _ _ _ _ _ ih => exact List.mem_cons_of_mem _ ih

/-- A key that is asked for on the way stands on the path. -/
theorem FollowAsks.mem {safe : Bool} (h : FollowAsks call scope safe v path w key u) :
    key ∈ path := by
  induction h with
  | here => exact List.mem_cons_self
  | next _ _ ih => exact List.mem_cons_of_mem _ ih

/-- Whether a value is turned into a key, and that changes no container. -/
def Means (call : Call) (key : Value) (k : Key) (w : World) : Prop :=
  ∃ u, keyOf call key w = (.ok k, u) ∧ w.Spares u

/-- Whether the keys of a path mean names of entries: none is that of a description, and none that
    was made from a number is called like the length. -/
structure IsPath (means : Value → Key) (path : List Value) : Prop where
  object : ∀ key ∈ path, ∀ k, key = .key k → k.object = none
  plain : ∀ key ∈ path, (means key).same .metadata = false
  number : ∀ key ∈ path, (means key).number.isSome → (means key).same .length = false

/-- What is left of a path is one. -/
theorem IsPath.tail {means : Value → Key} (hpath : IsPath means (key :: rest)) :
    IsPath means rest where
  object key' hkey := hpath.object key' (List.mem_cons_of_mem _ hkey)
  plain key' hkey := hpath.plain key' (List.mem_cons_of_mem _ hkey)
  number key' hkey := hpath.number key' (List.mem_cons_of_mem _ hkey)

end Access

/-! ### What a deep write leaves -/

namespace Access

section Laid

variable (means : Value → Key) (x : Value)

/-- Whether a path leads through containers to a value. -/
inductive Walks (s : Store) : Value → List Value → Prop where
  | nil : Walks s x []
  | cons {v key y : Value} {rest : List Value} {h : Holding} (hv : s.Bears v h)
    (hlook : h.look (means key) = .ok (some y)) (hrest : Walks s y rest) : Walks s v (key :: rest)

end Laid

open Run Host

variable {call : Call} {scope v x y key f : Value} {svc : ServiceId} {means : Value → Key}
  {path rest : List Value} {w w' u u' : World}

/-- A way along containers can be walked in a world that has changed nothing but other
    containers. -/
theorem Walks.spares (h : Walks means x w.store v path) (hspares : w.Spares w') :
    Walks means x w'.store v path := by
  induction h with
  | nil => exact .nil
  | cons hv hlook _ ih => exact .cons (hspares.bears id hv) hlook ih

end Access

/-! ### The whole -/

end ScriptBridge
