import ScriptBridge.Dispatch
import ScriptBridge.Proofs.Run

namespace ScriptBridge

/-!
# Requests in a row

What comes of several requests, each of which is put where the ones before it ended, and of two such
rows side by side.

* `Ask` is a request for a key, `Ask.put` puts it to a value;
* `Run.inTurn` is what comes of operations in a row, `Run.afterAll` what they leave;
* `Run.Along` tells that something holds wherever two rows side by side have come to;
* `Run.inTurn_eq`: two rows come out the same if one step does and keeps the two worlds related.
-/

/-! ### Rows of operations -/

namespace Run

variable {α ι : Type}

/-- What comes of each of some operations. -/
def inTurn : World → List (Run α) → List (Except Fault α)
  | _, [] => []
  | w, x :: rest => (x w).1 :: inTurn (x w).2 rest

/-- The world after some operations. -/
def afterAll (w : World) (xs : List (Run α)) : World := xs.foldl (fun w x => (x w).2) w

/-- Whether something holds at each step of two rows, of the worlds in which it is taken. -/
def Along (x y : ι → Run α) (P : ι → World → World → Prop) : World → World → List ι → Prop
  | _, _, [] => True
  | w, w', i :: rest => P i w w' ∧ Along x y P (x i w).2 (y i w').2 rest

variable {x y : ι → Run α} {P Q : ι → World → World → Prop} {R : World → World → Prop}

/-- Runs that go along with each other do so for their first steps. -/
theorem Along.take {w w' : World} {steps : List ι} (h : Along x y P w w' steps) (n : Nat) :
    Along x y P w w' (steps.take n) := by
  induction steps generalizing w w' n with
  | nil => rw [List.take_nil]; trivial
  | cons i rest ih =>
    cases n with
    | zero => trivial
    | succ n => exact ⟨h.1, ih h.2 n⟩

/-- What holds at each step may be weakened along the run. -/
theorem Along.imp {w w' : World} {steps : List ι} (h : Along x y P w w' steps)
    (himp : ∀ i ∈ steps, ∀ w w', P i w w' → Q i w w') : Along x y Q w w' steps := by
  induction steps generalizing w w' with
  | nil => trivial
  | cons i rest ih =>
    have hi : Q i w w' := himp i List.mem_cons_self w w' h.1
    exact ⟨hi, ih h.2 fun j hj => himp j (List.mem_cons_of_mem i hj)⟩

/-- **Side by side.** Two rows of operations come out the same if each step that is taken in related
    worlds comes out the same and leaves related worlds. -/
theorem inTurn_eq
    (hstep : ∀ i w w', R w w' → P i w w' → (x i w).1 = (y i w').1 ∧ R (x i w).2 (y i w').2)
    {w w' : World} {steps : List ι} (hR : R w w') (h : Along x y P w w' steps) :
    inTurn w (steps.map x) = inTurn w' (steps.map y) ∧
      R (afterAll w (steps.map x)) (afterAll w' (steps.map y)) := by
  induction steps generalizing w w' with
  | nil => exact ⟨rfl, hR⟩
  | cons i rest ih =>
    obtain ⟨hanswer, hworld⟩ := hstep i w w' hR h.1
    obtain ⟨hrest, hafter⟩ := ih hworld h.2
    refine ⟨?_, hafter⟩
    rw [List.map_cons, List.map_cons, inTurn, inTurn, hanswer, hrest]

end Run

/-! ### Requests -/

/-- A request for a key, without the value it is put to: what is done with the key, and the scope in
    which that is done. -/
structure Ask where
  use : KeyUse
  key : Value
  scope : Value
deriving DecidableEq, Repr

namespace Ask

open Run

/-- Puts a request to a value. -/
def put (call : Call) (svc : ServiceId) (a : Ask) (target : Value) : Run Value :=
  match a.use with
  | .read safe => Service.dereference call svc target a.key safe a.scope
  | .write x => Service.assign call svc target a.key x a.scope
  | .call args safe => Service.dereferenceAndInvoke call svc target a.key args safe a.scope

variable {call : Call} {svc : ServiceId} {a : Ask} {target : Value} {w u : World}

/-- A request whose key cannot be made goes no further. -/
theorem put_of_error {e : Fault} (h : Host.keyOf call a.key w = (.error e, u)) :
    a.put call svc target w = (.error e, u) := by
  obtain ⟨use, key, scope⟩ := a
  cases use <;> exact bind_of_error h

/-- Once its key is made, a request goes to the target that the value stands for. -/
theorem put_of_ok {k : Key} (htarget : target ≠ .none) (h : Host.keyOf call a.key w = (.ok k, u)) :
    a.put call svc target w =
      Service.request call a.use svc (u.store.asTarget target) k a.scope u := by
  obtain ⟨use, key, scope⟩ := a
  cases use with
  | read safe =>
    refine (bind_of_ok h).trans ?_
    rw [if_neg htarget, bind_of_ok (store_apply u)]
  | write x => exact (bind_of_ok h).trans (bind_of_ok (store_apply u))
  | call args safe => exact (bind_of_ok h).trans (bind_of_ok (store_apply u))

end Ask

end ScriptBridge
