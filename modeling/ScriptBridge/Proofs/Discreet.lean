import ScriptBridge.Proofs.Refused

namespace ScriptBridge

/-!
# Operations that refuse for known reasons

The engine refuses with a reason, and a reason that lists names lists as many of them as a service
is configured to. Most of what an operation does is the host's: it looks at values and changes them,
and fails with the host's own errors. So the engine's refusals are found by following what an
operation consists of down to where the host's operations begin.

* `Run.Discreet` says of an operation that it leaves alone how many names the services list, and is
  refused for reasons of some sort only. `Run.Discreet.bind` and `Run.Discreet.rescue` are how
  operations are put together;
* `DiscreetCall` is a way to call values that passes on no refusal at all;
* there is one lemma for each basic operation, `Run.discreet_store` and the like. They are tagged,
  so a proof opens its own operation only, and takes the first steps of a long one itself.

The operations of the host follow in the modules below this one, which are named for where the
operations are defined.
-/

/-! ### Refusals and limits -/

/-- Whether the services list some numbers of names at most. -/
def World.Limits (w : World) (n : ServiceId → Int) : Prop := ∀ svc, w.listingLimit svc = n svc

/-- Whether a fault is no refusal of the engine, or one for a reason of some sort. -/
def Fault.Within (P : Reason → Prop) (e : Fault) : Prop := ∀ r, e = .engine r → P r

namespace Fault

variable {P : Reason → Prop}

/-- An error of the host is no refusal of the engine. -/
@[grind ←] theorem within_host (k : LibraryKind) (s : String) : (Fault.host k s).Within P := by
  intro r h
  cases h

/-- What a program raises is no refusal of the engine. -/
@[grind ←] theorem within_raised (v : Value) : (Fault.raised v).Within P := by
  intro r h
  cases h

/-- A fault that has a cause is no refusal of the engine, even where its cause is one. -/
@[grind ←] theorem within_wrapped (r : Reason) (e : Fault) : (Fault.wrapped r e).Within P := by
  intro r h
  cases h

@[grind ←] theorem within_typeError : typeError.Within P := within_host _ _

@[grind ←] theorem within_valueError : valueError.Within P := within_host _ _

@[grind ←] theorem within_attributeError : attributeError.Within P := within_host _ _

@[grind ←] theorem within_tooManyDigits : tooManyDigits.Within P := within_host _ _

end Fault

/-! ### Operations and how they are put together -/

namespace Run

variable {α β : Type} {n : ServiceId → Int} {P : Reason → Prop}

/-- Whether an operation leaves the numbers of names that the services list, and the engine refuses
    it only for reasons of some sort. -/
structure Discreet (n : ServiceId → Int) (P : Reason → Prop) (x : Run α) : Prop where
  limits : ∀ w : World, w.Limits n → (x w).2.Limits n
  fault : ∀ w : World, w.Limits n → ∀ e, (x w).1 = .error e → e.Within P

namespace Discreet

/-- What never fails and leaves the configuration is discreet. -/
theorem of_ok {x : Run α} (h : ∀ w : World, ∃ a w', x w = (.ok a, w') ∧
    ∀ svc, w'.listingLimit svc = w.listingLimit svc) : x.Discreet n P where
  limits w hw := by
    obtain ⟨a, w', hx, hsame⟩ := h w
    rw [hx]
    intro svc
    rw [hsame svc, hw svc]
  fault w hw e he := by
    obtain ⟨a, w', hx, -⟩ := h w
    rw [hx] at he
    cases he

/-- An operation that is refused for some reasons only is so for more. -/
theorem mono {Q : Reason → Prop} (h : ∀ r, P r → Q r) {x : Run α} (hx : x.Discreet n P) :
    x.Discreet n Q where
  limits := hx.limits
  fault w hw e he r hr := h r (hx.fault w hw e he r hr)

@[grind ←] theorem pure (a : α) : (pure a : Run α).Discreet n P :=
  of_ok fun w => ⟨a, w, rfl, fun _ => rfl⟩

/-- To fail is as discreet as the fault is. -/
@[grind ←] theorem fail {e : Fault} (h : e.Within P) : (fail e : Run α).Discreet n P where
  limits _ hw := hw
  fault _ _ e' he := by
    cases he
    exact h

/-- To refuse is discreet if the reason is one of those that are allowed. -/
theorem refuse {r : Reason} (h : P r) : (refuse r : Run α).Discreet n P :=
  .fail fun _ hr => by cases hr; exact h

/-- Two operations in a row are discreet if each is, whatever the first one gives. -/
@[grind ←] theorem bind {x : Run α} {f : α → Run β} (hx : x.Discreet n P)
    (hf : ∀ a, (f a).Discreet n P) : (x >>= f).Discreet n P where
  limits w hw := by
    have hu := hx.limits w hw
    rcases h : x w with ⟨e | a, u⟩
    · rw [bind_of_error h]
      rw [h] at hu
      exact hu
    · rw [bind_of_ok h]
      rw [h] at hu
      exact (hf a).limits u hu
  fault w hw e he := by
    have hu := hx.limits w hw
    rcases h : x w with ⟨e' | a, u⟩
    · rw [bind_of_error h] at he
      cases he
      exact hx.fault w hw e (by rw [h])
    · rw [bind_of_ok h] at he
      rw [h] at hu
      exact (hf a).fault u hu e he

/-- A choice is discreet if both branches are. The condition is not looked at. -/
theorem ite {p : Prop} [Decidable p] {x y : Run α} (hx : x.Discreet n P) (hy : y.Discreet n P) :
    (if p then x else y).Discreet n P := by
  split
  next => exact hx
  next => exact hy

/-- What is done about the fault that an operation ends in has to be discreet about such faults
    alone. -/
theorem rescue {Q : Reason → Prop} {x : Run α} {f : Except Fault α → Run β} (hx : x.Discreet n Q)
    (hok : ∀ a, (f (.ok a)).Discreet n P) (herror : ∀ e, e.Within Q → (f (.error e)).Discreet n P) :
    (Run.outcome x >>= f).Discreet n P := by
  -- What follows depends on the world through what `x` ended in there.
  have hf (w : World) (hw : w.Limits n) : (f (x w).1).Discreet n P := by
    rcases h : (x w).1 with e | a
    · exact herror e (hx.fault w hw e h)
    · exact hok a
  constructor
  · intro w hw
    exact (hf w hw).limits _ (hx.limits w hw)
  · intro w hw e he
    exact (hf w hw).fault _ (hx.limits w hw) e he

end Discreet

@[grind ←] theorem discreet_store : store.Discreet n P :=
  .of_ok fun w => ⟨_, _, store_apply w, fun _ => rfl⟩

@[grind ←] theorem discreet_service (svc : ServiceId) : (service svc).Discreet n P :=
  .of_ok fun w => ⟨_, _, service_apply w svc, fun _ => rfl⟩

/-- A service that is asked lists as many names as it is known to. -/
theorem Discreet.bind_service {svc : ServiceId} {f : Service → Run β}
    (hf : ∀ s, s.config.listingLimit = n svc → (f s).Discreet n P) :
    (service svc >>= f).Discreet n P where
  limits w hw := (hf _ (hw svc)).limits w hw
  fault w hw := (hf _ (hw svc)).fault w hw

/-- A change of the store leaves the services. -/
@[grind ←] theorem discreet_modifyStore (f : Store → Store) : (modifyStore f).Discreet n P :=
  .of_ok fun w => ⟨_, _, rfl, fun svc => by cases svc <;> rfl⟩

/-- A change of a service that leaves its configuration. -/
theorem discreet_modifyService (svc : ServiceId) {f : Service → Service}
    (hf : ∀ s, (f s).config = s.config) : (modifyService svc f).Discreet n P := by
  refine .of_ok fun w => ⟨(), w.modifyService svc f, rfl, fun id => ?_⟩
  have hmain := congrArg Config.listingLimit (hf w.main)
  have hfallback := congrArg Config.listingLimit (hf w.fallback)
  cases svc <;> cases id <;> first | rfl | assumption

/-- A trace leaves the configuration of the service that writes it. -/
@[grind ←] theorem discreet_trace (svc : ServiceId) (parts : List String) :
    (trace svc parts).Discreet n P := by
  refine .of_ok fun w => ?_
  obtain ⟨lines, h⟩ := exists_trace_eq svc parts w
  exact ⟨(), w.withTrace lines, h, fun id => by simp⟩

@[grind ←] theorem discreet_body? (v : Value) : (body? v).Discreet n P :=
  .of_ok fun w => ⟨_, _, body?_apply w v, fun _ => rfl⟩

@[grind ←] theorem discreet_content? (v : Value) : (content? v).Discreet n P :=
  .of_ok fun w => ⟨_, _, content?_apply w v, fun _ => rfl⟩

@[grind ←] theorem discreet_kindOf (v : Value) : (kindOf v).Discreet n P :=
  .of_ok fun w => ⟨_, _, kindOf_apply w v, fun _ => rfl⟩

@[grind ←] theorem discreet_setBody (v : Value) (b : Body) : (setBody v b).Discreet n P :=
  discreet_modifyStore _

@[grind ←] theorem discreet_setContent (v : Value) (b : Body) : (setContent v b).Discreet n P :=
  discreet_modifyStore _

/-- Making an object leaves the services. -/
@[grind ←] theorem discreet_alloc (o : Object) : (alloc o).Discreet n P :=
  .of_ok fun w => ⟨_, _, rfl, fun svc => by cases svc <;> rfl⟩

@[grind ←] theorem discreet_typeName (k : Kind) : (typeName k).Discreet n P := by
  grind [typeName]

@[grind ←] theorem discreet_typeNameOf (v : Value) : (typeNameOf v).Discreet n P := by
  grind [typeNameOf]

/-- What is discreet for each element of a list is discreet for all of them in a row. -/
@[grind ←] theorem discreet_mapM {f : α → Run β} (hf : ∀ a, (f a).Discreet n P) (l : List α) :
    (l.mapM f).Discreet n P := by
  induction l with
  | nil => exact .pure _
  | cons a rest ih =>
    rw [List.mapM_cons]
    exact .bind (hf a) fun b => .bind ih fun bs => .pure _

/-- A result that is worked out apart is discreet if its fault is. -/
@[grind ←] theorem discreet_orFail {r : Except Fault α} (h : ∀ e, r = .error e → e.Within P) :
    (orFail r).Discreet n P := by
  cases r with
  | ok a => exact .pure a
  | error e => exact .fail (h e rfl)

end Run

open Run

/-- A way to call values in which no call passes on a refusal of the engine, or changes how many
    names the services list. -/
class DiscreetCall (call : Call) : Prop where
  discreet : ∀ n f args, (call f args).Discreet n fun _ => False

namespace Host

variable {call : Call} {n : ServiceId → Int} {P : Reason → Prop} [DiscreetCall call]

/-- A call is refused by the host alone, whatever may be refused around it. -/
theorem discreet_call (call : Call) [DiscreetCall call] (n : ServiceId → Int) (P : Reason → Prop)
    (f : Value) (args : Args) : (call f args).Discreet n P :=
  (DiscreetCall.discreet n f args).mono fun _ => False.elim

end Host

end ScriptBridge
