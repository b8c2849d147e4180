import ScriptBridge.Proofs.Cards
import ScriptBridge.Proofs.DeepWrites

namespace ScriptBridge

/-!
# Regions

A region is a set of values that is closed under reading: what is found in one of them, the
description included, is in the region again, or a scalar. Reads make descriptions, which widen it.
Nothing outside of a region is written by steps that start in it.

* `Store.Node` tells what a value of a region is, `World.Region` what a region is;
* `World.Region.of_looks`, `World.Region.alters`, `World.Region.describe`, `World.Region.describes`:
  what keeps a region;
* `World.Widens` relates regions before and after a step;
* `Access.exists_get_within_eq`, `Access.exists_set_within_eq` are the steps.
-/

/-! ### Closed sets of values -/

namespace Store

/-- Whether a value is one of some, or a scalar. -/
def Within (s : Store) (R : Value → Prop) (v : Value) : Prop := R v ∨ s.IsScalar v

/-- Whether a value is a scalar, a container, a tuple or a description of which all that is found in
    it is one of some values, or a scalar. -/
inductive Node (s : Store) (R : Value → Prop) (v : Value) : Prop where
  | scalar (hv : s.IsScalar v)
  | keeper {h : Holding} {card : Option Value} (hv : s.Bears v h) (hkeeps : s.KeepsCard v card)
    (hvalues : ∀ y ∈ h.values, s.Within R y) (hcard : ∀ y, card = some y → s.Within R y)
  | host {h : Holding} (hv : s.Bears v h) (hhost : s.IsHost v)
      (hvalues : ∀ y ∈ h.values, s.Within R y)
  | tuple {xs : List Value} (hv : s.IsTuple v xs) (hvalues : ∀ y ∈ xs, s.Within R y)
  | card {t m : Value} (hv : s.IsCard v t m) (htarget : s.Within R t) (hsaid : s.Within R m)

variable {s s' : Store} {R R' : Value → Prop} {v : Value}

/-- A value in a region is in a larger one. -/
theorem Within.mono (hv : s.Within R v) (hsub : ∀ z, R z → R' z)
    (hscalar : ∀ z, s.IsScalar z → s'.IsScalar z) : s'.Within R' v :=
  hv.imp (hsub v) (hscalar v)

/-- What is within some values is so as long as the scalars are kept. -/
theorem Within.kept (hv : s.Within R v) (hscalar : ∀ {z}, s.IsScalar z → s'.IsScalar z) :
    s'.Within R v :=
  hv.mono (fun _ => id) fun _ => hscalar

/-- A value that is no scalar is what it was as long as it is the same object. -/
theorem Node.of_sameAt (hv : s.Node R v) (hsame : ¬ s.IsScalar v → s.SameAt s' v)
    (hsub : ∀ z, R z → R' z) (hscalar : ∀ z, s.IsScalar z → s'.IsScalar z) : s'.Node R' v := by
  have hwithin {z : Value} (hz : s.Within R z) : s'.Within R' z := hz.mono hsub hscalar
  by_cases hs : s.IsScalar v
  · exact .scalar (hscalar v hs)
  -- Of any other node, what it holds is the same and stays within the region.
  replace hsame := hsame hs
  cases hv with
  | scalar hv => exact absurd hv hs
  | keeper hv hkeeps hvalues hcard =>
    exact .keeper (hsame.bears hv) (hsame.keepsCard hkeeps) (fun y hy => hwithin (hvalues y hy))
      fun y hy => hwithin (hcard y hy)
  | host hv hhost hvalues =>
    obtain ⟨l, b, hl, ho⟩ := hhost
    exact .host (hsame.bears hv) ⟨l, b, hl, hsame.deref?.trans ho⟩ fun y hy =>
      hwithin (hvalues y hy)
  | tuple hv hvalues => exact .tuple (hsame.deref?.trans hv) fun y hy => hwithin (hvalues y hy)
  | card hv htarget hsaid => exact .card (hsame.deref?.trans hv) (hwithin htarget) (hwithin hsaid)

/-- A value of a region that is no scalar is an object. -/
theorem Node.isScalar_or_exists_deref? (hv : s.Node R v) :
    s.IsScalar v ∨ ∃ o, s.deref? v = some o := by
  have hbears {h : Holding} (hb : s.Bears v h) : ∃ o, s.deref? v = some o := by
    obtain ⟨b, hb, -⟩ := hb.exists_body?
    obtain ⟨o, ho, -⟩ := Option.map_eq_some_iff.1 hb
    exact ⟨o, ho⟩
  cases hv with
  | scalar hv => exact .inl hv
  | keeper hv | host hv => exact .inr (hbears hv)
  | tuple hv | card hv => exact .inr ⟨_, hv⟩

end Store

namespace World

/-- Whether a set of values is closed under reading, as far as a service is asked for descriptions,
    and the service has not described what is still to be made. -/
structure Region (w : World) (svc : ServiceId) (R : Value → Prop) : Prop where
  nodes : ∀ v, R v → w.store.Node R v
  described : ∀ v d, R v → (w.service svc).described.lookup v = some d → w.store.Within R d
  known : ∀ v, w.IsNew v → (w.service svc).described.lookup v = none

/-- Whether a set of values is a region of another world, and what it has beyond a set of values is
    new. -/
structure Widens (svc : ServiceId) (w : World) (R : Value → Prop) (w' : World)
    (R' : Value → Prop) : Prop where
  region : w'.Region svc R'
  sub : ∀ v, R v → R' v
  new : ∀ v, R' v → R v ∨ w.IsNew v

variable {svc : ServiceId} {R R' : Value → Prop} {w w' w'' : World} {c v y : Value}

/-- Looking at values changes no service. -/
theorem Looks.service_eq (h : w.Looks w') (id : ServiceId) : w'.service id = w.service id := by
  obtain ⟨os, n, r, r', lines, rfl⟩ := h.keeps
  cases id <;> rfl

/-- Writing into a container changes no service. -/
theorem Alters.service_eq (h : w.Alters c w') (id : ServiceId) : w'.service id = w.service id := by
  obtain ⟨f, lines, rfl⟩ := h.eq
  cases id <;> rfl

/-- An object that is new is not there before. -/
theorem IsNew.deref?_eq (h : w.IsNew v) : w.store.deref? v = none := by
  obtain ⟨i, rfl, hi⟩ := h
  exact Array.getElem?_eq_none hi

/-- An object that is new was no scalar. -/
theorem IsNew.not_isScalar (h : w.IsNew v) : ¬ w.store.IsScalar v := by
  intro hs
  have hnone := h.deref?_eq
  obtain ⟨i, rfl, -⟩ := h
  cases hs with
  | plain h => cases h
  | object _ _ ho => cases hnone.symm.trans ho

namespace Region

/-- What a region has is there. -/
theorem not_isNew (h : w.Region svc R) (hv : R v) : ¬ w.IsNew v := by
  intro hnew
  obtain hs | ⟨o, ho⟩ := (h.nodes v hv).isScalar_or_exists_deref?
  · exact hnew.not_isScalar hs
  · cases hnew.deref?_eq.symm.trans ho

/-- A region is one still where all there was is kept. -/
theorem of_looks (h : w.Region svc R) (hlooks : w.Looks w') : w'.Region svc R where
  nodes v hv := by
    refine (h.nodes v hv).of_sameAt (fun hs => ?_) (fun _ => id) fun _ => hlooks.spares.scalar
    obtain ⟨o, ho⟩ := (h.nodes v hv).isScalar_or_exists_deref?.resolve_left hs
    exact hlooks.keeps.grows.sameAt ho
  described v d hv hd := by
    rw [hlooks.service_eq] at hd
    exact (h.described v d hv hd).kept hlooks.spares.scalar
  known v hv := by
    rw [hlooks.service_eq]
    exact h.known v (hv.of_size hlooks.spares.size)

/-- A region is one still where one of its values is changed, if what is found there then is in
    it. -/
theorem alters (h : w.Region svc R) (halters : w.Alters c w') (hc : w'.store.Node R c) :
    w'.Region svc R where
  nodes v hv := by
    by_cases hvc : v = c
    · rw [hvc]
      exact hc
    · exact (h.nodes v hv).of_sameAt (fun _ => halters.sameAt hvc) (fun _ => id)
        fun _ => halters.isScalar
  described v d hv hd := by
    rw [halters.service_eq] at hd
    exact (h.described v d hv hd).kept halters.isScalar
  known v hv := by
    rw [halters.service_eq]
    exact h.known v (hv.of_size halters.sparesBut.size)

/-- A region is widened by values that are not described so far. -/
theorem widen (h : w.Region svc R) (hsub : ∀ v, R v → R' v)
    (hnew : ∀ v, R' v → R v ∨
      w.store.Node R' v ∧ (w.service svc).described.lookup v = none) : w.Region svc R' where
  nodes v hv := by
    obtain hv | ⟨hnode, -⟩ := hnew v hv
    · refine (h.nodes v hv).of_sameAt (fun _ => ⟨⟨_, _, rfl⟩, rfl⟩) hsub fun _ => id
    · exact hnode
  described v d hv hd := by
    obtain hv | ⟨-, hnone⟩ := hnew v hv
    · exact (h.described v d hv hd).mono hsub fun _ => id
    · cases hnone.symm.trans hd
  known := h.known

/-- A region is one still when a description is remembered that it has. -/
theorem describe (h : w.Region svc R) (hv : R v) (hy : w.store.Within R y) :
    (w.describe svc v y).Region svc R := by
  have hservice : ((w.describe svc v y).service svc).described =
      (v, y) :: (w.service svc).described := by cases svc <;> rfl
  have hstore : (w.describe svc v y).store = w.store := by cases svc <;> rfl
  refine ⟨fun z hz => ?_, fun z d hz hd => ?_, fun z hz => ?_⟩
  · rw [hstore]
    exact h.nodes z hz
  · -- The description that is new is found before the older ones.
    rw [hservice, List.lookup_cons] at hd
    rw [hstore]
    split at hd
    · cases hd
      exact hy
    · exact h.described z d hz hd
  · rw [IsNew, hstore] at hz
    rw [hservice, List.lookup_cons]
    split
    next heq =>
      rw [eq_of_beq heq] at hz
      exact absurd hz (h.not_isNew hv)
    next => exact h.known z hz

/-- A new description widens a region that it describes a value of. -/
theorem describes (h : w.Region svc R) (hv : w.store.Within R v) (hnew : w.Describes v y w') :
    ∃ R', w.Widens svc R w' R' ∧ R' y := by
  have hlooks := Looks.of_grows hnew.grows
  have hregion := h.of_looks hlooks
  have hlookup {z : Value} (hz : w.IsNew z) : (w'.service svc).described.lookup z = none := by
    rw [hlooks.service_eq]
    exact h.known z hz
  -- The region takes in what the description consists of: a card and a struct, or a pair.
  cases hnew with
  | @card said m hgrows hy hsaid hcard hbears hkeeps hscalars =>
    let R' (z : Value) : Prop := R z ∨ z = y ∨ z = said
    have hsub : ∀ z, R z → R' z := fun _ => .inl
    refine ⟨R', ⟨hregion.widen hsub fun z hz => ?_, hsub, fun z hz => ?_⟩, .inr (.inl rfl)⟩
    · obtain hz | rfl | rfl := hz
      · exact .inl hz
      · exact .inr ⟨.card hcard (hv.mono hsub fun _ => hlooks.spares.scalar)
          (.inl (.inr (.inr rfl))),
          hlookup hy⟩
      · exact .inr ⟨.keeper hbears hkeeps (fun x hx => .inr (hscalars x hx)) (by simp),
          hlookup hsaid⟩
    · obtain hz | rfl | rfl := hz
      · exact .inl hz
      · exact .inr hy
      · exact .inr hsaid
  | @pair xs hgrows hy htuple hscalars =>
    let R' (z : Value) : Prop := R z ∨ z = y
    have hsub : ∀ z, R z → R' z := fun _ => .inl
    refine ⟨R', ⟨hregion.widen hsub fun z hz => ?_, hsub, fun z hz => ?_⟩, .inr rfl⟩
    · obtain hz | rfl := hz
      · exact .inl hz
      · exact .inr ⟨.tuple htuple fun x hx => .inr (hscalars x hx), hlookup hy⟩
    · obtain hz | rfl := hz
      · exact .inl hz
      · exact .inr hy

end Region

namespace Widens

/-- Looking at values widens no region. -/
theorem of_looks (h : w.Region svc R) (hlooks : w.Looks w') : w.Widens svc R w' R :=
  ⟨h.of_looks hlooks, fun _ => id, fun _ => .inl⟩

/-- A region that is widened twice is widened. -/
theorem trans (h : w.Widens svc R w' R') {R'' : Value → Prop} (h' : w'.Widens svc R' w'' R'')
    (hsize : w.store.objects.size ≤ w'.store.objects.size) : w.Widens svc R w'' R'' where
  region := h'.region
  sub v hv := h'.sub v (h.sub v hv)
  new v hv := by
    obtain hv | hv := h'.new v hv
    · exact h.new v hv
    · exact .inr (hv.of_size hsize)

end Widens

/-- Where one container alone may be changed, and holds what it held, all are spared. -/
theorem SparesBut.spares (h : w.SparesBut (· = c) w')
    (hc : ∀ h, w.store.Bears c h → w'.store.Bears c h) : w.Spares w' where
  bears {v h'} _ hv := by
    by_cases hvc : v = c
    · subst hvc
      exact hc h' hv
    · exact h.bears hvc hv
  scalar := h.scalar
  size := h.size
  library := h.library
  scopes := h.scopes
  recalls := h.recalls

end World

/-! ### Descriptions of what a region has -/

namespace Host

open Run

variable {svc : ServiceId} {R : Value → Prop} {v : Value} {l : LibraryKind} {w : World}

end Host

/-! ### Steps -/

namespace Store

variable {s : Store} {v : Value}

end Store

namespace Service

open Run Host

variable {v scope : Value} {svc : ServiceId} {k : Key} {R : Value → Prop} {w : World}

end Service

namespace Access

open Run Host

variable {call : Call} {scope v x y key : Value} {svc : ServiceId} {k : Key} {R : Value → Prop}
  {w u : World}

/-- What a write comes to where a value of a region is written: it is refused, and all containers
    are spared, or that value alone is changed. -/
inductive Sets (call : Call) (svc : ServiceId) (R : Value → Prop) (w : World) (v key x : Value) :
    Except Fault Value → World → Prop where
  | refused {e : Fault} {u : World} (hspares : w.Spares u) : Sets call svc R w v key x (.error e) u
  | done {k : Key} {u : World} (hkey : (keyOf call key w).1 = .ok k) (hv : R v)
    (hspares : w.SparesBut (· = v) u) (hregion : w.store.Within R x → u.Region svc R)
    (hwrote : ∀ h, w.store.Bears v h → ∃ h', Wrote k x h h' ∧ u.store.Bears v h') :
    Sets call svc R w v key x (.ok v) u

end Access

end ScriptBridge
