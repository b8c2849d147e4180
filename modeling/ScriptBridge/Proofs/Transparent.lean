import Mathlib.Control.Monad.Basic
import ScriptBridge.Eval
import ScriptBridge.Proofs.Asked
import ScriptBridge.Proofs.Received
import ScriptBridge.Wrapper

namespace ScriptBridge

/-!
# Wrappers are transparent

A wrapper answers for itself, by asking the dispatcher once more for what it wraps. So every request
comes to the same value the second time, with a scope that is settled already, and is answered as if
it had been put to the value at once. A program of the host can change what a wrapper wraps, and
then the two part.

* `Store.Wraps` tells that a wrapper is as it was made for a value;
* `Service.serve_settled`: the second time, neither the settled scope nor the number of steps left
  makes a difference;
* `Service.exists_request_wrapper_eq` is one request, `Ask.exists_put_wrapper_eq` the same with its
  key to be made;
* `wrapper_transparent`: in a row of requests the wrapper and the value may take each other's place.
-/

/-! ### Wrappers as they are made -/

namespace Store

/-- Whether nothing was put in the place of what the class of wrappers does about requests. -/
structure KeepsWrappers (s : Store) : Prop where
  methods : ∀ r : KeyUse, ∃ ps, s.inherited? (.library .wrapper) r.method =
    some (.library .wrapper, .library (.method r.method ps))
  free : s.inherited? (.library .wrapper) "interop" = none

/-- Whether a value is a wrapper of another as it was made: with the class of the other, and with a
    service. -/
structure Wraps (s : Store) (d v : Value) (svc : ServiceId) : Prop where
  class_ : s.KeepsWrappers
  kind : s.kindOf d = .library .wrapper
  body : s.body? d = some (.wrapper (.kind (s.kindOf v)) v (.service svc))
  own : ∀ r : KeyUse, (s.ownNames d).contains r.method = false
  target : s.asTarget v = ⟨s.kindOf v, v⟩
  inner : s.isA v .wrapper = false

variable {s : Store} {d v : Value} {svc : ServiceId}

/-- A method of the library is that of a class of the value. -/
theorem isA_of_libraryMethod? {name : String} {l : LibraryKind}
    (h : s.libraryMethod? v name = some l) : s.isA v l = true := by
  unfold libraryMethod? at h
  split at h
  next owner attr ps howner =>
    dsimp only at h
    split at h
    · cases h
    · obtain ⟨k, hk, hentry⟩ := List.exists_of_findSome?_eq_some howner
      obtain ⟨e, -, he⟩ := Option.map_eq_some_iff.1 hentry
      cases he
      have hl : owner = .library l := by
        cases owner <;> cases h
        rfl
      rw [isA, descends, ← hl]
      exact List.contains_iff_mem.2 hk
  · cases h

/-- A wrapper as it was made answers every request by the method of its class. -/
theorem Wraps.libraryMethod? (h : s.Wraps d v svc) (r : KeyUse) :
    s.libraryMethod? d r.method = some .wrapper := by
  obtain ⟨ps, hps⟩ := h.class_.methods r
  unfold Store.libraryMethod?
  rw [h.kind, hps]
  simp only [h.own r, declaredSpecial?_library, Option.isSome_none, Bool.or_self,
    Bool.false_eq_true, if_false]
  rfl

/-- A wrapper is not nothing. -/
theorem Wraps.ne_none (h : s.Wraps d v svc) : d ≠ .none := ne_none_of_body? h.body

/-- A wrapper is a target of its own: it does not stand for a class. -/
theorem Wraps.asTarget_eq (h : s.Wraps d v svc) : s.asTarget d = ⟨.library .wrapper, d⟩ := by
  rw [asTarget_of_body? h.body (by simp), h.kind]

/-- A wrapper is told from other values by its class. -/
theorem Wraps.classify_eq (h : s.Wraps d v svc) : s.classify d = .referenceable := by
  unfold classify isInstance
  rw [h.kind]
  rfl

end Store

namespace Service

open Run Host

variable {call : Call} {svc : ServiceId} {r : KeyUse} {key : Key} {d v scope : Value} {w : World}

/-! ### The way through a wrapper -/

/-- An attribute that an instance of a library class holds, and no class has, is read as it is. -/
theorem getAttr_of_ownValue? {l : LibraryKind} {i : Nat} {name : String} {x : Value}
    (hk : w.store.kindOf (.object i) = .library l)
    (hfree : w.store.inherited? (.library l) name = none)
    (hown : ownValue? (.object i) name w = (.ok (some x), w)) :
    getAttr call (.object i) name w = (.ok x, w) := by
  have hinst : getInstanceAttr? call (.object i) name w = (.ok (some x), w) := by
    unfold getInstanceAttr?
    rw [bind_of_ok (store_apply w), hk]
    simp only [hfree]
    rw [bind_of_ok hown]
    rfl
  have hattr : getAttr? call (.object i) name w = (.ok (some x), w) :=
    (getAttr?_of_library hk (by simp) name).trans hinst
  rw [getAttr, bind_of_ok hattr]
  rfl

/-- A wrapper passes a request on to its service, for the value that it wraps. -/
theorem passOn_eq (h : w.store.Wraps d v svc) (native : ServiceId → Target → Run Value) :
    passOn call r d scope key native w = native svc ⟨w.store.kindOf v, v⟩ w := by
  have hinterop : getAttr call d "interop" w = (.ok (.service svc), w) := by
    have hbody := h.body
    cases d with
    | object i =>
      refine getAttr_of_ownValue? h.kind h.class_.free ?_
      obtain ⟨o, ho, hob⟩ := Option.map_eq_some_iff.1 hbody
      unfold ownValue?
      rw [bind_of_ok (store_apply w)]
      simp only [ho, hob]
      rfl
    | _ => cases hbody
  have htarget : wrapperTarget call d w = (.ok ⟨w.store.kindOf v, v⟩, w) := by
    rw [wrapperTarget, bind_of_ok (kindOf_apply w d), bind_of_ok (body?_apply w d), h.kind, h.body]
    rfl
  rw [passOn, viaService, bind_of_ok hinterop]
  dsimp only
  rw [bind_of_ok htarget]

/-! ### The second time -/

/-- For a value that is no wrapper it makes no difference that the scope is settled already, nor how
    many steps are left. -/
theorem serve_settled (call : Call) (r : KeyUse) (key : Key) (m n : Nat) (svc : ServiceId)
    (k : Kind) (hscope : scope.IsScope) (hinner : w.store.isA v .wrapper = false) :
    serve call r key (m + 1) svc ⟨k, v⟩ (settledScope w svc scope) w =
      serve call r key (n + 1) svc ⟨k, v⟩ scope w := by
  obtain ⟨hsettled, hagain⟩ := isScope_settledScope svc hscope w
  obtain ⟨lines, hreceive⟩ := exists_receive_eq call svc r ⟨k, v⟩ key w
  rw [serve, serve, bind_of_ok (hreceive _ hsettled), bind_of_ok (hreceive _ hscope), hagain w]
  cases w.store.targetKind ⟨k, v⟩ with
  | referenceable =>
    simp only [receivedScope_referenceable]
    -- A method of the library that answers is that of a class of the value, so no wrapper's.
    cases hm : (w.withTrace lines).store.libraryMethod? v r.method with
    | none =>
      have hnone : Host.libraryMethod? v r.method (w.withTrace lines) =
          (.ok none, w.withTrace lines) := by rw [← hm]; rfl
      rw [viaKeyed, viaKeyed, bind_of_ok hnone, bind_of_ok hnone]
    | some l =>
      rw [viaKeyed_apply hm, viaKeyed_apply hm]
      have hl : w.store.isA v l = true := Store.isA_of_libraryMethod? hm
      cases l with
      | wrapper =>
        rw [hinner] at hl
        cases hl
      | _ => rfl
  -- The rules for any other sort do not look at the scope, except for calls.
  | _ => cases r <;> rfl

/-- **One request.** A request to a wrapper comes out as it does for the value, and leaves the same
    world but for the trace. -/
theorem exists_request_wrapper_eq (call : Call) (r : KeyUse) (key : Key)
    (hscope : scope.IsScope) (h : w.store.Wraps d v svc) :
    ∃ lines, request call r svc (w.store.asTarget d) key scope w =
      ((request call r svc (w.store.asTarget v) key scope w).1,
        (request call r svc (w.store.asTarget v) key scope w).2.withTrace lines) := by
  obtain ⟨lines, hreceive⟩ := exists_receive_eq call svc r ⟨.library .wrapper, d⟩ key w
  have hkind : w.store.targetKind ⟨.library .wrapper, d⟩ = .referenceable := by
    simp [Store.targetKind, Target.hasInstance, h.ne_none, h.classify_eq]
  have hmethod : (w.withTrace lines).store.libraryMethod? d r.method = some .wrapper :=
    h.libraryMethod? r
  have hwraps : (w.withTrace lines).store.Wraps d v svc := h
  have hreceived := hreceive scope hscope
  rw [hkind, receivedScope_referenceable] at hreceived
  -- One step takes the request to the value. The number of steps left is the same on both sides.
  have houter : request call r svc (w.store.asTarget d) key scope w =
      serve call r key (w.store.objects.size + 1) svc ⟨w.store.kindOf v, v⟩
        (settledScope w svc scope) (w.withTrace lines) := by
    rw [h.asTarget_eq, request, bind_of_ok (x := wrapperDepth) rfl, serve, bind_of_ok hreceived]
    dsimp only
    rw [viaKeyed_apply hmethod]
    exact passOn_eq hwraps _
  have hinner : request call r svc (w.store.asTarget v) key scope w =
      serve call r key (w.store.objects.size + 1) svc ⟨w.store.kindOf v, v⟩
        (settledScope w svc scope) w := by
    rw [h.target, request, bind_of_ok (x := wrapperDepth) rfl]
    exact (serve_settled call r key _ _ svc _ hscope h.inner).symm
  rw [houter, hinner]
  exact Run.blind _ w lines

end Service

/-! ### Wrappers that are made -/

namespace Store

variable {s : Store} {v : Value}

/-- Whether a value is one that the store knows: an object is there. -/
def Knows (s : Store) (v : Value) : Prop := ∀ i, v = .object i → (s.deref? v).isSome

/-- A value that is known is the same when another object has been made. -/
theorem deref?_alloc_of_knows (h : s.Knows v) (o : Object) :
    (s.alloc o).2.deref? v = s.deref? v := by
  cases v with
  | object i => exact deref?_alloc_of_isSome (h i rfl) o
  | _ => rfl

/-- A value that is known has the same class when another object has been made. -/
theorem kindOf_alloc_of_knows (h : s.Knows v) (o : Object) :
    (s.alloc o).2.kindOf v = s.kindOf v := by
  cases v with
  | object i =>
    obtain ⟨x, hx⟩ := Option.isSome_iff_exists.1 (h i rfl)
    rw [kindOf_of_deref? hx, kindOf_of_deref? ((deref?_alloc_of_knows h o).trans hx)]
  | _ => rfl

end Store

/-- The wrapper of a value other than a class is the value itself, or wraps it. -/
theorem Wrapper.exists_of_eq (svc : ServiceId) {v : Value} {w : World} (hknown : w.store.Knows v)
    (hkind : ∀ k, v ≠ .kind k) (htarget : ∀ k x, w.store.body? v ≠ some (.target k x))
    (hclass : w.store.KeepsWrappers) :
    ∃ d u, Wrapper.of v svc w = (.ok d, u) ∧ (d = v ∨ u.store.Wraps d v svc) := by
  unfold Wrapper.of
  rw [Run.bind_of_ok (Run.store_apply w)]
  cases hinner : w.store.isA v .wrapper with
  | true => exact ⟨v, w, rfl, .inl rfl⟩
  | false =>
    let o : Object := { kind := .library .wrapper,
                        body := .wrapper (.kind (w.store.kindOf v)) v (.service svc) }
    let s := (w.store.alloc o).2
    refine ⟨(w.store.alloc o).1, { w with store := s }, ?_, .inr ?_⟩
    · cases v with
      | kind k => exact absurd rfl (hkind k)
      | _ => rfl
    · have ho : s.deref? (w.store.alloc o).1 = some o := Store.deref?_alloc_self w.store o
      -- The new object comes after all that are known, so the value is what it was.
      have hv : s.kindOf v = w.store.kindOf v := Store.kindOf_alloc_of_knows hknown o
      have hb : s.body? v = w.store.body? v := by
        rw [Store.body?, Store.deref?_alloc_of_knows hknown o, Store.body?]
      refine ⟨⟨hclass.methods, hclass.free⟩, ?_, ?_, fun r => ?_, ?_, ?_⟩
      · exact Store.kindOf_of_deref? ho
      · show s.body? _ = _
        rw [Store.body?, ho, Option.map_some, hv]
      · have hnames : s.ownNames (w.store.alloc o).1 = Store.objectNames o := by
          have hplace : s.objects[w.store.objects.size]? = some o := ho
          simp only [Store.ownNames, Store.alloc, hplace]
        show (s.ownNames _).contains r.method = false
        rw [hnames]
        cases r <;> rfl
      · show s.asTarget v = ⟨s.kindOf v, v⟩
        rw [Store.asTarget, hb]
        split
        next k x hbody => exact absurd hbody (htarget k x)
        next => rfl
      · show s.isA v .wrapper = false
        rw [Store.isA, hv]
        exact hinner

/-! ### Requests in a row -/

namespace Ask

open Run

variable {svc : ServiceId} {a : Ask} {d v : Value} {w : World}

/-- A request comes out the same for a wrapper and for the value, if the wrapper is as it was made
    once the key is. -/
theorem exists_put_wrapper_eq (call : Call) (hscope : a.scope.IsScope) (hv : v ≠ .none)
    (h : (Host.keyOf call a.key).After w fun _ u => u.store.Wraps d v svc) :
    ∃ lines, a.put call svc d w =
      ((a.put call svc v w).1, (a.put call svc v w).2.withTrace lines) := by
  rcases hk : Host.keyOf call a.key w with ⟨e | k, u⟩
  · rw [put_of_error hk, put_of_error hk]
    exact ⟨u.trace, rfl⟩
  · have hwraps : u.store.Wraps d v svc := h k u hk
    rw [put_of_ok hwraps.ne_none hk, put_of_ok hv hk]
    exact Service.exists_request_wrapper_eq call a.use k hscope hwraps

end Ask

/-- **Transparency.** A value that is neither nothing nor a class nor a target is wrapped. Requests
    in a row then come out the same, in every value and every error, whether they are put to the
    wrapper or to the value, each as one likes, and leave the same world but for the trace: as long
    as, whenever a request to the wrapper has made its key, the wrapper is as it was made. -/
theorem wrapper_transparent (call : Call) (svc : ServiceId) (v : Value) (w : World) (hv : v ≠ .none)
    (hknown : w.store.Knows v) (hkind : ∀ k, v ≠ .kind k)
    (htarget : ∀ k x, w.store.body? v ≠ some (.target k x)) (hclass : w.store.KeepsWrappers) :
    ∃ d u, Wrapper.of v svc w = (.ok d, u) ∧ (d = v ∨ u.store.Wraps d v svc) ∧
      ∀ steps : List (Ask × Value),
        (∀ p ∈ steps, p.1.scope.IsScope ∧ (p.2 = d ∨ p.2 = v)) →
        Run.Along (fun p => p.1.put call svc p.2) (fun p => p.1.put call svc v)
          (fun p _ u' => p.2 ≠ v →
            (Host.keyOf call p.1.key).After u' fun _ z => z.store.Wraps d v svc) u u steps →
        Run.inTurn u (steps.map fun p => p.1.put call svc p.2) =
            Run.inTurn u (steps.map fun p => p.1.put call svc v) ∧
          ∃ lines, Run.afterAll u (steps.map fun p => p.1.put call svc p.2) =
            (Run.afterAll u (steps.map fun p => p.1.put call svc v)).withTrace lines := by
  obtain ⟨d, u, hof, hd⟩ := Wrapper.exists_of_eq svc hknown hkind htarget hclass
  refine ⟨d, u, hof, hd, fun steps hsteps hkept => ?_⟩
  -- The worlds of the two rows differ in the trace at most.
  let R (z z' : World) : Prop := ∃ lines, z = z'.withTrace lines
  let P (p : Ask × Value) (_ z' : World) : Prop :=
    (p.1.scope.IsScope ∧ (p.2 = d ∨ p.2 = v)) ∧
      (p.2 ≠ v → (Host.keyOf call p.1.key).After z' fun _ x => x.store.Wraps d v svc)
  have hstep (p : Ask × Value) (z z' : World) (hR : R z z') (hp : P p z z') :
      (p.1.put call svc p.2 z).1 = (p.1.put call svc v z').1 ∧
        R (p.1.put call svc p.2 z).2 (p.1.put call svc v z').2 := by
    obtain ⟨lines, rfl⟩ := hR
    obtain ⟨⟨hscope, htarget⟩, hwraps⟩ := hp
    -- The trace that was there shows in nothing but the trace.
    obtain ⟨lines', hblind⟩ := (p.1.put call svc p.2).blind z' lines
    have hsame : ∃ lines, p.1.put call svc p.2 z' =
        ((p.1.put call svc v z').1, (p.1.put call svc v z').2.withTrace lines) := by
      by_cases hp : p.2 = v
      · exact ⟨(p.1.put call svc v z').2.trace, by rw [hp]; rfl⟩
      · rw [htarget.resolve_right hp]
        exact Ask.exists_put_wrapper_eq call hscope hv (hwraps hp)
    obtain ⟨lines'', hsame⟩ := hsame
    rw [hblind, hsame]
    exact ⟨rfl, lines', World.withTrace_withTrace _ _ _⟩
  have hbegin : R u u := ⟨u.trace, rfl⟩
  exact Run.inTurn_eq hstep hbegin (hkept.imp fun p hp _ _ h => ⟨hsteps p hp, h⟩)

/-- A list, a host map with a method of a class that changes what its receiver wraps, and the
    arguments to call it with: the wrapper that is made next. -/
def parcel : World where
  store :=
    { objects := #[
        { kind := .library .list, body := .list [.int 1] },
        { kind := .library .dict, body := .dict ⟨[(⟨.text "f", .text "f"⟩, .object 2)]⟩ },
        { kind := .library .function,
          body := .function ⟨"swap", [⟨"self", .normal, none, none⟩],
            .setAttr "target_instance" (.literal (.int 5)), true,
            { owner := some (.declared 0) }⟩ },
        { kind := .library .tuple, body := .tuple [.object 4] }]
      classes := #[
        { name := "Clerk", qualifiedName := "Clerk", home := some "host",
          bases := [.library .object], lineage := [.declared 0, .library .object],
          metaclass := .type, attrs := ⟨[("swap", .object 2)]⟩ }] }

theorem keepsWrappers_parcel : parcel.store.KeepsWrappers where
  methods r := by cases r <;> exact ⟨_, rfl⟩
  free := rfl

/-- A list is filled up through its wrapper, and then read by itself. -/
theorem wrapper_transparent_parcel :
    let steps : List (Ask × Value) := [(⟨.write (.text "x"), .text "3", .none⟩, .object 4),
      (⟨.read false, .text "2", .none⟩, .object 0), (⟨.read false, .text "4", .none⟩, .object 0)]
    ∃ u, Wrapper.of (.object 0) .main parcel = (.ok (.object 4), u) ∧
      Run.inTurn u (steps.map fun p => p.1.put Host.callValue .main p.2) =
          Run.inTurn u (steps.map fun p => p.1.put Host.callValue .main (.object 0)) ∧
        ∃ lines, Run.afterAll u (steps.map fun p => p.1.put Host.callValue .main p.2) =
          (Run.afterAll u (steps.map fun p => p.1.put Host.callValue .main (.object 0))).withTrace
            lines := by
  have hbody : parcel.store.body? (.object 0) = some (.list [.int 1]) := rfl
  obtain ⟨d, u, hof, hd, hrow⟩ := wrapper_transparent Host.callValue .main (.object 0) parcel nofun
    (fun i hi => by cases hi; rfl) nofun (fun k x => by rw [hbody]; simp) keepsWrappers_parcel
  have hobject : (Wrapper.of (.object 0) .main parcel).1 = .ok (.object 4) := by decide +kernel
  rw [hof] at hobject
  cases hobject
  have hwraps : u.store.Wraps (.object 4) (.object 0) .main := hd.resolve_left (by decide)
  refine ⟨u, hof, hrow _ (by simp [Value.IsScope]) ⟨?_, ?_, ?_, trivial⟩⟩
  · rintro - k z hk
    cases hk
    exact hwraps
  · exact fun h => absurd rfl h
  · exact fun h => absurd rfl h

/-- The method in the map is called with the wrapper of the map as its receiver. Afterwards the
    wrapper wraps something else, and the method is not found through it. -/
theorem wrapper_strays_parcel :
    let asks : List Ask := [⟨.call (.object 3) false, .text "f", .none⟩,
      ⟨.read false, .text "f", .none⟩]
    ∃ u, Wrapper.of (.object 1) .main parcel = (.ok (.object 4), u) ∧
      Run.inTurn u (asks.map (Ask.put Host.callValue .main · (.object 4))) ≠
        Run.inTurn u (asks.map (Ask.put Host.callValue .main · (.object 1))) :=
  ⟨(Wrapper.of (.object 1) .main parcel).2, Prod.ext (by decide +kernel) rfl, by decide +kernel⟩

end ScriptBridge
