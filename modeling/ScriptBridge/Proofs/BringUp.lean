import ScriptBridge.Proofs.Coherence
import ScriptBridge.Proofs.Construction
import ScriptBridge.Proofs.Described
import ScriptBridge.Proofs.Nameless
import ScriptBridge.Proofs.ScopedCall

namespace ScriptBridge

/-!
# The two phases of a scripted instance

A scripted class makes an instance out of nothing. The initialiser block of the instance then runs
in a scope of the instance's own, and if that leaves an `init` among the public members, it is
called with what the construction was given. What `init` gives takes the place of the instance,
unless that is nothing.

* `Construction.Allocates` is how the instance is made;
* `Newborn.Enters`, `Newborn.Initialises`, `Newborn.Concludes` are what becomes of it, in this
  order;
* `Newborn.Offers` is what the instance has for an `init`, and `Store.Publishes` tells when that is
  an entry of a struct;
* `Construction.runs_two_phases`: a construction that succeeds goes through all of them.
-/

open Run Host

/-- Whether a value is nothing, or absent. -/
def Value.IsNothing (v : Value) : Prop := v = .none ∨ v = .absent

instance (v : Value) : Decidable v.IsNothing := inferInstanceAs (Decidable (_ ∨ _))

/-! ### Making the instance -/

namespace Construction

variable {call : Call} {svc : ServiceId} {c : Construction} {w v : World} {r : Value}

/-- What comes before the constructor is looked for: wrappers are taken off the arguments, and the
    class is checked. -/
def check (call : Call) (c : Construction) : Run (Value × String) := do
  let args ← unwrapArguments call c.args
  let type ← typeName c.kind
  if ← Service.isInterface call c.kind then refuse (.constructorAbstract type)
  else return (args, type)

/-- Chooses the arguments of the constructor: that of a scripted class takes nothing. -/
def choose (call : Call) (c : Construction) (args : Value) (type : String) : Run Blueprint :=
  match c.kind with
  | .label _ => fail .typeError
  | k => do
    let positional ← do
      if (← store).descends k .scripted then pure [] else itemsOf call args
    return ⟨type, args, positional, positional.map (← store).kindOf⟩

/-- Whether a class is a scripted one once it was checked, and nothing but its constructor is
    remembered as that. -/
def OfScripted (call : Call) (svc : ServiceId) (c : Construction) (w : World) : Prop :=
  (c.check call).After w fun _ u => u.store.descends c.kind .scripted = true ∧
    ∀ r, u.Recalls svc (.constructor c.kind []) (.method r) → r.handle = .kind c.kind

/-- Whether a construction makes an instance of a class: the arguments go into a tuple without their
    wrappers, and the class is called, once and with nothing. -/
inductive Allocates (call : Call) (svc : ServiceId) (c : Construction) (w : World) (xs : List Value)
    (given : Value) (before : World) (inst : Value) (made : World) : Prop
  | intro {ys : List Value} {type : String} {u₀ u₁ u₂ : World}
      (hitems : itemsOf call c.args w = (.ok ys, u₀))
      (hunwrap : ys.mapM (unwrap call) u₀ = (.ok xs, u₁))
      (hgiven : newTuple xs u₁ = (.ok given, u₂))
      (hready : c.Ready call svc w ⟨type, given, [], []⟩ (.kind c.kind) before)
      (hmake : call (.kind c.kind) {} before = (.ok inst, made))

/-- Whether a declared class is called as the host does it, and leaves it to the library to allocate
    its instances. -/
structure IsPlain (call : Call) (c : Construction) (w : World) : Prop where
  declared : ∃ i, c.kind = .declared i
  called : ∃ host, ∀ u, call (.kind c.kind) {} u = instantiate host c.kind {} u
  allocated : w.store.allocator? (w.store.lineage c.kind) = some (.library .object)

/-- Only the arguments of the constructor are left to choose once the class was checked. -/
theorem prepare_eq (call : Call) (c : Construction) :
    c.prepare call = c.check call >>= fun checked => c.choose call checked.1 checked.2 := by
  simp only [prepare, check, bind_assoc]
  refine bind_congr fun args => bind_congr fun type => bind_congr fun abstract => ?_
  split
  · exact (refuse_bind _ _).symm
  · show c.choose call args type = _
    rw [pure_bind]

/-- A scripted class is prepared for a constructor that takes nothing. -/
theorem exists_check_of_prepare {b : Blueprint} {u : World} (hscripted : c.OfScripted call svc w)
    (h : c.prepare call w = (.ok b, u)) :
    c.check call w = (.ok (b.args, b.type), u) ∧ b = ⟨b.type, b.args, [], []⟩ := by
  rw [prepare_eq, bind_eq_ok_iff] at h
  obtain ⟨⟨args, type⟩, u', hcheck, h⟩ := h
  have hdescends := (hscripted _ _ hcheck).1
  unfold choose at h
  split at h
  · cases h
  · simp only [bind_apply, store_apply, hdescends, if_true] at h
    cases h
    exact ⟨hcheck, rfl⟩

/-- What a lookup of a constructor calls is the class, if nothing else is remembered for it. -/
theorem handle_of_find {b : Blueprint} {callee : Callee} {u u' : World}
    (hown : ∀ r, u.Recalls svc (.constructor c.kind b.kinds) (.method r) → r.handle = .kind c.kind)
    (h : c.find svc b u = (.ok callee, u')) : callee.handle = .kind c.kind := by
  obtain ⟨lines, hconsult⟩ := consult_apply (w := u) svc (.constructor c.kind b.kinds)
    fun f => f.method?.map MethodRecord.callee
  cases hlookup : (u.lookup svc (.constructor c.kind b.kinds)).1 with
  | error e =>
    rw [hlookup] at hconsult
    rw [find, Service.calleeOf, Service.inquire, bind_of_error hconsult] at h
    cases h
  | ok answer =>
    obtain ⟨f, source⟩ := answer
    rw [hlookup] at hconsult
    rw [find, Service.calleeOf, Service.inquire, bind_of_ok hconsult] at h
    cases f with
    | field g => cases h
    | method r =>
      obtain rfl : r.callee = callee := by cases h; rfl
      -- What answers was remembered, or is found by a search, which lists the class itself.
      obtain hrecalled | hsearched := u.recalls_or_search_of_lookup hlookup
      · exact hown r hrecalled
      · obtain ⟨r', hr, hlists⟩ := Inquiry.listsConstructor_of_search hsearched
        cases hr
        exact hlists.handle

/-- An instance that the library allocates is a new object, whatever initialises it. -/
theorem inst_of_instantiate {host : Call} {i : Nat} {inst : Value}
    (halloc : w.store.allocator? (w.store.lineage (.declared i)) = some (.library .object))
    (h : instantiate host (.declared i) {} w = (.ok inst, v)) :
    inst = .object w.store.objects.size := by
  unfold instantiate at h
  obtain ⟨o, u, hallocate, h⟩ := bind_eq_ok_iff.1 h
  obtain rfl : o = .object w.store.objects.size := by
    rw [allocate, bind_of_ok (store_apply w), halloc] at hallocate
    dsimp only at hallocate
    rw [allocateLibrary, bind_of_ok (store_apply w)] at hallocate
    dsimp only at hallocate
    rw [allocateObject, bind_of_ok (store_apply w)] at hallocate
    split at hallocate
    · cases hallocate
    · split at hallocate
      · cases hallocate
      · cases hallocate
        rfl
  -- Whether it is initialised or not, it is given back.
  rw [bind_of_ok (store_apply u)] at h
  dsimp only at h
  split at h
  · cases h
    rfl
  · split at h
    · obtain ⟨done, u', -, h⟩ := bind_eq_ok_iff.1 h
      split at h
      · cases h
      · cases h
        rfl
    · cases h
      rfl

/-- A class that is called plainly makes a new object. -/
theorem Allocates.inst_eq {xs : List Value} {given inst : Value} {before made : World}
    (h : c.Allocates call svc w xs given before inst made) (hplain : c.IsPlain call before) :
    inst = .object before.store.objects.size := by
  obtain ⟨-, -, -, -, hmake⟩ := h
  obtain ⟨i, hi⟩ := hplain.declared
  obtain ⟨host, hhost⟩ := hplain.called
  have halloc := hplain.allocated
  rw [hhost, hi] at hmake
  rw [hi] at halloc
  exact inst_of_instantiate halloc hmake

/-- What the checks leave of the arguments is a tuple of them without their wrappers. -/
theorem exists_newTuple_of_check {given : Value} {type : String} {u : World}
    (hargs : w.store.isInstance c.args .mapping = false)
    (h : c.check call w = (.ok (given, type), u)) :
    ∃ ys xs u₀ u₁ u₂, itemsOf call c.args w = (.ok ys, u₀) ∧
      ys.mapM (unwrap call) u₀ = (.ok xs, u₁) ∧ newTuple xs u₁ = (.ok given, u₂) := by
  rw [check, bind_eq_ok_iff] at h
  obtain ⟨args, u₂, hunwrap, h⟩ := h
  -- The checks after the first step give the arguments on as they are.
  have hgiven : args = given := by
    obtain ⟨type', u₃, -, h⟩ := bind_eq_ok_iff.1 h
    obtain ⟨abstract, u₄, -, h⟩ := bind_eq_ok_iff.1 h
    split at h
    · cases h
    · cases h
      rfl
  subst hgiven
  rw [unwrapArguments, bind_of_ok (store_apply w), hargs] at hunwrap
  simp only [Bool.false_eq_true, if_false] at hunwrap
  obtain ⟨ys, u₀, hitems, hunwrap⟩ := bind_eq_ok_iff.1 hunwrap
  obtain ⟨xs, u₁, hxs, hnew⟩ := bind_eq_ok_iff.1 hunwrap
  exact ⟨ys, xs, u₀, u₁, u₂, hitems, hxs, hnew⟩

/-- A construction that succeeds makes an instance, and completes it. -/
theorem exists_allocates (hargs : w.store.isInstance c.args .mapping = false)
    (hscripted : c.OfScripted call svc w) (h : c.run call svc w = (.ok r, v)) :
    ∃ type xs given before inst made, c.Allocates call svc w xs given before inst made ∧
      c.complete call svc ⟨type, given, [], []⟩ inst made = (.ok r, v) := by
  rw [run_eq, bind_eq_ok_iff] at h
  obtain ⟨b, u, hprepare, h⟩ := h
  obtain ⟨hcheck, hb⟩ := exists_check_of_prepare hscripted hprepare
  obtain ⟨ys, xs, u₀, u₁, u₂, hitems, hunwrap, hgiven⟩ := exists_newTuple_of_check hargs hcheck
  rw [hb] at hprepare h
  rcases hfind : c.find svc ⟨b.type, b.args, [], []⟩ u with ⟨f | callee, u₃⟩
  · rw [bind_of_ok (outcome_of hfind)] at h
    cases f <;> cases h
  · rw [bind_of_ok (outcome_of hfind), finish] at h
    have hhandle := handle_of_find (hscripted _ _ hcheck).2 hfind
    obtain ⟨f, u₄, hbind, hmade⟩ := bind_eq_ok_iff.1 h
    -- A class is called as it is: there is nothing to bind it to.
    obtain ⟨rfl, rfl⟩ : f = .kind c.kind ∧ u₄ = u₃ := by
      rw [Service.bindCallee, hhandle] at hbind
      cases hbind
      exact ⟨rfl, rfl⟩
    obtain ⟨inst, made, hmake, hcomplete⟩ := bind_eq_ok_iff.1 hmade
    rw [Service.reporting_eq_ok_iff] at hmake
    exact ⟨b.type, xs, b.args, u₄, inst, made,
      .intro hitems hunwrap hgiven (.intro hprepare hfind hbind) hmake, hcomplete⟩

end Construction

/-! ### Bringing it up -/

/-- A world with one more scope. -/
def World.withScope (w : World) (c : Scope) : World :=
  { w with store := { w.store with scopes := w.store.scopes.push c } }

/-- Whether a scripted instance is read and called by the library's own methods, and its public
    members are a struct that is read by the library's own method. -/
structure Store.Publishes (s : Store) (v : Value) (m : OrderedMap Key Value) : Prop where
  read : s.libraryMethod? v "dereference" = some .scripted
  call : s.libraryMethod? v "dereference_and_invoke" = some .scripted
  shown : ∃ members card, s.ShowsPublic v members ∧
    s.libraryMethod? members "dereference" = some .struct ∧
    s.body? members = some (.struct m card)

namespace Newborn

variable {call : Call} {svc : ServiceId} {n : Newborn} {w v first : World} {x r : Value}
  {xs : List Value}

/-- Whether an instance is given a scope of its own: a new one with the variables that the instance
    shows, in the scope that was given or else in the root. -/
inductive Enters (call : Call) (svc : ServiceId) (scope : Value) (n : Newborn) (w : World) :
    World → Prop
  | intro {vars : Value} {u : World}
      (hvars : getAttr call n.inst "variables_scope" w = (.ok vars, u))
      (hinner : n.inner = .scope u.store.scopes.size) :
      Enters call svc scope n w (u.withScope
        { parent := Service.settledScope w svc scope, bindings := vars, service := none,
          owner := some n.inst })

/-- Whether the initialiser block of an instance is called, once and with its scope alone. -/
inductive Initialises (call : Call) (n : Newborn) (w : World) : World → Prop
  | intro {lines : List String} {block done : Value} {u first : World}
      (hblock : getAttr call n.inst "pseudo_constructor" w = (.ok block, u))
      (hcall : call block { positional := [n.inner] } u = (.ok done, first)) :
      Initialises call n w (first.withTrace lines)

/-- Whether an instance answers to `init` with a value whenever it is asked, and calls it by the
    library's own method. Only who is content with nothing is told that there is none. -/
structure Offers (call : Call) (n : Newborn) (x : Value) (w : World) : Prop where
  read : ∀ safe, (x = .absent → safe = true) →
    ∃ lines, Container.read call n.inst n.inner .init safe w = (.ok x, w.withTrace lines)
  call : w.store.libraryMethod? n.inst "dereference_and_invoke" = some .scripted

/-- Whether the arguments are still in their tuple when an `init` was asked if it takes the
    scope. -/
def KeepsArgs (call : Call) (n : Newborn) (xs : List Value) (x : Value) (w : World) : Prop :=
  (acceptsScope call x >>= truth call).After w fun _ u => u.store.IsTuple n.args xs

/-- How bringing up ends: without an `init` in the instance, and else with one call of it. The scope
    is all that it may be given by name, and the rest is what the construction was given. -/
inductive Concludes (call : Call) (n : Newborn) (xs : List Value) (x : Value) (first : World) :
    Value → World → Prop
  | bare {lines : List String} (hx : x.IsNothing) :
      Concludes call n xs x first n.inst (first.withTrace lines)
  | initialised {lines : List String} {passes : Bool} {result : Value} {u v : World}
      (hx : ¬ x.IsNothing)
      (hasked : (acceptsScope call x >>= truth call) (first.withTrace lines) = (.ok passes, u))
      (hcall : call x { positional := xs, named := if passes then [("context", n.inner)] else [] } u
        = (.ok result, v)) :
      Concludes call n xs x first (if result.IsNothing then n.inst else result) v

/-- What enters a scope is the instance with its arguments. -/
theorem enters_of_enter {scope inst args : Value} {u : World} (hscope : scope.IsScope)
    (h : enter call svc scope inst args w = (.ok n, u)) :
    n.inst = inst ∧ n.args = args ∧ n.Enters call svc scope w u := by
  rw [enter, bind_of_ok (Service.scopeOrRoot_eq call svc hscope w), bind_eq_ok_iff] at h
  obtain ⟨i, u₁, hnew, h⟩ := h
  rw [newClassScope, bind_eq_ok_iff] at hnew
  obtain ⟨vars, u₂, hvars, hnew⟩ := hnew
  cases hnew
  cases h
  exact ⟨rfl, rfl, .intro hvars rfl⟩

/-- Looks for an `init`, and calls it with the arguments if there is one. -/
def runInit (call : Call) (svc : ServiceId) (n : Newborn) : Run Value := do
  let init ← Container.read call n.inst n.inner .init true
  if init = .absent || init = .none then return n.inst
  trace svc ["BRINGUP", "init", n.name]
  Container.invoke call n.inst n.inner .init n.args false

/-- What bringing up gives is what the phases give, or the instance if that is nothing. -/
theorem exists_settle_of_bringUp (h : n.bringUp call svc w = (.ok r, v)) :
    ∃ result, n.settle call svc w = (.ok result, v) ∧
      r = if result.IsNothing then n.inst else result := by
  obtain ⟨result, u, hsettle, h⟩ := bind_eq_ok_iff.1 h
  rw [Service.reporting_eq_ok_iff] at hsettle
  by_cases hnothing : result.IsNothing
  · rw [if_pos (by simpa [Value.IsNothing] using hnothing)] at h
    cases h
    exact ⟨result, hsettle, (if_pos hnothing).symm⟩
  · rw [if_neg (by simpa [Value.IsNothing] using hnothing)] at h
    cases h
    exact ⟨_, hsettle, (if_neg hnothing).symm⟩

/-- The initialiser block runs before the `init` is looked for. -/
theorem exists_initialises_of_settle (h : n.settle call svc w = (.ok r, v)) :
    ∃ first, n.Initialises call w first ∧ n.runInit call svc first = (.ok r, v) := by
  obtain ⟨lines, htrace⟩ := exists_trace_eq svc ["BRINGUP", "pseudo_constructor", n.name] w
  rw [settle, bind_of_ok htrace, bind_eq_ok_iff] at h
  obtain ⟨done, first, hmethod, h⟩ := h
  -- What was traced before makes no difference to the block.
  obtain ⟨lines', hblind⟩ := (callMethod call n.inst "pseudo_constructor" [n.inner]).blind w lines
  obtain ⟨hdone, rfl⟩ := Prod.ext_iff.1 (hmethod.symm.trans hblind)
  obtain ⟨block, u, hblock, hcall⟩ := bind_eq_ok_iff.1 (Run.eq_of_fst hdone.symm)
  exact ⟨_, .intro hblock hcall, h⟩

/-- What the instance offers is called as scripts call it. -/
theorem invoke_of_offers {lines : List String} (hx : n.Offers call x first)
    (hnothing : ¬ x.IsNothing)
    (h : Container.invoke call n.inst n.inner .init n.args false (first.withTrace lines) =
      (.ok r, v)) :
    ∃ lines',
      ScopedCall.run call ⟨x, [], n.inner, n.args⟩ (first.withTrace lines') = (.ok r, v) := by
  have habsent : x ≠ .absent := fun h => hnothing (.inr h)
  -- To call it is to look it up once more. The lookup before has only been traced, so this one
  -- comes to the same.
  obtain ⟨lines₁, hread⟩ := hx.read false fun h => absurd h habsent
  obtain ⟨lines₂, hblind⟩ :=
    (Container.read call n.inst n.inner .init false).blind first lines
  rw [hread, World.withTrace_withTrace] at hblind
  rw [Container.invoke, viaKeyed_apply (w := first.withTrace lines) hx.call] at h
  simp only [Container.invokeNative, Container.invokeStored] at h
  rw [bind_of_ok hblind, invokeValue, if_neg habsent, bind_of_ok (store_apply _)] at h
  split at h
  · obtain ⟨type, u, -, h⟩ := bind_eq_ok_iff.1 h
    cases h
  · exact ⟨lines₂, h⟩

/-- What was traced before makes no difference to the arguments. -/
theorem KeepsArgs.withTrace (h : n.KeepsArgs call xs x w) (lines : List String) :
    n.KeepsArgs call xs x (w.withTrace lines) := by
  intro passes u hasked
  obtain ⟨lines', hblind⟩ := (acceptsScope call x >>= truth call).blind w lines
  obtain ⟨hpasses, rfl⟩ := Prod.ext_iff.1 (hblind.symm.trans hasked)
  have hkept := h passes _ (Run.eq_of_fst hpasses)
  exact hkept

/-- What is called by scripts is asked for the scope first, and is given the items of the tuple. -/
theorem exists_call_of_run (hargs : n.KeepsArgs call xs x first) {lines : List String}
    (h : ScopedCall.run call ⟨x, [], n.inner, n.args⟩ (first.withTrace lines) = (.ok r, v)) :
    ∃ passes u, (acceptsScope call x >>= truth call) (first.withTrace lines) = (.ok passes, u) ∧
      call x { positional := xs, named := if passes then [("context", n.inner)] else [] } u =
        (.ok r, v) := by
  rw [ScopedCall.run_eq, bind_eq_ok_iff] at h
  obtain ⟨passes, u, hasked, h⟩ := h
  -- Asking the callable leaves the arguments, which are walked through after that.
  have htuple : u.store.IsTuple n.args xs := hargs.withTrace lines passes u hasked
  have hmapping : u.store.isInstance n.args .mapping = false := by
    rw [Store.isInstance, Store.kindOf_of_deref? htuple]
    rfl
  have hbody : u.store.body? n.args = some (.tuple xs) := by
    rw [Store.body?, htuple, Option.map_some]
  have hitems : itemsOf call n.args u = (.ok xs, u) :=
    itemsOf_of_elements .tuple (Store.kindOf_of_deref? htuple) (by decide) (by decide)
      (requireContent_of_body? hbody trivial) rfl
  refine ⟨passes, u, hasked, ?_⟩
  rw [ScopedCall.passing, ScopedCall.given, bind_assoc, bind_of_ok (store_apply u),
    if_neg (by simp [hmapping]), bind_assoc, bind_of_ok hitems, pure_bind] at h
  cases passes <;> exact h

/-- An instance that offers nothing stays as it is, and one that offers an `init` has it called. -/
theorem concludes_of_runInit (hx : n.Offers call x first)
    (hargs : ¬ x.IsNothing → n.KeepsArgs call xs x first)
    (h : n.runInit call svc first = (.ok r, v)) :
    n.Concludes call xs x first (if r.IsNothing then n.inst else r) v := by
  obtain ⟨lines, hread⟩ := hx.read true fun _ => rfl
  rw [runInit, bind_of_ok hread] at h
  by_cases hnothing : x.IsNothing
  · rw [if_pos (by simpa [Value.IsNothing, or_comm] using hnothing)] at h
    cases h
    rw [ite_self]
    exact .bare hnothing
  · rw [if_neg (by simpa [Value.IsNothing, or_comm] using hnothing)] at h
    obtain ⟨lines', htrace⟩ := exists_trace_eq svc ["BRINGUP", "init", n.name]
      (first.withTrace lines)
    rw [bind_of_ok htrace, World.withTrace_withTrace] at h
    obtain ⟨lines₁, hrun⟩ := invoke_of_offers hx hnothing h
    obtain ⟨passes, u, hasked, hcall⟩ := exists_call_of_run (hargs hnothing) hrun
    exact .initialised hnothing hasked hcall

end Newborn

/-- A published member is read as it is. Only who is content with nothing is told that there is
    none. -/
theorem Store.Publishes.read_eq {v : Value} {w : World} {m : OrderedMap Key Value} {k : Key}
    {safe : Bool} (h : w.store.Publishes v m) (call : Call) (scope : Value)
    (hmeta : k.same .metadata = false) (hsafe : (m.get? k).getD .absent = .absent → safe = true) :
    Container.read call v scope k safe w = (.ok ((m.get? k).getD .absent), w) := by
  obtain ⟨members, card, hshown, hread, hbody⟩ := h.shown
  -- The members are asked safely, and only then is it looked at who asked.
  have hstruct : Container.readStruct call members m k true w =
      (.ok ((m.get? k).getD .absent), w) := by
    simp only [Container.readStruct, hmeta, Bool.false_eq_true, if_false]
    cases m.get? k <;> rfl
  have hfound : (decide ((m.get? k).getD .absent ≠ .absent) || safe) = true := by
    by_cases habsent : (m.get? k).getD .absent = .absent
    · rw [hsafe habsent, Bool.or_true]
    · rw [decide_eq_true habsent, Bool.true_or]
  rw [Container.read, viaKeyed_apply h.read, Container.readNative, bind_of_ok (body?_apply w v)]
  show Container.readScripted call v scope k safe w = _
  rw [Container.readScripted, if_neg (by simp [hmeta]),
    bind_of_ok (publicScope_of_showsPublic call hshown h.read), bind_apply, viaKeyed_apply hread,
    bind_of_ok (body?_apply w members), hbody]
  dsimp only
  rw [hstruct]
  dsimp only
  rw [if_pos hfound]
  rfl

/-- Public members in a struct are what an instance offers, whatever their spelling. -/
theorem Store.Publishes.offers {call : Call} {n : Newborn} {w : World} {m : OrderedMap Key Value}
    (h : w.store.Publishes n.inst m) {k : Key} (hk : k.same .init) :
    n.Offers call ((m.get? k).getD .absent) w where
  call := h.call
  read safe hsafe := by
    have hget : m.get? Key.init = m.get? k := congrArg m.find? (eq_of_beq hk).symm
    rw [← hget] at hsafe ⊢
    exact ⟨w.trace, h.read_eq call n.inner (by decide +kernel) hsafe⟩

/-! ### Both phases -/

/-- **Two phases.** A construction of a scripted class that succeeds calls the class once, with
    nothing. What that gives is the outcome unless it is a scripted instance. Such an instance has
    its initialiser block called once, in a scope of its own. If it then offers something as `init`,
    that is called once with the arguments that were given, and what it gives is the outcome unless
    that is nothing; otherwise the instance is. -/
theorem Construction.runs_two_phases (call : Call) (svc : ServiceId) (c : Construction)
    (w v : World) (r : Value) (hscope : c.scope.IsScope)
    (hargs : w.store.isInstance c.args .mapping = false) (hscripted : c.OfScripted call svc w)
    (h : c.run call svc w = (.ok r, v)) :
    ∃ xs given before inst made, c.Allocates call svc w xs given before inst made ∧
      (c.IsPlain call before → inst = .object before.store.objects.size) ∧
      (made.store.isA inst .scripted = false → r = inst ∧ v = made) ∧
      (made.store.isA inst .scripted = true → ∃ (n : Newborn) (entered first : World),
        n.inst = inst ∧ n.args = given ∧ n.Enters call svc c.scope made entered ∧
          n.Initialises call entered first ∧
          (∃ result, n.runInit call svc first = (.ok result, v) ∧
            r = if result.IsNothing then inst else result) ∧
          (∀ (m : OrderedMap Key Value) (k : Key), first.store.Publishes inst m → k.same .init →
            n.Offers call ((m.get? k).getD .absent) first) ∧
          ∀ x, n.Offers call x first → (¬ x.IsNothing → n.KeepsArgs call xs x first) →
            n.Concludes call xs x first r v) := by
  obtain ⟨type, xs, given, before, inst, made, hallocates, hcomplete⟩ :=
    exists_allocates hargs hscripted h
  refine ⟨xs, given, before, inst, made, hallocates, hallocates.inst_eq, fun hother => ?_,
    fun hinst => ?_⟩
  -- What is no scripted instance is not brought up.
  · rw [complete, bind_of_ok (store_apply made), if_neg (by simp [hother])] at hcomplete
    cases hcomplete
    exact ⟨rfl, rfl⟩
  · rw [complete, bind_of_ok (store_apply made), if_pos hinst, bind_eq_ok_iff] at hcomplete
    -- Each phase is the next bind of what is left: entering, the block, and `init` at last.
    obtain ⟨n, entered, henter, hbringUp⟩ := hcomplete
    obtain ⟨rfl, rfl, henters⟩ := Newborn.enters_of_enter hscope henter
    obtain ⟨result, hsettle, rfl⟩ := Newborn.exists_settle_of_bringUp hbringUp
    obtain ⟨first, hinitialises, hinit⟩ := Newborn.exists_initialises_of_settle hsettle
    exact ⟨n, entered, first, rfl, rfl, henters, hinitialises, ⟨result, hinit, rfl⟩,
      fun m k hm hk => hm.offers hk,
      fun x hx hkept => Newborn.concludes_of_runInit hx hkept hinit⟩

/-- Scripted classes whose initialiser blocks leave an `init`: among the entries of a struct under
    another spelling, and in a host map under that or its own. With them go arguments, of which one
    is in a wrapper. -/
def guesthouse : World where
  store :=
    let block (more : List Param) (body : Expr) : Object :=
      { kind := .library .function,
        body := .function ⟨"pseudo_constructor",
          ⟨"self", .normal, none, none⟩ :: ⟨"context", .normal, none, none⟩ :: more, body, true,
          {}⟩ }
    let house (i : Nat) (name : String) : ClassInfo :=
      { name, qualifiedName := name, home := some "host", bases := [.library .scripted],
        lineage := .declared i :: LibraryKind.scripted.lineage.map .library,
        metaclass := .type, attrs := ⟨[("pseudo_constructor", .object i)]⟩ }
    { objects := #[
        block [] (.thisSet "Init" (.closure ⟨"init",
          [⟨"guests", .normal, none, none⟩, ⟨"context", .normal, none, none⟩],
          .add (.param "guests") (.literal (.int 1))⟩)),
        block [⟨"members", .normal, none, some (.object 6)⟩]
          (.setAttr "this_scope" (.param "members")),
        block [⟨"members", .normal, none, some (.object 8)⟩]
          (.setAttr "this_scope" (.param "members")),
        { kind := .library .list, body := .list [.object 4] },
        { kind := .library .wrapper,
          body := .wrapper (.kind (.library .int)) (.int 7) (.service .main) },
        { kind := .library .list, body := .list [] },
        { kind := .library .wrapper,
          body := .wrapper (.kind (.library .dict)) (.object 7) (.service .main) },
        { kind := .library .dict, body := .dict ⟨[(.ofText "INIT", .object 10)]⟩ },
        { kind := .library .wrapper,
          body := .wrapper (.kind (.library .dict)) (.object 9) (.service .main) },
        { kind := .library .dict, body := .dict ⟨[(.ofText "init", .object 10)]⟩ },
        { kind := .library .function,
          body := .function ⟨"init", [], .literal (.text "welcome"), false, {}⟩ }]
      classes := #[house 0 "Inn", house 1 "Hostel", house 2 "Hotel"] }

/-- A construction of one of the classes. -/
def opening (i : Nat) (args : Value) : Construction := ⟨.declared i, args, .none⟩

/-- The construction up to where the initialiser block has run, and the `init` that is asked whether
    it takes the scope. -/
theorem phases_guesthouse :
    let c := opening 0 (.object 3)
    let b : Blueprint := ⟨"host.Inn", .object 11, [], []⟩
    let callee : Callee := ⟨"", .kind (.declared 0), true⟩
    let prepared := c.prepare Host.callValue guesthouse
    let found := c.find .main b prepared.2
    let bound := Service.bindCallee callee .none c.kind found.2
    let made := Host.callValue (.kind c.kind) {} bound.2
    let shown := getAttr Host.callValue (.object 12) "variables_scope" made.2
    let entered := shown.2.withScope
      { parent := Service.settledScope made.2 .main c.scope, bindings := .object 14,
        service := none,
        owner := some (.object 12) }
    let block := getAttr Host.callValue (.object 12) "pseudo_constructor" entered
    let first := Host.callValue (.object 15) { positional := [.scope 0] } block.2
    let s := first.2.store
    let asked := (acceptsScope Host.callValue (.object 16) >>= truth Host.callValue) first.2
    prepared.1 = .ok b ∧ found.1 = .ok callee ∧ made.1 = .ok (.object 12) ∧
      made.2.store.isA (.object 12) .scripted = true ∧ shown.1 = .ok (.object 14) ∧
      shown.2.store.scopes.size = 0 ∧ block.1 = .ok (.object 15) ∧
      s.libraryMethod? (.object 12) "dereference" = some .scripted ∧
      s.libraryMethod? (.object 12) "dereference_and_invoke" = some .scripted ∧
      (s.deref? (.object 12)).elim none (·.attrs.get? "this_scope") = some (.object 13) ∧
      (s.inherited? (s.kindOf (.object 12)) "this_scope").isNone ∧
      (match s.body? (.object 12) with
      | some (.bound ..) => false
      | _ => true) = true ∧
      s.libraryMethod? (.object 13) "dereference" = some .struct ∧
      (match s.body? (.object 13) with
      | some (.struct m _) => decide (m.get? (.ofText "INIT") = some (.object 16))
      | _ => false) = true ∧
      (match asked.2.store.deref? (.object 11) with
      | some ⟨.library .tuple, .tuple xs, ⟨[]⟩, ⟨[]⟩⟩ => decide (xs = [.int 7])
      | _ => false) = true := by
  decide +kernel

/-- Nothing is remembered, so the constructor that is found is the class's. -/
theorem ofScripted_opening :
    (opening 0 (.object 3)).OfScripted Host.callValue .main guesthouse := by
  rintro checked u hcheck
  cases hcheck
  exact ⟨rfl, fun r hr => nomatch hr.2⟩

/-- An `init` that is spelled in another way is called once, with the argument without its wrapper
    and the scope of the instance, and what it gives is the outcome. -/
theorem runs_two_phases_guesthouse :
    (opening 0 (.object 3)).scope.IsScope ∧
      guesthouse.store.isInstance (opening 0 (.object 3)).args .mapping = false ∧
      (opening 0 (.object 3)).OfScripted Host.callValue .main guesthouse ∧
      ∃ (v first : World) (n : Newborn) (init : Value),
        (opening 0 (.object 3)).run Host.callValue .main guesthouse = (.ok (.int 8), v) ∧
          ¬ init.IsNothing ∧ n.Offers Host.callValue init first ∧
          n.KeepsArgs Host.callValue [.int 7] init first ∧
          n.Concludes Host.callValue [.int 7] init first (.int 8) v := by
  have hscope : (opening 0 (.object 3)).scope.IsScope := .inl rfl
  have hargs : guesthouse.store.isInstance (opening 0 (.object 3)).args .mapping = false := rfl
  have hscripted := ofScripted_opening
  have hrun : ((opening 0 (.object 3)).run Host.callValue .main guesthouse).1 = .ok (.int 8) := by
    decide +kernel
  refine ⟨hscope, hargs, hscripted, ?_⟩
  obtain ⟨xs, given, before, inst, made, hallocates, hnew, -, hinst⟩ :=
    Construction.runs_two_phases Host.callValue .main _ guesthouse _ _ hscope hargs hscripted
      (Run.eq_of_fst hrun)
  obtain ⟨hprepared, hfound, hmade, hisA, hshown, hsize, hblock, hread, hcall, hheld, hfree,
    hunbound, hstruct, hentry, htuple⟩ := phases_guesthouse
  obtain ⟨hitems, hunwrap, hgiven, hready, hmake⟩ := hallocates
  obtain rfl : xs = [.int 7] := by
    cases hitems
    cases hunwrap
    rfl
  -- Each phase is a step from one world to the next, and its outcome says which.
  obtain ⟨hprepare, hfind, hbind⟩ := hready
  obtain ⟨hb, rfl⟩ := Prod.ext_iff.1 hprepare
  cases hprepared.symm.trans hb
  obtain ⟨hcallee, rfl⟩ := Prod.ext_iff.1 hfind
  cases hfound.symm.trans hcallee
  obtain ⟨-, rfl⟩ := Prod.ext_iff.1 hbind
  obtain ⟨hmade', rfl⟩ := Prod.ext_iff.1 hmake
  cases hmade.symm.trans hmade'
  obtain ⟨⟨inst, args, inner, type, name⟩, entered, first, rfl, rfl, henters, hinitialises, -,
    hoffers,
    hconcludes⟩ := hinst hisA
  obtain ⟨hvars, hinner⟩ := henters
  obtain ⟨hvars', rfl⟩ := Prod.ext_iff.1 hvars
  cases hshown.symm.trans hvars'
  rw [hsize] at hinner
  subst hinner
  obtain ⟨hblock', hdone⟩ := hinitialises
  dsimp only at hblock' hdone
  obtain ⟨hfunction, rfl⟩ := Prod.ext_iff.1 hblock'
  cases hblock.symm.trans hfunction
  obtain ⟨-, rfl⟩ := Prod.ext_iff.1 hdone
  split at hentry
  case h_2 => cases hentry
  rename_i m card hmembers
  have hinit := of_decide_eq_true hentry
  have hshows : Store.ShowsPublic _ (.object 12) (.object 13) :=
    { held := hheld
      free := Option.isNone_iff_eq_none.1 hfree
      unbound := fun f r h => by simp [h] at hunbound }
  have hoffered := hoffers m (.ofText "INIT") ⟨hread, hcall, _, card, hshows, hstruct, hmembers⟩
    (by decide +kernel)
  rw [hinit] at hoffered
  refine ⟨_, _, _, .object 16, Run.eq_of_fst hrun, by decide, hoffered, ?kept,
    hconcludes _ hoffered fun _ => ?kept⟩
  refine Newborn.KeepsArgs.withTrace (fun passes u hasked => ?_) _
  obtain ⟨-, rfl⟩ := Prod.ext_iff.1 hasked
  split at htuple
  case h_2 => cases htuple
  rename_i xs hgiven
  rw [of_decide_eq_true htuple] at hgiven
  exact hgiven

/-- A host map tells the spellings apart, also among the public members: the instance is the outcome
    although it has an `init` under another spelling. -/
theorem init_ignored_guesthouse :
    let opened := (opening 1 (.object 5)).run Host.callValue .main guesthouse
    foldCase "INIT" = foldCase "init" ∧
      opened.1 = .ok (.object 12) ∧ opened.2.store.isA (.object 12) .scripted = true ∧
      (Service.dereference Host.callValue .main (.object 12) (.text "INIT") true .none opened.2).1 =
        .ok (.object 10) ∧
      ((opening 2 (.object 5)).run Host.callValue .main guesthouse).1 = .ok (.text "welcome") := by
  decide +kernel

end ScriptBridge
