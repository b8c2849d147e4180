import Mathlib.Control.Monad.Basic
import ScriptBridge.Eval
import ScriptBridge.Proofs.Run

namespace ScriptBridge

/-!
# Memory and changing classes

Reads, writes and calls may change classes, and a resolver does not notice. A run of such operations
comes out as without memory as long as what is recalled still holds.

* `Operation` is what a script asks of a service, `outcomes` what comes of several operations;
* `Run.consult_agrees_iff`: memory shows in a lookup exactly if what it recalls is out of date;
* `UpToDate` tells that this happens nowhere in a run, and `outcomes_agree` that the run then comes
  out as without memory;
* `Operation.fresh_setField_class`: a write to a class looks up the field and nothing else.
-/

/-! ### Runs of operations -/

/-- What a script asks of a service. -/
inductive Operation where
  | dereference (target key : Value) (safe : Bool) (scope : Value)
  | assign (target key x scope : Value)
  | getField (target name : Value) (fallback : Option Value)
  | setField (target name x : Value)
  | invoke (target name args : Value) (safe : Bool)

namespace Operation

/-- Carries out an operation, with all the host code that it calls. -/
def run (svc : ServiceId) : Operation → Run Value
  | .dereference target key safe scope =>
    Service.dereference Host.callValue svc target key safe scope
  | .assign target key x scope => Service.assign Host.callValue svc target key x scope
  | .getField target name fallback => Service.getField Host.callValue svc target name fallback
  | .setField target name x => do
    Service.setField Host.callValue svc target name x
    return .none
  | .invoke target name args safe => Service.invoke Host.callValue svc target name args safe

end Operation

/-- What comes of each of some operations, each of which works on the world that the ones before it
    left. -/
def outcomes (svc : ServiceId) : World → List Operation → List (Except Fault Value)
  | _, [] => []
  | w, op :: rest => (op.run svc w).1 :: outcomes svc (op.run svc w).2 rest

/-- The world after some operations. -/
def worldAfter (svc : ServiceId) (w : World) (ops : List Operation) : World :=
  ops.foldl (fun w op => (op.run svc w).2) w

/-- Whether all that some operations learn from the resolver of their service is what a search would
    have told them at that moment. -/
def UpToDate (svc : ServiceId) : World → List Operation → Prop
  | _, [] => True
  | w, op :: rest => (op.run svc).Fresh svc w ∧ UpToDate svc (op.run svc w).2 rest

/-! ### With and without memory -/

/-- A world is forgetful next to itself once its resolver is switched off. -/
theorem World.forgetful_withResolver (w : World) (svc : ServiceId) (r : Resolver) {r' : Resolver}
    (h : r'.enabled = false) : (w.withResolver svc r).Forgetful svc (w.withResolver svc r') :=
  ⟨r', w.trace, h, by rw [World.withResolver_withResolver]; cases svc <;> rfl⟩

/-- What a service would recall for an inquiry. -/
def World.Recalls (w : World) (svc : ServiceId) (q : Inquiry) (f : Finding) : Prop :=
  (w.resolver svc).enabled = true ∧ (w.resolver svc).cache.get? q.key = some f

/-- What a lookup answers was remembered, or is what a search gives. -/
theorem World.recalls_or_search_of_lookup (w : World) {svc : ServiceId} {q : Inquiry} {f : Finding}
    {source : Resolver.Source} (h : (w.lookup svc q).1 = .ok (f, source)) :
    w.Recalls svc q f ∨ w.search svc q = .ok f :=
  Resolver.get?_or_search_of_lookup h

/-- What an operation learns from a lookup is up to date exactly if what is recalled is, in the part
    that the operation is told. -/
theorem Run.fresh_consult_iff {α : Type} (svc : ServiceId) (q : Inquiry) (view : Finding → α)
    (w : World) :
    (consult svc q view).Fresh svc w ↔
      ∀ f, w.Recalls svc q f → (w.search svc q).map view = .ok (view f) := by
  have hlookup : w.lookup svc q = (w.resolver svc).lookup q.key fun _ => w.search svc q := rfl
  show (svc = svc → (w.lookup svc q).1.map (fun f => view f.1) = (w.search svc q).map view) ↔ _
  rw [forall_prop_of_true rfl, hlookup]
  cases hon : (w.resolver svc).enabled with
  | false =>
    -- Nothing is recalled, and the lookup is the search.
    rw [Resolver.lookup_of_disabled hon]
    refine ⟨fun _ f hf => ?_, fun _ => ?_⟩
    · exact absurd hf.1 (by simp [hon])
    · cases w.search svc q <;> rfl
  | true =>
    cases hc : (w.resolver svc).cache.get? q.key with
    | some f =>
      rw [Resolver.lookup_of_some hon hc]
      refine ⟨fun h g hg => ?_, fun h => ?_⟩
      · obtain rfl : f = g := Option.some.inj (hc.symm.trans hg.2)
        exact h.symm
      · exact (h f ⟨hon, hc⟩).symm
    | none =>
      -- Nothing is remembered under the key yet, and a search is made.
      refine ⟨fun _ f hf => ?_, fun _ => ?_⟩
      · exact absurd hf.2 (by simp [hc])
      · cases hs : w.search svc q with
        | error e => rw [Resolver.lookup_of_error hon hc rfl]; rfl
        | ok f => rw [Resolver.lookup_of_ok hon hc rfl]; rfl

/-- **What shows.** Memory shows in a lookup exactly if what it recalls is out of date. -/
theorem Run.consult_agrees_iff {α : Type} (svc : ServiceId) (q : Inquiry) (view : Finding → α)
    {w w' : World} (h : w.Forgetful svc w') :
    (consult svc q view w).1 = (consult svc q view w').1 ↔
      ∀ f, w.Recalls svc q f → (w.search svc q).map view = .ok (view f) := by
  rw [← fresh_consult_iff]
  constructor
  · -- Next to a world that remembers nothing, the answer is that of a search.
    intro hsame _
    show (consult svc q view w).1 = _
    rw [hsame]
    show (w'.lookup svc q).1.map _ = _
    rw [(h.lookup q).1]
    cases w.search svc q <;> rfl
  · intro hfresh
    exact ((consult svc q view).steady svc w w' h hfresh).1

/-- Two runs side by side, of which only the first is told what a resolver remembers. -/
theorem outcomes_forgetful {svc : ServiceId} {w w' : World} (h : w.Forgetful svc w')
    {ops : List Operation} (hops : UpToDate svc w ops) :
    outcomes svc w ops = outcomes svc w' ops ∧
      (worldAfter svc w ops).Forgetful svc (worldAfter svc w' ops) := by
  induction ops generalizing w w' with
  | nil => exact ⟨rfl, h⟩
  | cons op rest ih =>
    -- One operation comes out the same and leaves the two worlds side by side.
    obtain ⟨hanswer, hworld⟩ := (op.run svc).steady svc w w' h hops.1
    obtain ⟨hrest, hafter⟩ := ih hworld hops.2
    exact ⟨by rw [outcomes, outcomes, hanswer, hrest], hafter⟩

/-- **Coherence.** A run of reads, writes and calls comes out the same with memory on as with memory
    off, in every value and every error, and leaves the same objects and classes, if all that it
    recalls is what a search would find at that moment. What is looked up next then comes out the
    same exactly if this is so once more. -/
theorem outcomes_agree (svc : ServiceId) (w : World) (ops : List Operation)
    (h : UpToDate svc (w.withResolver svc { enabled := true }) ops) :
    outcomes svc (w.withResolver svc { enabled := true }) ops =
        outcomes svc (w.withResolver svc { enabled := false }) ops ∧
      let u := worldAfter svc (w.withResolver svc { enabled := true }) ops
      let u' := worldAfter svc (w.withResolver svc { enabled := false }) ops
      u.store = u'.store ∧
        ∀ {α : Type} (q : Inquiry) (view : Finding → α),
          (Run.consult svc q view u).1 = (Run.consult svc q view u').1 ↔
            ∀ f, u.Recalls svc q f → (u.search svc q).map view = .ok (view f) := by
  have hbegin : (w.withResolver svc { enabled := true }).Forgetful svc
      (w.withResolver svc { enabled := false }) := w.forgetful_withResolver svc _ rfl
  obtain ⟨hanswers, hworld⟩ := outcomes_forgetful hbegin h
  refine ⟨hanswers, ?_, fun q view => Run.consult_agrees_iff svc q view hworld⟩
  obtain ⟨r, lines, -, hu'⟩ := hworld
  rw [hu', World.store_withTrace, World.store_withResolver]

/-! ### Writes to a class -/

namespace Service

open Run

variable {call : Call} {svc : ServiceId} {w : World} {k : Kind} {name : Key}

/-- To find a field, the resolver is consulted once. -/
theorem fresh_findField? {t : Target} :
    (findField? svc t name).Fresh svc w ↔
      (consult svc (.field t.kind name) fun f => f.field?.map Field.place).Fresh svc w := by
  unfold findField? inquire
  -- Whatever is made of the answer only reads the store and the service.
  rw [fresh_bind_of_forall, fresh_outcome, fresh_bind_of_forall]
  · intro a u
    split <;> simp [fresh_bind]
  · intro a u
    split
    · simp
    · split <;> simp
    · simp

/-- The rest of a write to a class runs no code of the host, and learns nothing. -/
theorem fresh_writeField_class {x : Value} :
    (writeField call svc ⟨k, .none⟩ name x).Fresh svc w ↔
      (consult svc (.field k name) fun f => f.field?.map Field.place).Fresh svc w := by
  unfold writeField
  rw [fresh_bind_of_forall, fresh_findField?]
  intro a u
  split
  · simp [fresh_bind, typeName, fieldListing]
  · split
    · unfold Host.setAttr
      simp only
      split <;> simp
    · simp [Target.hasInstance]

end Service

/-- **Writes to a class.** A write to a class looks up the field and nothing else. -/
theorem Operation.fresh_setField_class {svc : ServiceId} {w : World} {k : Kind} {name : Key}
    {target x : Value} (h : w.store.asTarget target = ⟨k, .none⟩) :
    ((Operation.setField target (.key name) x).run svc).Fresh svc w ↔
      (Run.consult svc (.field k name) fun f => f.field?.map Field.place).Fresh svc w := by
  have hkey : Host.keyOf Host.callValue (.key name) w = (.ok name, w) := rfl
  have hkeyFresh : (Host.keyOf Host.callValue (.key name)).Fresh svc w :=
    ⟨trivial, fun s hs => by cases hs; trivial⟩
  unfold Operation.run
  rw [Run.fresh_bind_of_forall fun _ _ => Run.fresh_pure _]
  unfold Service.setField
  simp only [Run.fresh_bind, Run.store_apply, Run.fresh_store, true_and, Except.ok.injEq,
    forall_eq', h, hkey, hkeyFresh, Service.fresh_writeField_class]

/-! ### A class whose constant is written -/

/-- A class with a constant, a reference to the class, and a function. -/
def tally : World where
  store :=
    { objects := #[
        { kind := .library .targetRef, body := .target (.declared 0) .none },
        { kind := .library .function, body := .function ⟨"f", [], .self, false, {}⟩ }]
      classes := #[
        { name := "Tally", qualifiedName := "Tally", home := some "host",
          bases := [.library .object], lineage := [.declared 0, .library .object],
          metaclass := .type, attrs := ⟨[("count", .int 1)]⟩ }] }

/-- Two writes to the constant under two spellings, of which the second recalls what the first
    found. -/
theorem outcomes_agree_tally :
    let writes : List Operation :=
      [.setField (.object 0) (.key (.ofText "count")) (.int 2),
       .setField (.object 0) (.key (.ofText "COUNT")) (.int 3)]
    outcomes .main (tally.withResolver .main { enabled := true }) writes =
        outcomes .main (tally.withResolver .main { enabled := false }) writes ∧
      (worldAfter .main (tally.withResolver .main { enabled := true }) writes).store =
        (worldAfter .main (tally.withResolver .main { enabled := false }) writes).store := by
  have hagree := outcomes_agree .main tally
    [.setField (.object 0) (.key (.ofText "count")) (.int 2),
     .setField (.object 0) (.key (.ofText "COUNT")) (.int 3)] ⟨?_, ?_, trivial⟩
  · exact ⟨hagree.1, hagree.2.1⟩
  · exact (Operation.fresh_setField_class (k := .declared 0) (by decide +kernel)).2 fun _ => by
      decide +kernel
  · exact (Operation.fresh_setField_class (k := .declared 0) (by decide +kernel)).2 fun _ => by
      decide +kernel

/-- A constant that was read is replaced by a function: it can still be read with memory on, and
    with memory off it is gone. -/
theorem outcomes_differ_tally :
    let ops : List Operation :=
      [.getField (.object 0) (.key (.ofText "count")) none,
       .setField (.object 0) (.key (.ofText "count")) (.object 1),
       .getField (.object 0) (.key (.ofText "count")) none]
    outcomes .main (tally.withResolver .main { enabled := true }) ops ≠
      outcomes .main (tally.withResolver .main { enabled := false }) ops := by
  decide +kernel

end ScriptBridge
