import Mathlib.Control.Monad.Basic
import ScriptBridge.Eval
import ScriptBridge.Proofs.Reporting
import ScriptBridge.Proofs.Transparent

namespace ScriptBridge

/-!
# Faults inside constructions

A class is made an instance of in phases: the arguments are taken out of their wrappers and the
class is checked, its constructor is looked up and called, and a scripted instance is brought up in
a scope of its own. What stops the lookup, the constructor or the bringing up is reported as the
cause of an error of the engine. What stops the steps between them is not, and escapes as it is.

* `Construction` is what is asked for, and `Construction.run_eq` takes it apart into its phases;
* `Service.reporting_eq_error_iff` tells what a report of a fault may come to;
* `Construction.Reports` and `Construction.Escapes` are all ways in which a construction ends in a
  fault;
* `Construction.fails_iff`: it ends in one of them, and in no other way.
-/

open Run Host

/-! ### Phases -/

/-- A class that an instance is to be made of, with the arguments and the scope that was given. -/
structure Construction where
  kind : Kind
  args : Value
  scope : Value

/-- A construction whose class was checked: the name of the class, the arguments without wrappers,
    and those of them that the constructor takes, with their kinds. -/
structure Blueprint where
  type : String
  args : Value
  positional : List Value
  kinds : List Kind
deriving DecidableEq

/-- A scripted instance that has a scope to be brought up in. The report of a fault speaks of the
    type, the trace of the name. -/
structure Newborn where
  inst : Value
  args : Value
  inner : Value
  type : String
  name : String
deriving DecidableEq

namespace Newborn

/-- The scope that a scripted instance is brought up in. -/
def enter (call : Call) (svc : ServiceId) (scope inst args : Value) : Run Newborn := do
  let parent ← Service.scopeOrRoot call svc scope
  let inner := Value.scope (← newClassScope call parent inst)
  let type ← typeNameOf inst
  let name := (← store).name (← kindOf inst)
  return ⟨inst, args, inner, type, name⟩

/-- Runs the initialiser block, and then the `init` that there is. -/
def settle (call : Call) (svc : ServiceId) (n : Newborn) : Run Value := do
  trace svc ["BRINGUP", "pseudo_constructor", n.name]
  let _ ← callMethod call n.inst "pseudo_constructor" [n.inner]
  let init ← Container.read call n.inst n.inner .init true
  if init = .absent || init = .none then return n.inst
  trace svc ["BRINGUP", "init", n.name]
  Container.invoke call n.inst n.inner .init n.args false

/-- Brings the instance up, and reports what goes wrong. -/
def bringUp (call : Call) (svc : ServiceId) (n : Newborn) : Run Value := do
  let result ← Service.reporting call (n.settle call svc) (.bringUpFailed n.type)
  if result = .none || result = .absent then return n.inst else return result

/-- If a scope is given, or none, then only an instance that does not give its variables is kept
    from having a scope to be brought up in. -/
theorem enter_eq_error_iff {call : Call} {svc : ServiceId} {scope inst args : Value} {w v : World}
    {e : Fault} (hscope : scope.IsScope) :
    enter call svc scope inst args w = (.error e, v) ↔
      getAttr call inst "variables_scope" w = (.error e, v) := by
  rw [enter, bind_of_ok (Service.scopeOrRoot_eq call svc hscope w), bind_eq_error_iff]
  constructor
  · rintro (h | ⟨_, _, -, h⟩)
    · obtain h | ⟨_, _, -, h⟩ := bind_eq_error_iff.1 h
      · exact h
      · cases h
    · cases h
  · intro h
    exact .inl (bind_of_error h)

end Newborn

namespace Construction

/-- Carries out a construction. -/
def run (call : Call) (svc : ServiceId) (c : Construction) : Run Value :=
  Service.construct call svc c.scope c.kind c.args

/-- What comes before the lookup: wrappers are taken off, the class is checked, and the arguments
    are walked through. -/
def prepare (call : Call) (c : Construction) : Run Blueprint := do
  let args ← unwrapArguments call c.args
  let type ← typeName c.kind
  if ← Service.isInterface call c.kind then refuse (.constructorAbstract type)
  else match c.kind with
    | .label _ => fail .typeError
    | k => do
      let positional ← do
        if (← store).descends k .scripted then pure [] else itemsOf call args
      return ⟨type, args, positional, positional.map (← store).kindOf⟩

/-- Looks the constructor up. -/
def find (svc : ServiceId) (c : Construction) (b : Blueprint) : Run Callee :=
  Service.calleeOf svc (.constructor c.kind b.kinds)

/-- The call of a constructor that was found. -/
def make (call : Call) (b : Blueprint) (f : Value) : Run Value :=
  call f { positional := b.positional }

/-- Brings up an instance that was made, if it is a scripted one. -/
def complete (call : Call) (svc : ServiceId) (c : Construction) (b : Blueprint) (inst : Value) :
    Run Value := do
  if (← store).isA inst .scripted then
    (← Newborn.enter call svc c.scope inst b.args).bringUp call svc
  else return inst

/-- What comes of a construction once the constructor was looked up. -/
def finish (call : Call) (svc : ServiceId) (c : Construction) (b : Blueprint) :
    Except Fault Callee → Run Value
  | .error (.engine r) => fail (.wrapped (.constructorLookupFailed b.type) (.engine r))
  | .error f => fail f
  | .ok callee => do
    let f ← Service.bindCallee callee .none c.kind
    let inst ← Service.reporting call (make call b f) (.constructorFailed b.type)
    complete call svc c b inst

/-- A scripted instance enters its scope and is brought up there. -/
theorem bringUp_eq (call : Call) (svc : ServiceId) (scope inst args : Value) :
    Service.bringUp call svc scope inst args =
      Newborn.enter call svc scope inst args >>= Newborn.bringUp call svc := by
  simp only [Service.bringUp, Newborn.enter, bind_assoc, pure_bind]
  rfl

/-- A construction is prepared, looks its constructor up, and goes on with what it found. -/
theorem run_eq (call : Call) (svc : ServiceId) (c : Construction) :
    c.run call svc =
      c.prepare call >>= fun b => outcome (c.find svc b) >>= c.finish call svc b := by
  obtain ⟨k, args, scope⟩ := c
  simp only [run, prepare, Service.construct, bind_assoc]
  refine bind_congr fun args => bind_congr fun type => bind_congr fun abstract => ?_
  split
  · rw [refuse_bind, refuse_bind]
  · cases k with
    | label t => exact (fail_bind _ _).symm
    | _ =>
      simp only [bind_assoc, pure_bind]
      refine bind_congr fun s => ?_
      -- A scripted class takes no argument, any other takes those that are walked through.
      split
      next =>
        simp only [bind_assoc, pure_bind, find]
        refine bind_congr fun s => bind_congr fun found => ?_
        split <;> simp only [finish, complete, make, bringUp_eq]
      next =>
        simp only [bind_assoc, pure_bind, find]
        refine bind_congr fun items => bind_congr fun s => bind_congr fun found => ?_
        split <;> simp only [finish, complete, make, bringUp_eq]

end Construction

/-! ### What reports come to -/

/-- A refusal of the engine is an ordinary fault. -/
theorem Host.isOrdinary_engine (s : Store) (r : Reason) : isOrdinary s (.engine r) = true := by
  cases r <;> rfl

namespace Service

variable {call : Call} {x : Run Value} {reason : String → Reason} {w w' u : World} {e : Fault}
  {a : Value}

/-- Reporting faults changes nothing about what succeeds. -/
theorem reporting_eq_ok_iff : reporting call x reason w = (.ok a, u) ↔ x w = (.ok a, u) := by
  rcases hx : x w with ⟨f | b, v⟩
  · rw [reporting_of_error hx]
    split
    · rcases describe call f v with ⟨_ | _, _⟩ <;> simp
    · simp
  · have hreport : reporting call x reason w = (.ok b, v) := by
      rw [reporting, bind_of_ok (outcome_of hx)]
      rfl
    rw [hreport]

/-- A fault is reported if it is an ordinary one that can be shown. If it cannot be shown, what
    stopped that is left, and other faults pass. -/
theorem reporting_eq_error_iff :
    reporting call x reason w = (.error e, w') ↔
      ∃ cause u, x w = (.error cause, u) ∧
        if isOrdinary u.store cause then
          (∃ text, describe call cause u = (.ok text, w') ∧ e = .wrapped (reason text) cause) ∨
            describe call cause u = (.error e, w')
        else e = cause ∧ w' = u := by
  rcases hx : x w with ⟨f | a, u⟩
  · rw [reporting_of_error hx]
    -- The fault is known, so there is only one cause to speak of.
    have hcause (P : Fault → World → Prop) :
        (∃ cause v, ((.error f : Except Fault Value), u) = (.error cause, v) ∧ P cause v) ↔ P f u :=
      ⟨fun ⟨_, _, h, hP⟩ => by cases h; exact hP, fun hP => ⟨f, u, rfl, hP⟩⟩
    rw [hcause]
    by_cases hord : isOrdinary u.store f = true
    · rw [if_pos hord, if_pos hord]
      rcases describe call f u with ⟨g | text, v⟩
      · simp
      · constructor
        · rintro ⟨⟩
          exact .inl ⟨text, rfl, rfl⟩
        · rintro (⟨_, ⟨⟩, rfl⟩ | h)
          · rfl
          · cases h
    · rw [if_neg hord, if_neg hord]
      simp [eq_comm]
  · have hok : reporting call x reason w = _ := reporting_eq_ok_iff.2 hx
    rw [hok]
    simp

end Service

/-! ### How a construction ends in a fault -/

namespace Construction

variable {call : Call} {svc : ServiceId} {c : Construction} {w : World}

/-- Whether a construction has come to what is called to make the instance: it was prepared, and its
    constructor was found and bound. -/
inductive Ready (call : Call) (svc : ServiceId) (c : Construction) (w : World) :
    Blueprint → Value → World → Prop
  | intro {b : Blueprint} {callee : Callee} {f : Value} {u u' v : World}
      (hprepare : c.prepare call w = (.ok b, u)) (hfind : c.find svc b u = (.ok callee, u'))
      (hbind : Service.bindCallee callee .none c.kind u' = (.ok f, v)) : Ready call svc c w b f v

/-- Whether a construction comes to a fault that is caught for a report: its lookup, the constructor
    or the bringing up ends in one. -/
inductive Caught (call : Call) (svc : ServiceId) (c : Construction) (w : World) :
    (String → Reason) → Fault → World → Prop
  | find {b : Blueprint} {r : Reason} {u v : World} (hprepare : c.prepare call w = (.ok b, u))
      (h : c.find svc b u = (.error (.engine r), v)) :
      Caught call svc c w (fun _ => .constructorLookupFailed b.type) (.engine r) v
  | make {b : Blueprint} {f : Value} {e : Fault} {u v : World} (hready : c.Ready call svc w b f u)
      (h : make call b f u = (.error e, v)) : Caught call svc c w (.constructorFailed b.type) e v
  | settle {b : Blueprint} {f inst : Value} {n : Newborn} {e : Fault} {u u' u'' v : World}
      (hready : c.Ready call svc w b f u) (hmake : make call b f u = (.ok inst, u'))
      (hscripted : u'.store.isA inst .scripted = true)
      (henter : Newborn.enter call svc c.scope inst b.args u' = (.ok n, u''))
      (h : n.settle call svc u'' = (.error e, v)) : Caught call svc c w (.bringUpFailed n.type) e v

/-- Whether a construction ends in an error of the engine that reports it: the class is abstract, or
    what was caught is an ordinary fault that can be shown. -/
inductive Reports (call : Call) (svc : ServiceId) (c : Construction) (w : World) :
    Fault → World → Prop
  | abstract {type : String} {v : World}
      (h : c.prepare call w = (.error (.engine (.constructorAbstract type)), v)) :
      Reports call svc c w (.engine (.constructorAbstract type)) v
  | caught {reason : String → Reason} {cause : Fault} {text : String} {u v : World}
      (h : c.Caught call svc w reason cause u) (hord : isOrdinary u.store cause = true)
      (hshow : describe call cause u = (.ok text, v)) :
      Reports call svc c w (.wrapped (reason text) cause) v

/-- Whether a construction ends in a fault that nothing reports. It may be that of a step between
    the phases. It may also be caught and be no ordinary one, or be what stops the report. -/
inductive Escapes (call : Call) (svc : ServiceId) (c : Construction) (w : World) :
    Fault → World → Prop
  | prepare {e : Fault} {v : World} (h : c.prepare call w = (.error e, v))
      (hconcrete : ∀ type, e ≠ .engine (.constructorAbstract type)) : Escapes call svc c w e v
  | find {b : Blueprint} {e : Fault} {u v : World} (hprepare : c.prepare call w = (.ok b, u))
      (h : c.find svc b u = (.error e, v)) (hhost : ∀ r, e ≠ .engine r) : Escapes call svc c w e v
  | bind {b : Blueprint} {callee : Callee} {e : Fault} {u u' v : World}
      (hprepare : c.prepare call w = (.ok b, u)) (hfind : c.find svc b u = (.ok callee, u'))
      (h : Service.bindCallee callee .none c.kind u' = (.error e, v)) : Escapes call svc c w e v
  | enter {b : Blueprint} {f inst : Value} {e : Fault} {u u' v : World}
      (hready : c.Ready call svc w b f u) (hmake : make call b f u = (.ok inst, u'))
      (hscripted : u'.store.isA inst .scripted = true)
      (h : Newborn.enter call svc c.scope inst b.args u' = (.error e, v)) : Escapes call svc c w e v
  | passed {reason : String → Reason} {e : Fault} {v : World} (h : c.Caught call svc w reason e v)
      (hord : isOrdinary v.store e = false) : Escapes call svc c w e v
  | unshown {reason : String → Reason} {cause e : Fault} {u v : World}
      (h : c.Caught call svc w reason cause u) (hord : isOrdinary u.store cause = true)
      (hshow : describe call cause u = (.error e, v)) : Escapes call svc c w e v

/-- Only a refusal of the lookup is reported. -/
theorem finish_of_host {b : Blueprint} {e : Fault} (h : ∀ r, e ≠ .engine r) :
    c.finish call svc b (.error e) = fail e := by
  cases e with
  | engine r => exact absurd rfl (h r)
  | _ => rfl

/-- Only a scripted instance is brought up, which may fail before it can be reported, or is
    reported. -/
theorem complete_eq_error_iff {b : Blueprint} {inst : Value} {e : Fault} {v : World} :
    c.complete call svc b inst w = (.error e, v) ↔
      w.store.isA inst .scripted = true ∧
        (Newborn.enter call svc c.scope inst b.args w = (.error e, v) ∨
          ∃ n u, Newborn.enter call svc c.scope inst b.args w = (.ok n, u) ∧
            Service.reporting call (n.settle call svc) (.bringUpFailed n.type) u =
              (.error e, v)) := by
  -- Once the instance is brought up, nothing can fail.
  have hbringUp (n : Newborn) (u : World) : n.bringUp call svc u = (.error e, v) ↔
      Service.reporting call (n.settle call svc) (.bringUpFailed n.type) u = (.error e, v) := by
    rw [Newborn.bringUp, bind_eq_error_iff]
    refine or_iff_left ?_
    rintro ⟨result, z, -, h⟩
    split at h <;> cases h
  rw [complete, bind_of_ok (store_apply w)]
  split
  next hscripted => simp only [bind_eq_error_iff, hbringUp, hscripted, true_and]
  next hscripted =>
    refine iff_of_false nofun fun h => hscripted h.1

/-- What becomes of a fault that was caught. -/
theorem Caught.reports_or_escapes {reason : String → Reason} {cause e : Fault} {u v : World}
    (h : c.Caught call svc w reason cause u)
    (he : if isOrdinary u.store cause then
      (∃ text, describe call cause u = (.ok text, v) ∧ e = .wrapped (reason text) cause) ∨
        describe call cause u = (.error e, v)
      else e = cause ∧ v = u) :
    c.Reports call svc w e v ∨ c.Escapes call svc w e v := by
  split at he
  next hord =>
    obtain ⟨text, hshow, rfl⟩ | hshow := he
    · exact .inl (.caught h hord hshow)
    · exact .inr (.unshown h hord hshow)
  next hord =>
    obtain ⟨rfl, rfl⟩ := he
    exact .inr (.passed h (Bool.eq_false_iff.2 hord))

/-- What was caught is what the construction ends in, reported or not. -/
theorem Caught.run_eq_error {reason : String → Reason} {cause e : Fault} {u v : World}
    (h : c.Caught call svc w reason cause u)
    (he : if isOrdinary u.store cause then
      (∃ text, describe call cause u = (.ok text, v) ∧ e = .wrapped (reason text) cause) ∨
        describe call cause u = (.error e, v)
      else e = cause ∧ v = u) :
    c.run call svc w = (.error e, v) := by
  -- Three places catch: the search, the call of the class, and the bringing up.
  rw [run_eq]
  cases h with
  | @find b r u u' hprepare h =>
    rw [bind_of_ok hprepare, bind_of_ok (outcome_of h)]
    rw [if_pos (isOrdinary_engine _ r)] at he
    obtain ⟨text, hshow, rfl⟩ | hshow := he
    · cases hshow
      rfl
    · cases hshow
  | @make b f _ u _ hready h =>
    obtain ⟨hprepare, hfind, hbind⟩ := hready
    rw [bind_of_ok hprepare, bind_of_ok (outcome_of hfind), finish, bind_of_ok hbind]
    exact bind_of_error (Service.reporting_eq_error_iff.2 ⟨cause, _, h, he⟩)
  | @settle b f inst n _ u u' u'' _ hready hmake hscripted henter h =>
    obtain ⟨hprepare, hfind, hbind⟩ := hready
    rw [bind_of_ok hprepare, bind_of_ok (outcome_of hfind), finish, bind_of_ok hbind,
      bind_of_ok (Service.reporting_eq_ok_iff.2 hmake), complete, bind_of_ok (store_apply u'),
      if_pos hscripted, bind_of_ok henter]
    exact bind_of_error (Service.reporting_eq_error_iff.2 ⟨cause, _, h, he⟩)

/-- Every fault that a construction ends in is reported, or is one that escapes. -/
theorem reports_or_escapes {e : Fault} {v : World} (h : c.run call svc w = (.error e, v)) :
    c.Reports call svc w e v ∨ c.Escapes call svc w e v := by
  -- The stages are gone through in turn: preparing, finding, binding, making and bringing up.
  rw [run_eq, bind_eq_error_iff] at h
  obtain h | ⟨b, u, hprepare, h⟩ := h
  · by_cases habstract : ∃ type, e = .engine (.constructorAbstract type)
    · obtain ⟨type, rfl⟩ := habstract
      exact .inl (.abstract h)
    · exact .inr (.prepare h fun type he => habstract ⟨type, he⟩)
  · rcases hfind : c.find svc b u with ⟨f | callee, u'⟩
    · rw [bind_of_ok (outcome_of hfind)] at h
      -- Only a refusal of the engine is caught here.
      by_cases hengine : ∃ r, f = .engine r
      · obtain ⟨r, rfl⟩ := hengine
        have hcaught := Caught.find hprepare hfind
        cases h
        have hreports := Reports.caught hcaught (isOrdinary_engine _ r) rfl
        exact .inl hreports
      · have hhost (r : Reason) : f ≠ .engine r := fun hf => hengine ⟨r, hf⟩
        rw [finish_of_host hhost] at h
        cases h
        exact .inr (.find hprepare hfind hhost)
    · rw [bind_of_ok (outcome_of hfind), finish, bind_eq_error_iff] at h
      obtain h | ⟨f, u₁, hbind, h⟩ := h
      · exact .inr (.bind hprepare hfind h)
      · have hready : c.Ready call svc w b f u₁ := .intro hprepare hfind hbind
        rw [bind_eq_error_iff] at h
        obtain h | ⟨inst, u₂, hmake, h⟩ := h
        · obtain ⟨cause, u₃, hcause, he⟩ := Service.reporting_eq_error_iff.1 h
          exact (Caught.make hready hcause).reports_or_escapes he
        · rw [Service.reporting_eq_ok_iff] at hmake
          obtain ⟨hscripted, h | ⟨n, u₃, henter, h⟩⟩ := complete_eq_error_iff.1 h
          · exact .inr (.enter hready hmake hscripted h)
          · obtain ⟨cause, u₄, hcause, he⟩ := Service.reporting_eq_error_iff.1 h
            exact (Caught.settle hready hmake hscripted henter hcause).reports_or_escapes he

/-- A construction that reports a fault ends in the report. -/
theorem Reports.run_eq_error {e : Fault} {v : World} (h : c.Reports call svc w e v) :
    c.run call svc w = (.error e, v) := by
  cases h with
  | abstract h =>
    rw [run_eq]
    exact bind_of_error h
  | @caught reason cause text u v h hord hshow =>
    refine h.run_eq_error ?_
    rw [if_pos hord]
    exact .inl ⟨text, hshow, rfl⟩

/-- A construction that a fault escapes from ends in that fault. -/
theorem Escapes.run_eq_error {e : Fault} {v : World} (h : c.Escapes call svc w e v) :
    c.run call svc w = (.error e, v) := by
  cases h with
  | prepare h =>
    rw [run_eq]
    exact bind_of_error h
  | find hprepare h hhost =>
    rw [run_eq, bind_of_ok hprepare, bind_of_ok (outcome_of h), finish_of_host hhost]
    rfl
  | bind hprepare hfind h =>
    rw [run_eq, bind_of_ok hprepare, bind_of_ok (outcome_of hfind)]
    exact bind_of_error h
  -- The scope of an instance is made between the two calls, where nothing catches.
  | enter hready hmake hscripted h =>
    obtain ⟨hprepare, hfind, hbind⟩ := hready
    rw [run_eq, bind_of_ok hprepare, bind_of_ok (outcome_of hfind), finish, bind_of_ok hbind,
      bind_of_ok (Service.reporting_eq_ok_iff.2 hmake)]
    exact complete_eq_error_iff.2 ⟨hscripted, .inl h⟩
  | passed h hord =>
    refine h.run_eq_error ?_
    rw [hord]
    exact ⟨rfl, rfl⟩
  | unshown h hord hshow =>
    refine h.run_eq_error ?_
    rw [if_pos hord]
    exact .inr hshow

/-- What a construction reports is an error of the class for that. -/
theorem Reports.isA_constructionError {e : Fault} {v : World} (h : c.Reports call svc w e v) :
    faultIsA v.store e .constructionError = true := by
  cases h with
  | abstract => rfl
  | caught h => cases h <;> rfl

end Construction

/-! ### Constructions through a wrapper -/

/-- Whether a value is a wrapper of a class, with an instance or without, and is asked for what it
    holds as the library does. -/
structure Store.HoldsClass (s : Store) (d : Value) (k : Kind) (inst : Value) (svc : ServiceId) :
    Prop where
  kind : s.kindOf d = .library .wrapper
  body : s.body? d = some (.wrapper (.kind k) inst (.service svc))
  free : ∀ name ∈ ["interop", "target_class"], s.inherited? (.library .wrapper) name = none

/-- The class and the instance that a wrapper holds. -/
def Store.held? (s : Store) (d : Value) : Option (Value × Value) :=
  match s.body? d with
  | some (.wrapper cls inst _) => some (cls, inst)
  | _ => none

namespace Wrapper

variable {call : Call} {w : World} {d inst scope : Value} {k : Kind} {svc : ServiceId}

/-- A wrapper is asked for what it holds. -/
theorem getAttr_of_holdsClass (call : Call) (h : w.store.HoldsClass d k inst svc) :
    getAttr call d "interop" w = (.ok (.service svc), w) ∧
      getAttr call d "target_class" w = (.ok (.kind k), w) := by
  have hbody := h.body
  cases d with
  | object i =>
    obtain ⟨o, ho, hob⟩ := Option.map_eq_some_iff.1 hbody
    constructor
    all_goals
      refine Service.getAttr_of_ownValue? h.kind (h.free _ (by simp)) ?_
      unfold ownValue?
      rw [bind_of_ok (store_apply w)]
      simp only [ho, hob]
      rfl
  | _ => cases hbody

/-- A wrapper writes nothing once the construction of what it is to hold has failed. -/
theorem construct_of_error (h : w.store.HoldsClass d k inst svc) (args : List Value) :
    ∃ given u, newTuple args w = (.ok given, u) ∧ u.store.body? d = w.store.body? d ∧
      ∀ e v, (Construction.mk k given scope).run call svc u = (.error e, v) →
        construct call d scope args w = (.error e, v) := by
  obtain ⟨i, u, hnew, hgrows, -⟩ := exists_alloc_eq w
    { kind := .library .tuple, body := .tuple args }
  replace hnew : newTuple args w = (.ok (.object i), u) := hnew
  have hbody : u.store.body? d = w.store.body? d := by rw [hgrows.body? h.body, h.body]
  -- Adding the tuple of the arguments leaves what the wrapper holds.
  have hholds : u.store.HoldsClass d k inst svc := by
    obtain ⟨o, ho, hob⟩ := Option.map_eq_some_iff.1 h.body
    refine ⟨?_, hbody.trans h.body, fun name hname => ?_⟩
    · rw [Store.kindOf_of_deref? (hgrows.deref? ho), ← Store.kindOf_of_deref? ho, h.kind]
    · obtain ⟨os, n, rfl⟩ := hgrows
      exact h.free name hname
  obtain ⟨hinterop, hclass⟩ := getAttr_of_holdsClass call hholds
  refine ⟨.object i, u, hnew, hbody, fun e v he => ?_⟩
  rw [construct, bind_of_ok hnew, bind_of_ok hinterop]
  dsimp only
  rw [bind_of_ok (x := heldClass call d) hclass]
  exact bind_of_error he

end Wrapper

/-! ### Constructions that fail -/

/-- **Failed constructions.** A construction ends in a fault exactly if it reports one or lets one
    escape. A report is an error of the class for that, and has what was caught as its cause, unless
    it says that the class is abstract. A wrapper that asks for the construction ends in the same
    fault, in the world that the construction leaves. -/
theorem Construction.fails_iff (call : Call) (svc : ServiceId) (c : Construction) (w : World) :
    (∀ e v, c.run call svc w = (.error e, v) ↔
      c.Reports call svc w e v ∨ c.Escapes call svc w e v) ∧
    (∀ e v, c.Reports call svc w e v → faultIsA v.store e .constructionError = true) ∧
    ∀ d inst args, w.store.HoldsClass d c.kind inst svc →
      ∃ given u, newTuple args w = (.ok given, u) ∧ u.store.body? d = w.store.body? d ∧
        ∀ e v, { c with args := given }.run call svc u = (.error e, v) →
          Wrapper.construct call d c.scope args w = (.error e, v) := by
  refine ⟨fun e v => ⟨reports_or_escapes, ?_⟩, fun e v h => h.isA_constructionError,
    fun d inst args h => Wrapper.construct_of_error h args⟩
  rintro (h | h)
  · exact h.run_eq_error
  · exact h.run_eq_error

/-- A wrapper of a scripted class whose initialiser block raises an error, and another scripted
    class, whose initialiser leaves its instances without variables. -/
def nursery : World where
  store :=
    { objects := #[
        { kind := .library .tuple, body := .tuple [] },
        { kind := .library .wrapper,
          body := .wrapper (.kind (.declared 0)) .none (.service .main) },
        { kind := .library .function,
          body := .function ⟨"pseudo_constructor",
            [⟨"self", .normal, none, none⟩, ⟨"context", .normal, none, none⟩],
            .raise "ValueError" [.literal (.text "boom")], true, {}⟩ },
        { kind := .library .function,
          body := .function ⟨"pseudo_constructor",
            [⟨"self", .normal, none, none⟩, ⟨"context", .normal, none, none⟩], .literal .none, true,
            {}⟩ },
        { kind := .library .function,
          body := .function ⟨"__init__", [⟨"self", .normal, none, none⟩], .literal .none, true,
            {}⟩ }]
      classes := #[
        { name := "Fussy", qualifiedName := "Fussy", home := some "host",
          bases := [.library .scripted],
          lineage := .declared 0 :: LibraryKind.scripted.lineage.map .library,
          metaclass := .type, attrs := ⟨[("pseudo_constructor", .object 2)]⟩ },
        { name := "Bare", qualifiedName := "Bare", home := some "host",
          bases := [.library .scripted],
          lineage := .declared 1 :: LibraryKind.scripted.lineage.map .library,
          metaclass := .type,
          attrs := ⟨[("pseudo_constructor", .object 3), ("__init__", .object 4)]⟩ }] }

theorem holdsClass_nursery :
    nursery.store.HoldsClass (.object 1) (.declared 0) .none .main where
  kind := rfl
  body := rfl
  free name hname := by
    simp only [List.mem_cons, List.not_mem_nil, or_false] at hname
    obtain rfl | rfl := hname <;> rfl

/-- A construction of one of the classes, without arguments. -/
def birth (i : Nat) : Construction := ⟨.declared i, .object 0, .none⟩

/-- The phases of the construction, one after the other, up to the one that fails. -/
theorem phases_nursery :
    let c := birth 0
    let b : Blueprint := ⟨"host.Fussy", .object 5, [], []⟩
    let callee : Callee := ⟨"", .kind (.declared 0), true⟩
    let n : Newborn := ⟨.object 6, .object 5, .scope 0, "host.Fussy", "Fussy"⟩
    let prepared := c.prepare Host.callValue nursery
    let found := c.find .main b prepared.2
    let bound := Service.bindCallee callee .none c.kind found.2
    let made := Construction.make Host.callValue b (.kind (.declared 0)) bound.2
    let entered := Newborn.enter Host.callValue .main c.scope n.inst b.args made.2
    let settled := n.settle Host.callValue .main entered.2
    prepared.1 = .ok b ∧ found.1 = .ok callee ∧ bound.1 = .ok (.kind (.declared 0)) ∧
      made.1 = .ok n.inst ∧ made.2.store.isA n.inst .scripted = true ∧ entered.1 = .ok n ∧
      settled.1 = .error (.raised (.object 10)) ∧
      isOrdinary settled.2.store (.raised (.object 10)) = true ∧
      (describe Host.callValue (.raised (.object 10)) settled.2).1 = .ok "ValueError: boom" := by
  decide +kernel

/-- The error that the initialiser block raises is reported, also to the wrapper, which stays as it
    is. -/
theorem fails_iff_nursery :
    let report (error : Value) : Fault :=
      .wrapped (.bringUpFailed "host.Fussy" "ValueError: boom") (.raised error)
    (∃ v, (birth 0).Reports Host.callValue .main nursery (report (.object 10)) v ∧
      (birth 0).run Host.callValue .main nursery = (.error (report (.object 10)), v) ∧
      faultIsA v.store (report (.object 10)) .constructionError = true) ∧
    ∃ v, Wrapper.construct Host.callValue (.object 1) .none [] nursery =
        (.error (report (.object 11)), v) ∧
      v.store.held? (.object 1) = some (.kind (.declared 0), .none) := by
  intro report
  obtain ⟨hiff, hclass, hwrapper⟩ := Construction.fails_iff Host.callValue .main (birth 0) nursery
  constructor
  · obtain ⟨hprepare, hfind, hbind, hmake, hscripted, henter, hsettle, hord, hshow⟩ :=
      phases_nursery
    have hready := Construction.Ready.intro (Run.eq_of_fst hprepare) (Run.eq_of_fst hfind)
      (Run.eq_of_fst hbind)
    have hcaught := Construction.Caught.settle hready (Run.eq_of_fst hmake) hscripted
      (Run.eq_of_fst henter) (Run.eq_of_fst hsettle)
    have hreports := Construction.Reports.caught hcaught hord (Run.eq_of_fst hshow)
    exact ⟨_, hreports, (hiff _ _).2 (.inl hreports), hclass _ _ hreports⟩
  · obtain ⟨given, u, hnew, hbody, hfails⟩ := hwrapper (.object 1) .none [] holdsClass_nursery
    -- The wrapper puts the arguments into a tuple of its own first.
    have hgiven : (newTuple [] nursery).1 = .ok (.object 5) := by decide +kernel
    rw [hnew] at hgiven
    cases hgiven
    have hrun :
        let failed := { birth 0 with args := .object 5 }.run Host.callValue .main
          (newTuple [] nursery).2
        failed.1 = .error (report (.object 11)) ∧
          failed.2.store.held? (.object 1) = some (.kind (.declared 0), .none) := by decide +kernel
    rw [hnew] at hrun
    exact ⟨_, hfails _ _ (Run.eq_of_fst hrun.1), hrun.2⟩

/-- An instance that does not give its variables has no scope to be brought up in, and the error
    that says so is not reported. -/
theorem construction_escapes_nursery :
    ∃ e v, (birth 1).run Host.callValue .main nursery =
        (.error e, v) ∧
      faultIsA v.store e .attributeError = true ∧ isOrdinary v.store e = true ∧
      faultIsA v.store e .constructionError = false := by
  let failed := (birth 1).run Host.callValue .main nursery
  have h : (match failed with
      | (.error e, v) => faultIsA v.store e .attributeError && isOrdinary v.store e &&
          !faultIsA v.store e .constructionError
      | (.ok _, _) => false) = true := by decide +kernel
  rcases hfailed : failed with ⟨e | _, v⟩
  · rw [hfailed] at h
    exact ⟨e, v, hfailed, by simpa [and_assoc] using h⟩
  · rw [hfailed] at h
    cases h

end ScriptBridge
