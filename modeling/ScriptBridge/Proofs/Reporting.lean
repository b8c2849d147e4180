import Mathlib.Control.Monad.Basic
import ScriptBridge.Eval
import ScriptBridge.Proofs.Run

namespace ScriptBridge

/-!
# Faults inside host members

A call by name finds a member, binds it to its receiver and runs it. What stops the member is
reported as the cause of an error of the engine. The report shows the cause's text, and where that
is asked of a declared class it may fail in its turn: then the second fault is all that is left.

* `NamedCall` is a call by name of a member of a value or of a class;
* `NamedCall.prepare` is all that comes before the member runs, and `NamedCall.run_eq` tells that a
  call by name is this, and running the member;
* `Host.describe_of_not_raised`: the faults of the engine and of the host can always be shown;
* `NamedCall.reports_iff`: a member's fault is reported exactly if it can be shown, and what is
  shown of it is all that escapes otherwise.
-/

open Run Host

/-! ### Calls by name -/

/-- A member that was found, as it is run: bound to its receiver, with the values that take its
    positions, and with the name and the class that a report of its faults speaks of. -/
structure BoundMember where
  function : Value
  positional : List Value
  name : String
  kind : Kind
deriving DecidableEq, Repr

namespace BoundMember

/-- Calls the member. -/
def call (m : BoundMember) (call : Call) : Run Value :=
  call m.function { positional := m.positional }

/-- How a fault of the member is reported. -/
def report (m : BoundMember) (s : Store) (text : String) : Reason :=
  .invocationFailed m.name (s.typeName m.kind) text

end BoundMember

/-- A call by name: of a member of a value, or of one that belongs to a class. -/
inductive NamedCall where
  | onValue (target name args : Value) (safe : Bool)
  | onClass (target name args : Value)

namespace NamedCall

/-- Carries out a call by name. -/
def run (call : Call) (svc : ServiceId) : NamedCall → Run Value
  | .onValue target name args safe => Service.invoke call svc target name args safe
  | .onClass target name args => Service.invokeStatic call svc target name args

/-- What comes before the member runs: it is found, and bound to its receiver. A safe call that
    finds none comes to nothing. -/
def prepare (call : Call) (svc : ServiceId) : NamedCall → Run (Option BoundMember)
  | .onValue target name args safe => do
    let key ← keyOf call name
    let t := (← store).asTarget target
    if key.name.isEmpty then refuse .emptyMethodName
    else
      let args ← Service.positions call args
      let kinds := args.map (← store).kindOf
      match ← outcome (Service.calleeOf svc (.method t.kind key kinds)) with
      | .error (.engine r) => if safe then return none else refuse r
      | .error f => fail f
      | .ok c =>
        if !c.isStatic && !t.hasInstance then refuse .invokeNeedsInstance
        else return some ⟨← Service.bindCallee c t.inst t.kind, args, c.name, t.kind⟩
  | .onClass target name args => do
    let s ← store
    let t : Target := match target with
      | .kind k => ⟨k, .none⟩
      | v => s.asTarget v
    let key ← keyOf call name
    if key.name.isEmpty then refuse .emptyMethodName
    else
      let args ← Service.positions call args
      let kinds := args.map (← store).kindOf
      let c ← Service.calleeOf svc (.method t.kind key kinds)
      if !c.isStatic then refuse (.notStatic key.name (← typeName t.kind))
      else return some ⟨← Service.bindCallee c .none t.kind, args, c.name, t.kind⟩

/-- What comes of a call by name once the member is found. -/
def finish (call : Call) : Option BoundMember → Run Value
  | none => return .absent
  | some m => Service.execute call m.function m.positional m.name m.kind

/-- A call by name finds and binds the member, and runs it. -/
theorem run_eq (call : Call) (svc : ServiceId) (c : NamedCall) :
    c.run call svc = c.prepare call svc >>= finish call := by
  cases c with
  | onValue target name args safe =>
    simp only [run, prepare, Service.invoke, Service.invokeTarget, bind_assoc]
    refine bind_congr fun key => bind_congr fun s => ?_
    split
    · rw [refuse_bind]
    · simp only [bind_assoc]
      refine bind_congr fun args => bind_congr fun s' => bind_congr fun found => ?_
      -- Only a refusal of the engine is what a safe call passes over.
      cases found with
      | error f =>
        cases f with
        | engine r =>
          cases safe with
          | false => exact (refuse_bind r _).symm
          | true => exact (pure_bind none (finish call)).symm
        | _ => exact (fail_bind _ _).symm
      | ok callee =>
        simp only [Service.runCallee]
        split
        · rw [refuse_bind]
        · simp [finish]
  | onClass target name args =>
    simp only [run, prepare, Service.invokeStatic, bind_assoc]
    refine bind_congr fun s => bind_congr fun key => ?_
    split
    · rw [refuse_bind, refuse_bind]
    · simp only [bind_assoc]
      refine bind_congr fun args => bind_congr fun s' => bind_congr fun callee => ?_
      split
      · rw [bind_assoc]
        exact bind_congr fun text => (refuse_bind _ _).trans (refuse_bind _ _).symm
      · rw [bind_assoc]
        refine bind_congr fun f => ?_
        rw [pure_bind]
        rfl

end NamedCall

/-! ### Reports -/

namespace Host

/-- The faults of the engine and of the host can always be shown: no class is asked. -/
theorem describe_of_not_raised (call : Call) {f : Fault} (h : ∀ e, f ≠ .raised e) (w : World) :
    ∃ text, describe call f w = (.ok text, w) := by
  cases f with
  | engine r => exact ⟨_, rfl⟩
  | wrapped r cause => exact ⟨_, rfl⟩
  | host l detail => exact ⟨_, rfl⟩
  | raised e => exact absurd rfl (h e)

end Host

/-- What comes of an operation whose faults are reported, where it ends in one. -/
theorem Service.reporting_of_error {call : Call} {x : Run Value} {reason : String → Reason}
    {w u : World} {e : Fault} (h : x w = (.error e, u)) :
    Service.reporting call x reason w =
      if isOrdinary u.store e then
        match describe call e u with
        | (.ok text, v) => (.error (.wrapped (reason text) e), v)
        | (.error f, v) => (.error f, v)
      else (.error e, u) := by
  rw [reporting, bind_of_ok (outcome_of h)]
  dsimp only
  rw [bind_of_ok (store_apply u)]
  split
  · rw [bind_apply]
    rcases describe call e u with ⟨f | text, v⟩ <;> rfl
  · rfl

namespace NamedCall

variable (call : Call) (svc : ServiceId) (c : NamedCall) {w u u' : World} {m : BoundMember}
  {e : Fault}

/-- What comes of a call by name whose member ends in a fault. -/
theorem run_of_error (hm : c.prepare call svc w = (.ok (some m), u))
    (he : m.call call u = (.error e, u')) :
    c.run call svc w =
      if isOrdinary u'.store e then
        match describe call e u' with
        | (.ok text, v) => (.error (.wrapped (m.report u.store text) e), v)
        | (.error f, v) => (.error f, v)
      else (.error e, u') := by
  -- The member is found, so all that is left is to run it and to look at how it ended.
  rw [run_eq, bind_of_ok hm]
  exact Service.reporting_of_error he

/-- What is no ordinary fault passes as it is. -/
theorem run_of_not_ordinary (hm : c.prepare call svc w = (.ok (some m), u))
    (he : m.call call u = (.error e, u')) (hord : isOrdinary u'.store e = false) :
    c.run call svc w = (.error e, u') := by
  rw [run_of_error call svc c hm he, hord]
  rfl

/-- **Reports.** An ordinary fault of a member that was found ends the call by name in an error of
    the engine with the fault as its cause. Faults of the engine and of the host are reported with
    nothing more done. An object that a program raised is asked for its text first: if it has one
    the fault is reported, else what stopped it from giving one escapes in place of the report. -/
theorem reports (hm : c.prepare call svc w = (.ok (some m), u))
    (he : m.call call u = (.error e, u')) (hord : isOrdinary u'.store e = true) :
    ((∀ x, e ≠ .raised x) →
      ∃ text, c.run call svc w = (.error (.wrapped (m.report u.store text) e), u')) ∧
    ∀ x, e = .raised x →
      (∀ text v, inlineText call x u' = (.ok text, v) →
        c.run call svc w =
          (.error (.wrapped (m.report u.store (faultName u'.store e ++ ": " ++ text)) e), v)) ∧
      ∀ f v, inlineText call x u' = (.error f, v) → c.run call svc w = (.error f, v) := by
  -- The fault is put into words where it is caught, and only what a program raised can fail at
  -- that.
  have hrun := run_of_error call svc c hm he
  rw [hord, if_pos rfl] at hrun
  refine ⟨fun hnone => ?_, ?_⟩
  · obtain ⟨text, htext⟩ := Host.describe_of_not_raised call hnone u'
    rw [htext] at hrun
    exact ⟨text, hrun⟩
  · rintro x rfl
    refine ⟨fun text v htext => ?_, fun f v hf => ?_⟩
    · have hdescribe : describe call (.raised x) u' =
          (.ok (faultName u'.store (.raised x) ++ ": " ++ text), v) := by
        simp only [describe, bind_apply, store_apply, htext, pure_apply]
      rw [hdescribe] at hrun
      exact hrun
    · have hdescribe : describe call (.raised x) u' = (.error f, v) := by
        simp only [describe, bind_apply, store_apply, hf]
      rw [hdescribe] at hrun
      exact hrun

end NamedCall

/-! ### A member that raises an error -/

/-- A class with two members, of which each raises an error; the class of the second error shows its
    instances by raising another. -/
def tripwire : World where
  store :=
    { objects := #[
        { kind := .declared 0 },
        { kind := .library .tuple, body := .tuple [] },
        { kind := .library .function,
          body := .function ⟨"plain", [⟨"self", .normal, none, none⟩],
            .raise "ValueError" [.literal (.text "boom")], true, {}⟩ },
        { kind := .library .function,
          body := .function ⟨"shy", [⟨"self", .normal, none, none⟩], .raise "Shy" [], true, {}⟩ },
        { kind := .library .function,
          body := .function ⟨"__str__", [⟨"self", .normal, none, none⟩],
            .raise "ValueError" [.literal (.text "boom")], true, {}⟩ }]
      classes := #[
        { name := "Tripwire", qualifiedName := "Tripwire", home := some "host",
          bases := [.library .object], lineage := [.declared 0, .library .object],
          metaclass := .type, attrs := ⟨[("plain", .object 2), ("shy", .object 3)]⟩ },
        { name := "Shy", qualifiedName := "Shy", home := some "host",
          bases := [.library .exception],
          lineage := [.declared 1, .library .exception, .library .baseError, .library .object],
          metaclass := .type, attrs := ⟨[("__str__", .object 4)]⟩ }] }

/-- A call by name of a member without arguments. -/
def tripwireCall (name : String) : NamedCall :=
  .onValue (.object 0) (.text name) (.object 1) false

/-- The member as it is found. -/
def tripwireMember (name : String) : BoundMember := ⟨.object 6, [], name, .declared 0⟩

/-- An error of a class of the host is reported, with its text. -/
theorem reports_tripwire :
    ∃ e v, (tripwireCall "plain").run Host.callValue .main tripwire =
      (.error (.wrapped (.invocationFailed "plain" "host.Tripwire" "ValueError: boom")
        (.raised e)), v) := by
  let found := (tripwireCall "plain").prepare Host.callValue .main tripwire
  let raised := (tripwireMember "plain").call Host.callValue found.2
  have hfound : found.1 = .ok (some (tripwireMember "plain")) := by decide +kernel
  have hraised : raised.1 = .error (.raised (.object 7)) := by decide +kernel
  have hord : isOrdinary raised.2.store (.raised (.object 7)) = true := by decide +kernel
  have htext : (inlineText Host.callValue (.object 7) raised.2).1 = .ok "boom" := by decide +kernel
  have hreport :
      (tripwireMember "plain").report found.2.store
          (faultName raised.2.store (.raised (.object 7)) ++ ": " ++ "boom") =
        .invocationFailed "plain" "host.Tripwire" "ValueError: boom" := by decide +kernel
  refine ⟨.object 7, (inlineText Host.callValue (.object 7) raised.2).2, ?_⟩
  rw [← hreport]
  exact ((NamedCall.reports Host.callValue .main (tripwireCall "plain") (Prod.ext hfound rfl)
    (Prod.ext hraised rfl) hord).2 (.object 7) rfl).1 "boom" _ (Prod.ext htext rfl)

/-- An error of a class that raises another when it is shown is not reported: the other escapes. -/
theorem report_fails_tripwire :
    let found := (tripwireCall "shy").prepare Host.callValue .main tripwire
    found.1 = .ok (some (tripwireMember "shy")) ∧
      ((tripwireMember "shy").call Host.callValue found.2).1 = .error (.raised (.object 7)) ∧
      isOrdinary ((tripwireMember "shy").call Host.callValue found.2).2.store
        (.raised (.object 7)) = true ∧
      ((tripwireCall "shy").run Host.callValue .main tripwire).1 =
        .error (.raised (.object 9)) := by
  decide +kernel

end ScriptBridge
