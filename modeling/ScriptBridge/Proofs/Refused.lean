import ScriptBridge.Eval
import ScriptBridge.Proofs.Growth
import ScriptBridge.Proofs.Still

set_option mvcgen.warning false

namespace ScriptBridge

open Std.Do

/-!
# Refused assignments

An assignment looks before it stores, whatever its target: the key is converted, the place is found
and the value is checked first, and the store itself cannot fail. So an assignment that is refused
leaves everything as it was, unless host code ran on the way. A sequence of a declared class is
filled up by a method of its own before the value is stored, and stays so.

* `Run.clean` says of an operation that its failure changes nothing. `Host.clean_setItem`,
  `Host.clean_setAttr` and `Service.clean_serve` say it of the ways to write;
* `Host.quietAt` calls values as `Host.callAt` does, but stops where host code would run. An
  operation is `Host.Quiet` if it comes out alike with both;
* `Service.Refused` is an assignment that fails, or comes to an error that drops the write;
* `refused_keeps`: a refused assignment changes nothing.
-/

/-! ### Operations whose failure changes nothing -/

namespace Run

variable {α : Type} {w : World}

/-- All there was in a world is as it was, if the operation fails. -/
abbrev clean (w : World) : PostCond α Shape := post⟨fun _ _ => ⌜True⌝, fun _ => kept w⟩

/-- All there was in a world is as it was, if what came of an operation is a fault. -/
abbrev settled (w : World) : PostCond (Except Fault α) Shape :=
  post⟨fun r u => ⌜∀ e, r = .error e → w.Keeps u⌝, fun _ _ => ⌜False⌝⟩

/-- An operation that changes nothing that counts keeps all that counts. -/
theorem keeps_of_still {x : Run α} {r : Except Fault α} {u : World} (hx : ⦃kept w⦄ x ⦃still w⦄)
    (hr : x w = (r, u)) : w.Keeps u := by
  have h := hx w (World.Keeps.refl w)
  rw [wp_apply, hr] at h
  cases r <;> exact h

/-- An operation that fails cleanly keeps all that counts where it fails. -/
theorem keeps_of_clean {x : Run α} {e : Fault} {u : World} (hx : ⦃kept w⦄ x ⦃clean w⦄)
    (hr : x w = (.error e, u)) : w.Keeps u := by
  have h := hx w (World.Keeps.refl w)
  rw [wp_apply, hr] at h
  exact h

/-- The outcome of an operation that fails cleanly tells whether anything was changed. -/
theorem clean_outcome {x : Run α} (hx : ⦃kept w⦄ x ⦃clean w⦄) :
    ⦃kept w⦄ outcome x ⦃settled w⦄ := by
  intro u hu
  have h := hx u hu
  rw [wp_apply] at h ⊢
  rw [outcome_apply]
  rcases hr : x u with ⟨e | a, u'⟩
  · rw [hr] at h
    exact fun _ _ => h
  · exact fun _ he => nomatch he

/-- A change of the store never fails, so it may come last. -/
@[spec] theorem sure_modifyStore (f : Store → Store) :
    ⦃⌜True⌝⦄ modifyStore f ⦃post⟨fun _ _ => ⌜True⌝, fun _ _ => ⌜False⌝⟩⦄ := fun _ _ => trivial

/-- Changing what a value holds does not fail. -/
@[spec] theorem sure_setBody (v : Value) (b : Body) :
    ⦃⌜True⌝⦄ setBody v b ⦃post⟨fun _ _ => ⌜True⌝, fun _ _ => ⌜False⌝⟩⦄ := sure_modifyStore _

/-- Changing the content of a value does not fail. -/
@[spec] theorem sure_setContent (v : Value) (b : Body) :
    ⦃⌜True⌝⦄ setContent v b ⦃post⟨fun _ _ => ⌜True⌝, fun _ _ => ⌜False⌝⟩⦄ := sure_modifyStore _

end Run

open Run

/-! ### Ways to write -/

namespace Host

variable {call : Call} [Harmless call] {w : World}

/-- An element is set in one step, which is the last. -/
@[spec] theorem clean_setContentItem (v : Value) (b : Body) (key x : Value) :
    ⦃kept w⦄ setContentItem call v b key x ⦃clean w⦄ := by
  mvcgen [setContentItem]

/-- A class that sets elements itself is asked before anything is changed. -/
@[spec] theorem clean_setItem (v key x : Value) : ⦃kept w⦄ setItem call v key x ⦃clean w⦄ := by
  mvcgen [setItem]

/-- A field of a library class is set in one step, after its value was checked. -/
@[spec] theorem clean_writeLibraryField (v : Value) (owner : LibraryKind) (name : String)
    (x : Value) : ⦃kept w⦄ writeLibraryField call v owner name x ⦃clean w⦄ := by
  mvcgen [writeLibraryField]

/-- An attribute of an object is set in one step. -/
@[spec] theorem clean_setOwn (v : Value) (name : String) (x : Value) :
    ⦃kept w⦄ setOwn v name x ⦃clean w⦄ := by
  mvcgen [setOwn, setScopeAttr]

/-- A class that decides over an attribute is asked before anything is changed. -/
@[spec] theorem clean_setInstanceAttr (v : Value) (name : String) (x : Value) :
    ⦃kept w⦄ setInstanceAttr call v name x ⦃clean w⦄ := by
  mvcgen [setInstanceAttr]

/-- A class that sets all attributes itself is asked before anything is changed. -/
@[spec] theorem clean_setAttr (v : Value) (name : String) (x : Value) :
    ⦃kept w⦄ setAttr call v name x ⦃clean w⦄ := by
  mvcgen [setAttr]

end Host

namespace Service

open Host

variable {call : Call} [Harmless call] {w : World}

/-- A field is looked for before it is set. -/
@[spec] theorem clean_writeField (svc : ServiceId) (t : Target) (name : Key) (x : Value) :
    ⦃kept w⦄ writeField call svc t name x ⦃clean w⦄ := by
  mvcgen [writeField]

/-- A map is asked whether it can be written before it is. -/
@[spec] theorem clean_writeMap (v : Value) (key : Key) (x : Value) :
    ⦃kept w⦄ writeMap call v key x ⦃clean w⦄ := by
  mvcgen [writeMap]

/-- A sequence is written in one step where it is one of the host's own. -/
@[spec] theorem clean_writeSequence (v : Value) (key : Key) (x : Value) :
    ⦃kept w⦄ writeSequence call v key x ⦃clean w⦄ := by
  mvcgen [writeSequence]

/-- An array is written in one step, or says that it takes no such value. -/
@[spec] theorem clean_writeArray (v : Value) (key : Key) (x : Value) :
    ⦃kept w⦄ writeArray call v key x ⦃clean w⦄ := by
  have hset (i : Value) : ⦃kept w⦄ outcome (setItem call v i x) ⦃settled w⦄ :=
    clean_outcome (clean_setItem v i x)
  mvcgen [writeArray, hset, -still_outcome]
  next hkeeps => exact hkeeps _ rfl

/-- A write to an error is dropped only where nothing was changed. -/
@[spec] theorem clean_writeError (svc : ServiceId) (t : Target) (key : Key) (x : Value) :
    ⦃kept w⦄ writeError call svc t key x ⦃clean w⦄ := by
  have hwrite : ⦃kept w⦄ outcome (writeField call svc t key x) ⦃settled w⦄ :=
    clean_outcome (clean_writeField svc t key x)
  mvcgen [writeError, hwrite, -still_outcome]
  next hkeeps => exact hkeeps _ rfl

/-- Whatever its sort is, a target of the host is written cleanly. -/
@[spec] theorem clean_writeHost (svc : ServiceId) (t : Target) (kind : TargetKind) (key : Key)
    (x : Value) : ⦃kept w⦄ writeHost call svc t kind key x ⦃clean w⦄ := by
  mvcgen [writeHost]

/-- The scripts' own values are written cleanly. -/
@[spec] theorem clean_writeNative (l : LibraryKind) (v scope : Value) (key : Key) (x : Value) :
    ⦃kept w⦄ Container.writeNative call l v scope key x ⦃clean w⦄ := by
  mvcgen [Container.writeNative, Container.publicScope] <;> simp

/-- Wrappers pass a write on, and only look to find out where. -/
@[spec] theorem clean_serve (x : Value) (key : Key) (fuel : Nat) (svc : ServiceId) (t : Target)
    (scope : Value) : ⦃kept w⦄ serve call (.write x) key fuel svc t scope ⦃clean w⦄ := by
  induction fuel generalizing svc t scope with
  | zero => mvcgen [serve]
  | succ fuel ih =>
    mvcgen [serve, viaKeyed, passOn, viaService, answerOwn, answerHost, ih] <;>
      simp [KeyUse.method]

/-- A write through any wrappers is clean, as what they come to is. -/
theorem clean_assign (svc : ServiceId) (target key x scope : Value) :
    ⦃kept w⦄ assign call svc target key x scope ⦃clean w⦄ := by
  mvcgen [assign, request]

end Service

/-! ### Calls that only look -/

namespace Native

open Host NativeCollection

variable {call : Call} [Harmless call] {w : World}

/-- The operations that all values have and that only look at them. -/
def looking : List String :=
  ["len", "truth", "equal", "str", "list", "items", "getitem", "contains"]

/-- To list the pairs of a map changes nothing that counts. -/
@[spec] theorem still_listPairs (v : Value) : ⦃kept w⦄ listPairs call v ⦃still w⦄ := by
  mvcgen [listPairs, Mapping.twoOf]

/-- The functions of the host that look at values change none, whether or not they fail. -/
theorem still_invokeFree {name : String} (h : name ∈ looking) (args : List Value) :
    ⦃kept w⦄ invokeFree call name args ⦃still w⦄ := by
  simp only [looking, List.mem_cons, List.not_mem_nil, or_false] at h
  rcases h with rfl | rfl | rfl | rfl | rfl | rfl | rfl | rfl <;> mvcgen [invokeFree]

/-- Whatever is called by the name of a function that looks at values changes none. -/
theorem still_invoke {name : String} (h : name ∈ looking) (args : Args) :
    ⦃kept w⦄ invoke call ⟨none, name⟩ args ⦃still w⦄ := by
  have hfree : ⦃kept w⦄ invokeFree call name args.positional ⦃still w⦄ :=
    still_invokeFree h args.positional
  mvcgen [invoke, hfree]

/-- An assignment to an index or a key that fails has changed nothing. -/
theorem clean_invoke_setitem (args : Args) :
    ⦃kept w⦄ invoke call ⟨none, "setitem"⟩ args ⦃clean w⦄ := by
  mvcgen [invoke, invokeFree, silent]

end Native

namespace Run

variable {α : Type} {w : World}

/-- Stops, with a fault that no operation catches. -/
def cut : Run α := fail (.host .keyboardInterrupt "")

/-- Tries an operation. Where it would succeed, this stops instead and changes nothing. -/
def attempt (x : Run α) : Run α where
  run w := match x w with
    | (.ok _, _) => cut w
    | (.error e, w') => (.error e, w')
  Fresh := x.Fresh
  steady svc w w' h hfresh := by
    obtain ⟨hx, hw⟩ := x.steady svc w w' h hfresh
    revert hx hw
    rcases x w with ⟨_ | _, _⟩ <;> rcases x w' with ⟨_ | _, _⟩ <;> intro hx hw <;> cases hx
    · exact ⟨rfl, hw⟩
    · exact ⟨rfl, h⟩
  blind w lines := by
    obtain ⟨t, ht⟩ := x.blind w lines
    rcases hx : x w with ⟨_ | _, _⟩ <;> simp only [hx] at ht <;> simp only [ht]
    · exact ⟨t, rfl⟩
    · exact ⟨lines, rfl⟩

/-- A try that fails gives nothing, in the world where it failed. -/
theorem attempt_apply (x : Run α) (w : World) :
    attempt x w = match x w with
      | (.ok _, _) => cut w
      | (.error e, w') => (.error e, w') := rfl

/-- A try that fails cleanly and is given up changes nothing that counts. -/
theorem still_attempt {x : Run α} (hx : ⦃kept w⦄ x ⦃clean w⦄) :
    ⦃kept w⦄ attempt x ⦃still w⦄ := by
  intro u hu
  have h := hx u hu
  rw [wp_apply] at h ⊢
  rw [attempt_apply]
  rcases hr : x u with ⟨e | a, u'⟩
  · rw [hr] at h
    exact h
  · exact hu

end Run

namespace Host

/-- Calls a value as `callStep` does, and stops instead of making an instance, running a described
    function or a method of a library class, or storing something. -/
def quietStep (call : Call) (v : Value) (args : Args) : Run Value := do
  match v with
  | .kind _ => cut
  | .native ⟨none, name⟩ =>
    if name ∈ Native.looking then Native.invoke call ⟨none, name⟩ args
    else if name = "setitem" then attempt (Native.invoke call ⟨none, name⟩ args)
    else cut
  | .native _ => cut
  | v =>
    let s ← store
    match s.body? v with
    | some (.function _) => cut
    | some (.bound f receiver) => call f { args with positional := receiver :: args.positional }
    | some (.staticMethod f) => call f args
    | _ =>
      match s.declaredSpecial? (s.kindOf v) "__call__" with
      | some _ => cut
      | none => fail .typeError

/-- Calls a value as `callAt` does, with every call stopped as `quietStep` stops it. -/
def quietAt : Nat → Call
  | 0 => fun _ _ => fail (.host .recursionError "")
  | depth + 1 => quietStep (quietAt depth)

/-- Whether an operation comes out in a world as if it were stopped at every call of host code,
    which is to say that it makes no such call. -/
def Quiet {α : Type} (op : Call → Run α) (n : Nat) (w : World) : Prop :=
  op (callAt n) w = op (quietAt n) w

/-- A step of a quiet call is one of a harmless way to call. -/
theorem still_quietStep {call : Call} [Harmless call] {w : World} (v : Value) (args : Args) :
    ⦃kept w⦄ quietStep call v args ⦃still w⦄ := by
  unfold quietStep
  mvcgen [cut]
  next h => exact Native.still_invoke h args
  next h =>
    subst h
    exact still_attempt (Native.clean_invoke_setitem args)

instance harmless_quietAt (n : Nat) : Harmless (quietAt n) := by
  induction n with
  | zero => exact ⟨fun w _ _ => still_fail _⟩
  | succ n ih => exact ⟨fun w v args => still_quietStep v args⟩

end Host

/-! ### Writes that are dropped -/

namespace Service

open Host

/-- Whether a write comes to an error, through any wrappers around it, and the error refuses it. -/
inductive Drops (call : Call) (x : Value) (key : Key) :
    Nat → ServiceId → Target → Value → World → Prop
  | error {fuel : Nat} {svc : ServiceId} {t : Target} {scope scope' : Value} {w u u' : World}
      {e : Fault}
      (hsort : receive call svc (.write x) t key scope w = (.ok (.errorLike, scope'), u))
      (hwrite : writeField call svc t key x u = (.error e, u')) :
      Drops call x key (fuel + 1) svc t scope w
  | wrapper {fuel : Nat} {svc svc' : ServiceId} {t t' : Target} {scope scope' : Value}
      {w u u' u'' : World}
      (hsort : receive call svc (.write x) t key scope w = (.ok (.referenceable, scope'), u))
      (hmethod : u.store.libraryMethod? t.inst "assign" = some .wrapper)
      (hservice : getAttr call t.inst "interop" u = (.ok (.service svc'), u'))
      (htarget : wrapperTarget call t.inst u' = (.ok t', u''))
      (hinner : Drops call x key fuel svc' t' scope' u'') :
      Drops call x key (fuel + 1) svc t scope w

/-- Whether an assignment is refused: it fails, or an error drops what is written. -/
inductive Refused (call : Call) (svc : ServiceId) (target key x scope : Value) (w : World) : Prop
  | fails {e : Fault} (h : (assign call svc target key x scope w).1 = .error e)
  | drops {k : Key} {u : World} (hkey : keyOf call key w = (.ok k, u))
      (h : Drops call x k (u.store.objects.size + 2) svc (u.store.asTarget target) scope u)

variable {call : Call} {svc : ServiceId} {t : Target} {key : Key} {x scope : Value} {w u : World}

/-- Once the field was refused, an error leaves nothing but a line of the trace. -/
theorem writeError_keeps {e : Fault} (h : writeField call svc t key x w = (.error e, u)) :
    u.Keeps (writeError call svc t key x w).2 := by
  have houtcome : outcome (writeField call svc t key x) w = (.ok (.error e), u) := by
    rw [outcome_apply, h]
  rw [writeError, bind_of_ok houtcome]
  refine keeps_of_still ?_ rfl
  mvcgen

/-- A write that is dropped leaves everything as it was, behind however many wrappers. -/
theorem Drops.keeps [Harmless call] {fuel : Nat} (h : Drops call x key fuel svc t scope w) :
    w.Keeps (serve call (.write x) key fuel svc t scope w).2 := by
  -- Each wrapper on the way is looked at, and looking changes nothing but the trace.
  induction h with
  | @error fuel svc t scope scope' w u u' e hsort hwrite =>
    have hu : w.Keeps u := keeps_of_still (still_receive svc (.write x) t key scope) hsort
    have hu' : u.Keeps u' := keeps_of_clean (clean_writeField svc t key x) hwrite
    have hdrop := writeError_keeps hwrite
    rw [serve, bind_of_ok hsort]
    show w.Keeps ((writeError call svc t key x >>= fun _ => pure x) u).2
    rw [bind_apply]
    rcases hr : writeError call svc t key x u with ⟨_ | _, _⟩ <;> rw [hr] at hdrop <;>
      exact (hu.trans hu').trans hdrop
  | @wrapper fuel svc svc' t t' scope scope' w u u' u'' hsort hmethod hservice htarget _ ih =>
    have hu : w.Keeps u := keeps_of_still (still_receive svc (.write x) t key scope) hsort
    have hu' : u.Keeps u' :=
      keeps_of_still (still_getAttr t.inst (by decide) (by decide)) hservice
    have hu'' : u'.Keeps u'' := keeps_of_still (still_wrapperTarget t.inst) htarget
    rw [serve, bind_of_ok hsort]
    show w.Keeps (viaKeyed call t.inst "assign" key _ _ u).2
    rw [viaKeyed_apply hmethod]
    dsimp only
    rw [passOn, viaService, bind_of_ok hservice]
    dsimp only
    rw [bind_of_ok htarget]
    exact ((hu.trans hu').trans hu'').trans ih

end Service

/-! ### Refused assignments -/

/-- **A refused assignment changes nothing.** Where an assignment runs no host code, and fails or
    comes to an error that drops the write, all objects, classes, scopes and services are as they
    were. Whether it is refused is told by the run that would stop at host code: here that is the
    same run. -/
theorem refused_keeps (n : Nat) (svc : ServiceId) (target key x scope : Value) (w : World)
    (hquiet : Host.Quiet (Service.assign · svc target key x scope) n w)
    (hrefused : Service.Refused (Host.quietAt n) svc target key x scope w) :
    w.Keeps (Service.assign (Host.callAt n) svc target key x scope w).2 := by
  have hrun : Service.assign (Host.callAt n) svc target key x scope w =
    Service.assign (Host.quietAt n) svc target key x scope w := hquiet
  rw [hrun]
  cases hrefused with
  | @fails e h =>
    exact Run.keeps_of_clean (Service.clean_assign svc target key x scope) (Prod.ext h rfl)
  | @drops k u hkey h =>
    have hu : w.Keeps u := Run.keeps_of_still (Host.still_keyOf key) hkey
    rw [Service.assign, Run.bind_of_ok hkey, Run.bind_of_ok (Run.store_apply u), Service.request,
      Run.bind_of_ok (x := Service.wrapperDepth) rfl]
    exact hu.trans h.keeps

/-- A pair, an error, and a wrapper around the error. -/
def archive : World where
  store :=
    { objects := #[
        { kind := .library .tuple, body := .tuple [.int 1, .int 2] },
        { kind := .library .valueError, body := .error [.text "lost"] },
        { kind := .library .wrapper,
          body := .wrapper (.kind (.library .valueError)) (.object 1) (.service .main) }] }

/-- A pair takes no new element, and an error drops arguments that cannot be listed, also when it is
    asked through a wrapper. -/
theorem refused_keeps_archive :
    let assign (v key x : Value) : Except Fault Value × World :=
      Service.assign (Host.callAt Host.depthLimit) .main v key x .none archive
    ((∃ e, (assign (.object 0) (.text "1") (.text "x")).1 = .error e) ∧
      archive.Keeps (assign (.object 0) (.text "1") (.text "x")).2) ∧
    (assign (.object 2) (.text "args") (.int 5)).1 = .ok (.int 5) ∧
      archive.Keeps (assign (.object 2) (.text "args") (.int 5)).2 := by
  have hpair : Service.Refused (Host.quietAt Host.depthLimit) .main (.object 0) (.text "1")
      (.text "x") .none archive := .fails rfl
  have hpairQuiet : Host.Quiet (Service.assign · .main (.object 0) (.text "1") (.text "x") .none)
      Host.depthLimit archive := rfl
  have herror : Service.Refused (Host.quietAt Host.depthLimit) .main (.object 2) (.text "args")
      (.int 5) .none archive :=
    .drops (k := .ofText "args") (u := archive) rfl <|
      .wrapper rfl rfl rfl rfl (.error (e := .typeError) rfl (by with_unfolding_all rfl))
  have herrorQuiet : Host.Quiet (Service.assign · .main (.object 2) (.text "args") (.int 5) .none)
      Host.depthLimit archive := by
    with_unfolding_all rfl
  exact ⟨⟨⟨_, rfl⟩, refused_keeps Host.depthLimit .main _ _ _ _ archive hpairQuiet hpair⟩,
    by with_unfolding_all rfl,
    refused_keeps Host.depthLimit .main _ _ _ _ archive herrorQuiet herror⟩

/-- A list of a class that takes no element. -/
def logbook : World where
  store :=
    { objects := #[{ kind := .declared 0, body := .list [.text "a"] }]
      classes := #[
        { name := "Log", qualifiedName := "Log", home := some "host", bases := [.library .list],
          lineage := .declared 0 :: LibraryKind.list.lineage.map .library, metaclass := .type,
          attrs := ⟨[("__setitem__", .none)]⟩ }] }

/-- No function is there to be run, the assignment fails, and the list is longer than it was. -/
theorem failed_assign_pads_logbook :
    (∀ o ∈ logbook.store.objects, ∀ f, o.body ≠ .function f) ∧
    ∃ w', Service.assign Host.callValue .main (.object 0) (.text "3") (.text "x") .none logbook =
        (.error .typeError, w') ∧
      logbook.store.body? (.object 0) = some (.list [.text "a"]) ∧
      w'.store.body? (.object 0) = some (.list [.text "a", .absent, .absent]) := by
  refine ⟨?_, _, rfl, rfl, rfl⟩
  simp [logbook]

end ScriptBridge
