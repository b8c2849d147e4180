import ScriptBridge.Eval
import ScriptBridge.Proofs.FieldReads

namespace ScriptBridge

/-!
# Writes to errors

A field of an error is written like any other, but a refusal is dropped: that there is no such
field, that the error takes no such attribute, or that the value has the wrong type. What is not
dropped is what the host's code raises when it is asked to set the field.

* `Store.RunsToSet` tells which attributes of an error are set by code: by that of its class, of a
  property or of another descriptor, or by the host's own where it converts what is set;
* `Host.exists_setAttr_eq`: any other attribute is set, or refused in a way that is dropped;
* `Service.writeError_eq_error_iff`: what escapes from a write, in terms of the field that is found;
* `error_write_fails_iff` puts these together.
-/

open Run Host

/-! ### Setting attributes of errors -/

namespace Store

/-- Whether an attribute of an error is set by code: its class takes the writing of attributes over,
    the attribute is a property with a setter or a descriptor that says how it is set, or it is one
    of those that the host converts when they are set. -/
inductive RunsToSet (s : Store) (v : Value) (n : String) : Prop where
  | taken (h : (s.declaredSpecial? (s.kindOf v) "__setattr__").isSome)
  | property {owner : Kind} {e getter setter : Value}
      (h : s.inherited? (s.kindOf v) n = some (owner, .value e))
      (hbody : s.body? e = some (.property getter (some setter)))
  | descriptor {owner : Kind} {e : Value}
      (h : s.inherited? (s.kindOf v) n = some (owner, .value e))
      (hset : (s.declaredSpecial? (s.kindOf e) "__set__").isSome)
  | converted {owner : Kind} {m : LibraryMember}
      (h : s.inherited? (s.kindOf v) n = some (owner, .library m))
      (hn : n = "args" ∨ n = "characters_written")

end Store

namespace Service

/-- The refusals that are dropped when an error is written. -/
def isDropped (s : Store) (f : Fault) : Bool :=
  [.noFieldError, .attributeError, .typeError].any (faultIsA s f)

end Service

namespace Host

variable {call : Call} {v x : Value} {n : String} {w : World} {args : List Value}

/-- An attribute that an instance itself holds is set, or the instance takes none. -/
theorem exists_setOwn_eq (v : Value) (n : String) (x : Value) (w : World) :
    ∃ u, setOwn v n x w = (.ok (), u) ∨ setOwn v n x w = (.error .attributeError, u) := by
  unfold setOwn
  rw [bind_of_ok (store_apply w)]
  dsimp only
  split
  next => exact ⟨w, .inr rfl⟩
  next =>
    repeat' split
    all_goals exact ⟨_, .inl rfl⟩

/-- An attribute of an error that no code sets is set, or the error takes none of that name. -/
theorem exists_setInstanceAttr_eq (call : Call) (hv : w.store.body? v = some (.error args))
    (hn : ¬w.store.RunsToSet v n) :
    ∃ u, setInstanceAttr call v n x w = (.ok (), u) ∨
      setInstanceAttr call v n x w = (.error .attributeError, u) := by
  have hlibrary (owner : Kind) (m : LibraryMember)
      (h : w.store.inherited? (w.store.kindOf v) n = some (owner, .library m)) (l : LibraryKind) :
      ∃ u, writeLibraryField call v l n x w = (.ok (), u) := by
    have hplain : n ≠ "args" ∧ n ≠ "characters_written" :=
      not_or.1 fun hname => hn (.converted h hname)
    unfold writeLibraryField
    rw [bind_of_ok (store_apply w), hv]
    dsimp only
    rw [if_neg (by simpa using hplain.1), if_neg (by simpa using hplain.2)]
    exact ⟨_, rfl⟩
  unfold setInstanceAttr
  rw [bind_of_ok (store_apply w)]
  -- What the class has under the name says who sets it: the library, a property, a descriptor, or
  -- else the instance itself.
  split
  case h_1 owner _ h | h_2 owner _ h =>
    split
    next l _ =>
      obtain ⟨u, hu⟩ := hlibrary owner _ h l
      exact ⟨u, .inl hu⟩
    next => exact ⟨w, .inr rfl⟩
  case h_3 owner e h =>
    split
    next getter setter hbody => exact (hn (.property h hbody)).elim
    next => exact ⟨w, .inr rfl⟩
    next => exact ⟨_, .inl rfl⟩
    next =>
      have hset : w.store.declaredSpecial? (w.store.kindOf e) "__set__" = none :=
        Option.not_isSome_iff_eq_none.1 fun hset => hn (.descriptor h hset)
      rw [bind_of_ok (callSpecial?_of_none call hset [v, x])]
      dsimp only
      split
      next => exact ⟨w, .inr rfl⟩
      next => exact exists_setOwn_eq v n x w
  case h_4 => exact exists_setOwn_eq v n x w

/-- An attribute of an error that no code sets is set, or refused as missing, also where the class
    may take writes over. -/
theorem exists_setAttr_eq (call : Call) (hv : w.store.body? v = some (.error args))
    (hn : ¬w.store.RunsToSet v n) :
    ∃ u, setAttr call v n x w = (.ok (), u) ∨
      setAttr call v n x w = (.error .attributeError, u) := by
  have hclass : w.store.declaredSpecial? (w.store.kindOf v) "__setattr__" = none :=
    Option.not_isSome_iff_eq_none.1 fun h => hn (.taken h)
  have hinstance := exists_setInstanceAttr_eq (x := x) call hv hn
  unfold setAttr
  split
  next k => cases hv
  next =>
    rw [bind_of_ok (callSpecial?_of_none call hclass [.text n, x])]
    exact hinstance

/-- An attribute of a class is set, or refused because the class is closed. -/
theorem exists_setAttr_class_eq (call : Call) (k : Kind) (n : String) (x : Value) (w : World) :
    ∃ u, setAttr call (.kind k) n x w = (.ok (), u) ∨
      setAttr call (.kind k) n x w = (.error .typeError, u) := by
  unfold setAttr
  dsimp only
  split
  · exact ⟨_, .inl rfl⟩
  · exact ⟨_, .inr rfl⟩

end Host

namespace Service

variable {call : Call} {svc : ServiceId} {t : Target} {v x scope : Value} {key : Key}
  {p : FieldPlace} {f : Fault} {w u : World} {args : List Value}

/-- A search for a field is refused if it fails. -/
theorem exists_engine_of_inquire {α : Type} {k : Kind} {view : Finding → Option α}
    (h : inquire svc (.field k key) view w = (.error f, u)) : ∃ r, f = .engine r := by
  obtain ⟨lines, hconsult⟩ := consult_apply w svc (.field k key) view
  unfold inquire at h
  cases hanswer : (w.lookup svc (.field k key)).1 with
  | error e =>
    rw [hanswer] at hconsult
    rw [bind_of_error hconsult] at h
    cases h
    -- No search for a field fails in the hints of members.
    have hsearch := Resolver.error_of_lookup hanswer
    simp only [World.search, Inquiry.search, Inquiry.failure?] at hsearch
    split at hsearch
    next hnone => cases hnone
    next => cases hsearch
    next =>
      cases hsearch
      exact ⟨_, rfl⟩
  | ok found =>
    rw [hanswer] at hconsult
    rw [bind_of_ok hconsult] at h
    split at h <;> cases h
    exact ⟨_, rfl⟩

/-- To look for a field never fails. -/
theorem exists_findField?_eq (svc : ServiceId) (t : Target) (key : Key) (w : World) :
    ∃ found u, findField? svc t key w = (.ok found, u) := by
  unfold findField?
  rcases hinquire : inquire svc (.field t.kind key) (fun f => f.field?.map Field.place) w with
    ⟨e | p, u⟩
  · rw [bind_of_ok (outcome_of hinquire)]
    obtain ⟨r, rfl⟩ := exists_engine_of_inquire hinquire
    dsimp only
    split <;> exact ⟨_, _, rfl⟩
  · rw [bind_of_ok (outcome_of hinquire)]
    exact ⟨_, _, rfl⟩

/-- A field that is not there is looked for, and nothing else done. -/
theorem findField?_of_missing (hfresh : (findField? svc t key).Fresh svc w)
    (hdeclared : w.store.findField? t.kind key = none) (hown : ¬w.store.Owns t key) :
    ∃ n lines, findField? svc t key w =
      (.ok none,
        (w.withResolver svc { w.resolver svc with discoveries := n }).withTrace lines) := by
  have hfound := findField?_of_fresh hfresh
  have hnone : w.store.ownAttribute? t.inst key = none := by
    rw [← Option.not_isSome_iff_eq_none, Store.ownAttribute?_isSome_iff]
    exact hown
  rw [hdeclared, hnone] at hfound
  have hsearch : ∃ e, w.search svc (.field t.kind key) = .error e :=
    ⟨_, by simp [World.search, Inquiry.search, Inquiry.failure?, Inquiry.found?, hdeclared]; rfl⟩
  obtain ⟨e, hsearch⟩ := hsearch
  -- Nothing is remembered under the key, for that would be out of date.
  have hforgotten (hon : (w.resolver svc).enabled = true) :
      (w.resolver svc).cache.get? (Inquiry.field t.kind key).key = none := by
    rw [fresh_findField?, fresh_consult_iff] at hfresh
    rw [Option.eq_none_iff_forall_ne_some]
    intro f hf
    have hsame := hfresh f ⟨hon, hf⟩
    rw [hsearch] at hsame
    cases hsame
  have hlookup : (w.lookup svc (.field t.kind key)).2 =
      { w.resolver svc with discoveries := (w.resolver svc).discoveries + 1 } := by
    cases hon : (w.resolver svc).enabled with
    | false => exact congrArg Prod.snd (Resolver.lookup_of_disabled hon)
    | true => exact congrArg Prod.snd (Resolver.lookup_of_error hon (hforgotten hon) hsearch)
  obtain ⟨lines, hconsult⟩ :=
    consult_apply w svc (.field t.kind key) fun f => f.field?.map Field.place
  have hworld := snd_findField? svc t key w
  rw [hconsult, hlookup] at hworld
  refine ⟨_, lines, Prod.ext (hfound.trans ?_) hworld⟩
  dsimp only
  split <;> rfl

/-! ### Writes that are dropped -/

/-- A write that an error refuses is dropped, or else escapes. -/
theorem writeError_of_error (h : writeField call svc t key x w = (.error f, u)) :
    (isDropped u.store f = true →
        ∃ lines, writeError call svc t key x w = (.ok (), u.withTrace lines)) ∧
      (isDropped u.store f = false → writeError call svc t key x w = (.error f, u)) := by
  have hwrite : writeError call svc t key x w =
      (if isDropped u.store f then
          trace svc ["ASSIGN", "discarded", key.name, faultName u.store f]
        else fail f) u := by
    rw [writeError, bind_of_ok (outcome_of h)]
    rfl
  rw [hwrite]
  constructor <;> intro hdropped <;> rw [hdropped]
  · exact exists_trace_eq svc _ u
  · rfl

/-- A field that is not found is refused as missing, and so dropped. -/
theorem writeError_of_missing (call : Call) (x : Value)
    (h : findField? svc t key w = (.ok none, u)) :
    ∃ lines, writeError call svc t key x w = (.ok (), u.withTrace lines) := by
  have hrefused : ∃ r : Reason, r.kind = .noFieldError ∧
      writeField call svc t key x w = (.error (.engine r), u) := by
    refine ⟨_, ?_, (bind_of_ok h).trans rfl⟩
    rfl
  obtain ⟨r, hr, hwrite⟩ := hrefused
  have hmissing : faultIsA u.store (.engine r) .noFieldError = true := by
    rw [faultIsA, hr]
    rfl
  exact (writeError_of_error hwrite).1 (List.any_eq_true.2 ⟨_, List.mem_cons_self, hmissing⟩)

/-- A field that is found is set. -/
theorem writeField_of_found (call : Call) (x : Value) (ht : t.hasInstance = true)
    (h : findField? svc t key w = (.ok (some p), u)) :
    writeField call svc t key x w =
      if p.isStatic then setAttr call (.kind t.kind) p.name x u
      else setAttr call t.inst p.name x u := by
  rw [writeField, bind_of_ok h]
  dsimp only
  split
  next => rfl
  next => simp [ht]

/-- A field of an error that can be written is written. -/
theorem writeError_of_ok (h : writeField call svc t key x w = (.ok (), u)) :
    writeError call svc t key x w = (.ok (), u) :=
  bind_of_ok (outcome_of h)

/-- A field of the class is set or its refusal dropped, whatever the class. -/
theorem exists_writeError_static (call : Call) (x : Value) (ht : t.hasInstance = true)
    (h : findField? svc t key w = (.ok (some p), u)) (hstatic : p.isStatic = true) :
    ∃ u', writeError call svc t key x w = (.ok (), u') := by
  have hwrite := writeField_of_found call x ht h
  rw [if_pos hstatic] at hwrite
  obtain ⟨u', hset | hset⟩ := exists_setAttr_class_eq call t.kind p.name x u <;> rw [hset] at hwrite
  · exact ⟨u', writeError_of_ok hwrite⟩
  · obtain ⟨lines, hdropped⟩ := (writeError_of_error hwrite).1 rfl
    exact ⟨_, hdropped⟩

/-- **What escapes.** A write to an error fails exactly if setting the field that was found does,
    and that is not dropped. -/
theorem writeError_eq_error_iff (ht : t.hasInstance = true) {found : Option FieldPlace}
    (h : findField? svc t key w = (.ok found, u)) {u' : World} :
    writeError call svc t key x w = (.error f, u') ↔
      ∃ p, found = some p ∧ p.isStatic = false ∧
        setAttr call t.inst p.name x u = (.error f, u') ∧ isDropped u'.store f = false := by
  cases found with
  | none =>
    obtain ⟨lines, hok⟩ := writeError_of_missing call x h
    rw [hok]
    exact ⟨nofun, nofun⟩
  | some p =>
    cases hstatic : p.isStatic with
    | true =>
      -- The class is written in place of the instance, and refuses in one way only.
      obtain ⟨u', hok⟩ := exists_writeError_static call x ht h hstatic
      rw [hok]
      refine ⟨nofun, ?_⟩
      rintro ⟨q, hq, hinstance, -⟩
      cases hq
      rw [hstatic] at hinstance
      cases hinstance
    | false =>
      have hwrite := writeField_of_found call x ht h
      rw [hstatic, if_neg Bool.false_ne_true] at hwrite
      have hthis : (∃ q, some p = some q ∧ q.isStatic = false ∧
          setAttr call t.inst q.name x u = (.error f, u') ∧ isDropped u'.store f = false) ↔
          setAttr call t.inst p.name x u = (.error f, u') ∧ isDropped u'.store f = false := by
        simp [hstatic]
      rw [hthis]
      rcases hset : setAttr call t.inst p.name x u with ⟨e | ⟨⟩, u''⟩ <;> rw [hset] at hwrite
      · obtain ⟨hdrop, hescape⟩ := writeError_of_error hwrite
        cases hdropped : isDropped u''.store e with
        | true =>
          obtain ⟨lines, hok⟩ := hdrop hdropped
          rw [hok]
          refine ⟨nofun, ?_⟩
          rintro ⟨⟨⟩, hnot⟩
          rw [hdropped] at hnot
          cases hnot
        | false =>
          rw [hescape hdropped]
          refine ⟨?_, And.left⟩
          rintro ⟨⟩
          exact ⟨rfl, hdropped⟩
      · rw [writeError_of_ok hwrite]
        exact ⟨nofun, nofun⟩

/-- A refusal that is not dropped comes from code that sets the attribute. -/
theorem runsToSet_of_not_isDropped {n : String} (hv : w.store.body? v = some (.error args))
    (hset : setAttr call v n x w = (.error f, u)) (hescapes : isDropped u.store f = false) :
    w.store.RunsToSet v n := by
  by_contra hn
  obtain ⟨u', hok | hrefused⟩ := exists_setAttr_eq (x := x) call hv hn
  · rw [hok] at hset
    cases hset
  · rw [hrefused] at hset
    cases hset
    cases hescapes

/-- An error is written as the dispatcher writes errors, and nothing but the trace is changed
    before. -/
theorem exists_assign_error_eq (call : Call) (svc : ServiceId)
    (hsort : w.store.classify v = .errorLike)
    (hbody : w.store.body? v = some (.error args)) (hscope : scope.IsScope) (name : String)
    (x : Value) :
    ∃ lines, assign call svc v (.text name) x scope w =
      (writeError call svc ⟨w.store.kindOf v, v⟩ (.ofText name) x >>= fun _ => pure x)
        (w.withTrace lines) := by
  have hne : v ≠ .none := by
    rintro rfl
    cases hbody
  have htarget : w.store.asTarget v = ⟨w.store.kindOf v, v⟩ := by
    rw [Store.asTarget, hbody]
  obtain ⟨lines, hrequest⟩ :=
    request_host (r := .write x) call svc (.ofText name) trivial hscope hne
    htarget (by rw [hsort]; decide)
  refine ⟨lines, (Ask.put_of_ok (a := ⟨.write x, .text name, scope⟩) hne rfl).trans
    (hrequest.trans ?_)⟩
  rw [hsort]
  rfl

end Service

open Service in
/-- **A write to an error.** It gives back what was written, unless it fails. It fails exactly if
    the field that is found is one of the instance, and setting it fails otherwise than because
    there is no such field or attribute or for the type of the value; and then the field is set by
    code. Where there is no such field, nothing happens. -/
theorem error_write_fails_iff (call : Call) (svc : ServiceId) {v scope : Value} {args : List Value}
    {w : World} (hsort : w.store.classify v = .errorLike)
    (hbody : w.store.body? v = some (.error args)) (hscope : scope.IsScope) (name : String)
    (x : Value) :
    let t : Target := ⟨w.store.kindOf v, v⟩
    let wrote := assign call svc v (.text name) x scope w
    (∀ y, wrote.1 = .ok y → y = x) ∧
    (∃ lines found u, findField? svc t (.ofText name) (w.withTrace lines) = (.ok found, u) ∧
      u.store = w.store ∧
      (∀ f u', wrote = (.error f, u') ↔ ∃ p, found = some p ∧ p.isStatic = false ∧
        setAttr call v p.name x u = (.error f, u') ∧ isDropped u'.store f = false) ∧
      ∀ f, wrote.1 = .error f → ∃ p, found = some p ∧ w.store.RunsToSet v p.name) ∧
    ((findField? svc t (.ofText name)).Fresh svc w →
      w.store.findField? t.kind (.ofText name) = none → ¬w.store.Owns t (.ofText name) →
      ∃ n lines, wrote =
        (.ok x,
          (w.withResolver svc { w.resolver svc with discoveries := n }).withTrace lines)) := by
  intro t wrote
  obtain ⟨lines, hassign⟩ := exists_assign_error_eq call svc hsort hbody hscope name x
  replace hassign : wrote = (writeError call svc t (.ofText name) x >>= fun _ => pure x)
      (w.withTrace lines) := hassign
  have ht : t.hasInstance = true := by
    cases v with
    | none => cases hbody
    | _ => rfl
  obtain ⟨found, u, hfound⟩ := exists_findField?_eq svc t (.ofText name) (w.withTrace lines)
  have hu : u.store = w.store := by
    have hstore := store_findField? svc t (.ofText name) (w.withTrace lines)
    rw [hfound] at hstore
    exact hstore
  have herror (f : Fault) (u' : World) : wrote = (.error f, u') ↔ ∃ p, found = some p ∧
      p.isStatic = false ∧ setAttr call v p.name x u = (.error f, u') ∧
        isDropped u'.store f = false := by
    rw [← writeError_eq_error_iff ht hfound, hassign, bind_eq_error_iff]
    -- What follows the write gives the value back, which does not fail.
    refine or_iff_left ?_
    rintro ⟨_, _, -, ⟨⟩⟩
  refine ⟨fun y hy => ?returned, ⟨lines, found, u, hfound, hu, herror, fun f hf => ?escaped⟩,
    fun hfresh hdeclared hown => ?missing⟩
  case returned =>
    have hwrote : wrote = (.ok y, wrote.2) := Prod.ext hy rfl
    rw [hassign, bind_eq_ok_iff] at hwrote
    obtain ⟨_, _, -, hx⟩ := hwrote
    cases hx
    rfl
  case escaped =>
    obtain ⟨p, hp, -, hset, hescapes⟩ := (herror f wrote.2).1 (Prod.ext hf rfl)
    rw [← hu] at hbody
    exact ⟨p, hp, hu ▸ runsToSet_of_not_isDropped hbody hset hescapes⟩
  case missing =>
    -- The lookup is fresh, so a field that is not declared is searched for and not found.
    obtain ⟨n, lines', hmissing⟩ :=
      findField?_of_missing (fresh_findField?_withTrace hfresh lines) hdeclared hown
    obtain ⟨lines'', hwrite⟩ := writeError_of_missing call x hmissing
    refine ⟨n, lines'', hassign.trans ((bind_of_ok hwrite).trans ?_)⟩
    simp

/-- An error of a class with a property whose setter raises another error. -/
def grievance : World where
  store :=
    { objects := #[
        { kind := .declared 0, body := .error [.text "late"] },
        { kind := .library .function,
          body := .function ⟨"remedy", [⟨"self", .normal, none, none⟩], .literal (.int 1), true,
            {}⟩ },
        { kind := .library .function,
          body := .function ⟨"remedy", [⟨"self", .normal, none, none⟩,
            ⟨"value", .normal, none, none⟩], .raise "ValueError" [.literal (.text "denied")], true,
            {}⟩ },
        { kind := .library .property, body := .property (.object 1) (some (.object 2)) }]
      classes := #[
        { name := "Grievance", qualifiedName := "Grievance", home := some "host",
          bases := [.library .exception],
          lineage := [.declared 0, .library .exception, .library .baseError, .library .object],
          metaclass := .type, attrs := ⟨[("remedy", .object 3)]⟩ }] }

/-- A field that the error has not is dropped. -/
theorem error_write_fails_iff_grievance :
    ∃ n lines, Service.assign Host.callValue .main (.object 0) (.text "detail") (.int 1) .none
      grievance =
      (.ok (.int 1), (grievance.withResolver .main { grievance.resolver .main with
        discoveries := n }).withTrace lines) := by
  obtain ⟨-, -, hmissing⟩ := error_write_fails_iff Host.callValue .main (w := grievance)
    (v := .object 0) (by decide +kernel) rfl (.inl rfl) "detail" (.int 1)
  refine hmissing (Service.fresh_findField?.2 fun _ => by decide +kernel) (by decide +kernel) ?_
  rintro ⟨n, hn, -⟩
  exact List.not_mem_nil (show n ∈ [] from hn)

/-- What the setter of the property raises is not dropped. -/
theorem error_write_fails_grievance :
    grievance.store.RunsToSet (.object 0) "remedy" ∧
      (Service.assign Host.callValue .main (.object 0) (.text "remedy") (.int 1) .none
        grievance).1 = .error (.raised (.object 4)) :=
  ⟨.property (show _ = some (Kind.declared 0, ClassEntry.value (.object 3)) by decide +kernel) rfl,
    by decide +kernel⟩

end ScriptBridge
