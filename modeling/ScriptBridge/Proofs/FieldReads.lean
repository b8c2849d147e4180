import ScriptBridge.Proofs.DeclaredFields
import ScriptBridge.Proofs.FieldNames
import ScriptBridge.Proofs.MissedKeys
import ScriptBridge.Proofs.Scalars
import ScriptBridge.Proofs.ScopeMark

namespace ScriptBridge

/-!
# What a listed field reads as

A service reads a field where its first declaration says that it lives: with the class, or with the
instance. The host reads an attribute where it finds one. The two agree unless a field of the class
is hidden by what the instance holds.

* `Store.HasFields` tells which values are read by their fields alone;
* `World.Shows` and `World.Lacks` tell what the host makes of an attribute, whatever the services
  remember; `Service.Gives` tells that reads of a name by a service all come to one value;
* `Host.getAttr_of_showsClass`, `Host.getAttr_class_of_showsClass`: what an instance does not hide
  of its class reads alike through both;
* `Service.gives_of_found`: all reads of a name come to a read of the field that is found;
* `Service.gives_shown`: a listed name reads as the host reads it, where the host looks for it where
  the field was found;
* `Service.gives_none_iff`: a declared field that has no value reads as nothing, unless the class
  has the field.
-/

namespace Store

variable {s : Store} {v c : Value} {k : Kind} {f : Field} {n : String}

/-- Whether a value is read by its fields alone: it answers not for itself and is no container, no
    text and no error. -/
structure HasFields (s : Store) (v : Value) : Prop where
  ne_none : v ≠ .none
  target : s.asTarget v = ⟨s.kindOf v, v⟩
  sort : s.classify v = .nativeObject

/-- Whether an instance has an attribute before any other of its own whose name folds alike. -/
def OwnsFirst (s : Store) (v : Value) (n : String) : Prop :=
  ∃ before rest, s.ownNames v = before ++ n :: rest ∧ ∀ m ∈ before, foldCase m ≠ foldCase n

/-- Whether a value that a class holds reads as itself, through instances as through the class. -/
structure ReadsAsIs (s : Store) (c : Value) : Prop where
  noGet : s.special? (s.kindOf c) "__get__" = none
  body : ∀ b, s.body? c = some b → match b with
    | .function _ | .property .. | .slotEntry .. | .staticMethod _ | .classMethod _ => False
    | _ => True

/-- Whether an instance shows what its class holds under a name, as it is: the instance has no
    attribute of that name, and its class does not take reads over. -/
structure ShowsClass (s : Store) (v : Value) (n : String) (c : Value) : Prop where
  noClass : ∀ k, v ≠ .kind k
  regular : s.declaredSpecial? (s.kindOf v) "__getattribute__" = none
  found : ∃ owner, s.inherited? (s.kindOf v) n = some (owner, .value c)
  asIs : s.ReadsAsIs c
  free : n ∉ s.ownNames v

/-- Whether an attribute of an instance is read where its field is found: the field is not the
    class's, or it is and shows through the instance, or it is the instance's alone and no attribute
    that folds alike comes before it. -/
inductive ReadsWhereFound (s : Store) (v : Value) (n : String) : Prop where
  | ofInstance {f : Field} (hf : s.DeclaresFirst (s.kindOf v) f) (hname : f.name = n)
      (hstatic : f.isStatic = false)
  | ofClass {f : Field} {c : Value} (hf : s.DeclaresFirst (s.kindOf v) f) (hname : f.name = n)
      (hc : s.ShowsClass v n c)
  | own (hfree : ∀ f, s.DeclaresFirst (s.kindOf v) f → f.name ≠ n) (hown : s.OwnsFirst v n)

/-! ### Names that are listed -/

/-- A field that is declared first lives with the class or in a fixed place, or is computed. -/
theorem DeclaresFirst.form (h : s.DeclaresFirst k f) :
    f.form = .attribute ∨ f.form = .property := by
  obtain ⟨-, m, -, -, hm, -⟩ := h
  cases hm <;> simp

/-- The field that is declared first under its name is found by it. -/
theorem DeclaresFirst.findField?_eq (h : s.DeclaresFirst k f) :
    s.findField? k (.ofText f.name) = some f :=
  findField?_eq_some_iff.2 ⟨h, rfl⟩

/-- A name that is listed is one that a field is declared by first, unless no declaration is of a
    name that folds alike. -/
theorem exists_declaresFirst_of_listed (hn : n ∈ s.fieldNames k v) :
    (∃ f, s.DeclaresFirst k f ∧ f.name = n) ∨
      s.findField? k (.ofText n) = none ∧ n ∈ s.ownNames v ∧ isPublic n := by
  obtain hn | hn := List.mem_append.1 hn
  · obtain ⟨f, hf, rfl⟩ := List.mem_map.1 hn
    exact .inl ⟨f, mem_fields_iff.1 hf, rfl⟩
  · obtain ⟨hown, hkept⟩ := List.mem_filter.1 hn
    simp only [Bool.and_eq_true, Bool.not_eq_true', List.contains_eq_mem, decide_eq_false_iff_not,
      List.map_map, List.mem_map, not_exists, not_and] at hkept
    refine .inr ⟨?_, hown, hkept.1⟩
    rw [findField?, List.find?_eq_none]
    intro f hf hname
    exact hkept.2 f hf (by simpa [Key.folded, Key.ofText] using hname)

/-- What an instance has first under a name is found by it. -/
theorem OwnsFirst.ownAttribute?_eq (h : s.OwnsFirst v n) :
    s.ownAttribute? v (.ofText n) = some ⟨n, s.kindOf v, false, .own⟩ := by
  obtain ⟨before, rest, hsplit, hfirst⟩ := h
  have hfind : (s.ownNames v).find? (fun m => foldCase m == (Key.ofText n).folded) = some n := by
    rw [List.find?_eq_some_iff_append]
    refine ⟨by simp [Key.folded, Key.ofText], before, rest, hsplit, fun m hm => ?_⟩
    simpa [Key.folded, Key.ofText] using hfirst m hm
  rw [ownAttribute?, hfind]
  rfl

/-- Whatever is set on an object is among its names. -/
theorem mem_objectNames {o : Object} (h : n ∈ o.attrs.keys) : n ∈ objectNames o := by
  unfold objectNames
  simp only [List.mem_append, List.mem_filter, h, true_and, Bool.not_eq_true', List.contains_eq_mem,
    decide_eq_false_iff_not]
  exact Classical.em _

end Store

/-! ### What the host makes of an attribute -/

/-- Whether the host reads an attribute as a value, whatever the services remember. -/
def World.Shows (w : World) (call : Call) (v : Value) (n : String) (x : Value) : Prop :=
  ∀ u : World, u.store = w.store → (Host.getAttr call v n u).1 = .ok x

/-- Whether the host says that there is no such attribute, whatever the services remember. -/
def World.Lacks (w : World) (call : Call) (v : Value) (n : String) : Prop :=
  ∀ u : World, u.store = w.store → ∃ e u', Host.getAttr call v n u = (.error e, u') ∧
    Host.faultIsA u'.store e .attributeError = true

namespace Host

open Run

variable {call : Call} {v c x : Value} {k owner : Kind} {n : String} {w : World}

/-- A map keyed by names has nothing under a name that is not among its keys. -/
theorem attr_eq_none_of_not_mem {m : OrderedMap String Value} (hn : n ∉ m.keys) :
    m.get? n = none := by
  rw [← Option.not_isSome_iff_eq_none, OrderedMap.get?_isSome_iff]
  rintro ⟨key, hkey, hsame⟩
  exact hn ((show key = n from hsame) ▸ hkey)

/-- The names under which the library's own objects keep their content are not public. -/
theorem ne_hiddenNames (hpublic : isPublic n) : n ≠ "_data" ∧ n ≠ "_items" ∧ n ≠ "_box_meta" := by
  refine ⟨?_, ?_, ?_⟩ <;> rintro rfl <;> revert hpublic <;> decide +kernel

/-- A scope has nothing under a name that is not among its own. -/
theorem scopeAttr?_of_not_mem {i : Nat} {c : Scope} (hc : w.store.scopes[i]? = some c)
    (hn : n ∉ w.store.ownNames (.scope i)) : scopeAttr? c n = none := by
  unfold scopeAttr?
  simp only [Store.ownNames, hc, Option.elim_some] at hn
  -- Three names are always a scope's own. The fourth is only if some object owns the scope.
  split
  next => simp at hn
  next => simp at hn
  next => simp at hn
  next => cases ho : c.owner <;> simp_all
  next =>
    refine attr_eq_none_of_not_mem fun hkey => hn ?_
    exact List.mem_append_right _ (List.mem_append_right _ hkey)

/-- An object that is no bound function has nothing set on it under a name that is not among its
    own. -/
theorem attrs_of_not_mem {i : Nat} {o : Object} (ho : w.store.objects[i]? = some o)
    (hbound : ∀ f r, o.body ≠ .bound f r) (hn : n ∉ w.store.ownNames (.object i)) :
    o.attrs.get? n = none := by
  refine attr_eq_none_of_not_mem fun hkey => hn ?_
  simp only [Store.ownNames, ho]
  exact Store.mem_objectNames hkey

/-- A bound function has nothing under a name that is not among its own: it shows what is set on the
    function. -/
theorem boundAttrs_of_not_mem {i : Nat} {o : Object} {f r : Value}
    (ho : w.store.objects[i]? = some o) (hb : o.body = .bound f r)
    (hn : n ∉ w.store.ownNames (.object i)) :
    (w.store.deref? f).bind (·.attrs.get? n) = none := by
  simp only [Store.ownNames, ho, hb] at hn
  cases hf : w.store.deref? f with
  | none => rfl
  | some g => exact attr_eq_none_of_not_mem (by simpa [hf] using hn)

/-- A value has no attribute of its own under a public name that is not among its own. -/
theorem ownValue?_of_not_mem (hclass : ∀ k, v ≠ .kind k) (hpublic : isPublic n)
    (hn : n ∉ w.store.ownNames v) : ownValue? v n w = (.ok none, w) := by
  obtain ⟨hdata, hitems, hmeta⟩ := ne_hiddenNames hpublic
  unfold ownValue?
  rw [bind_of_ok (store_apply w)]
  cases v with
  | scope i =>
    have hnone : (w.store.scopes[i]?).bind (scopeAttr? · n) = none := by
      cases hc : w.store.scopes[i]? with
      | none => rfl
      | some c => exact scopeAttr?_of_not_mem hc hn
    simp [hnone]
  | object i =>
    cases ho : w.store.deref? (.object i) with
    | none => simp [ho]
    | some o =>
      have hobject : w.store.objects[i]? = some o := ho
      simp only [ho]
      -- The cases are those of the read: content under a hidden name, what a wrapper is made of,
      -- a bound function, and anything else.
      split
      next => exact absurd rfl hdata
      next => exact absurd rfl hitems
      next => exact absurd rfl hmeta
      next => exact absurd rfl hmeta
      next hb => simp [Store.ownNames, hobject, hb, Store.objectNames] at hn
      next hb => simp [Store.ownNames, hobject, hb, Store.objectNames] at hn
      next hb => simp [Store.ownNames, hobject, hb, Store.objectNames] at hn
      next hb =>
        rw [boundAttrs_of_not_mem hobject hb hn]
        rfl
      next hbound _ _ _ _ _ _ _ =>
        rw [attrs_of_not_mem hobject hbound hn]
        rfl
  | kind k => exact absurd rfl (hclass k)
  | _ => rfl

/-- What reads as itself has no definition of how it is read. -/
theorem callSpecial?_get_of_readsAsIs (call : Call) (hc : w.store.ReadsAsIs c) (args : List Value) :
    callSpecial? call c "__get__" args w = (.ok none, w) :=
  callSpecial?_of_none call (by rw [Store.declaredSpecial?, hc.noGet]) args

/-- What reads as itself does so through an instance. -/
theorem bindEntry_of_readsAsIs (hc : w.store.ReadsAsIs c) :
    bindEntry call v k owner (.value c) w = (.ok c, w) := by
  have hplain : bindPlainly v k c w = (.ok c, w) := by
    unfold bindPlainly
    split
    next l name =>
      -- A native function is bound, so it does not read as itself.
      have hget : w.store.special? (.library .nativeMethod) "__get__" = none := hc.noGet
      rw [Store.special?_library] at hget
      exact absurd hget (by decide)
    next =>
      rw [bind_of_ok (body?_apply w c)]
      have hb := hc.body
      cases hbody : w.store.body? c with
      | none => rfl
      | some b => cases b <;> first | exact (hb _ hbody).elim | rfl
  show bindValue call v k c w = _
  unfold bindValue
  rw [bind_of_ok (store_apply w)]
  have hspecial := callSpecial?_get_of_readsAsIs call hc [v, .kind k]
  have hb := hc.body
  cases hbody : w.store.body? c with
  | none =>
    dsimp only
    rw [bind_of_ok hspecial]
    exact hplain
  | some b =>
    cases b <;> first
      | exact (hb _ hbody).elim
      | (dsimp only; rw [bind_of_ok hspecial]; exact hplain)

/-- What reads as itself does so through the class. -/
theorem bindEntryToClass_of_readsAsIs (hc : w.store.ReadsAsIs c) :
    bindEntryToClass call k owner (.value c) w = (.ok c, w) := by
  have hspecial := callSpecial?_get_of_readsAsIs call hc [.none, .kind k]
  have hb := hc.body
  unfold bindEntryToClass
  dsimp only
  rw [bind_of_ok (body?_apply w c)]
  cases hbody : w.store.body? c with
  | none =>
    dsimp only
    rw [bind_of_ok hspecial]
    rfl
  | some b =>
    cases b <;> first | exact (hb _ hbody).elim | (dsimp only; rw [bind_of_ok hspecial]; rfl)

/-- An instance that shows what its class holds reads as that. -/
theorem getAttr_of_showsClass (hpublic : isPublic n) (h : w.store.ShowsClass v n c) :
    getAttr call v n w = (.ok c, w) := by
  obtain ⟨owner, hfound⟩ := h.found
  have hown := ownValue?_of_not_mem h.noClass hpublic h.free
  have hinst : getInstanceAttr? call v n w = (.ok (some c), w) := by
    unfold getInstanceAttr?
    rw [bind_of_ok (store_apply w)]
    simp only [hfound]
    -- The entry of the class is read whether or not it comes before what the instance has.
    split
    next => rw [bind_of_ok (bindEntry_of_readsAsIs h.asIs)]; rfl
    next =>
      rw [bind_of_ok hown]
      dsimp only
      rw [bind_of_ok (bindEntry_of_readsAsIs h.asIs)]
      rfl
  have hattr : getAttr? call v n w = (.ok (some c), w) :=
    getAttr?_of_found h.noClass h.regular hinst
  rw [getAttr, bind_of_ok hattr]
  rfl

/-- What an instance shows of its class, the class shows. -/
theorem getAttr_class_of_showsClass (hpublic : isPublic n) (h : w.store.ShowsClass v n c) :
    getAttr call (.kind (w.store.kindOf v)) n w = (.ok c, w) := by
  obtain ⟨owner, hfound⟩ := h.found
  have hname : classAttr? w.store (w.store.kindOf v) n = none := by
    unfold classAttr?
    split <;> first | rfl | exact absurd hpublic (by decide +kernel)
  have hattr : getAttr? call (.kind (w.store.kindOf v)) n w = (.ok (some c), w) := by
    show getClassAttr? call (w.store.kindOf v) n w = _
    unfold getClassAttr?
    rw [bind_of_ok (store_apply w)]
    simp only [hname, hfound]
    rw [bind_of_ok (bindEntryToClass_of_readsAsIs h.asIs)]
    rfl
  rw [getAttr, bind_of_ok hattr]
  rfl

end Host

/-! ### What a service reads -/

namespace Service

open Run Host

variable {call : Call} {svc : ServiceId} {v x : Value} {n : String} {w : World} {t : Target}
  {p : FieldPlace} {key : Key}

/-- Whether reads of a name by a service all come to one value. Under the reserved name for its
    description a value is not read by its fields. -/
def Gives (call : Call) (svc : ServiceId) (w : World) (v : Value) (n : String) (x : Value) : Prop :=
  (∀ fallback, (getField call svc v (.text n) fallback w).1 = .ok x) ∧
    ((Key.ofText n).same .metadata = false → ∀ safe scope, scope.IsScope →
      (dereference call svc v (.text n) safe scope w).1 = .ok x)

/-- To find a field leaves the objects and classes as they are. -/
theorem store_findField? (svc : ServiceId) (t : Target) (key : Key) (w : World) :
    (findField? svc t key w).2.store = w.store := by
  obtain ⟨lines, hconsult⟩ :=
    consult_apply w svc (.field t.kind key) fun f => f.field?.map Field.place
  rw [snd_findField?, hconsult]
  simp

/-- A lookup that recalls nothing out of date does so too when something is traced. -/
theorem fresh_findField?_withTrace (h : (findField? svc t key).Fresh svc w) (lines : List String) :
    (findField? svc t key).Fresh svc (w.withTrace lines) := by
  rw [fresh_findField?, fresh_consult_iff] at h ⊢
  intro f hf
  rw [World.search_withTrace]
  exact h f (by simpa [World.Recalls] using hf)

/-- What is read of a field that was found. -/
theorem readField_of_found (call : Call) (h : (findField? svc t key w).1 = .ok (some p))
    (ht : t.hasInstance = true) (safe : Bool) (fallback : Option Value) :
    ∃ u, u.store = w.store ∧ readField call svc t key safe fallback w = readFound call t p u := by
  refine ⟨(findField? svc t key w).2, store_findField? svc t key w, ?_⟩
  unfold readField
  rw [bind_of_ok (Prod.ext h rfl)]
  simp [ht]

/-- A read of a field by name comes to a read of the field that is found. -/
theorem exists_getField_eq (call : Call) (hv : w.store.HasFields v)
    (hfound : (findField? svc ⟨w.store.kindOf v, v⟩ (.ofText n) w).1 = .ok (some p))
    (fallback : Option Value) :
    ∃ u, u.store = w.store ∧ getField call svc v (.text n) fallback w =
      readFound call ⟨w.store.kindOf v, v⟩ p u := by
  have hinst : (Target.mk (w.store.kindOf v) v).hasInstance = true := by
    simp [Target.hasInstance, hv.ne_none]
  obtain ⟨u, hu, hread⟩ := readField_of_found call hfound hinst false fallback
  refine ⟨u, hu, ?_⟩
  rw [getField, bind_of_ok (store_apply w), bind_of_ok (x := keyOf call (.text n)) rfl, hv.target]
  exact hread

/-- A read of a name, safe or not, comes to a read of the field that is found. -/
theorem exists_dereference_field_eq (call : Call) (hv : w.store.HasFields v)
    (hfresh : (findField? svc ⟨w.store.kindOf v, v⟩ (.ofText n)).Fresh svc w)
    (hfound : (findField? svc ⟨w.store.kindOf v, v⟩ (.ofText n) w).1 = .ok (some p))
    (hname : (Key.ofText n).same .metadata = false) (safe : Bool) {scope : Value}
    (hscope : scope.IsScope) :
    ∃ u, u.store = w.store ∧ dereference call svc v (.text n) safe scope w =
      readFound call ⟨w.store.kindOf v, v⟩ p u := by
  have hinst : (Target.mk (w.store.kindOf v) v).hasInstance = true := by
    simp [Target.hasInstance, hv.ne_none]
  obtain ⟨lines, hreq⟩ := request_host (r := .read safe) call svc (.ofText n) trivial hscope
    hv.ne_none hv.target (by rw [hv.sort]; simp)
  -- The trace has no say in what is found.
  have hsame : (findField? svc ⟨w.store.kindOf v, v⟩ (.ofText n) (w.withTrace lines)).1 =
      (findField? svc ⟨w.store.kindOf v, v⟩ (.ofText n) w).1 := by
    rw [findField?_of_fresh hfresh, findField?_of_fresh (fresh_findField?_withTrace hfresh lines)]
    rfl
  obtain ⟨u, hu, hread⟩ := readField_of_found call (hsame.trans hfound) hinst safe none
  have hhost :
      answerHost call svc ⟨w.store.kindOf v, v⟩ .nativeObject (.ofText n) scope (.read safe) =
      readField call svc ⟨w.store.kindOf v, v⟩ (.ofText n) safe none := by
    show readHost call svc ⟨w.store.kindOf v, v⟩ .nativeObject (.ofText n) safe = _
    unfold readHost
    rw [if_neg (by simp [hname])]
  refine ⟨u, hu, ?_⟩
  rw [dereference, bind_of_ok (x := keyOf call (.text n)) rfl, if_neg hv.ne_none,
    bind_of_ok (store_apply w), hreq, hv.sort, hhost]
  exact hread

/-- Where a field is found that reads as one value, all reads of its name come to that value. -/
theorem gives_of_found (hv : w.store.HasFields v)
    (hfresh : (findField? svc ⟨w.store.kindOf v, v⟩ (.ofText n)).Fresh svc w)
    (hfound : (findField? svc ⟨w.store.kindOf v, v⟩ (.ofText n) w).1 = .ok (some p))
    (hread : ∀ u : World, u.store = w.store →
      (readFound call ⟨w.store.kindOf v, v⟩ p u).1 = .ok x) : Gives call svc w v n x := by
  refine ⟨fun fallback => ?_, fun hname safe scope hscope => ?_⟩
  · obtain ⟨u, hu, hget⟩ := exists_getField_eq call hv hfound fallback
    rw [hget, hread u hu]
  · obtain ⟨u, hu, hget⟩ :=
      exists_dereference_field_eq call hv hfresh hfound hname safe hscope
    rw [hget, hread u hu]

/-- A declared field is found by its name. -/
theorem found_of_declaresFirst {f : Field}
    (hfresh : (findField? svc t (.ofText n)).Fresh svc w) (hf : w.store.DeclaresFirst t.kind f)
    (hname : f.name = n) :
    (findField? svc t (.ofText n) w).1 = .ok (some ⟨n, f.isStatic, f.form⟩) := by
  subst hname
  rw [findField?_of_fresh hfresh, hf.findField?_eq]
  rfl

/-- What is read of a field of the class. -/
theorem readFound_of_static (hp : p.isStatic = true) :
    readFound call t p = getAttr call (.kind t.kind) p.name := by
  rw [readFound, if_pos hp]

/-- A field of the instance reads as the host reads it. -/
theorem readFound_of_shows {u : World} (hp : p.isStatic = false)
    (h : (getAttr call t.inst p.name u).1 = .ok x) : (readFound call t p u).1 = .ok x := by
  have hattr : getAttr call t.inst p.name u = (.ok x, _) := Prod.ext h rfl
  rw [readFound, if_neg (by simp [hp])]
  split
  next => exact congrArg Prod.fst (catching_of_ok .attributeError _ hattr)
  next => exact h

/-- A declared field of the instance that has no value reads as nothing. -/
theorem readFound_of_lacks {u u' : World} {e : Fault} (hp : p.isStatic = false)
    (hform : p.form = .attribute) (h : getAttr call t.inst p.name u = (.error e, u'))
    (he : faultIsA u'.store e .attributeError = true) : (readFound call t p u).1 = .ok .none := by
  rw [readFound, if_neg (by simp [hp]), hform]
  dsimp only
  rw [getAttrD, catching, bind_of_ok (outcome_of h)]
  dsimp only
  rw [bind_of_ok (store_apply u'), if_pos he]
  rfl

/-- **A listed name shows the instance.** Let a name be listed for an instance, and let what the
    service recalls of it be up to date. If the host reads that attribute of the instance as a
    value, then so does the service, with `getField` and with `dereference`, as long as the host
    looks where the field was found. A field of the class reads as the host reads it from the
    class. -/
theorem gives_shown (call : Call) (svc : ServiceId) (hv : w.store.HasFields v)
    (hlisted : n ∈ w.store.fieldNames (w.store.kindOf v) v)
    (hfresh : (findField? svc ⟨w.store.kindOf v, v⟩ (.ofText n)).Fresh svc w) :
    (∀ x, w.Shows call v n x → w.store.ReadsWhereFound v n → Gives call svc w v n x) ∧
      ∀ f x, w.store.DeclaresFirst (w.store.kindOf v) f → f.name = n → f.isStatic = true →
        w.Shows call (.kind (w.store.kindOf v)) n x → Gives call svc w v n x := by
  have hclass (f : Field) (x : Value) (hf : w.store.DeclaresFirst (w.store.kindOf v) f)
      (hname : f.name = n) (hstatic : f.isStatic = true)
      (hshows : w.Shows call (.kind (w.store.kindOf v)) n x) : Gives call svc w v n x := by
    refine gives_of_found hv hfresh (found_of_declaresFirst hfresh hf hname) fun u hu => ?_
    rw [readFound_of_static hstatic]
    exact hshows u hu
  refine ⟨fun x hshows hplain => ?_, hclass⟩
  have hinstance (f : Field) (hf : w.store.DeclaresFirst (w.store.kindOf v) f)
      (hname : f.name = n) (hstatic : f.isStatic = false) : Gives call svc w v n x := by
    refine gives_of_found hv hfresh (found_of_declaresFirst hfresh hf hname) fun u hu => ?_
    exact readFound_of_shows hstatic (hshows u hu)
  cases hplain with
  | @ofInstance f hf hname hstatic => exact hinstance f hf hname hstatic
  | @ofClass f c hf hname hc =>
    cases hstatic : f.isStatic with
    | false => exact hinstance f hf hname hstatic
    | true =>
      have hpublic : isPublic n := by
        rw [← hname]
        exact Store.isPublic_of_mem_declaredFields (mem_of_mem_firstBy (Store.mem_fields_iff.2 hf))
      -- The instance shows what the class holds, and so does the class.
      have hx : x = c := by
        have hread := hshows w rfl
        rw [getAttr_of_showsClass hpublic hc] at hread
        exact (Except.ok.inj hread).symm
      refine hclass f x hf hname hstatic fun u hu => ?_
      rw [← hu] at hc ⊢
      rw [getAttr_class_of_showsClass hpublic hc, hx]
  | own hfree hown =>
    have hnone : w.store.findField? (w.store.kindOf v) (.ofText n) = none := by
      obtain ⟨f, hf, hname⟩ | ⟨hnone, -⟩ := Store.exists_declaresFirst_of_listed hlisted
      · exact absurd hname (hfree f hf)
      · exact hnone
    have hfound : (findField? svc ⟨w.store.kindOf v, v⟩ (.ofText n) w).1 =
        .ok (some ⟨n, false, .own⟩) := by
      rw [findField?_of_fresh hfresh, hnone]
      simp [Target.hasInstance, hv.ne_none, hown.ownAttribute?_eq, Field.place]
    exact gives_of_found hv hfresh hfound fun u hu => readFound_of_shows rfl (hshows u hu)

end Service

/-! ### An instance with a field of each sort -/

/-- An instance of a class that announces two fields and a class-wide one, and holds a constant. The
    instance has one of the fields, and an attribute that hides the constant. -/
def badge : World where
  store :=
    { objects := #[
        { kind := .declared 0, attrs := ⟨[("rank", .int 5), ("label", .text "blue")]⟩ }]
      classes := #[
        { name := "Badge", qualifiedName := "Badge", home := some "host",
          bases := [.library .object], lineage := [.declared 0, .library .object],
          metaclass := .type, hints := ⟨[("label", false), ("size", false), ("count", true)]⟩,
          attrs := ⟨[("rank", .int 1)]⟩ }] }

theorem hasFields_badge : badge.store.HasFields (.object 0) where
  ne_none := by simp
  target := by decide +kernel
  sort := by decide +kernel

/-- Nothing is remembered yet. -/
theorem fresh_badge (n : String) :
    (Service.findField? .main ⟨badge.store.kindOf (.object 0), .object 0⟩ (.ofText n)).Fresh .main
      badge := by
  rw [Service.fresh_findField?, Run.fresh_consult_iff]
  intro f hf
  cases (hf.2 : none = some f)

/-- The field that the instance has reads as what it has. -/
theorem gives_shown_badge :
    "label" ∈ badge.store.fieldNames (badge.store.kindOf (.object 0)) (.object 0) ∧
      badge.Shows Host.callValue (.object 0) "label" (.text "blue") ∧
      Service.Gives Host.callValue .main badge (.object 0) "label" (.text "blue") := by
  have hlisted : "label" ∈ badge.store.fieldNames (badge.store.kindOf (.object 0)) (.object 0) := by
    decide +kernel
  have hshows : badge.Shows Host.callValue (.object 0) "label" (.text "blue") := by
    rintro ⟨⟩ rfl
    rfl
  have hdeclared : badge.store.DeclaresFirst (badge.store.kindOf (.object 0))
      ⟨"label", .declared 0, false, .attribute⟩ :=
    Store.mem_fields_iff.1 (by decide +kernel)
  exact ⟨hlisted, hshows, (Service.gives_shown Host.callValue .main hasFields_badge hlisted
    (fresh_badge "label")).1 _ hshows (.ofInstance hdeclared rfl rfl)⟩

/-- The constant is listed, and the instance hides it from the host, but not from the service. -/
theorem class_field_hides_badge :
    "rank" ∈ badge.store.fieldNames (badge.store.kindOf (.object 0)) (.object 0) ∧
      badge.Shows Host.callValue (.object 0) "rank" (.int 5) ∧
      (Service.getField Host.callValue .main (.object 0) (.text "rank") none badge).1 =
        .ok (.int 1) := by
  refine ⟨by decide +kernel, ?_, by decide +kernel⟩
  rintro ⟨⟩ rfl
  rfl

/-! ### Fields without a value -/

namespace Service

open Run Host

variable {v : Value} {n : String} {w : World}

/-- **A field without a value.** Let a name be declared for an instance, not as computed, and let
    what the service recalls of it be up to date. If the host has no value for that attribute, then
    the service reads it as nothing, with `getField` and with `dereference`, safe or not, exactly if
    its first declaration does not give the field to the class. -/
theorem gives_none_iff (call : Call) (svc : ServiceId) {f : Field} (hv : w.store.HasFields v)
    (hfresh : (findField? svc ⟨w.store.kindOf v, v⟩ (.ofText n)).Fresh svc w)
    (hf : w.store.DeclaresFirst (w.store.kindOf v) f) (hname : f.name = n)
    (hform : f.form ≠ .property) (hinst : w.Lacks call v n)
    (hclass : f.isStatic = true → w.Lacks call (.kind (w.store.kindOf v)) n) :
    Gives call svc w v n .none ↔ f.isStatic = false := by
  have hfound := found_of_declaresFirst (t := ⟨w.store.kindOf v, v⟩) hfresh hf hname
  constructor
  · rintro ⟨hget, -⟩
    rw [← Bool.not_eq_true]
    intro hstatic
    obtain ⟨u, hu, hread⟩ := exists_getField_eq call hv hfound none
    obtain ⟨e, u', hattr, -⟩ := hclass hstatic u hu
    have herror := hget none
    rw [hread, readFound_of_static hstatic, hattr] at herror
    cases herror
  · intro hstatic
    refine gives_of_found hv hfresh hfound fun u hu => ?_
    obtain ⟨e, u', hattr, he⟩ := hinst u hu
    exact readFound_of_lacks hstatic (hf.form.resolve_right hform) hattr he

end Service

/-- The field that nothing was assigned to reads as nothing. -/
theorem gives_none_iff_badge :
    badge.Lacks Host.callValue (.object 0) "size" ∧
      Service.Gives Host.callValue .main badge (.object 0) "size" .none := by
  have hlacks : badge.Lacks Host.callValue (.object 0) "size" := by
    rintro ⟨⟩ rfl
    exact ⟨_, _, rfl, rfl⟩
  have hdeclared : badge.store.DeclaresFirst (badge.store.kindOf (.object 0))
      ⟨"size", .declared 0, false, .attribute⟩ :=
    Store.mem_fields_iff.1 (by decide +kernel)
  exact ⟨hlacks, (Service.gives_none_iff Host.callValue .main hasFields_badge (fresh_badge "size")
    hdeclared rfl (by simp) hlacks (by simp)).2 rfl⟩

/-- The class-wide field that nothing was assigned to is listed, and to read it fails. -/
theorem unset_class_field_raises_badge :
    "count" ∈ badge.store.fieldNames (badge.store.kindOf (.object 0)) (.object 0) ∧
      badge.Lacks Host.callValue (.object 0) "count" ∧
      badge.Lacks Host.callValue (.kind (.declared 0)) "count" ∧
      ∃ words, (Service.getField Host.callValue .main (.object 0) (.text "count") none badge).1 =
        .error (.host .attributeError words) := by
  refine ⟨by decide +kernel, ?_, ?_, _, by with_unfolding_all rfl⟩
  · rintro ⟨⟩ rfl
    exact ⟨_, _, rfl, rfl⟩
  · rintro ⟨⟩ rfl
    exact ⟨_, _, rfl, rfl⟩

end ScriptBridge
