import ScriptBridge.Proofs.Coherence
import ScriptBridge.Proofs.Folding
import ScriptBridge.Proofs.Members

namespace ScriptBridge

/-!
# Fields that are listed and fields that are found

A service lists the names of a target's fields, and it looks fields up by name. The listing leaves
out the private attributes of an instance; the lookup does not. Otherwise the two agree, whatever
the spelling of the key.

* `Store.Lists` tells that the listing shows a name for a key, `Store.Owns` that the instance itself
  has an attribute for it;
* `Store.lists_iff` says what is listed without the list that is made of it;
* `Service.findField?_of_fresh`: a lookup that recalls nothing out of date finds what the classes
  declare, else what the instance itself has;
* `Service.finds_iff_lists`: for a public key a field is found exactly if it is listed. For a
  private one none is listed, and a field is found exactly if the instance itself has the attribute.
-/

/-! ### Names for scripts -/

/-- A name is private exactly if it begins with an underscore. -/
theorem isPublic_eq_false_iff {name : String} :
    isPublic name = false ↔ name.toList.head? = some '_' := by
  rw [isPublic, Bool.not_eq_false', String.startsWith_string_iff]
  show ['_'] <+: name.toList ↔ _
  cases name.toList with
  | nil => simp
  | cons c rest => simp [eq_comm]

/-- Names that fold alike are both public or both private. -/
theorem isPublic_eq_of_foldCase_eq {a b : String} (h : foldCase a = foldCase b) :
    isPublic a = isPublic b := by
  have hprivate : isPublic a = false ↔ isPublic b = false := by
    rw [isPublic_eq_false_iff, isPublic_eq_false_iff, ← head?_foldCase_eq_underscore_iff, h,
      head?_foldCase_eq_underscore_iff]
  cases hb : isPublic b with
  | false => exact hprivate.2 hb
  | true =>
    rw [← Bool.not_eq_false, hprivate, hb]
    simp

namespace Store

variable (s : Store) (t : Target) (key : Key)

/-- Whether the listing of a target's fields shows a name that a key stands for. -/
def Lists : Prop := ∃ n ∈ s.fieldNames t.kind t.inst, foldCase n = key.folded

/-- Whether an instance itself has an attribute that a key stands for. -/
def Owns : Prop := ∃ n ∈ s.ownNames t.inst, foldCase n = key.folded

variable {s t key} {k : Kind}

/-! ### What is declared -/

/-- A class declares public fields only, by a hint or by an entry. -/
theorem isPublic_of_mem_declaredFields {f : Field} (h : f ∈ s.declaredFields k) :
    isPublic f.name = true := by
  obtain ⟨owner, -, hf⟩ := List.mem_flatMap.1 h
  rcases List.mem_append.1 hf with hhint | hentry
  · obtain ⟨⟨n, classWide⟩, hn, rfl⟩ := List.mem_map.1 hhint
    exact (List.mem_filter.1 hn).2
  · obtain ⟨⟨n, e⟩, -, he⟩ := List.mem_filterMap.1 hentry
    have hname : isPublic n = true ∧ f.name = n := by
      unfold fieldOfEntry? at he
      grind
    rw [hname.2]
    exact hname.1

/-- The declared field of a name is found exactly if there is one. -/
theorem findField?_isSome_iff :
    (s.findField? k key).isSome ↔ ∃ f ∈ s.fields k, foldCase f.name = key.folded := by
  simp [findField?, List.find?_isSome]

/-- A declared field is found under public keys only. -/
theorem isPublic_of_findField? (h : (s.findField? k key).isSome) : isPublic key.name = true := by
  obtain ⟨f, hf, hfold⟩ := findField?_isSome_iff.1 h
  rw [← isPublic_eq_of_foldCase_eq hfold]
  exact isPublic_of_mem_declaredFields (mem_of_mem_firstBy hf)

/-- Only an instance has attributes of its own. -/
theorem hasInstance_of_owns (h : s.Owns t key) : t.hasInstance = true := by
  obtain ⟨n, hn, -⟩ := h
  rw [Target.hasInstance, decide_eq_true_eq]
  intro hnone
  rw [hnone] at hn
  cases hn

/-- What the instance itself has is found exactly if there is such an attribute. -/
theorem ownAttribute?_isSome_iff : (s.ownAttribute? t.inst key).isSome ↔ s.Owns t key := by
  simp [ownAttribute?, Owns, List.find?_isSome]

/-! ### What is listed -/

/-- The listing shows what is declared and the public attributes of the instance. Of these it leaves
    out the ones that a declared field stands for already, which makes no difference. -/
theorem lists_iff :
    s.Lists t key ↔
      (s.findField? t.kind key).isSome ∨ isPublic key.name = true ∧ s.Owns t key := by
  rw [findField?_isSome_iff]
  constructor
  · rintro ⟨n, hn, hfold⟩
    rcases List.mem_append.1 hn with hdeclared | hown
    · obtain ⟨f, hf, rfl⟩ := List.mem_map.1 hdeclared
      exact .inl ⟨f, hf, hfold⟩
    · obtain ⟨hmem, hkept⟩ := List.mem_filter.1 hown
      have hpublic : isPublic n = true := (Bool.and_eq_true_iff.1 hkept).1
      -- Whether a name is public is told by how it folds.
      rw [isPublic_eq_of_foldCase_eq hfold] at hpublic
      exact .inr ⟨hpublic, n, hmem, hfold⟩
  · rintro (⟨f, hf, hfold⟩ | ⟨hpublic, n, hn, hfold⟩)
    · exact ⟨f.name, List.mem_append_left _ (List.mem_map_of_mem hf), hfold⟩
    · rw [← isPublic_eq_of_foldCase_eq hfold] at hpublic
      by_cases hshown : foldCase n ∈ ((s.fields t.kind).map (·.name)).map foldCase
      · -- A declared field is listed in place of the attribute, under a name that folds alike.
        obtain ⟨m, hm, hsame⟩ := List.mem_map.1 hshown
        exact ⟨m, List.mem_append_left _ hm, hsame.trans hfold⟩
      · refine ⟨n, List.mem_append_right _ (List.mem_filter.2 ⟨hn, ?_⟩), hfold⟩
        rw [List.contains_eq_mem, decide_eq_false hshown, hpublic]
        rfl

/-- Nothing is listed for a private key. -/
theorem isPublic_of_lists (h : s.Lists t key) : isPublic key.name = true := by
  rcases lists_iff.1 h with hdeclared | hown
  · exact isPublic_of_findField? hdeclared
  · exact hown.1

end Store

namespace Service

open Run

variable {svc : ServiceId} {w : World} {t : Target} {key : Key}

/-! ### What is found -/

/-- An inquiry for a declared field that recalls nothing out of date is answered by a search of the
    classes, and leaves them as they are. -/
theorem inquire_field_of_fresh
    (h : (consult svc (.field t.kind key) fun f => f.field?.map Field.place).Fresh svc w) :
    ∃ u r, u.store = w.store ∧
      inquire svc (.field t.kind key) (fun f => f.field?.map Field.place) w =
        (match w.store.findField? t.kind key with
        | some f => .ok f.place
        | none => .error (.engine r), u) := by
  obtain ⟨lines, hconsult⟩ :=
    consult_apply w svc (.field t.kind key) fun f => f.field?.map Field.place
  have hanswer := h rfl
  rw [hanswer] at hconsult
  have hsearch : w.search svc (.field t.kind key) =
      match w.store.findField? t.kind key with
      | some f => .ok (.field f)
      | none => .error (.engine (.noField key.name (w.store.typeName t.kind))) := by
    cases hf : w.store.findField? t.kind key <;>
      simp [World.search, Inquiry.search, Inquiry.failure?, Inquiry.found?, Inquiry.missing, hf]
  -- Neither the resolver nor the trace is a part of the store.
  refine ⟨(w.withResolver svc (w.lookup svc (.field t.kind key)).2).withTrace lines,
    .noField key.name (w.store.typeName t.kind), by simp, ?_⟩
  unfold inquire
  rw [hsearch] at hconsult
  cases hf : w.store.findField? t.kind key with
  | some f =>
    rw [hf] at hconsult
    rw [bind_of_ok hconsult]
    rfl
  | none =>
    rw [hf] at hconsult
    rw [bind_of_error hconsult]

/-- A lookup that recalls nothing out of date finds what the classes declare, else what the instance
    itself has. -/
theorem findField?_of_fresh (h : (findField? svc t key).Fresh svc w) :
    (findField? svc t key w).1 = .ok
      (match w.store.findField? t.kind key with
      | some f => some f.place
      | none =>
        if t.hasInstance then (w.store.ownAttribute? t.inst key).map Field.place else none) := by
  obtain ⟨u, r, hu, hinquire⟩ := inquire_field_of_fresh (fresh_findField?.1 h)
  unfold findField?
  rw [bind_apply, outcome_apply, hinquire]
  cases w.store.findField? t.kind key with
  | some f => rfl
  | none => cases t.hasInstance <;> simp [← hu, Except.map]

/-- Such a lookup does not fail, and finds a field exactly if there is one, private or not. -/
theorem exists_findField?_eq_of_fresh (h : (findField? svc t key).Fresh svc w) :
    ∃ found, (findField? svc t key w).1 = .ok found ∧
      (found.isSome ↔ (w.store.findField? t.kind key).isSome ∨ w.store.Owns t key) := by
  refine ⟨_, findField?_of_fresh h, ?_⟩
  cases w.store.findField? t.kind key with
  | some f => simp
  | none =>
    by_cases hinst : t.hasInstance = true
    · simp [hinst, ← Store.ownAttribute?_isSome_iff]
    · have hnone : ¬ w.store.Owns t key := fun howns => hinst (Store.hasInstance_of_owns howns)
      simp [hinst, hnone]

/-- **Listing and lookup.** A lookup that recalls nothing out of date does not fail. For a public
    key it finds a field exactly if the listing shows one. For a private key the listing shows none,
    and the lookup finds a field exactly if the instance itself has that attribute. -/
theorem finds_iff_lists (svc : ServiceId) (w : World) (t : Target) (key : Key)
    (h : (findField? svc t key).Fresh svc w) :
    ∃ found, (findField? svc t key w).1 = .ok found ∧
      (isPublic key.name = true → (found.isSome ↔ w.store.Lists t key)) ∧
      (isPublic key.name = false →
        ¬ w.store.Lists t key ∧ (found.isSome ↔ w.store.Owns t key)) := by
  obtain ⟨found, hfound, hsome⟩ := exists_findField?_eq_of_fresh h
  refine ⟨found, hfound, fun hpublic => ?_, fun hprivate => ⟨fun hlists => ?_, ?_⟩⟩
  · rw [hsome, Store.lists_iff]
    simp [hpublic]
  · rw [Store.isPublic_of_lists hlists] at hprivate
    cases hprivate
  · rw [hsome]
    refine or_iff_right fun hdeclared => ?_
    rw [Store.isPublic_of_findField? hdeclared] at hprivate
    cases hprivate

end Service

/-! ### An instance with a private attribute -/

/-- An instance of a class, with a public and a private attribute. -/
def strongbox : World where
  store :=
    { objects := #[
        { kind := .declared 0, attrs := ⟨[("label", .text "deeds"), ("_code", .int 7)]⟩ }]
      classes := #[
        { name := "Strongbox", qualifiedName := "Strongbox", home := some "host",
          bases := [.library .object], lineage := [.declared 0, .library .object],
          metaclass := .type }] }

/-- The public attribute is listed, and found under another spelling of its name. -/
theorem finds_iff_lists_strongbox :
    ∃ found, (Service.findField? .main ⟨.declared 0, .object 0⟩ (.ofText "LABEL") strongbox).1 =
        .ok found ∧
      found.isSome ∧ strongbox.store.Lists ⟨.declared 0, .object 0⟩ (.ofText "LABEL") := by
  obtain ⟨found, hfound, hpublic, -⟩ :=
    Service.finds_iff_lists .main strongbox ⟨.declared 0, .object 0⟩ (.ofText "LABEL")
      (Service.fresh_findField?.2 fun _ => by decide +kernel)
  have hlists : strongbox.store.Lists ⟨.declared 0, .object 0⟩ (.ofText "LABEL") :=
    ⟨"label", by decide +kernel, by decide +kernel⟩
  exact ⟨found, hfound, (hpublic (by decide +kernel)).2 hlists, hlists⟩

/-- The private attribute is not listed, and it is read and written all the same. -/
theorem private_field_read_strongbox :
    strongbox.store.fieldNames (.declared 0) (.object 0) = ["label"] ∧
      (Service.dereference Host.callValue .main (.object 0) (.text "_code") false .none
        strongbox).1 = .ok (.int 7) ∧
      (Service.dereference Host.callValue .main (.object 0) (.text "_code") false .none
        (Service.assign Host.callValue .main (.object 0) (.text "_code") (.int 8) .none
          strongbox).2).1 = .ok (.int 8) := by
  decide +kernel

end ScriptBridge
