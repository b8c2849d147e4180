import ScriptBridge.Proofs.Binding
import ScriptBridge.Proofs.CaseForms
import ScriptBridge.Proofs.FieldNames
import ScriptBridge.Proofs.MethodNames

namespace ScriptBridge

/-!
# Names compared by upper case

Keys are compared by their folded forms, but the test for a field in any case compares upper-case
forms. The two relations differ at seven characters, and only there can the test and a lookup
differ.

* `Service.hasFieldNoCase_apply` is what the test answers;
* `Service.tests_by_upper_case`: away from the seven characters a field passes the test exactly if
  it is listed under the key, and found.
-/

/-! ### The test for a field -/

namespace Service

open Run Host

/-- A text tells its upper-case form, and only a bound method is new. -/
theorem exists_callMethod_upper_eq (name : String) (w : World) :
    ∃ u, callMethod callValue (.text name) "upper" [] w = (.ok (.text (upperCase name)), u) ∧
      w.Grows u := by
  obtain ⟨i, u, hbound, hgrows, hi⟩ := exists_alloc_eq w
    { kind := .library .boundMethod, body := .bound (.native ⟨some .text, "upper"⟩) (.text name) }
  -- The method is bound first, and calling what is bound adds nothing.
  have hattr : getAttr callValue (.text name) "upper" w = (.ok (.object i), u) := by
    have hinst :
        getInstanceAttr? callValue (.text name) "upper" w = (.ok (some (.object i)), u) := by
      unfold getInstanceAttr?
      rw [bind_of_ok (store_apply w)]
      have hm : w.store.inherited? (.library .text) "upper" =
          some (.library .text, .library (.method "upper" (some []))) := rfl
      simp only [Store.kindOf, hm, entryGoverns, Bool.false_eq_true, if_false]
      rw [bind_of_ok (show ownValue? (.text name) "upper" w = (.ok none, w) from rfl)]
      exact bind_of_ok (x := attach (.native ⟨some .text, "upper"⟩) (.text name)) hbound
    rw [getAttr, bind_of_ok ((getAttr?_of_library rfl (by simp) "upper").trans hinst)]
    rfl
  have hbody : u.store.body? (.object i) =
      some (.bound (.native ⟨some .text, "upper"⟩) (.text name)) := by
    rw [Store.body?, hi]
    rfl
  refine ⟨u, ?_, hgrows⟩
  rw [callMethod, bind_of_ok hattr]
  exact callAt_bound hbody 999 {}

/-- The test for a field tells whether a name with the same upper-case form is listed. -/
theorem hasFieldNoCase_apply (t : Target) (name : String) (w : World) :
    ∃ u, hasFieldNoCase callValue t (.text name) w =
        (.ok (((u.store.fieldNames t.kind t.inst).map upperCase).contains (upperCase name)), u) ∧
      w.Grows u := by
  obtain ⟨u, hupper, hgrows⟩ := exists_callMethod_upper_eq name w
  refine ⟨u, ?_, hgrows⟩
  rw [hasFieldNoCase, bind_of_ok hupper, bind_of_ok (store_apply u)]
  exact isAmong_texts _ _

/-- **Tested by upper case.** The test for a field in any case answers always, and tells whether a
    listed name has the upper-case form of the name. Where it says yes, and no dotless letter is in
    any of these names, a field is listed under the key and found by a lookup that recalls nothing
    out of date. Where it says no, and no capital apart is in any of them, none is listed under the
    key. -/
theorem tests_by_upper_case (svc : ServiceId) (w : World) (target : Value) (name : String) :
    let t := w.store.asTarget target
    let key := Key.ofText name
    ∃ b u, hasFieldNoCase callValue t (.text name) w = (.ok b, u) ∧ w.Grows u ∧
      let names := u.store.fieldNames t.kind t.inst
      (b = true ↔ ∃ n ∈ names, upperCase n = upperCase name) ∧
      ((∀ n ∈ name :: names, dotless ∉ n.toList) → b = true →
        u.store.Lists t key ∧ ((findField? svc t key).Fresh svc u →
          ∃ f, (findField? svc t key u).1 = .ok (some f))) ∧
      ((∀ n ∈ name :: names, ∀ c ∈ n.toList, c ∉ capitalsApart) → b = false →
        ¬ u.store.Lists t key) := by
  intro t key
  obtain ⟨u, htest, hgrows⟩ := hasFieldNoCase_apply t name w
  have hyes : ((u.store.fieldNames t.kind t.inst).map upperCase).contains (upperCase name) = true ↔
      ∃ n ∈ u.store.fieldNames t.kind t.inst, upperCase n = upperCase name := by
    rw [List.contains_iff_mem, List.mem_map]
  refine ⟨_, u, htest, hgrows, hyes, fun hdots htrue => ?_, fun hcapitals hfalse => ?_⟩
  -- Names of one upper-case form fold alike, but for the dotless letters.
  · obtain ⟨n, hn, hupper⟩ := hyes.1 htrue
    have hlists : u.store.Lists t key :=
      ⟨n, hn, foldCase_eq_of_upperCase_eq (hdots n (List.mem_cons_of_mem _ hn))
        (hdots name List.mem_cons_self) hupper⟩
    refine ⟨hlists, fun hfresh => ?_⟩
    obtain ⟨found, hfound, hpublic, -⟩ := finds_iff_lists svc u t key hfresh
    obtain ⟨f, rfl⟩ := Option.isSome_iff_exists.1
      ((hpublic (Store.isPublic_of_lists hlists)).2 hlists)
    exact ⟨f, hfound⟩
  -- Names that fold alike have one upper-case form, but for the capitals apart.
  · rintro ⟨n, hn, hfold⟩
    have hupper := upperCase_eq_of_foldCase_eq (hcapitals n (List.mem_cons_of_mem _ hn))
      (hcapitals name List.mem_cons_self) hfold
    rw [hyes.2 ⟨n, hn, hupper⟩] at hfalse
    cases hfalse

end Service

/-! ### Names at which the two differ -/

/-- An instance of a class with two attributes, one of them with a sharp `s`. -/
def primer : World where
  store :=
    { objects := #[{ kind := .declared 0, body := .plain,
                     attrs := ⟨[("i", .int 1), ("gro\u00df", .int 2)]⟩ }]
      classes := #[
        { name := "Primer", qualifiedName := "Primer", home := some "host",
          bases := [.library .object], lineage := [.declared 0, .library .object],
          metaclass := .type }] }

/-- A name with the sharp letter written out passes the test, is listed under its key, and found. -/
theorem tests_by_upper_case_primer :
    let t := primer.store.asTarget (.object 0)
    ∃ b u, Service.hasFieldNoCase Host.callValue t (.text "GROSS") primer = (.ok b, u) ∧
      b = true ∧ u.store.Lists t (.ofText "GROSS") ∧
        ∃ f, (Service.findField? .main t (.ofText "GROSS") u).1 = .ok (some f) := by
  intro t
  obtain ⟨b, u, htest, -, hyes, hfound, -⟩ :=
    Service.tests_by_upper_case .main primer (.object 0) "GROSS"
  have hu : u = (Service.hasFieldNoCase Host.callValue t (.text "GROSS") primer).2 := by rw [htest]
  have hnames : u.store.fieldNames t.kind t.inst = ["i", "gro\u00df"] := by
    rw [hu]
    decide +kernel
  have hfresh : (Service.findField? .main t (.ofText "GROSS")).Fresh .main u := by
    rw [Service.fresh_findField?, hu]
    exact fun _ => by decide +kernel
  have hb : b = true := hyes.2 (by rw [hnames]; decide +kernel)
  obtain ⟨hlists, hfound⟩ := hfound (by rw [hnames]; decide +kernel) hb
  exact ⟨b, u, htest, hb, hlists, hfound hfresh⟩

/-- The dotless letter passes the test for `i`, though nothing is listed under its key and reading
    it is refused. The sharp capital fails the test, though the listing shows its key and reading it
    gives the value. -/
theorem upper_case_strays_primer :
    let t : Target := ⟨.declared 0, .object 0⟩
    let test (name : String) := (Service.hasFieldNoCase Host.callValue t (.text name) primer).1
    let read (name : String) :=
      (Service.dereference Host.callValue .main (.object 0) (.text name) false .none primer).1
    (test "\u0131" = .ok true ∧ ¬ primer.store.Lists t (.ofText "\u0131") ∧
        (read "\u0131").toOption = none) ∧
      (test "GRO\u1e9e" = .ok false ∧ primer.store.Lists t (.ofText "GRO\u1e9e") ∧
        read "GRO\u1e9e" = .ok (.int 2)) := by
  unfold Store.Lists
  decide +kernel

end ScriptBridge
