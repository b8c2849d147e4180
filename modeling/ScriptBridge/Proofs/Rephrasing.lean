import ScriptBridge.Proofs.Binding
import ScriptBridge.Proofs.HintLeaves

namespace ScriptBridge

/-!
# Writing hints in another way

A union says no more than what its members are: their order, how they are put together and how often
each stands there make no difference to what is accepted, and so to no call.

* `HintDecl.Rephrases` relates the hints that differ in no more than that, `Store.Rephrases` the
  stores;
* `HintDecl.Rephrases.sameKinds`: hints that rephrase each other spell the same kinds;
* `Param.Alike` and `Signature.Alike` relate parameters and signatures that take the same arguments,
  `Store.readParams?_alike` is about reading the hints among them that are texts;
* `Store.Rephrases.answers_iff` and `Store.Rephrases.found?_method`: the same calls are answered,
  and with the same members;
* `leaves_decide_acceptance` puts this together with what the leaves of hints accept.
-/

/-- Whether two lists hold the same kinds. -/
def SameKinds (as bs : List Kind) : Prop := ∀ k, k ∈ as ↔ k ∈ bs

/-! ### Hints -/

namespace HintDecl

variable {s : Store} {k : Kind} {d e : HintDecl} {ds : List HintDecl}

/-- Whether one hint says what another does: members of unions change places, unions among them are
    taken apart or put together, members are repeated, and unions are written in another form. All
    this may be done to the whole hint, to members and to arguments. -/
inductive Rephrases : HintDecl → HintDecl → Prop where
  | refl (d : HintDecl) : Rephrases d d
  | symm {d e : HintDecl} : Rephrases d e → Rephrases e d
  | trans {d e f : HintDecl} : Rephrases d e → Rephrases e f → Rephrases d f
  | reorder {ds es : List HintDecl} : ds.Perm es → Rephrases (.union ds) (.union es)
  | regroup (before ds after : List HintDecl) :
      Rephrases (.union (before ++ .union ds :: after)) (.union (before ++ ds ++ after))
  | duplicate {d : HintDecl} {ds : List HintDecl} :
      d ∈ ds → Rephrases (.union (d :: ds)) (.union ds)
  | single (d : HintDecl) : Rephrases (.union [d]) d
  | bars (ds : List HintDecl) : Rephrases (.bars ds) (.union ds)
  | optional (d : HintDecl) : Rephrases (.optional d) (.union [d, .nothing])
  | member {d e : HintDecl} (before after : List HintDecl) : Rephrases d e →
      Rephrases (.union (before ++ d :: after)) (.union (before ++ e :: after))
  | argument {d e : HintDecl} (name : String) (before after : List HintDecl) : Rephrases d e →
      Rephrases (.generic name (before ++ d :: after)) (.generic name (before ++ e :: after))
  | part {d e : HintDecl} (before after : List HintDecl) : Rephrases d e →
      Rephrases (.callable (before ++ d :: after)) (.callable (before ++ e :: after))

/-- A union spells the kinds that its members do. -/
theorem mem_kindsOfLeaves_union :
    k ∈ (union ds).kindsOfLeaves s ↔ ∃ d ∈ ds, k ∈ d.kindsOfLeaves s := by
  rw [kindsOfLeaves, leaves]
  induction ds with
  | nil => simp [leavesOfAll]
  | cons d ds ih =>
    rw [leavesOfAll, List.flatMap_append, List.mem_append, ih, List.exists_mem_cons_iff]
    rfl

/-- A union spells the same kinds, whether it is written with bars or by its name. -/
theorem kindsOfLeaves_bars : (bars ds).kindsOfLeaves s = (union ds).kindsOfLeaves s := by
  rw [kindsOfLeaves, kindsOfLeaves, leaves, leaves]

/-- An optional hint spells the kinds that its union with nothing does. -/
theorem kindsOfLeaves_optional :
    (optional d).kindsOfLeaves s = (union [d, .nothing]).kindsOfLeaves s := by
  rw [kindsOfLeaves, kindsOfLeaves, leaves, leaves, leavesOfAll, leavesOfAll, leavesOfAll,
    leaves_of_not_isUnion (d := .nothing) rfl, List.append_nil]

/-- **Rephrased hints.** Hints that rephrase each other spell the same kinds. -/
theorem Rephrases.sameKinds (h : d.Rephrases e) (s : Store) :
    SameKinds (d.kindsOfLeaves s) (e.kindsOfLeaves s) := by
  intro k
  induction h with
  | refl => exact Iff.rfl
  | symm _ ih => exact ih.symm
  | trans _ _ ih ih' => exact ih.trans ih'
  | reorder hperm =>
    rw [mem_kindsOfLeaves_union, mem_kindsOfLeaves_union]
    simp only [hperm.mem_iff]
  | regroup before ds after =>
    simp only [mem_kindsOfLeaves_union, List.mem_append, List.mem_cons, or_and_right, exists_or,
      exists_eq_left, or_assoc]
  | @duplicate d ds hd =>
    rw [mem_kindsOfLeaves_union, mem_kindsOfLeaves_union, List.exists_mem_cons_iff]
    exact or_iff_right_of_imp fun hk => ⟨d, hd, hk⟩
  | single d => simp [mem_kindsOfLeaves_union]
  | bars ds => rw [kindsOfLeaves_bars]
  | optional d => rw [kindsOfLeaves_optional]
  | member before after _ ih =>
    simp only [mem_kindsOfLeaves_union, List.mem_append, List.mem_cons, or_and_right, exists_or,
      exists_eq_left, ih]
  | argument name before after _ _ | part before after _ _ =>
    -- What stands in brackets is no leaf: only the class in front of them counts.
    rw [kindsOfLeaves, kindsOfLeaves, leaves_of_not_isUnion rfl, leaves_of_not_isUnion rfl]
    rfl

/-- The hints that are made of hints that rephrase each other accept the same. -/
theorem Rephrases.sameKinds_of_makeHint {w : World} {x y : Hint} (h : d.Rephrases e)
    (hx : Host.makeHint d w = (.ok x, w)) (hy : Host.makeHint e w = (.ok y, w)) :
    SameKinds x.kinds y.kinds := by
  intro k
  rw [mem_kinds_of_makeHint hx, mem_kinds_of_makeHint hy]
  exact h.sameKinds w.store k

end HintDecl

/-! ### Parameters -/

/-- The text of a hint that is not read before a signature is. -/
def Hint.text? : Hint → Option String
  | .written t => some t
  | _ => none

namespace Param

variable {p q : Param}

/-- The text that is to be read as a hint, if the parameter has one. -/
def text? (p : Param) : Option String := p.hint.bind Hint.text?

/-- Whether two parameters are the same, but for hints that rephrase each other. A text is no hint
    before it is read. -/
inductive Rephrases : Param → Param → Prop where
  | same (p : Param) : Rephrases p p
  | hint (p : Param) {w : World} {d e : HintDecl} {x y : Hint} :
      d.Rephrases e → Host.makeHint d w = (.ok x, w) → Host.makeHint e w = (.ok y, w) →
      x.text? = none → y.text? = none →
      Rephrases { p with hint := some x } { p with hint := some y }

/-- Whether two parameters take the same arguments. -/
structure Alike (p q : Param) : Prop where
  name : p.name = q.name
  form : p.form = q.form
  fallback : p.fallback = q.fallback
  text : p.text? = q.text?
  kinds : SameKinds (Store.acceptedKinds p) (Store.acceptedKinds q)

/-- Rephrasing a hint can be undone, and so can rephrasing a parameter. -/
theorem Rephrases.symm (h : p.Rephrases q) : q.Rephrases p := by
  cases h with
  | same => exact .same p
  | hint p hd hx hy hxt hyt => exact .hint p hd.symm hy hx hyt hxt

/-- A parameter takes the same arguments when its hint is rephrased. -/
theorem Rephrases.alike (h : p.Rephrases q) : p.Alike q := by
  cases h with
  | same => exact ⟨rfl, rfl, rfl, rfl, fun _ => Iff.rfl⟩
  | hint p hd hx hy hxt hyt =>
    exact ⟨rfl, rfl, rfl, hxt.trans hyt.symm, hd.sameKinds_of_makeHint hx hy⟩

/-- Parameters take the same arguments as they do themselves. -/
theorem forall₂_alike_self (ps : List Param) : List.Forall₂ Alike ps ps :=
  List.forall₂_same.2 fun p _ => (Rephrases.same p).alike

/-- Whether a parameter takes arguments by position is told by its form. -/
theorem Alike.takesPosition (h : p.Alike q) : p.takesPosition = q.takesPosition := by
  rw [Param.takesPosition, h.form, Param.takesPosition]

/-- Parameters still take the same arguments once hints that are texts have been read. -/
theorem Alike.readParam (h : p.Alike q) (read : List (String × Hint)) :
    (Store.readParam read p).Alike (Store.readParam read q) := by
  unfold Store.readParam
  rw [h.name]
  split
  · exact ⟨rfl, h.form, h.fallback, rfl, fun _ => Iff.rfl⟩
  · exact h

end Param

/-! ### Signatures -/

namespace Signature

variable {a b : Signature} {ps? qs? : Option (List Param)}

/-- Whether two signatures take the same arguments. -/
inductive Alike : Signature → Signature → Prop where
  | unreadable : Alike .unreadable .unreadable
  | unreachable : Alike .unreachable .unreachable
  | takes {ps qs : List (List Kind)} : List.Forall₂ SameKinds ps qs → Alike (.takes ps) (.takes qs)

/-- A signature takes the same arguments as it does itself. -/
theorem Alike.refl (a : Signature) : a.Alike a := by
  cases a with
  | unreadable => exact .unreadable
  | unreachable => exact .unreachable
  | takes ps => exact .takes (List.forall₂_same.2 fun _ _ _ => Iff.rfl)

/-- Signatures that are alike are open to the same arguments. -/
theorem Alike.admits_iff (h : a.Alike b) {s : Store} {kinds : List Kind} :
    a.Admits s kinds ↔ b.Admits s kinds := by
  cases h with
  | unreadable | unreachable => exact Iff.rfl
  | takes h =>
    show List.Forall₂ _ kinds _ ↔ List.Forall₂ _ kinds _
    induction h generalizing kinds with
    | nil => exact Iff.rfl
    | cons hsame _ ih =>
      cases kinds with
      | nil => simp
      | cons kind kinds =>
        rw [List.forall₂_cons, List.forall₂_cons, ih]
        simp only [hsame _]

/-- Signatures that are alike have as many parameters. -/
theorem Alike.arity_eq (h : a.Alike b) : a.arity = b.arity := by
  cases h with
  | unreadable | unreachable => rfl
  | takes h => simp [arity, params?, h.length_eq]

/-- Parameters that take the same arguments tell signatures that are alike. -/
theorem alike_positional {ps qs : List Param} (h : List.Forall₂ Param.Alike ps qs) :
    (Store.positionalSignature ps).Alike (Store.positionalSignature qs) := by
  have hany : (ps.any fun p => decide (p.form = .named ∧ p.fallback.isNone)) =
      qs.any fun q => decide (q.form = .named ∧ q.fallback.isNone) := by
    induction h with
    | nil => rfl
    | cons hpq _ ih => rw [List.any_cons, List.any_cons, ih, hpq.form, hpq.fallback]
  unfold Store.positionalSignature
  rw [hany]
  split
  · exact .unreachable
  · refine .takes (List.rel_map (fun _ _ hpq => hpq.kinds) (List.rel_filter ?_ h))
    intro p q hpq
    show p.takesPosition = true ↔ q.takesPosition = true
    rw [hpq.takesPosition]

/-- What is read off parameters that take the same arguments is alike. -/
theorem Reads.alike (ha : a.Reads ps?) (hb : b.Reads qs?)
    (h : Option.Rel (List.Forall₂ Param.Alike) ps? qs?) : a.Alike b := by
  obtain rfl := reads_iff.1 ha
  obtain rfl := reads_iff.1 hb
  cases h with
  | none => exact .unreadable
  | some h => exact alike_positional h

end Signature

namespace Store

variable {s t : Store} {ps qs : List Param}

/-! ### Reading hints -/

/-- What tells in what order hints are read, and what there is to be read. -/
def readingOrder (params : List Param) : List (String × ParamForm × Option String) :=
  (params.map fun p => (p.name, p.form, p.text?)).mergeSort
    fun a b => readingRank a.2.1 ≤ readingRank b.2.1

/-- The hints that are written depend on no other hints. -/
theorem writtenHints_eq (params : List Param) :
    writtenHints params = (readingOrder params).filterMap fun p => p.2.2.map (p.1, ·) := by
  -- The order only looks at forms, so names, forms and texts can be taken out before sorting.
  have hsort := List.map_mergeSort (r := fun a b : Param => readingRank a.form ≤ readingRank b.form)
    (s := fun a b => readingRank a.2.1 ≤ readingRank b.2.1)
    (f := fun p => (p.name, p.form, p.text?)) (l := params) fun a _ b _ => rfl
  rw [readingOrder, ← hsort, List.filterMap_map, writtenHints]
  congr 1
  funext p
  rcases p with ⟨name, form, _ | hint, fallback⟩
  · rfl
  · cases hint <;> rfl

/-- Parameters that take the same arguments have the same texts to be read. -/
theorem writtenHints_alike (h : List.Forall₂ Param.Alike ps qs) :
    writtenHints ps = writtenHints qs := by
  have hmap : (ps.map fun p => (p.name, p.form, p.text?)) =
      qs.map fun q => (q.name, q.form, q.text?) := by
    induction h with
    | nil => rfl
    | cons hpq _ ih => rw [List.map_cons, List.map_cons, ih, hpq.name, hpq.form, hpq.text]
  rw [writtenHints_eq, writtenHints_eq, readingOrder, readingOrder, hmap]

/-- Reading the texts among the hints gives the same, since there are the same texts in the same
    order. -/
theorem readHints_alike (h : List.Forall₂ Param.Alike ps qs) :
    s.readHints ps = s.readHints qs := by
  rw [readHints, readHints, writtenHints_alike h]

/-- **Reading hints.** Parameters that take the same arguments can be read alike, and then take the
    same. -/
theorem readParams?_alike (h : List.Forall₂ Param.Alike ps qs) :
    Option.Rel (List.Forall₂ Param.Alike) (s.readParams? ps) (s.readParams? qs) := by
  unfold readParams?
  rw [readHints_alike h]
  split
  next read _ => exact .some (List.rel_map (fun _ _ hpq => hpq.readParam read) h)
  next =>
    split
    · exact .some h
    · exact .none

/-- Reading the hints ends in the same error, if it does. -/
theorem hintFailure?_alike (h : List.Forall₂ Param.Alike ps qs) :
    s.hintFailure? ps = s.hintFailure? qs := by
  rw [hintFailure?, readHints_alike h, hintFailure?]

/-! ### Receivers -/

/-- The receiver is the first parameter in both lists, or in neither. -/
theorem withoutReceiver_alike (h : List.Forall₂ Param.Alike ps qs) :
    List.Forall₂ Param.Alike (withoutReceiver ps) (withoutReceiver qs) := by
  cases h with
  | nil => exact .nil
  | @cons p q ps qs hpq h =>
    show List.Forall₂ Param.Alike (if p.takesPosition then ps else p :: ps)
      (if q.takesPosition then qs else q :: qs)
    rw [hpq.takesPosition]
    split
    · exact h
    · exact .cons hpq h

/-- The receiver can be taken off both lists, or off neither. -/
theorem dropReceiver?_alike (h : List.Forall₂ Param.Alike ps qs) :
    Option.Rel (List.Forall₂ Param.Alike) (dropReceiver? ps) (dropReceiver? qs) := by
  cases h with
  | nil => exact .none
  | @cons p q ps qs hpq h =>
    simp only [dropReceiver?, hpq.takesPosition, hpq.form]
    split
    · exact .some h
    · split
      · exact .some (.cons hpq h)
      · exact .none

end Store

/-! ### Stores -/

section Related

variable {α β γ δ : Type} {R : α → β → Prop} {S : γ → δ → Prop} {x : Option α} {y : Option β}

/-- What is related to something is something. -/
theorem exists_of_rel_some {a : α} (h : Option.Rel R (some a) y) : ∃ b, y = some b ∧ R a b := by
  cases h with
  | some hab => exact ⟨_, rfl, hab⟩

theorem rel_option_map {f : α → γ} {g : β → δ} (h : Option.Rel R x y)
    (hfg : ∀ a b, R a b → S (f a) (g b)) : Option.Rel S (x.map f) (y.map g) := by
  cases h with
  | none => exact .none
  | some hab => exact .some (hfg _ _ hab)

/-- Going on from related results gives related results, if it does so from each. -/
theorem rel_option_bind {f : α → Option γ} {g : β → Option δ} (h : Option.Rel R x y)
    (hfg : ∀ a b, R a b → Option.Rel S (f a) (g b)) : Option.Rel S (x.bind f) (y.bind g) := by
  cases h with
  | none => exact .none
  | some hab => exact hfg _ _ hab

/-- Where each of two related results leads to the same, the whole does. -/
theorem bind_eq_of_rel {f : α → Option γ} {g : β → Option γ} (h : Option.Rel R x y)
    (hfg : ∀ a b, R a b → f a = g b) : x.bind f = y.bind g := by
  cases h with
  | none => rfl
  | some hab => exact hfg _ _ hab

/-- Taking two related results apart gives related values. -/
theorem rel_option_elim {S : γ → δ → Prop} {c : γ} {d : δ} {f : α → γ} {g : β → δ}
    (h : Option.Rel R x y) (hcd : S c d) (hfg : ∀ a b, R a b → S (f a) (g b)) :
    S (x.elim c f) (y.elim d g) := by
  cases h with
  | none => exact hcd
  | some hab => exact hfg _ _ hab

theorem rel_option_getD {a : α} {b : β} (h : Option.Rel R x y) (hab : R a b) :
    R (x.getD a) (y.getD b) := by
  cases h with
  | none => exact hab
  | some h => exact h

theorem isSome_of_rel (h : Option.Rel R x y) : x.isSome = y.isSome := by
  cases h <;> rfl

/-- What is looked for in a list is related if what each place gives is. -/
theorem rel_findSome? {ι : Type} {f : ι → Option α} {g : ι → Option β}
    (hfg : ∀ i, Option.Rel R (f i) (g i)) (l : List ι) :
    Option.Rel R (l.findSome? f) (l.findSome? g) := by
  induction l with
  | nil => exact .none
  | cons i rest ih =>
    rw [List.findSome?_cons, List.findSome?_cons]
    have hi := hfg i
    generalize f i = x at hi ⊢
    generalize g i = y at hi ⊢
    cases hi with
    | none => exact ih
    | some hab => exact .some hab

end Related

/-- Whether the contents of two objects are the same, but for hints of parameters. -/
inductive Body.Rephrases : Body → Body → Prop where
  | same (b : Body) : Rephrases b b
  | function (f : Function) {params : List Param} : List.Forall₂ Param.Rephrases f.params params →
      Rephrases (.function f) (.function { f with params })

/-- Whether two objects are the same, but for hints of parameters. -/
def Object.Rephrases (o p : Object) : Prop :=
  ∃ body, o.body.Rephrases body ∧ p = { o with body }

/-- Whether two stores have the same classes and the same objects, but for hints of parameters. -/
structure Store.Rephrases (s t : Store) : Prop where
  objects : ∀ v, Option.Rel Object.Rephrases (s.deref? v) (t.deref? v)
  classes : s.classes = t.classes
  library : s.library = t.library

/-- Functions whose parameters rephrase each other do so both ways. -/
theorem Body.Rephrases.symm {a b : Body} (h : a.Rephrases b) : b.Rephrases a := by
  cases h with
  | same => exact .same a
  | function f h =>
    exact .function { f with params := _ } (h.imp fun _ _ => Param.Rephrases.symm).flip

theorem Object.Rephrases.symm {o p : Object} (h : o.Rephrases p) : p.Rephrases o := by
  obtain ⟨body, hbody, rfl⟩ := h
  exact ⟨o.body, hbody.symm, rfl⟩

namespace Store.Rephrases

variable {s t : Store} {v : Value} {k : Kind}

/-- Two stores rephrase each other both ways. -/
theorem symm (h : s.Rephrases t) : t.Rephrases s where
  objects v := by
    have hv := h.objects v
    generalize s.deref? v = x at hv ⊢
    generalize t.deref? v = y at hv ⊢
    cases hv with
    | none => exact .none
    | some ho => exact .some ho.symm
  classes := h.classes.symm
  library := h.library.symm

/-! ### What depends on the classes only -/

/-- One store is the other with other objects. -/
theorem exists_eq (h : s.Rephrases t) :
    ∃ objects scopes stamps, t = { s with objects, scopes, stamps } := by
  obtain ⟨-, hclasses, hlibrary⟩ := h
  refine ⟨t.objects, t.scopes, t.stamps, ?_⟩
  rw [hclasses, hlibrary]

theorem isAssignable_eq (h : s.Rephrases t) : s.isAssignable = t.isAssignable := by
  obtain ⟨objects, scopes, stamps, rfl⟩ := h.exists_eq
  rfl

theorem hintNames_eq (h : s.Rephrases t) : s.hintNames = t.hintNames := by
  obtain ⟨objects, scopes, stamps, rfl⟩ := h.exists_eq
  rfl

theorem declarations_eq (h : s.Rephrases t) : s.declarations = t.declarations := by
  obtain ⟨objects, scopes, stamps, rfl⟩ := h.exists_eq
  rfl

/-- Who makes instances is told along a line of classes, by what stands in them. -/
theorem maker?_eq (h : s.Rephrases t) (name : String) (own : LibraryKind → Bool)
    (line : List Kind) :
    s.maker? name own line = t.maker? name own line := by
  obtain ⟨objects, scopes, stamps, rfl⟩ := h.exists_eq
  induction line with
  | nil => rfl
  | cons k rest ih =>
    unfold maker?
    rw [ih]
    rfl

theorem lineage_eq (h : s.Rephrases t) : s.lineage = t.lineage := by
  obtain ⟨objects, scopes, stamps, rfl⟩ := h.exists_eq
  rfl

theorem libraryLineage_eq (h : s.Rephrases t) : s.libraryLineage = t.libraryLineage := by
  obtain ⟨objects, scopes, stamps, rfl⟩ := h.exists_eq
  rfl

theorem allocator?_eq (h : s.Rephrases t) : s.allocator? = t.allocator? :=
  funext fun line => h.maker?_eq "__new__" allocates line

theorem initialiser?_eq (h : s.Rephrases t) : s.initialiser? = t.initialiser? :=
  funext fun line => h.maker?_eq "__init__" initialises line

theorem definesMaker_eq (h : s.Rephrases t) (name : String) (own : LibraryKind → Bool) :
    s.definesMaker name own k = t.definesMaker name own k := by
  rw [definesMaker, h.maker?_eq, definesMaker]

/-! ### Functions -/

/-- A value holds the same in both stores, but for hints of parameters. -/
theorem body? (h : s.Rephrases t) (v : Value) :
    Option.Rel Body.Rephrases (s.body? v) (t.body? v) := by
  refine rel_option_map (h.objects v) ?_
  rintro o _ ⟨body, hbody, rfl⟩
  exact hbody

/-- A value has the same name for scripts. -/
theorem exposedName?_eq (h : s.Rephrases t) (v : Value) : s.exposedName? v = t.exposedName? v := by
  have hv := h.objects v
  unfold exposedName?
  generalize s.deref? v = x at hv ⊢
  generalize t.deref? v = y at hv ⊢
  cases hv with
  | none => rfl
  | some ho =>
    obtain ⟨body, -, rfl⟩ := ho
    rfl

/-- What is no function is the same. -/
theorem body?_eq_some {b : Body} (h : s.Rephrases t) (hb : s.body? v = some b)
    (hno : ∀ f, b ≠ .function f) : t.body? v = some b := by
  obtain ⟨b', hb', hbody⟩ := exists_of_rel_some (hb ▸ h.body? v)
  cases hbody with
  | same => exact hb'
  | function f => exact absurd rfl (hno f)

/-- What is a function is one with parameters that take the same arguments. -/
theorem exists_body?_function {f : Function} (h : s.Rephrases t)
    (hb : s.body? v = some (.function f)) :
    ∃ g, t.body? v = some (.function g) ∧ List.Forall₂ Param.Alike f.params g.params := by
  obtain ⟨b, hb', hbody⟩ := exists_of_rel_some (hb ▸ h.body? v)
  cases hbody with
  | same => exact ⟨f, hb', Param.forall₂_alike_self f.params⟩
  | function f hparams => exact ⟨_, hb', hparams.imp fun _ _ => Param.Rephrases.alike⟩

/-- The functions behind a value take the same arguments. -/
theorem function? (h : s.Rephrases t) (v : Value) :
    Option.Rel (fun f g => List.Forall₂ Param.Alike f.params g.params) (s.function? v)
      (t.function? v) := by
  cases hf : s.function? v with
  | some f =>
    obtain ⟨g, hg, hparams⟩ := h.exists_body?_function (function?_eq_some_iff.1 hf)
    rw [function?_eq_some_iff.2 hg]
    exact .some hparams
  | none =>
    cases hg : t.function? v with
    | none => exact .none
    | some g =>
      -- Where there is a function in one store, there is one in the other.
      obtain ⟨f, hf', -⟩ := h.symm.exists_body?_function (function?_eq_some_iff.1 hg)
      rw [function?_eq_some_iff.2 hf'] at hf
      cases hf

/-- Parameters are read alike. -/
theorem readParams? {ps qs : List Param} (h : s.Rephrases t)
    (hpq : List.Forall₂ Param.Alike ps qs) :
    Option.Rel (List.Forall₂ Param.Alike) (s.readParams? ps) (t.readParams? qs) := by
  have hread : s.readParams? ps = t.readParams? ps := by
    rw [Store.readParams?, readHints, h.hintNames_eq]
    rfl
  rw [hread]
  exact readParams?_alike hpq

/-- The hints of parameters that take the same arguments fail in the same way in both stores. -/
theorem hintFailure?_eq {ps qs : List Param} (h : s.Rephrases t)
    (hpq : List.Forall₂ Param.Alike ps qs) : s.hintFailure? ps = t.hintFailure? qs := by
  rw [← hintFailure?_alike hpq, hintFailure?, readHints, h.hintNames_eq]
  rfl

/-! ### Members -/

/-- What an entry is when it is called is the same, but for a signature that is alike. -/
theorem exists_holds {owner : Kind} {attr : String} {e : ClassEntry} {c : Callable}
    (h : s.Rephrases t) (hc : s.Holds owner attr e c) :
    ∃ signature, t.Holds owner attr e { c with signature } ∧ c.signature.Alike signature := by
  -- What is native is the same in both stores. What is declared is read from parameters that are
  -- alike.
  cases hc with
  | method => exact ⟨_, .method, .refl _⟩
  | static => exact ⟨_, .static, .refl _⟩
  | native hps => exact ⟨_, .native hps, .refl _⟩
  | function hb hr =>
    obtain ⟨g, hg, hparams⟩ := h.exists_body?_function hb
    rw [h.exposedName?_eq]
    refine ⟨_, .function hg (t.reads_methodSignature _), hr.alike (t.reads_methodSignature _) ?_⟩
    exact rel_option_map (h.readParams? hparams) fun _ _ => withoutReceiver_alike
  | staticMethod hb hf hr =>
    obtain ⟨g, hg, hparams⟩ := exists_of_rel_some (hf ▸ h.function? _)
    have hmarked := h.body?_eq_some hb (by simp)
    rw [h.exposedName?_eq]
    exact ⟨_, .staticMethod hmarked hg (t.reads_plainSignature _),
      hr.alike (t.reads_plainSignature _) (h.readParams? hparams)⟩
  | classMethod hb hf hr =>
    obtain ⟨g, hg, hparams⟩ := exists_of_rel_some (hf ▸ h.function? _)
    have hmarked := h.body?_eq_some hb (by simp)
    rw [h.exposedName?_eq]
    refine ⟨_, .classMethod hmarked hg (t.reads_boundSignature _),
      hr.alike (t.reads_boundSignature _) ?_⟩
    exact rel_option_bind (h.readParams? hparams) fun _ _ => dropReceiver?_alike

/-- The same arguments can be passed. -/
theorem admits_iff {signature : Signature} {kinds : List Kind} (h : s.Rephrases t) :
    signature.Admits s kinds ↔ signature.Admits t kinds := by
  unfold Signature.Admits
  rw [h.isAssignable_eq]

/-- A call that an entry answers in one store is answered by the same entry in the other, with the
    same record. -/
theorem answers {name : Key} {kinds : List Kind} {d : Declaration} {r : MethodRecord}
    (h : s.Rephrases t) (ha : s.Answers name kinds d r) : t.Answers name kinds d r := by
  obtain ⟨c, hc, hv, hname, hadmits, rfl⟩ := ha
  obtain ⟨signature, hc', halike⟩ := h.exists_holds hc
  refine ⟨_, hc', hv, hname, ?_, by rw [halike.arity_eq]; rfl⟩
  exact h.admits_iff.1 (halike.admits_iff.1 hadmits)

/-- **Members.** An entry answers the same calls. -/
theorem answers_iff {name : Key} {kinds : List Kind} {d : Declaration} {r : MethodRecord}
    (h : s.Rephrases t) : s.Answers name kinds d r ↔ t.Answers name kinds d r :=
  ⟨h.answers, h.symm.answers⟩

/-- The same member is chosen, if one is: the first of all entries that answer is. -/
theorem found?_method (h : s.Rephrases t) (name : Key) (kinds : List Kind) :
    (Inquiry.method k name kinds).found? s = (Inquiry.method k name kinds).found? t := by
  have hrecord : (s.discover? k name kinds).map Member.record =
      (t.discover? k name kinds).map Member.record := by
    apply Option.ext
    intro r
    rw [discover?_record_iff, discover?_record_iff, AnswersFirst, AnswersFirst, h.declarations_eq]
    simp only [h.answers_iff]
  have hfound := congrArg (Option.map Finding.method) hrecord
  rw [Option.map_map, Option.map_map] at hfound
  exact hfound

/-- The parameters behind an entry take the same arguments. -/
theorem entryParams (h : s.Rephrases t) (v : Value) :
    List.Forall₂ Param.Alike (s.entryParams v) (t.entryParams v) := by
  have hparams (v : Value) : List.Forall₂ Param.Alike ((s.function? v).elim [] (·.params))
      ((t.function? v).elim [] (·.params)) :=
    rel_option_elim (h.function? v) .nil fun _ _ hfg => hfg
  have hv := h.body? v
  unfold Store.entryParams
  generalize s.body? v = x at hv ⊢
  generalize t.body? v = y at hv ⊢
  cases hv with
  | none => exact hparams v
  | some hbody =>
    cases hbody with
    | same => exact hparams _
    | function => exact hparams v

/-- An entry whose hints cannot be read in one store fails with the same error in the other. -/
theorem failsWith {d : Declaration} {e : LibraryKind} (h : s.Rephrases t) (hd : s.FailsWith d e) :
    t.FailsWith d e := by
  obtain ⟨v, c, hentry, hc, hv, hfail⟩ := hd
  obtain ⟨signature, hc', -⟩ := h.exists_holds hc
  exact ⟨v, _, hentry, hc', hv, (h.hintFailure?_eq (h.entryParams v)).symm.trans hfail⟩

/-- Looking for a member ends in the same error, if it does. -/
theorem failure?_method (h : s.Rephrases t) (name : Key) (kinds : List Kind) :
    (Inquiry.method k name kinds).failure? s = (Inquiry.method k name kinds).failure? t := by
  apply Option.ext
  intro e
  have hfails (d : Declaration) (e : LibraryKind) : s.FailsWith d e ↔ t.FailsWith d e :=
    ⟨h.failsWith, h.symm.failsWith⟩
  show s.methodsFailure? k = some e ↔ t.methodsFailure? k = some e
  rw [methodsFailure?_eq_some_iff, methodsFailure?_eq_some_iff, FailsFirst, FailsFirst,
    h.declarations_eq]
  simp only [hfails]

/-! ### Constructors -/

/-- The signatures of a bound function are alike, since its receiver is taken off in both stores. -/
theorem boundSignature {ps qs : List Param} (h : s.Rephrases t)
    (hpq : List.Forall₂ Param.Alike ps qs) : (s.boundSignature ps).Alike (t.boundSignature qs) :=
  (s.reads_boundSignature ps).alike (t.reads_boundSignature qs)
    (rel_option_bind (h.readParams? hpq) fun _ _ => dropReceiver?_alike)

/-- The signatures of an entry that makes instances are alike. -/
theorem entrySignature (h : s.Rephrases t) (v : Value) :
    (s.entrySignature v).Alike (t.entrySignature v) := by
  have hv := h.body? v
  unfold Store.entrySignature
  -- The two bodies are related by cases, which rewriting under the match would hide.
  generalize s.body? v = x at hv ⊢
  generalize t.body? v = y at hv ⊢
  cases hv with
  | none => exact .unreadable
  | @some b _ hbody =>
    cases hbody with
    | function f hparams => exact h.boundSignature (hparams.imp fun _ _ => Param.Rephrases.alike)
    | same =>
      cases b with
      | function f => exact h.boundSignature (Param.forall₂_alike_self f.params)
      | staticMethod v =>
        exact rel_option_elim (h.function? v) .unreadable fun _ _ hfg => h.boundSignature hfg
      | classMethod v =>
        refine rel_option_elim (h.function? v) .unreadable fun f g hfg => ?_
        have hdrop := dropReceiver?_alike hfg
        generalize dropReceiver? f.params = ps at hdrop ⊢
        generalize dropReceiver? g.params = qs at hdrop ⊢
        cases hdrop with
        | none => exact .unreadable
        | some hpq => exact h.boundSignature hpq
      | _ => exact .unreadable

/-- What makes instances has signatures that are alike, if it has one at all. -/
theorem makerSignature? (h : s.Rephrases t) (isAllocator : Bool) (m : Maker) :
    Option.Rel Signature.Alike (s.makerSignature? isAllocator m)
      (t.makerSignature? isAllocator m) := by
  have hsame (x : Option Signature) : Option.Rel Signature.Alike x x := by
    cases x with
    | none => exact .none
    | some a => exact .some (.refl a)
  cases m with
  | library l => exact hsame _
  | declared v =>
    cases v with
    | none => exact .none
    | native f =>
      obtain ⟨_ | l, name⟩ := f
      · exact .some (h.entrySignature _)
      · exact hsame _
    | _ => exact .some (h.entrySignature _)

/-- The signatures of the definitions that are found in a class are alike. -/
theorem madeSignature (h : s.Rephrases t) (isAllocator : Bool) (m : Option Maker) :
    Option.Rel Signature.Alike (m.bind (s.makerSignature? isAllocator))
      (m.bind (t.makerSignature? isAllocator)) := by
  cases m with
  | none => exact .none
  | some m => exact h.makerSignature? isAllocator m

/-- The signatures by which instances of a class are made are alike. -/
theorem constructorSignature (h : s.Rephrases t) (k : Kind) :
    (s.constructorSignature k).Alike (t.constructorSignature k) := by
  -- Where a definition stands depends on the classes only, so both stores read the same one.
  have hnew := h.madeSignature true (s.allocator? (s.lineage k))
  have hinit := h.madeSignature false (s.initialiser? (s.lineage k))
  unfold Store.constructorSignature
  rw [← h.lineage_eq, ← h.allocator?_eq, ← h.initialiser?_eq, ← h.libraryLineage_eq]
  refine rel_option_getD (rel_findSome? (fun owner => ?_) _) (.refl _)
  rw [isSome_of_rel hnew, isSome_of_rel hinit, h.definesMaker_eq, h.definesMaker_eq]
  split
  · exact hnew
  · split
    · exact hinit
    · exact .none

/-- Looking for a constructor ends in the same error, if it does. -/
theorem failure?_constructor (h : s.Rephrases t) (kinds : List Kind) :
    (Inquiry.constructor k kinds).failure? s = (Inquiry.constructor k kinds).failure? t := by
  have hnew := h.madeSignature true (s.allocator? (s.lineage k))
  have hinit := h.madeSignature false (s.initialiser? (s.lineage k))
  show s.constructorFailure? k = t.constructorFailure? k
  unfold constructorFailure?
  rw [← h.lineage_eq, ← h.allocator?_eq, ← h.initialiser?_eq]
  refine bind_eq_of_rel (rel_findSome? (fun owner => ?_) _) fun ps qs hpq => h.hintFailure?_eq hpq
  rw [isSome_of_rel hnew, isSome_of_rel hinit, h.definesMaker_eq, h.definesMaker_eq]
  -- Only a definition that was declared has hints that can fail.
  split
  · refine .some ?_
    rcases s.allocator? (s.lineage k) with _ | v | l
    · exact .nil
    · exact h.entryParams v
    · exact .nil
  · split
    · refine .some ?_
      rcases s.initialiser? (s.lineage k) with _ | v | l
      · exact .nil
      · exact h.entryParams v
      · exact .nil
    · exact .none

/-- The same member is chosen of a single one with signatures that are alike. -/
theorem find?_memberOf? {a b : Signature} (h : s.Rephrases t) (hab : a.Alike b) (m : Member)
    (kinds : List Kind) :
    ((memberOf? a m).toList.find? (s.applies kinds)).map Member.record =
      ((memberOf? b m).toList.find? (t.applies kinds)).map Member.record := by
  have hadmits : a.Admits s kinds ↔ b.Admits t kinds := hab.admits_iff.trans h.admits_iff
  cases hab with
  -- Such a signature belongs to no member.
  | unreadable | unreachable => rfl
  | @takes ps qs hpq =>
    have happlies : s.applies kinds { m with params := some ps } =
        t.applies kinds { m with params := some qs } := by
      have hs : s.applies kinds { m with params := some ps } = true ↔
          (Signature.takes ps).Admits s kinds := applies_iff rfl nofun
      have ht : t.applies kinds { m with params := some qs } = true ↔
          (Signature.takes qs).Admits t kinds := applies_iff rfl nofun
      rw [Bool.eq_iff_iff, hs, ht]
      exact hadmits
    show (List.find? _ [{ m with params := some ps }]).map _ =
      (List.find? _ [{ m with params := some qs }]).map _
    rw [List.find?_singleton, List.find?_singleton, happlies]
    split
    · simp [Member.record, Member.arity, hpq.length_eq]
    · rfl

/-- The same constructor is chosen, if one is. -/
theorem found?_constructor (h : s.Rephrases t) (kinds : List Kind) :
    (Inquiry.constructor k kinds).found? s = (Inquiry.constructor k kinds).found? t := by
  have hrecord := congrArg (Option.map Finding.method)
    (h.find?_memberOf? (h.constructorSignature k)
      { name := Key.newInstance.name, attr := "__init__", handle := .kind k, owner := k,
        isStatic := true, params := none } kinds)
  rw [Option.map_map, Option.map_map] at hrecord
  exact hrecord

end Store.Rephrases

/-! ### What is accepted -/

section Accepting

variable {s : Store} {arg : Kind}

/-- Of arguments, a hint accepts what one of its leaves does. -/
theorem Hint.accepts_iff {h : Hint} : (∃ k ∈ h.kinds, s.isAssignable arg k) ↔
    ∃ l, h.HasLeaf l ∧ ∃ k ∈ l.kinds, s.isAssignable arg k := by
  simp only [Hint.mem_kinds_iff (h := h)]
  constructor
  · rintro ⟨k, ⟨l, hl, hk⟩, harg⟩
    exact ⟨l, hl, k, hk, harg⟩
  · rintro ⟨l, hl, k, hk, harg⟩
    exact ⟨k, ⟨l, hl, hk⟩, harg⟩

/-- Of arguments, a hint that is made accepts what one of the leaves it was written with does. -/
theorem HintDecl.accepts_iff_of_makeHint {d : HintDecl} {w u : World} {x : Hint}
    (h : Host.makeHint d w = (.ok x, u)) : (∃ k ∈ x.kinds, s.isAssignable arg k) ↔
      ∃ l ∈ d.leaves, ∃ y, Host.makeHint l w = (.ok y, w) ∧
        ∃ k ∈ y.kinds, s.isAssignable arg k := by
  obtain ⟨-, -, hkinds⟩ := leaves_of_makeHint h
  simp only [hkinds]
  constructor
  · rintro ⟨k, ⟨l, hl, y, hy, hk⟩, harg⟩
    exact ⟨l, hl, y, hy, k, hk, harg⟩
  · rintro ⟨l, hl, y, hy, k, hk, harg⟩
    exact ⟨k, ⟨l, hl, y, hy, hk⟩, harg⟩

/-- Hints that rephrase each other are made into hints that accept the same arguments. -/
theorem HintDecl.Rephrases.accepts_iff {d e : HintDecl} {w : World} {x y : Hint}
    (h : d.Rephrases e) (hx : Host.makeHint d w = (.ok x, w))
    (hy : Host.makeHint e w = (.ok y, w)) :
    (∃ k ∈ x.kinds, s.isAssignable arg k) ↔ ∃ k ∈ y.kinds, s.isAssignable arg k := by
  have hsame := h.sameKinds_of_makeHint hx hy
  simp only [hsame _]

end Accepting

/-- **What a union accepts.** A hint accepts some kind, none twice, and of arguments what one of its
    leaves does. A hint that a program writes can be made only if its leaves can, and it accepts the
    kinds that they spell, and of arguments what one of them does. So hints that rephrase each other
    accept the same arguments, and where nothing but such hints differs, each entry of a class
    answers the same calls, and a search for a member or for a constructor fails with the same error
    or finds the same. -/
theorem leaves_decide_acceptance :
    (∀ (h : Hint) (s : Store) (arg : Kind), h.kinds ≠ [] ∧ h.kinds.Nodup ∧
      ((∃ k ∈ h.kinds, s.isAssignable arg k) ↔
        ∃ l, h.HasLeaf l ∧ ∃ k ∈ l.kinds, s.isAssignable arg k)) ∧
    (∀ (d : HintDecl) (w u : World) (x : Hint), Host.makeHint d w = (.ok x, u) →
      u = w ∧ (∀ l ∈ d.leaves, l.isUnion = false ∧ ∃ y, Host.makeHint l w = (.ok y, w)) ∧
      (∀ k, k ∈ x.kinds ↔ k ∈ d.kindsOfLeaves w.store) ∧
      ∀ (s : Store) (arg : Kind), (∃ k ∈ x.kinds, s.isAssignable arg k) ↔
        ∃ l ∈ d.leaves, ∃ y, Host.makeHint l w = (.ok y, w) ∧
          ∃ k ∈ y.kinds, s.isAssignable arg k) ∧
    (∀ (d e : HintDecl) (w : World) (x y : Hint), d.Rephrases e →
      Host.makeHint d w = (.ok x, w) → Host.makeHint e w = (.ok y, w) →
      ∀ (s : Store) (arg : Kind),
        (∃ k ∈ x.kinds, s.isAssignable arg k) ↔ ∃ k ∈ y.kinds, s.isAssignable arg k) ∧
    ∀ s t : Store, s.Rephrases t →
      (∀ name kinds d r, s.Answers name kinds d r ↔ t.Answers name kinds d r) ∧
      ∀ q : Inquiry, (∀ k name, q ≠ .field k name) →
        q.failure? s = q.failure? t ∧ q.found? s = q.found? t := by
  refine ⟨fun h s arg => ⟨?_, h.nodup_kinds, Hint.accepts_iff⟩, fun d w u x hx => ?_, ?_, ?_⟩
  · obtain ⟨k, hk⟩ := h.exists_mem_kinds
    exact List.ne_nil_of_mem hk
  · obtain ⟨hu, hleaves, -⟩ := HintDecl.leaves_of_makeHint hx
    exact ⟨hu, hleaves, fun k => HintDecl.mem_kinds_of_makeHint hx,
      fun s arg => HintDecl.accepts_iff_of_makeHint hx⟩
  · intro d e w x y hd hx hy s arg
    exact hd.accepts_iff hx hy
  · intro s t h
    refine ⟨fun name kinds d r => h.answers_iff, fun q hq => ?_⟩
    cases q with
    | method k name kinds => exact ⟨h.failure?_method name kinds, h.found?_method name kinds⟩
    | constructor k kinds => exact ⟨h.failure?_constructor kinds, h.found?_constructor kinds⟩
    | field k name => exact absurd rfl (hq k name)

/-! ### A hint that is written in two ways -/

/-- A number, a text or nothing, with nothing twice. -/
def nestedHint : HintDecl := .union [.optional (.kind "int"), .bars [.kind "str", .nothing]]

/-- The same in one union. -/
def flatHint : HintDecl := .union [.kind "str", .kind "int", .nothing]

/-- What the first is made into. -/
def nestedMade : Hint :=
  .union false (.kind (.library .int)) [.kind (.library .noneType), .kind (.library .text)]

/-- What the second is made into. -/
def flatMade : Hint :=
  .union false (.kind (.library .text)) [.kind (.library .int), .kind (.library .noneType)]

theorem nestedHint_rephrases : nestedHint.Rephrases flatHint := by
  have hforms : nestedHint.Rephrases
      (.union [.union [.kind "int", .nothing], .union [.kind "str", .nothing]]) :=
    (HintDecl.Rephrases.member [] _ (.optional _)).trans (.member [_] [] (.bars _))
  have hflat : nestedHint.Rephrases (.union [.kind "int", .nothing, .kind "str", .nothing]) :=
    (hforms.trans (.regroup [] _ _)).trans (.regroup [.kind "int", .nothing] _ [])
  have honce : (HintDecl.union [.nothing, .kind "str", .kind "int", .nothing]).Rephrases flatHint :=
    .duplicate (by simp)
  have hswap : ([.kind "int"] ++ [.nothing, .kind "str"] ++ [.nothing] : List HintDecl).Perm
      ([.nothing, .kind "str"] ++ [.kind "int"] ++ [.nothing]) :=
    List.perm_append_comm.append_right [HintDecl.nothing]
  exact (hflat.trans (.reorder hswap)).trans honce

/-- A class with a method that takes one argument. -/
def shelf (item : Hint) : Store where
  objects := #[
    { kind := .library .function,
      body :=
        .function ⟨"take", [⟨"self", .normal, none, none⟩, ⟨"item", .normal, some item, none⟩],
        .self, true, {}⟩ }]
  classes := #[
    { name := "Shelf", qualifiedName := "Shelf", home := some "host",
      bases := [.library .object], lineage := [.declared 0, .library .object],
      metaclass := .type, attrs := ⟨[("take", .object 0)]⟩ }]

theorem shelf_rephrases : (shelf nestedMade).Rephrases (shelf flatMade) where
  objects v := by
    have hparams : List.Forall₂ Param.Rephrases
        [⟨"self", .normal, none, none⟩, ⟨"item", .normal, some nestedMade, none⟩]
        [⟨"self", .normal, none, none⟩, ⟨"item", .normal, some flatMade, none⟩] :=
      .cons (.same _) (.cons (.hint ⟨"item", .normal, none, none⟩ (w := {}) nestedHint_rephrases
        rfl rfl rfl rfl) .nil)
    cases v with
    | object i =>
      cases i with
      | zero => exact .some ⟨_, .function _ hparams, rfl⟩
      | succ i => exact .none
    | _ => exact .none
  classes := rfl
  library := rfl

/-- The method answers a call with a number. -/
theorem shelf_answers : (shelf flatMade).Answers (.ofText "take") [.library .int]
    ⟨.declared 0, "take", .value (.object 0)⟩ ⟨"take", .object 0, .declared 0, false, 1⟩ := by
  let params : List Param :=
    [⟨"self", .normal, none, none⟩, ⟨"item", .normal, some flatMade, none⟩]
  have hread : (shelf flatMade).readHints params = .ok [] := by
    have hwritten : Store.writtenHints params = [] := by
      rw [Store.writtenHints]
      simp [params, List.filterMap_eq_nil_iff, flatMade]
    rw [Store.readHints, hwritten]
    rfl
  have hreads : (Signature.takes [flatMade.kinds]).Reads
      (((shelf flatMade).readParams? params).map withoutReceiver) := by
    rw [Signature.reads_iff, Store.readParams?, hread]
    rfl
  have hadmits : (Signature.takes [flatMade.kinds]).Admits (shelf flatMade) [.library .int] :=
    .cons ⟨.library .int, by decide, by decide +kernel⟩ .nil
  exact ⟨_, .function rfl hreads, .inr (by decide +kernel), rfl, hadmits, rfl⟩

/-- However the hint is written, the same is accepted, a number among it. -/
theorem acceptance_shelf :
    Host.makeHint nestedHint {} = (.ok nestedMade, {}) ∧
    Host.makeHint flatHint {} = (.ok flatMade, {}) ∧
    nestedMade.kinds = [.library .int, .library .noneType, .library .text] ∧
    flatMade.kinds = [.library .text, .library .int, .library .noneType] ∧
    (∀ l ∈ nestedHint.leaves, l.isUnion = false ∧ ∃ y, Host.makeHint l {} = (.ok y, {})) ∧
    (∀ (s : Store) (arg : Kind), (∃ k ∈ nestedMade.kinds, s.isAssignable arg k) ↔
      ∃ k ∈ flatMade.kinds, s.isAssignable arg k) ∧
    (shelf nestedMade).Answers (.ofText "take") [.library .int]
      ⟨.declared 0, "take", .value (.object 0)⟩ ⟨"take", .object 0, .declared 0, false, 1⟩ ∧
    (Inquiry.method (.declared 0) (.ofText "take") [.library .int]).found? (shelf nestedMade) =
      (Inquiry.method (.declared 0) (.ofText "take") [.library .int]).found? (shelf flatMade) := by
  obtain ⟨-, hmade, hsame, hstores⟩ := leaves_decide_acceptance
  obtain ⟨hanswers, hfound⟩ := hstores _ _ shelf_rephrases
  exact ⟨rfl, rfl, rfl, rfl, (hmade nestedHint {} {} nestedMade rfl).2.1,
    hsame nestedHint flatHint {} _ _ nestedHint_rephrases rfl rfl,
    (hanswers _ _ _ _).2 shelf_answers,
    (hfound (.method (.declared 0) (.ofText "take") [.library .int]) (by simp)).2⟩

end ScriptBridge
