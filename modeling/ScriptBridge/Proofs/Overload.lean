import ScriptBridge.Proofs.Inquiry
import ScriptBridge.Proofs.Members

namespace ScriptBridge

/-!
# Which member is chosen

A member is looked for by name and by kinds of arguments. It is chosen from the members of which
each stands for all later ones of its signature; the choice is the same as from all entries.

* `Store.Answers` tells whether an entry of a class is what is looked for, and its record;
* `Store.discover?_eq_find?`: to keep the first of each signature changes no choice;
* `Store.FailsWith` tells whether the hints of an entry cannot even be read;
* `resolveMethod_eq_first`: the first entry that answers is chosen, unless one cannot be read.
-/

namespace Store

/-- Whether an entry answers to a name and to kinds of arguments, and with what record. -/
def Answers (s : Store) (name : Key) (kinds : List Kind) (d : Declaration) (r : MethodRecord) :
    Prop :=
  ∃ c, s.Holds d.owner d.name d.entry c ∧ c.Visible d.name ∧
    foldCase (c.shownAs d.name) = name.folded ∧ c.signature.Admits s kinds ∧
    r = ⟨c.shownAs d.name, c.handle, d.owner, c.isStatic, c.signature.arity⟩

/-! ### The choice among members -/

/-- Whether a member answers to a name and to kinds of arguments. -/
def isAnswer (s : Store) (name : Key) (kinds : List Kind) (m : Member) : Bool :=
  foldCase m.name == name.folded && s.applies kinds m

/-- Members of one signature answer to the same. -/
theorem isAnswer_congr {s : Store} {name : Key} {kinds : List Kind} {a b : Member}
    (h : a.signature = b.signature) : s.isAnswer name kinds a = s.isAnswer name kinds b := by
  obtain ⟨hname, hparams, -⟩ : foldCase a.name = foldCase b.name ∧ a.params = b.params ∧ _ := by
    simpa [Member.signature] using h
  simp only [isAnswer, applies, Member.acceptsArity, hname, hparams]

/-- **No choice is lost.** The member that is chosen from the first of each signature is the first
    of all that answer. -/
theorem discover?_eq_find? (s : Store) (k : Kind) (name : Key) (kinds : List Kind) :
    s.discover? k name kinds = (s.exposedMethods k).find? (s.isAnswer name kinds) := by
  have hp : (fun m => decide ((foldCase m.name == name.folded) = true ∧ s.applies kinds m = true)) =
      s.isAnswer name kinds := by
    funext m
    rw [Bool.eq_iff_iff]
    simp [isAnswer]
  rw [discover?, select?, List.find?_filter, hp]
  exact find?_firstBy (fun _ _ h => isAnswer_congr h) (by simp) (s.exposedMethods k)

/-- The arguments that can be passed to some parameters: one for each, and each can be passed. -/
theorem applies_iff {s : Store} {kinds : List Kind} {m : Member} {signature : Signature}
    (hm : m.params = signature.params?) (hs : signature ≠ .unreachable) :
    s.applies kinds m = true ↔ signature.Admits s kinds := by
  cases signature with
  | unreadable => simp [applies, Member.acceptsArity, hm, Signature.params?, Signature.Admits]
  | unreachable => exact absurd rfl hs
  | takes ps =>
    simp only [applies, Member.acceptsArity, hm, Signature.params?, Signature.Admits,
      Option.all_some, acceptsKinds, Bool.and_eq_true, beq_iff_eq, List.all_eq_true,
      List.any_eq_true, List.forall₂_iff_zip]
    constructor
    · rintro ⟨hlen, hall⟩
      exact ⟨hlen, fun {a b} h => hall (a, b) h⟩
    · rintro ⟨hlen, hall⟩
      exact ⟨hlen, fun x hx => hall hx⟩

/-- An entry answers exactly if it is a member that answers. -/
theorem answers_iff {s : Store} {name : Key} {kinds : List Kind} {d : Declaration}
    {r : MethodRecord} :
    s.Answers name kinds d r ↔
      ∃ m, s.member? d.owner d.name d.entry = some m ∧ s.isAnswer name kinds m = true ∧
        r = m.record := by
  constructor
  · rintro ⟨c, hc, hv, hname, hadmits, rfl⟩
    have hs : c.signature ≠ .unreachable := fun h => by rw [h] at hadmits; exact hadmits
    refine ⟨_, member?_eq_some_iff.2 ⟨c, hc, hv, hs, rfl⟩, ?_, rfl⟩
    rw [isAnswer, Bool.and_eq_true, applies_iff rfl hs]
    exact ⟨beq_iff_eq.2 hname, hadmits⟩
  · rintro ⟨m, hm, hanswer, rfl⟩
    obtain ⟨c, hc, hv, hs, rfl⟩ := member?_eq_some_iff.1 hm
    rw [isAnswer, Bool.and_eq_true, applies_iff rfl hs] at hanswer
    exact ⟨c, hc, hv, beq_iff_eq.1 hanswer.1, hanswer.2, rfl⟩

/-- The first of the entries of a kind that answers. -/
def AnswersFirst (s : Store) (k : Kind) (name : Key) (kinds : List Kind) (r : MethodRecord) :
    Prop :=
  ∃ before d rest, s.declarations k = before ++ d :: rest ∧ s.Answers name kinds d r ∧
    ∀ d' ∈ before, ∀ r', ¬ s.Answers name kinds d' r'

/-- **First match.** The member that is chosen has the record of the first entry that answers. -/
theorem discover?_record_iff (s : Store) (k : Kind) (name : Key) (kinds : List Kind)
    (r : MethodRecord) :
    (s.discover? k name kinds).map Member.record = some r ↔ s.AnswersFirst k name kinds r := by
  -- An entry is passed over by the search exactly if it answers with no record.
  have hnone (d : Declaration) :
      ¬ ((s.member? d.owner d.name d.entry).any (s.isAnswer name kinds) = true) ↔
        ∀ r', ¬ s.Answers name kinds d r' := by
    simp only [answers_iff]
    cases s.member? d.owner d.name d.entry <;> simp
  rw [discover?_eq_find?, exposedMethods_eq, List.find?_filterMap, Option.map_eq_some_iff]
  simp only [Option.bind_eq_some_iff, List.find?_eq_some_iff_append]
  constructor
  · rintro ⟨m, ⟨d, ⟨hany, before, rest, hd, hbefore⟩, hm⟩, rfl⟩
    refine ⟨before, d, rest, hd, answers_iff.2 ⟨m, hm, by simpa [hm] using hany, rfl⟩, ?_⟩
    intro d' hd'
    exact (hnone d').1 (by simpa using hbefore d' hd')
  · rintro ⟨before, d, rest, hd, hanswer, hbefore⟩
    obtain ⟨m, hm, hp, rfl⟩ := answers_iff.1 hanswer
    refine ⟨m, ⟨d, ⟨by simpa [hm] using hp, before, rest, hd, ?_⟩, hm⟩, rfl⟩
    intro d' hd'
    simpa using (hnone d').2 (hbefore d' hd')

/-- No member is chosen exactly if no entry answers. -/
theorem discover?_eq_none_iff (s : Store) (k : Kind) (name : Key) (kinds : List Kind) :
    s.discover? k name kinds = none ↔
      ∀ d ∈ s.declarations k, ∀ r, ¬ s.Answers name kinds d r := by
  rw [discover?_eq_find?, exposedMethods_eq, List.find?_eq_none]
  constructor
  · intro h d hd r hanswer
    obtain ⟨m, hm, hp, -⟩ := answers_iff.1 hanswer
    exact h m (List.mem_filterMap.2 ⟨d, hd, hm⟩) hp
  · intro h m hm hp
    obtain ⟨d, hd, hm⟩ := List.mem_filterMap.1 hm
    exact h d hd m.record (answers_iff.2 ⟨m, hm, hp, rfl⟩)

/-! ### Entries that cannot be read -/

/-- Whether reading the hints of an entry that scripts can see ends in an error of the host. -/
def FailsWith (s : Store) (d : Declaration) (e : LibraryKind) : Prop :=
  ∃ v c, d.entry = .value v ∧ s.Holds d.owner d.name d.entry c ∧ c.Visible d.name ∧
    s.hintFailure? (s.entryParams v) = some e

/-- The first of the entries of a kind that cannot be read. -/
def FailsFirst (s : Store) (k : Kind) (e : LibraryKind) : Prop :=
  ∃ before d rest, s.declarations k = before ++ d :: rest ∧ s.FailsWith d e ∧
    ∀ d' ∈ before, ∀ e', ¬ s.FailsWith d' e'

/-- Whether the hints of all entries that scripts can see can be read, or at least be left alone. -/
def Readable (s : Store) (k : Kind) : Prop :=
  ∀ d ∈ s.declarations k, ∀ e, ¬ s.FailsWith d e

/-- The error that the hints of an entry end in, if scripts can see it. -/
def entryFailure? (s : Store) (d : Declaration) : Option LibraryKind :=
  match d.entry with
  | .library _ => none
  | .value v => match s.body? v with
    | some (.function _) | some (.staticMethod _) | some (.classMethod _) =>
      if isPublic d.name || (s.member? d.owner d.name (.value v)).isSome then
        s.hintFailure? (s.entryParams v)
      else none
    | _ => none

/-- A search through lists of lists goes list by list. -/
theorem findSome?_flatMap {α β γ : Type} (f : α → List β) (g : β → Option γ) (l : List α) :
    (l.flatMap f).findSome? g = l.findSome? fun a => (f a).findSome? g := by
  induction l with
  | nil => rfl
  | cons a rest ih =>
    rw [List.flatMap_cons, List.findSome?_append, ih, List.findSome?_cons]
    cases (f a).findSome? g <;> rfl

/-- Listing the members of a kind fails with the first entry that does. -/
theorem methodsFailure?_eq (s : Store) (k : Kind) :
    s.methodsFailure? k = (s.declarations k).findSome? s.entryFailure? := by
  rw [methodsFailure?, declarations_eq_exposed, findSome?_flatMap]
  congr 1
  funext owner
  -- What a library class is born with stands before all else, and cannot fail.
  have hfixed (ms : List LibraryMember) :
      (ms.map fun m => (⟨owner, m.name, .library m⟩ : Declaration)).findSome? s.entryFailure? =
        none := by
    simp [entryFailure?]
  have hvalues (es : List (String × Value)) :
      (es.map fun x => (⟨owner, x.1, .value x.2⟩ : Declaration)).findSome? s.entryFailure? =
        es.findSome? fun x => s.entryFailure? ⟨owner, x.1, .value x.2⟩ := by
    rw [List.findSome?_map]
    rfl
  cases owner with
  | library l =>
    simp only [entries, List.map_append, List.map_map, List.findSome?_append]
    exact ((congrArg₂ Option.or (hfixed l.members) (hvalues _)).trans (Option.none_or ..)).symm
  | _ =>
    simp only [entries, List.nil_append, List.map_map]
    exact (hvalues _).symm

/-- A hint that fails leaves its function without a signature. -/
theorem readParams?_of_hintFailure {s : Store} {params : List Param} {e : LibraryKind}
    (h : s.hintFailure? params = some e) : s.readParams? params = none := by
  unfold hintFailure? at h
  unfold readParams?
  split at h
  · cases h
  · split at h
    next hr => rw [hr]
    next => cases h

/-- Where there are no parameters, no hint fails. -/
theorem hintFailure?_nil (s : Store) : s.hintFailure? [] = none := by
  simp [hintFailure?, readHints, writtenHints]
  rfl

/-- Only a function, marked or not, has hints that fail. -/
theorem exists_holds_of_hintFailure {s : Store} {v : Value} {e : LibraryKind} (owner : Kind)
    (attr : String) (h : s.hintFailure? (s.entryParams v) = some e) :
    ∃ c, s.Holds owner attr (.value v) c := by
  unfold entryParams at h
  split at h
  next g hb =>
    -- What marks no function has no parameters, and so no hints.
    cases hf : s.function? g with
    | none => simp [hf, hintFailure?_nil] at h
    | some f => exact ⟨_, .staticMethod hb hf (s.reads_plainSignature _)⟩
  next g hb =>
    cases hf : s.function? g with
    | none => simp [hf, hintFailure?_nil] at h
    | some f => exact ⟨_, .classMethod hb hf (s.reads_boundSignature _)⟩
  next =>
    cases hf : s.function? v with
    | none => simp [hf, hintFailure?_nil] at h
    | some f =>
      have hb : s.body? v = some (.function f) := by
        unfold function? at hf
        split at hf
        next g hg => rw [hg, Option.some.inj hf]
        next => cases hf
      exact ⟨_, .function hb (s.reads_methodSignature _)⟩

/-- A function whose hints fail has no signature. -/
theorem Holds.signature_of_hintFailure {s : Store} {owner : Kind} {attr : String} {v : Value}
    {c : Callable} {e : LibraryKind} (hc : s.Holds owner attr (.value v) c)
    (h : s.hintFailure? (s.entryParams v) = some e) : c.signature = .unreadable := by
  cases hc with
  | native _ => simp [entryParams, function?, body?, deref?, hintFailure?_nil] at h
  | function hb hr =>
    simp only [entryParams, function?, hb, Option.elim_some] at h
    rw [readParams?_of_hintFailure h] at hr
    cases hr
    rfl
  | staticMethod hb hf hr =>
    simp only [entryParams, hb, hf, Option.elim_some] at h
    rw [readParams?_of_hintFailure h] at hr
    cases hr
    rfl
  | classMethod hb hf hr =>
    simp only [entryParams, hb, hf, Option.elim_some] at h
    rw [readParams?_of_hintFailure h] at hr
    cases hr
    rfl

/-- An entry fails exactly if reading its hints does, and scripts can see it. -/
theorem entryFailure?_eq_some_iff {s : Store} {d : Declaration} {e : LibraryKind} :
    s.entryFailure? d = some e ↔ s.FailsWith d e := by
  obtain ⟨owner, name, entry⟩ := d
  constructor
  · intro h
    cases entry with
    | library m => cases h
    | value v =>
      have hseen : (isPublic name || (s.member? owner name (.value v)).isSome) ∧
          s.hintFailure? (s.entryParams v) = some e := by
        simp only [entryFailure?] at h
        split at h
        · simpa using h
        · simpa using h
        · simpa using h
        · cases h
      obtain ⟨hseen, hfail⟩ := hseen
      cases hm : s.member? owner name (.value v) with
      | some m =>
        obtain ⟨c, hc, hv, -⟩ := member?_eq_some_iff.1 hm
        exact ⟨v, c, rfl, hc, hv, hfail⟩
      | none =>
        -- What is no member is only read for its public name.
        obtain ⟨c, hc⟩ := exists_holds_of_hintFailure owner name hfail
        exact ⟨v, c, rfl, hc, .inr (by simpa [hm] using hseen), hfail⟩
  · rintro ⟨v, c, rfl, hc, hv, hfail⟩
    -- Without a signature it takes any arguments, and so it is a member.
    have hm : (s.member? owner name (.value v)).isSome := by
      rw [Option.isSome_iff_exists]
      refine ⟨_, member?_eq_some_iff.2 ⟨c, hc, hv, ?_, rfl⟩⟩
      rw [hc.signature_of_hintFailure hfail]
      simp
    cases hc with
    | native _ => simp [entryParams, function?, body?, deref?, hintFailure?_nil] at hfail
    | function hb _ | staticMethod hb _ _ | classMethod hb _ _ =>
      simp only [entryFailure?, hb, hm, Bool.or_true, if_true]
      exact hfail

/-- The error of a list of members is that of the first entry that cannot be read. -/
theorem methodsFailure?_eq_some_iff {s : Store} {k : Kind} {e : LibraryKind} :
    s.methodsFailure? k = some e ↔ s.FailsFirst k e := by
  rw [methodsFailure?_eq, List.findSome?_eq_some_iff]
  simp only [entryFailure?_eq_some_iff, FailsFirst, Option.eq_none_iff_forall_ne_some, ne_eq]

/-- Looking through a class does not fail exactly if all hints in it can be read. -/
theorem methodsFailure?_eq_none_iff {s : Store} {k : Kind} :
    s.methodsFailure? k = none ↔ s.Readable k := by
  rw [methodsFailure?_eq, List.findSome?_eq_none_iff]
  simp only [Readable, Option.eq_none_iff_forall_ne_some, ne_eq, entryFailure?_eq_some_iff]

/-- The number of parameters of a member that is chosen is that of the arguments, if it can be
    read. -/
theorem Answers.arity {s : Store} {name : Key} {kinds : List Kind} {d : Declaration}
    {r : MethodRecord} (h : s.Answers name kinds d r) : r.arity = -1 ∨ r.arity = kinds.length := by
  obtain ⟨c, -, -, -, hadmits, rfl⟩ := h
  cases hs : c.signature with
  | unreadable | unreachable => exact .inl rfl
  | takes ps =>
    rw [hs] at hadmits
    have hlen : kinds.length = ps.length := List.Forall₂.length_eq hadmits
    exact .inr (by simp [Signature.arity, Signature.params?, hlen])

end Store

/-! ### What a lookup answers -/

/-- A lookup of a member that remembers nothing ends in the error of a hint, or answers with what is
    chosen. -/
theorem resolveMethod_eq (svc : ServiceId) (w : World) (k : Kind) (name : Key)
    (kinds : List Kind) :
    (Service.resolveMethod svc k name kinds (w.withResolver svc { enabled := false })).1 =
      match w.store.methodsFailure? k,
        (w.store.discover? k name kinds).map Member.record with
      | some e, _ => .error (.host e "")
      | none, some r => .ok r
      | none, none =>
        .error (.engine (w.store.noMethod (w.listingLimit svc) k name kinds)) := by
  have h := Inquiry.ask_eq_search svc (.method k name kinds) w { enabled := false }
    (fun _ _ hf => (nomatch hf)) rfl
  rw [Inquiry.ask, Run.map_apply] at h
  revert h
  generalize (Service.resolveMethod svc k name kinds
    (w.withResolver svc { enabled := false })).1 = answer
  simp only [World.search, Inquiry.search, Inquiry.failure?, Inquiry.found?, Inquiry.missing]
  cases w.store.methodsFailure? k <;> cases w.store.discover? k name kinds <;>
    cases answer <;> simp [Except.map]

/-- **The first match is chosen.** A lookup that remembers nothing goes through the entries of all
    classes along the line of descent, in order and none left out. If the hints of one that scripts
    can see cannot be read at all, it ends in the error of the first such; else it answers with the
    record of the first entry that answers, and refuses exactly if none does. The number of
    parameters in the record, if known, is that of the arguments. -/
theorem resolveMethod_eq_first (svc : ServiceId) (w : World) (k : Kind) (name : Key)
    (kinds : List Kind) :
    let s := w.store
    let answer :=
      (Service.resolveMethod svc k name kinds (w.withResolver svc { enabled := false })).1
    (∀ r, answer = .ok r ↔ s.Readable k ∧ s.AnswersFirst k name kinds r) ∧
      (answer = .error (.engine (s.noMethod (w.listingLimit svc) k name kinds)) ↔
        s.Readable k ∧ ∀ d ∈ s.declarations k, ∀ r, ¬ s.Answers name kinds d r) ∧
      (∀ e, answer = .error (.host e "") ↔ s.FailsFirst k e) ∧
      (∀ r, answer = .ok r → r.arity = -1 ∨ r.arity = kinds.length) := by
  intro s answer
  have hanswer : answer = _ := resolveMethod_eq svc w k name kinds
  have hok (r : MethodRecord) : answer = .ok r ↔ s.Readable k ∧ s.AnswersFirst k name kinds r := by
    rw [hanswer, ← Store.discover?_record_iff, ← Store.methodsFailure?_eq_none_iff]
    cases s.methodsFailure? k <;> cases s.discover? k name kinds <;> simp
  refine ⟨hok, ?_, ?_, ?_⟩
  · rw [hanswer, ← Store.discover?_eq_none_iff, ← Store.methodsFailure?_eq_none_iff]
    cases s.methodsFailure? k <;> cases s.discover? k name kinds <;> simp [s]
  · intro e
    rw [hanswer, ← Store.methodsFailure?_eq_some_iff]
    cases s.methodsFailure? k <;> cases s.discover? k name kinds <;> simp
  · intro r hr
    -- The arity of a record is read off the entry that answers.
    obtain ⟨-, before, d, rest, -, hd, -⟩ := (hok r).1 hr
    exact hd.arity

/-! ### A class with a broken hint -/

/-- A class with a method that takes no arguments, and a static one whose hint divides by zero. -/
def workshop : World where
  store :=
    { objects := #[
        { kind := .library .function,
          body := .function ⟨"good", [⟨"self", .normal, none, none⟩], .self, true, {}⟩ },
        { kind := .library .function,
          body := .function
            ⟨"bad", [⟨"a", .normal, some (.written "1/0"), none⟩], .self, false, {}⟩ },
        { kind := .library .staticMethod, body := .staticMethod (.object 1) }]
      classes := #[
        { name := "Workshop", qualifiedName := "Workshop", home := some "host",
          bases := [.library .object], lineage := [.declared 0, .library .object],
          metaclass := .type, attrs := ⟨[("good", .object 0), ("bad", .object 2)]⟩ }] }

/-- The written hints of one parameter. -/
theorem Store.writtenHints_singleton (p : Param) :
    writtenHints [p] = match p.hint with
      | some (.written t) => [(p.name, t)]
      | _ => [] := by
  rw [writtenHints, List.mergeSort_singleton]
  rcases p with ⟨name, form, _ | hint, fallback⟩
  · rfl
  · cases hint <;> rfl

/-- The first method answers, but the hint of the second ends the lookup. -/
theorem resolveMethod_fails_workshop :
    (∃ r, workshop.store.AnswersFirst (.declared 0) (.ofText "good") [] r) ∧
      (Service.resolveMethod .main (.declared 0) (.ofText "good") []
        (workshop.withResolver .main { enabled := false })).1 =
        .error (.host .zeroDivisionError "") := by
  have hgood : workshop.store.readHints [⟨"self", .normal, none, none⟩] = .ok [] := by
    rw [Store.readHints, Store.writtenHints_singleton]
    rfl
  have hbad : workshop.store.hintFailure? [⟨"a", .normal, some (.written "1/0"), none⟩] =
      some .zeroDivisionError := by
    rw [Store.hintFailure?, Store.readHints, Store.writtenHints_singleton]
    decide +kernel
  constructor
  · have hreads : (Signature.takes []).Reads
        ((workshop.store.readParams? [⟨"self", .normal, none, none⟩]).map withoutReceiver) := by
      rw [Signature.reads_iff, Store.readParams?, hgood]
      rfl
    have hanswers : workshop.store.Answers (.ofText "good") []
        ⟨.declared 0, "good", .value (.object 0)⟩ ⟨"good", .object 0, .declared 0, false, 0⟩ :=
      ⟨_, .function rfl hreads, .inr (by decide +kernel), rfl, List.Forall₂.nil, rfl⟩
    exact ⟨_, [], _, _, rfl, hanswers, fun _ h => nomatch h⟩
  · have hfirst :
        workshop.store.entryFailure? ⟨.declared 0, "good", .value (.object 0)⟩ = none := by
      have hnone : workshop.store.hintFailure? [⟨"self", .normal, none, none⟩] = none := by
        rw [Store.hintFailure?, hgood]
      exact (if_pos (by decide +kernel)).trans hnone
    have hsecond : workshop.store.entryFailure? ⟨.declared 0, "bad", .value (.object 2)⟩ =
        some .zeroDivisionError := (if_pos (by decide +kernel)).trans hbad
    have hfails : workshop.store.methodsFailure? (.declared 0) = some .zeroDivisionError := by
      have hentries : workshop.store.declarations (.declared 0) =
        [⟨.declared 0, "good", .value (.object 0)⟩, ⟨.declared 0, "bad", .value (.object 2)⟩] := rfl
      rw [Store.methodsFailure?_eq, hentries, List.findSome?_cons, hfirst, List.findSome?_cons,
        hsecond]
    rw [resolveMethod_eq, hfails]

end ScriptBridge
