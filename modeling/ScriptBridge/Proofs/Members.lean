import Mathlib.Data.List.Forall2
import ScriptBridge.Resolver

namespace ScriptBridge

/-!
# What classes offer

The entries of classes that scripts can call, said without the lists that are made of them.

* `Store.Holds` tells what an entry of a class is when it is called: a method or a class-wide
  function of the library, a method taken out of a library class, a function, or a function marked
  as static or as belonging to the class;
* `Store.member?_eq_some_iff`: an entry is a member exactly if it can be called, is public or was
  given a name for scripts, and no argument must be given by name;
* `Signature.Reads` tells the signature of a function by its parameters, `Signature.Admits` the
  arguments it is open to;
* `Store.declarations` lists the entries that a kind exposes, where they stand.
-/

/-! ### The first of each sort -/

section FirstBy

variable {α β : Type} [DecidableEq β] {feature : α → β}

/-- The elements that are kept are among those there were. -/
theorem mem_of_mem_firstBy {seen : List β} {l : List α} {a : α}
    (h : a ∈ firstBy feature seen l) : a ∈ l := by
  induction l generalizing seen with
  | nil => exact h
  | cons b rest ih =>
    rw [firstBy] at h
    split at h
    · exact List.mem_cons_of_mem b (ih h)
    · rcases List.mem_cons.1 h with rfl | h
      · exact List.mem_cons_self
      · exact List.mem_cons_of_mem b (ih h)

/-- A search that looks at the feature only misses nothing among the first of each sort. -/
theorem find?_firstBy {p : α → Bool} (hp : ∀ a b, feature a = feature b → p a = p b)
    {seen : List β} (hseen : ∀ a, feature a ∈ seen → p a = false) (l : List α) :
    (firstBy feature seen l).find? p = l.find? p := by
  induction l generalizing seen with
  | nil => rfl
  | cons b rest ih =>
    rw [firstBy]
    split
    next hb => rw [ih hseen, List.find?_cons, hseen b hb]
    next hb =>
      cases hpb : p b with
      | true => simp [hpb]
      | false =>
        -- What has the feature of `b` is not found either, so `b` may be dropped from then on.
        simp only [List.find?_cons, hpb]
        refine ih fun a ha => ?_
        rcases List.mem_cons.1 ha with h | h
        · rw [hp a b h, hpb]
        · exact hseen a h

/-- Every element is the first of its sort that is it. -/
theorem mem_firstBy_id [DecidableEq α] {l : List α} {a : α} :
    a ∈ firstBy id [] l ↔ a ∈ l := by
  refine ⟨mem_of_mem_firstBy, fun h => ?_⟩
  have hfind : ((firstBy id [] l).find? fun b => decide (b = a)).isSome := by
    rw [find?_firstBy (fun b c hbc => by rw [show b = c from hbc]) (by simp)]
    exact List.find?_isSome.2 ⟨a, h, by simp⟩
  obtain ⟨b, hb, hba⟩ := List.find?_isSome.1 hfind
  rwa [← show b = a by simpa using hba]

end FirstBy

/-! ### What parameters tell -/

/-- Whether an argument must be given by name. -/
def Param.MustBeNamed (p : Param) : Prop := p.form = .named ∧ p.fallback = none

namespace Signature

/-- The signature of a function by its parameters, if they can be read. -/
inductive Reads : Signature → Option (List Param) → Prop where
  | unreadable : Reads .unreadable none
  | unreachable {ps : List Param} {p : Param} :
      p ∈ ps → p.MustBeNamed → Reads .unreachable (some ps)
  | takes {ps : List Param} :
      (∀ p ∈ ps, ¬ p.MustBeNamed) →
      Reads (.takes ((ps.filter Param.takesPosition).map Store.acceptedKinds)) (some ps)

/-- The signature of a function of the library. -/
def ofLibrary : LibraryParams → Signature
  | none => .unreadable
  | some ps => .takes (Store.liftParams ps)

/-- The kinds that each parameter accepts, if they can be read. -/
def params? : Signature → Option (List (List Kind))
  | .unreadable | .unreachable => none
  | .takes ps => some ps

/-- The number of parameters, `-1` when they cannot be read. -/
def arity (signature : Signature) : Int :=
  signature.params?.elim (-1) fun ps => ps.length

/-- Whether arguments of some kinds may be tried: any if nothing can be read, else one for each
    parameter, of a kind that can be passed as one the parameter accepts. -/
def Admits (s : Store) (kinds : List Kind) : Signature → Prop
  | .unreadable => True
  | .unreachable => False
  | .takes ps => List.Forall₂ (fun kind accepted => ∃ k ∈ accepted, s.isAssignable kind k) kinds ps

/-- No method of the library asks for arguments by name. -/
@[simp] theorem ofLibrary_ne_unreachable (ps : LibraryParams) : ofLibrary ps ≠ .unreachable := by
  cases ps <;> simp [ofLibrary]

/-- The signature of a method of the library has the parameters that it is listed with. -/
@[simp] theorem params?_ofLibrary (ps : LibraryParams) :
    (ofLibrary ps).params? = ps.map Store.liftParams := by
  cases ps <;> rfl

/-- The signature that is computed is the one that the parameters tell. -/
theorem reads_iff {ps : Option (List Param)} {signature : Signature} :
    signature.Reads ps ↔ signature = ps.elim .unreadable Store.positionalSignature := by
  -- The computed test for such parameters is decided, and the rule says that there is one.
  have hany (ps : List Param) :
      (ps.any fun p => decide (p.form = .named ∧ p.fallback.isNone)) = true ↔
        ∃ p ∈ ps, p.MustBeNamed := by
    simp [Param.MustBeNamed]
  constructor
  · intro h
    cases h with
    | unreadable => rfl
    | unreachable hp hn =>
      exact (if_pos ((hany _).2 ⟨_, hp, hn⟩)).symm
    | takes hn =>
      refine (if_neg fun h => ?_).symm
      obtain ⟨p, hp, hpn⟩ := (hany _).1 h
      exact hn p hp hpn
  · rintro rfl
    cases ps with
    | none => exact .unreadable
    | some ps =>
      simp only [Option.elim_some, Store.positionalSignature]
      split
      next h =>
        obtain ⟨p, hp, hpn⟩ := (hany ps).1 h
        exact .unreachable hp hpn
      next h => exact .takes fun p hp hpn => h ((hany ps).2 ⟨p, hp, hpn⟩)

/-- Parameters tell one signature. -/
theorem Reads.unique {ps : Option (List Param)} {a b : Signature} (ha : a.Reads ps)
    (hb : b.Reads ps) : a = b :=
  (reads_iff.1 ha).trans (reads_iff.1 hb).symm

end Signature

/-- The parameters of a method without its receiver, which takes the first position if there is
    one. -/
def withoutReceiver : List Param → List Param
  | [] => []
  | p :: ps => if p.takesPosition then ps else p :: ps

namespace Store

variable (s : Store) (params : List Param)

/-- A function that is called as it is takes all its parameters. -/
theorem reads_plainSignature : (s.plainSignature params).Reads (s.readParams? params) := by
  rw [Signature.reads_iff, plainSignature]
  cases s.readParams? params <;> rfl

/-- A method takes its parameters but for the receiver, if it takes one. -/
theorem reads_methodSignature :
    (s.methodSignature params).Reads ((s.readParams? params).map withoutReceiver) := by
  rw [Signature.reads_iff, methodSignature]
  rcases s.readParams? params with _ | _ | ⟨p, ps⟩ <;> rfl

/-- A function that is bound takes its parameters but for the receiver, and must have one. -/
theorem reads_boundSignature :
    (s.boundSignature params).Reads ((s.readParams? params).bind dropReceiver?) := by
  rw [Signature.reads_iff, boundSignature]
  cases s.readParams? params with
  | none => rfl
  | some ps => cases h : dropReceiver? ps <;> simp [h]

end Store

/-! ### What entries are -/

/-- An entry of a class as something that is called. -/
structure Callable where
  handle : Value
  /-- The name it was given for scripts, if it was. -/
  given : Option String
  isStatic : Bool
  signature : Signature

namespace Callable

/-- The name that scripts see. A name that was given but is empty does not count. -/
def shownAs (c : Callable) (attr : String) : String :=
  match c.given with
  | some "" | none => attr
  | some n => n

/-- Whether scripts can see it under a name of its class. -/
def Visible (c : Callable) (attr : String) : Prop := c.given.isSome ∨ isPublic attr

/-- The member that it is. -/
def member (c : Callable) (owner : Kind) (attr : String) : Member where
  name := c.shownAs attr
  attr := attr
  handle := c.handle
  owner := owner
  isStatic := c.isStatic
  params := c.signature.params?

end Callable

namespace Store

/-- What an entry of a class is when it is called. -/
inductive Holds (s : Store) (owner : Kind) (attr : String) : ClassEntry → Callable → Prop where
  /-- A method of the library. -/
  | method {name : String} {ps : LibraryParams} :
      Holds s owner attr (.library (.method name ps))
        ⟨.native ⟨owner.library?, attr⟩, none, false, .ofLibrary ps⟩
  /-- A class-wide function of the library. -/
  | static {name : String} {ps : LibraryParams} :
      Holds s owner attr (.library (.static name ps))
        ⟨.native ⟨owner.library?, attr⟩, none, true, .ofLibrary ps⟩
  /-- A method that was taken out of a library class. -/
  | native {l : LibraryKind} {name : String} {ps : LibraryParams} :
      nativeParams? l name = some ps →
      Holds s owner attr (.value (.native ⟨some l, name⟩))
        ⟨.native ⟨some l, name⟩, none, false, .ofLibrary ps⟩
  /-- A function: its receiver is not among the arguments. -/
  | function {v : Value} {f : Function} {signature : Signature} :
      s.body? v = some (.function f) →
      signature.Reads ((s.readParams? f.params).map withoutReceiver) →
      Holds s owner attr (.value v) ⟨v, s.exposedName? v, false, signature⟩
  /-- A function that has no receiver. -/
  | staticMethod {v g : Value} {f : Function} {signature : Signature} :
      s.body? v = some (.staticMethod g) → s.function? g = some f →
      signature.Reads (s.readParams? f.params) →
      Holds s owner attr (.value v) ⟨v, s.exposedName? g, true, signature⟩
  /-- A function whose receiver is the class. -/
  | classMethod {v g : Value} {f : Function} {signature : Signature} :
      s.body? v = some (.classMethod g) → s.function? g = some f →
      signature.Reads ((s.readParams? f.params).bind dropReceiver?) →
      Holds s owner attr (.value v) ⟨v, s.exposedName? g, true, signature⟩

/-! ### Members are the entries that can be called -/

/-- A member with a signature exists unless an argument must be given by name. -/
theorem memberOf?_eq_some_iff {signature : Signature} {m m' : Member} :
    memberOf? signature m = some m' ↔
      signature ≠ .unreachable ∧ m' = { m with params := signature.params? } := by
  cases signature <;> simp [memberOf?, Signature.params?, eq_comm]

/-- A function of the library is a member if it is public. -/
theorem libraryMember?_eq_some_iff {owner : Kind} {attr : String} {handle : Value}
    {isStatic : Bool} {ps : LibraryParams} {m : Member} :
    libraryMember? owner attr handle isStatic ps = some m ↔
      isPublic attr ∧
        m = (⟨handle, none, isStatic, .ofLibrary ps⟩ : Callable).member owner attr := by
  have hm : (⟨handle, none, isStatic, .ofLibrary ps⟩ : Callable).member owner attr =
      { name := attr, attr, handle, owner, isStatic, params := ps.map liftParams } := by
    simp [Callable.member, Callable.shownAs]
  rw [libraryMember?, Option.ite_none_right_eq_some, Option.some.injEq, hm, eq_comm (a := m)]

/-- A function is a member if it is public or was given a name, and no argument must be given by
    name. -/
theorem functionMember?_eq_some_iff {s : Store} {owner : Kind} {attr : String}
    {handle function : Value} {isStatic : Bool} {signature : List Param → Signature} {m : Member} :
    s.functionMember? owner attr handle function isStatic signature = some m ↔
      ∃ f, s.function? function = some f ∧
        ((s.exposedName? function).isSome ∨ isPublic attr) ∧ signature f.params ≠ .unreachable ∧
        m = (⟨handle, s.exposedName? function, isStatic, signature f.params⟩ : Callable).member
          owner attr := by
  have hcond : ((s.exposedName? function).isNone && !isPublic attr) = true ↔
      ¬ ((s.exposedName? function).isSome ∨ isPublic attr) := by
    cases s.exposedName? function <;> simp
  simp only [functionMember?, hcond]
  by_cases hv : (s.exposedName? function).isSome ∨ isPublic attr
  · rw [if_neg (not_not_intro hv)]
    cases s.function? function with
    | none => simp
    | some f =>
      simp only [memberOf?_eq_some_iff, Option.some.injEq, exists_eq_left', hv, true_and]
      rfl
  · simp [hv]

/-- A value with a content is a member as its content tells. -/
theorem member?_value_of_body {s : Store} {owner : Kind} {attr : String} {v : Value} {b : Body}
    (h : s.body? v = some b) :
    s.member? owner attr (.value v) =
      match b with
      | .function _ => s.functionMember? owner attr v v false s.methodSignature
      | .staticMethod f => s.functionMember? owner attr v f true s.plainSignature
      | .classMethod f => s.functionMember? owner attr v f true s.boundSignature
      | _ => none := by
  cases v with
  | object i =>
    simp only [member?, h]
    cases b <;> rfl
  | _ => cases h

section MemberOf

variable {s : Store} {owner : Kind} {attr : String} {e : ClassEntry} {m : Member} {c : Callable}

/-- A member is an entry that can be called. -/
theorem exists_holds_of_member? (h : s.member? owner attr e = some m) :
    ∃ c, s.Holds owner attr e c ∧ c.Visible attr ∧ c.signature ≠ .unreachable ∧
      m = c.member owner attr := by
  unfold member? at h
  split at h
  next =>
    obtain ⟨hp, hm⟩ := libraryMember?_eq_some_iff.1 h
    exact ⟨_, .method, .inr hp, by simp, hm⟩
  next =>
    obtain ⟨hp, hm⟩ := libraryMember?_eq_some_iff.1 h
    exact ⟨_, .static, .inr hp, by simp, hm⟩
  next => cases h
  next =>
    obtain ⟨ps, hps, h⟩ := Option.bind_eq_some_iff.1 h
    obtain ⟨hp, hm⟩ := libraryMember?_eq_some_iff.1 h
    exact ⟨_, .native hps, .inr hp, by simp, hm⟩
  next v _ =>
    -- An object is called as what it holds: a function, or a mark around one.
    split at h
    next g hb =>
      obtain ⟨f, hf, hv, hs, hm⟩ := functionMember?_eq_some_iff.1 h
      obtain rfl : g = f := by simpa [function?, hb] using hf
      exact ⟨_, .function hb (s.reads_methodSignature _), hv, hs, hm⟩
    next hb =>
      obtain ⟨f, hf, hv, hs, hm⟩ := functionMember?_eq_some_iff.1 h
      exact ⟨_, .staticMethod hb hf (s.reads_plainSignature _), hv, hs, hm⟩
    next hb =>
      obtain ⟨f, hf, hv, hs, hm⟩ := functionMember?_eq_some_iff.1 h
      exact ⟨_, .classMethod hb hf (s.reads_boundSignature _), hv, hs, hm⟩
    next => cases h

/-- What can be called, can be seen and takes its arguments by position is a member. -/
theorem Holds.member?_eq (hc : s.Holds owner attr e c) (hv : c.Visible attr)
    (hs : c.signature ≠ .unreachable) : s.member? owner attr e = some (c.member owner attr) := by
  cases hc with
  | method => exact libraryMember?_eq_some_iff.2 ⟨by simpa [Callable.Visible] using hv, rfl⟩
  | static => exact libraryMember?_eq_some_iff.2 ⟨by simpa [Callable.Visible] using hv, rfl⟩
  | native hps =>
    exact Option.bind_eq_some_iff.2
      ⟨_, hps, libraryMember?_eq_some_iff.2 ⟨by simpa [Callable.Visible] using hv, rfl⟩⟩
  | @function v f signature hb hr =>
    obtain rfl := hr.unique (s.reads_methodSignature f.params)
    rw [member?_value_of_body hb]
    exact functionMember?_eq_some_iff.2 ⟨f, by simp [function?, hb], hv, hs, rfl⟩
  | @staticMethod v g f signature hb hf hr =>
    obtain rfl := hr.unique (s.reads_plainSignature f.params)
    rw [member?_value_of_body hb]
    exact functionMember?_eq_some_iff.2 ⟨f, hf, hv, hs, rfl⟩
  | @classMethod v g f signature hb hf hr =>
    obtain rfl := hr.unique (s.reads_boundSignature f.params)
    rw [member?_value_of_body hb]
    exact functionMember?_eq_some_iff.2 ⟨f, hf, hv, hs, rfl⟩

/-- **Members.** An entry is a member exactly if it can be called, is public or was given a name for
    scripts, and no argument must be given by name. -/
theorem member?_eq_some_iff :
    s.member? owner attr e = some m ↔
      ∃ c, s.Holds owner attr e c ∧ c.Visible attr ∧ c.signature ≠ .unreachable ∧
        m = c.member owner attr := by
  refine ⟨exists_holds_of_member?, ?_⟩
  rintro ⟨c, hc, hv, hs, rfl⟩
  exact hc.member?_eq hv hs

end MemberOf

/-- No entry is called by calling a class. -/
theorem Holds.handle_ne_kind {s : Store} {owner : Kind} {attr : String} {e : ClassEntry}
    {c : Callable} (h : s.Holds owner attr e c) (k : Kind) : c.handle ≠ .kind k := by
  cases h with
  | method | static | native _ => simp
  | function hb _ | staticMethod hb _ _ | classMethod hb _ _ =>
    rintro rfl
    cases hb

/-! ### Where entries stand -/

/-- An entry of a class, with the class and the name it stands under. -/
structure Declaration where
  owner : Kind
  name : String
  entry : ClassEntry

/-- The entries that a kind exposes: class by class along its line of descent, each class in order.
    The root class exposes its own to itself only. -/
def declarations (s : Store) (k : Kind) : List Declaration :=
  (s.lineage k).flatMap fun owner =>
    if owner = .library .object ∧ k ≠ .library .object then []
    else (s.entries owner).map fun (name, entry) => ⟨owner, name, entry⟩

/-- What the exposed classes give is what all classes give, but for the root class of another
    kind. -/
theorem flatMap_exposedLineage {α : Type} (s : Store) (k : Kind) (g : Kind → List α) :
    (s.exposedLineage k).flatMap g =
      (s.lineage k).flatMap fun owner =>
        if owner = .library .object ∧ k ≠ .library .object then [] else g owner := by
  unfold exposedLineage
  induction s.lineage k with
  | nil => rfl
  | cons owner rest ih =>
    by_cases h : owner = .library .object ∧ k ≠ .library .object
    · have hhidden : ¬ (owner ≠ .library .object ∨ k = .library .object) := by tauto
      simp only [List.filter_cons, decide_eq_true_eq, if_neg hhidden, List.flatMap_cons, if_pos h,
        List.nil_append, ih]
    · have hshown : owner ≠ .library .object ∨ k = .library .object := by tauto
      simp only [List.filter_cons, decide_eq_true_eq, if_pos hshown, List.flatMap_cons, if_neg h,
        ih]

/-- The declarations are the entries of the exposed classes. -/
theorem declarations_eq_exposed (s : Store) (k : Kind) :
    s.declarations k = (s.exposedLineage k).flatMap fun owner =>
      (s.entries owner).map fun (name, entry) => ⟨owner, name, entry⟩ :=
  (flatMap_exposedLineage s k _).symm

/-- What is declared is an entry of the class where it stands. -/
theorem mem_entries_of_mem_declarations {s : Store} {k : Kind} {d : Declaration}
    (h : d ∈ s.declarations k) : (d.name, d.entry) ∈ s.entries d.owner := by
  rw [declarations_eq_exposed] at h
  obtain ⟨owner, -, hd⟩ := List.mem_flatMap.1 h
  obtain ⟨⟨name, entry⟩, he, rfl⟩ := List.mem_map.1 hd
  exact he

/-- The members of a kind are those that its entries are. -/
theorem exposedMethods_eq (s : Store) (k : Kind) :
    s.exposedMethods k =
      (s.declarations k).filterMap fun d => s.member? d.owner d.name d.entry := by
  simp [exposedMethods, declarations_eq_exposed, List.filterMap_flatMap, List.filterMap_map]

end Store

end ScriptBridge
