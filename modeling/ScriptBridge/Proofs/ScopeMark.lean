import ScriptBridge.Eval
import ScriptBridge.Proofs.Growth
import ScriptBridge.Registry

namespace ScriptBridge

/-!
# Functions that remember what they ask for

Whether a callable asks for the scope is remembered on the callable as an attribute, the mark. It is
read as attributes are: a class shows the marks of the classes that it descends from, an instance
those of its class, a bound function that of the function.

* `Store.markLine` are the places where the mark of a callable is looked for, `Store.seenMark` is
  what is found there, and `Store.markPlace?` is where the callable keeps its own;
* `Store.AsksPlainly` holds where no host code is asked on the way;
* `Store.AlikeButMarks`: a mark changes nothing else that matters to calls;
* `Host.acceptsScope_eq` says what asking a callable comes to.
-/

namespace Store

variable {s : Store}

open Host (scopeMark)

/-- Whether a callable asks for the scope by its own parameters. If they cannot be read it does not.
    -/
def asksScope (s : Store) (f : Value) : Bool := (s.paramNames? f).any (·.contains "context")

/-! ### Where the mark is looked for -/

/-- A place that can hold the mark: an object, or a class. -/
inductive MarkPlace where
  | object (i : Nat)
  | class (k : Kind)
deriving DecidableEq

/-- The mark at a place. -/
def markAt (s : Store) : MarkPlace → Option Value
  | .object i => (s.deref? (.object i)).bind fun o => o.attrs.get? scopeMark
  | .class k => (s.classAttrs k).get? scopeMark

/-- The object whose attributes a callable shows: a bound function shows those of the function. -/
def holder (s : Store) (f : Value) : Value :=
  match s.body? f with
  | some (.bound g _) => g
  | _ => f

/-- The place at an object. -/
def objectPlaces : Value → List MarkPlace
  | .object i => [.object i]
  | _ => []

/-- The classes that a value inherits attributes from: of a class those it descends from come first.
    -/
def ancestry (s : Store) : Value → List Kind
  | .kind k => s.lineage k ++ s.lineage (.library (s.metaclass k))
  | v => s.lineage (s.kindOf v)

/-- The places where the mark of a callable is looked for, in order. -/
def markLine (s : Store) (f : Value) : List MarkPlace :=
  objectPlaces (s.holder f) ++ (s.ancestry f).map .class

/-- The mark that is seen on a callable. -/
def seenMark (s : Store) (f : Value) : Option Value := (s.markLine f).findSome? s.markAt

/-- The place at a class, if the class is there and takes attributes. -/
def classPlace? (s : Store) : Kind → Option MarkPlace
  | .declared i => if i < s.classes.size then some (.class (.declared i)) else none
  | .library l => if l.isEngineOwn then some (.class (.library l)) else none
  | _ => none

/-- The place where a callable keeps its mark, if it keeps one. -/
def markPlace? (s : Store) (f : Value) : Option MarkPlace :=
  match f with
  | .kind k => s.classPlace? k
  | .object i => if s.takesAttrs f then some (.object i) else none
  | _ => none

/-- The mark of a value itself is the attribute of the object that it is. -/
theorem findSome?_objectPlaces (v : Value) :
    (objectPlaces v).findSome? s.markAt = (s.deref? v).bind (·.attrs.get? scopeMark) := by
  cases v with
  | object i => exact List.findSome?_singleton ..
  | _ => rfl

/-- Whether a callable is asked for its mark as the library does, and all marks that it may show are
    answers. -/
structure AsksPlainly (s : Store) (f : Value) : Prop where
  noScope : ∀ i, f ≠ .scope i
  special : ∀ n ∈ ["__getattribute__", "__getattr__", "__setattr__"],
    s.declaredSpecial? (s.kindOf f) n = none
  marks : ∀ p ∈ s.markLine f, ∀ m, s.markAt p = some m → ∃ b, m = .bool b

/-- The mark that such a callable shows is an answer. -/
theorem AsksPlainly.exists_eq_bool {f m : Value} (h : s.AsksPlainly f)
    (hseen : s.seenMark f = some m) : ∃ b, m = .bool b := by
  obtain ⟨p, hp, hm⟩ := List.exists_of_findSome?_eq_some hseen
  exact h.marks p hp m hm

/-- No class of the library has a member of the name. -/
theorem find?_members_scopeMark (l : LibraryKind) (p : LibraryMember → Bool) :
    (l.members.find? fun m => m.name == scopeMark && p m) = none := by
  have hnames : ∀ m ∈ l.members, m.name ≠ scopeMark := by
    cases l <;> decide
  rw [List.find?_eq_none]
  intro m hm h
  simp [hnames m hm] at h

/-- A class shows its mark as an entry of that name. -/
theorem entryNamed?_scopeMark (k : Kind) :
    s.entryNamed? k scopeMark = (s.markAt (.class k)).map .value := by
  have hmark : s.markAt (.class k) = (s.classAttrs k).get? scopeMark := rfl
  rw [hmark]
  unfold entryNamed?
  cases h : (s.classAttrs k).get? scopeMark with
  | some v => rfl
  | none =>
    cases k with
    | library l =>
      dsimp only
      rw [find?_members_scopeMark]
      rfl
    | _ => rfl

/-- The mark that a class has or inherits. -/
theorem inherited?_scopeMark (k : Kind) :
    s.inherited? k scopeMark =
      (s.lineage k).findSome? fun owner => (s.markAt (.class owner)).map fun m =>
        (owner, .value m) := by
  unfold inherited?
  congr 1
  funext owner
  rw [entryNamed?_scopeMark, Option.map_map]
  rfl

/-- The mark that a class gives is an answer, if there is one. -/
theorem AsksPlainly.inherited?_eq {f : Value} {k : Kind} (h : s.AsksPlainly f)
    (hline : ∀ o ∈ s.lineage k, o ∈ s.ancestry f) :
    s.inherited? k scopeMark = none ∧
        (s.lineage k).findSome? (fun o => s.markAt (.class o)) = none ∨
      ∃ owner b, s.inherited? k scopeMark = some (owner, .value (.bool b)) ∧
        (s.lineage k).findSome? (fun o => s.markAt (.class o)) = some (.bool b) := by
  rw [inherited?_scopeMark]
  -- The line is gone through for the mark and for the entry at once.
  revert hline
  induction s.lineage k with
  | nil => exact fun _ => .inl ⟨rfl, rfl⟩
  | cons o rest ih =>
    intro hline
    cases ho : s.markAt (.class o) with
    | some m =>
      have hplace : .class o ∈ s.markLine f :=
        List.mem_append_right _ (List.mem_map_of_mem (hline o List.mem_cons_self))
      obtain ⟨b, rfl⟩ := h.marks _ hplace m ho
      exact .inr ⟨o, b, by simp [ho], by simp [ho]⟩
    | none =>
      obtain ⟨h, h'⟩ | ⟨owner, b, h, h'⟩ := ih fun x hx => hline x (List.mem_cons_of_mem _ hx)
      · exact .inl ⟨by simp [ho, h], by simp [ho, h']⟩
      · exact .inr ⟨owner, b, by simp [ho, h], by simp [ho, h']⟩

/-- An answer that a class holds leaves it to the instances what they hold. -/
theorem governs_bool (s : Store) (b : Bool) : s.governs (.bool b) = false := by
  have hk : s.kindOf (.bool b) = .library .bool := rfl
  have hset : LibraryKind.bool.lineage.find? (·.hasSpecial "__set__") = none := by decide
  have hdelete : LibraryKind.bool.lineage.find? (·.hasSpecial "__delete__") = none := by decide
  rw [governs, isDataEntry, hk, special?_library, special?_library, hset, hdelete]
  rfl

/-! ### Keeping the mark -/

/-- Puts a mark at a place. -/
def putMark (s : Store) (p : MarkPlace) (m : Value) : Store :=
  match p with
  | .object i => s.modify (.object i) fun o => { o with attrs := o.attrs.insert scopeMark m }
  | .class k => s.setClassAttr k scopeMark m

/-- The store in which a callable remembers an answer, if it can keep one. -/
def keepMark (s : Store) (f : Value) (b : Bool) : Store :=
  match s.markPlace? f with
  | some p => s.putMark p (.bool b)
  | none => s

/-- A class keeps a mark if it is open. -/
theorem keepMark_kind (s : Store) (k : Kind) (b : Bool) :
    s.keepMark (.kind k) b =
      if isOpenClass k then s.setClassAttr k scopeMark (.bool b) else s := by
  cases k with
  | declared i =>
    by_cases hi : i < s.classes.size
    · simp [keepMark, markPlace?, classPlace?, hi, isOpenClass, putMark]
    · -- A class that is not there is not changed.
      have hsame (g : ClassInfo → ClassInfo) : s.classes.modify i g = s.classes := by
        apply Array.ext_getElem?
        intro j
        rw [Array.getElem?_modify]
        split
        next h => subst h; simp [hi]
        next => rfl
      simp [keepMark, markPlace?, classPlace?, hi, isOpenClass, setClassAttr, hsame]
  | library l =>
    cases hl : l.isEngineOwn <;> simp [keepMark, markPlace?, classPlace?, hl, isOpenClass, putMark]
  | _ => rfl

/-! ### What a mark changes -/

/-- Whether two stores differ in nothing that matters to calls and signatures, apart from marks. -/
structure AlikeButMarks (s s' : Store) : Prop where
  body : ∀ v, s'.body? v = s.body? v
  kindOf : ∀ v, s'.kindOf v = s.kindOf v
  lineage : ∀ k, s'.lineage k = s.lineage k
  classAttr : ∀ k n, n ≠ scopeMark → (s'.classAttrs k).get? n = (s.classAttrs k).get? n
  takesAttrs : ∀ v, s'.takesAttrs v = s.takesAttrs v
  size : s'.classes.size = s.classes.size

section PutObject

variable (s : Store) (i : Nat) (m : Value)

/-- Putting a mark on an object changes its attributes, and no other object. -/
theorem getElem?_putMark_object (j : Nat) : (s.putMark (.object i) m).objects[j]? =
    if i = j then s.objects[j]?.map fun o => { o with attrs := o.attrs.insert scopeMark m }
    else s.objects[j]? := Array.getElem?_modify

theorem body?_putMark_object (v : Value) : (s.putMark (.object i) m).body? v = s.body? v := by
  cases v with
  | object j =>
    simp only [body?, deref?, getElem?_putMark_object]
    split
    · cases s.objects[j]? <;> rfl
    · rfl
  | _ => rfl

theorem kindOf_putMark_object (v : Value) :
    (s.putMark (.object i) m).kindOf v = s.kindOf v := by
  cases v with
  | object j =>
    simp only [Store.kindOf, getElem?_putMark_object]
    split
    · cases s.objects[j]? <;> rfl
    · rfl
  | _ => rfl

theorem takesAttrs_putMark_object (v : Value) :
    (s.putMark (.object i) m).takesAttrs v = s.takesAttrs v := by
  cases v with
  | object j =>
    simp only [Store.takesAttrs, deref?, getElem?_putMark_object]
    by_cases hij : i = j
    · -- The object takes attributes for its class and its body, and keeps both.
      rw [if_pos hij]
      cases s.objects[j]? <;> rfl
    · rw [if_neg hij]
      rfl
  | _ => rfl

/-- A mark on an object is all that tells the stores apart. -/
theorem alikeButMarks_putObject : s.AlikeButMarks (s.putMark (.object i) m) where
  body := s.body?_putMark_object i m
  kindOf := s.kindOf_putMark_object i m
  lineage k := by cases k <;> rfl
  classAttr k n _ := by cases k <;> rfl
  takesAttrs := s.takesAttrs_putMark_object i m
  size := rfl

end PutObject

/-- Setting an attribute of a class changes that class alone. -/
theorem getElem?_setClassAttr (s : Store) (k : Kind) (name : String) (v : Value) (i : Nat) :
    (s.setClassAttr k name v).classes[i]? =
      if k = .declared i then s.classes[i]?.map fun c => { c with attrs := c.attrs.insert name v }
      else s.classes[i]? := by
  cases k with
  | declared j => simp [setClassAttr, Array.getElem?_modify]
  | _ => rfl

/-- Setting an attribute of one class leaves the other classes as they are. -/
theorem classAttrs_setClassAttr_of_ne (s : Store) {k k' : Kind} (hk : k' ≠ k) (name : String)
    (v : Value) : (s.setClassAttr k name v).classAttrs k' = s.classAttrs k' := by
  cases k' with
  | declared i =>
    have hi : (s.setClassAttr k name v).classes[i]? = s.classes[i]? := by
      rw [getElem?_setClassAttr, if_neg (Ne.symm hk)]
    simp only [classAttrs, hi]
  | library l =>
    cases k with
    | library j =>
      have hj : j ≠ l := fun h => hk (by rw [h])
      -- What is set on a library class is kept first, and what was kept for it is dropped.
      have hfind : (s.library.filter (·.1 ≠ j)).find? (·.1 = l) = s.library.find? (·.1 = l) := by
        rw [List.find?_filter]
        congr 1
        funext e
        by_cases he : e.1 = l
        · simp [he, Ne.symm hj]
        · simp [he]
      simp only [classAttrs, setClassAttr, List.find?_cons, hj, decide_false, hfind]
    | _ => rfl
  | _ => rfl

/-- A class has an attribute that was set on it, if it is one that attributes can be set on. -/
theorem classAttrs_setClassAttr_self (s : Store) (k : Kind) (name : String) (v : Value) :
    (s.setClassAttr k name v).classAttrs k =
      if (s.classPlace? k).isSome then (s.classAttrs k).insert name v else s.classAttrs k := by
  cases k with
  | declared i =>
    simp only [classAttrs, getElem?_setClassAttr, if_true, classPlace?]
    by_cases hi : i < s.classes.size
    · simp [hi]
    · simp [hi]
  | library l => cases hl : l.isEngineOwn <;> simp [classAttrs, setClassAttr, classPlace?, hl]
  | _ => rfl

section SetClassAttr

variable (s : Store) (k : Kind) (name : String) (x : Value)

/-- What a class tells without its attributes is as it was before one was set. -/
theorem elim_getElem?_setClassAttr {α : Type} (i : Nat) (b : α) {g : ClassInfo → α}
    (hg : ∀ c a, g { c with attrs := a } = g c) :
    (s.setClassAttr k name x).classes[i]?.elim b g = s.classes[i]?.elim b g := by
  rw [getElem?_setClassAttr]
  split
  · cases s.classes[i]? with
    | none => rfl
    | some c => exact hg c _
  · rfl

theorem metaclass_setClassAttr (k' : Kind) :
    (s.setClassAttr k name x).metaclass k' = s.metaclass k' := by
  cases k' with
  | declared i =>
    exact s.elim_getElem?_setClassAttr k name x i LibraryKind.type (g := (·.metaclass))
      fun _ _ => rfl
  | _ => rfl

theorem lineage_setClassAttr (k' : Kind) :
    (s.setClassAttr k name x).lineage k' = s.lineage k' := by
  cases k' with
  | declared i =>
    exact s.elim_getElem?_setClassAttr k name x i [] (g := (·.lineage)) fun _ _ => rfl
  | _ => rfl

theorem objects_setClassAttr : (s.setClassAttr k name x).objects = s.objects := by
  cases k <;> rfl

theorem kindOf_setClassAttr (v : Value) : (s.setClassAttr k name x).kindOf v = s.kindOf v := by
  have hscopes : (s.setClassAttr k name x).scopes = s.scopes := by cases k <;> rfl
  cases v with
  | object j => simp only [Store.kindOf, objects_setClassAttr]
  | scope j => simp only [Store.kindOf, hscopes]
  | kind k' => exact congrArg Kind.library (s.metaclass_setClassAttr k name x k')
  | _ => rfl

theorem takesAttrs_setClassAttr (v : Value) :
    (s.setClassAttr k name x).takesAttrs v = s.takesAttrs v := by
  have hany (i : Nat) : (s.setClassAttr k name x).classes[i]?.any (·.hasAttrs) =
      s.classes[i]?.any (·.hasAttrs) := by
    have helim := s.elim_getElem?_setClassAttr k name x i false (g := (·.hasAttrs)) fun _ _ => rfl
    revert helim
    cases (s.setClassAttr k name x).classes[i]? <;> cases s.classes[i]? <;> exact id
  cases v with
  | object j => simp only [Store.takesAttrs, deref?, objects_setClassAttr, hany]
  | _ => rfl

end SetClassAttr

/-- A mark on a class is all that tells the stores apart. -/
theorem alikeButMarks_putClass (s : Store) (k : Kind) (m : Value) :
    s.AlikeButMarks (s.putMark (.class k) m) where
  body v := by
    cases v with
    | object j =>
      have hobjects : (s.putMark (.class k) m).objects = s.objects := s.objects_setClassAttr ..
      simp only [body?, deref?, hobjects]
    | _ => rfl
  kindOf := s.kindOf_setClassAttr k scopeMark m
  lineage := s.lineage_setClassAttr k scopeMark m
  classAttr k' n hn := by
    -- An attribute of another name is read past the mark.
    have hinsert (a : OrderedMap String Value) : (a.insert scopeMark m).get? n = a.get? n :=
      a.get?_insert_of_ne (fun h => hn h.symm) m
    by_cases hk : k' = k
    · subst hk
      rw [putMark, classAttrs_setClassAttr_self]
      split
      · exact hinsert _
      · rfl
    · rw [putMark, s.classAttrs_setClassAttr_of_ne hk]
  takesAttrs := s.takesAttrs_setClassAttr k scopeMark m
  size := by
    cases k with
    | declared j => exact Array.size_modify
    | _ => rfl

/-- Putting a mark somewhere changes nothing but marks. -/
theorem alikeButMarks_putMark (s : Store) (p : MarkPlace) (m : Value) :
    s.AlikeButMarks (s.putMark p m) := by
  cases p with
  | object i => exact s.alikeButMarks_putObject i m
  | «class» k => exact s.alikeButMarks_putClass k m

/-- Whether a definition is one that a signature is read from can be told from the definition. -/
theorem isSome_makerSignature? (s s' : Store) (isAllocator : Bool) (m : Maker) :
    (s'.makerSignature? isAllocator m).isSome = (s.makerSignature? isAllocator m).isSome := by
  cases m with
  | library l => rfl
  | declared v =>
    cases v with
    | none => rfl
    | native f => rcases f with ⟨_ | l, name⟩ <;> simp only [makerSignature?, Option.isSome_some]
    | _ => simp only [makerSignature?, Option.isSome_some]

namespace AlikeButMarks

theorem refl (s : Store) : s.AlikeButMarks s :=
  ⟨fun _ => rfl, fun _ => rfl, fun _ => rfl, fun _ _ _ => rfl, fun _ => rfl, rfl⟩

variable {s' : Store} (h : s.AlikeButMarks s')
include h

/-- A class has the same metaclass, which is the class that it is an instance of. -/
theorem metaclass (k : Kind) : s'.metaclass k = s.metaclass k := by
  have hkind := h.kindOf (.kind k)
  injection hkind

/-- The places where a mark is looked for are the same. -/
theorem markLine (f : Value) : s'.markLine f = s.markLine f := by
  have hholder : s'.holder f = s.holder f := by rw [holder, holder, h.body]
  have hancestry : s'.ancestry f = s.ancestry f := by
    cases f with
    | kind k => simp only [ancestry, h.lineage, h.metaclass]
    | _ => simp only [ancestry, h.lineage, h.kindOf]
  rw [Store.markLine, Store.markLine, hholder, hancestry]

/-- The place where a mark is kept is the same. -/
theorem markPlace? (f : Value) : s'.markPlace? f = s.markPlace? f := by
  cases f with
  | kind k => cases k <;> simp only [Store.markPlace?, classPlace?, h.size]
  | object i => simp only [Store.markPlace?, h.takesAttrs]
  | _ => rfl

/-- A special method is found in the same class, as long as it is not the mark. -/
theorem special? (k : Kind) {n : String} (hn : n ≠ scopeMark) :
    s'.special? k n = s.special? k n := by
  have hown : s'.ownSpecial? n = s.ownSpecial? n := by
    funext k'
    cases k' with
    | declared i => simp only [ownSpecial?, h.classAttr _ n hn]
    | _ => rfl
  rw [Store.special?, Store.special?, h.lineage, hown]

theorem declaredSpecial? (k : Kind) {n : String} (hn : n ≠ scopeMark) :
    s'.declaredSpecial? k n = s.declaredSpecial? k n := by
  rw [Store.declaredSpecial?, Store.declaredSpecial?, h.special? k hn]

/-- Who makes instances is told by attributes other than the mark. -/
theorem maker? {n : String} (hn : n ≠ scopeMark) (own : LibraryKind → Bool) (line : List Kind) :
    s'.maker? n own line = s.maker? n own line := by
  induction line with
  | nil => rfl
  | cons k rest ih => cases k <;> simp only [Store.maker?, h.classAttr _ n hn, ih]

/-- The definition that a signature is read from is the same. -/
theorem writtenMaker? (k : Kind) : s'.writtenMaker? k = s.writtenMaker? k := by
  have hnew := h.maker? (n := "__new__") (by decide) allocates
  have hinit := h.maker? (n := "__init__") (by decide) initialises
  simp only [Store.writtenMaker?, allocator?, initialiser?, definesMaker, h.lineage, hnew, hinit,
    isSome_makerSignature? s s']
  rfl

theorem function? : s'.function? = s.function? := by
  funext v
  rw [Store.function?, Store.function?, h.body]

theorem boundNames? : s'.boundNames? = s.boundNames? := by
  funext v
  cases v <;> simp only [Store.boundNames?, h.function?]

/-- An entry of a class has the same parameters. -/
theorem entryNames? (v : Value) : s'.entryNames? v = s.entryNames? v := by
  simp only [Store.entryNames?, h.body, h.function?, h.boundNames?]

/-- A callable has parameters of the same names. This is what a mark is made from, so remembering
    one mark does not change another. -/
theorem paramNames? (f : Value) : s'.paramNames? f = s.paramNames? f := by
  have hcall (k : Kind) : s'.special? k "__call__" = s.special? k "__call__" :=
    h.special? k (by decide)
  cases f with
  | kind k =>
    simp only [Store.paramNames?, constructorNames?, h.writtenMaker?, h.entryNames?, descends,
      h.lineage]
    rfl
  | native f => rfl
  | _ =>
    simp only [Store.paramNames?, h.body, h.kindOf, h.boundNames?, plainNames?, h.function?, hcall,
      h.entryNames?]

/-- A mark does not change what a callable asks for. -/
theorem asksScope (f : Value) : s'.asksScope f = s.asksScope f := by
  rw [Store.asksScope, Store.asksScope, h.paramNames?]

end AlikeButMarks

end Store

namespace Host

open Run

variable {call : Call} {w : World}

/-- An answer is nothing but a value: no class that holds it does anything about it. -/
theorem bindValue_bool (v : Value) (k : Kind) (b : Bool) :
    bindValue call v k (.bool b) w = (.ok (.bool b), w) := by
  have hspecial : callSpecial? call (.bool b) "__get__" [v, .kind k] w = (.ok none, w) :=
    callSpecial?_of_library rfl _ _
  unfold bindValue
  rw [bind_of_ok (store_apply w)]
  show ((callSpecial? call (.bool b) "__get__" [v, .kind k]) >>= _) w = _
  rw [bind_of_ok hspecial]
  rfl

/-- Asked of the class itself, an answer is nothing but a value as well. -/
theorem bindEntryToClass_bool (k owner : Kind) (b : Bool) :
    bindEntryToClass call k owner (.value (.bool b)) w = (.ok (.bool b), w) := by
  have hspecial : callSpecial? call (.bool b) "__get__" [.none, .kind k] w = (.ok none, w) :=
    callSpecial?_of_library rfl _ _
  unfold bindEntryToClass
  dsimp only
  rw [bind_of_ok (body?_apply w (.bool b))]
  show ((callSpecial? call (.bool b) "__get__" [.none, .kind k]) >>= _) w = _
  rw [bind_of_ok hspecial]
  rfl

/-- An answer is as true as it says. -/
theorem truth_bool (b : Bool) : truth call (.bool b) w = (.ok b, w) := by
  have hspecial : callSpecial? call (.bool b) "__bool__" [] w = (.ok none, w) :=
    callSpecial?_of_library rfl _ _
  unfold truth
  rw [bind_of_ok hspecial]
  dsimp only
  rw [bind_of_ok (store_apply w)]
  have hk : w.store.kindOf (.bool b) = .library .bool := rfl
  have hlength : LibraryKind.bool.lineage.find? (·.hasSpecial "__len__") = none := by decide
  have hcontent : w.store.content? (.bool b) = none := rfl
  simp only [hk, Store.special?_library, hlength, hcontent, Option.map_none, Option.isSome_none,
    Bool.and_false, Bool.false_eq_true, if_false]
  cases b <;> rfl

/-! ### Reading the mark -/

variable {f : Value}

/-- What a callable holds itself under the name of the mark is an attribute of its object. Scopes
    are left out, whose names are read in another way. -/
theorem ownValue?_scopeMark (h : ∀ i, f ≠ .scope i) :
    ownValue? f scopeMark w =
      (.ok ((w.store.deref? (w.store.holder f)).bind (·.attrs.get? scopeMark)), w) := by
  cases f with
  | object i =>
    unfold ownValue? Store.holder Store.body?
    rw [bind_of_ok (store_apply w)]
    cases ho : w.store.deref? (.object i) with
    | none => simp [ho]
    | some o => cases hb : o.body <;> simp only [ho, hb, Option.map_some, Option.bind_some] <;> rfl
  | scope i => exact absurd rfl (h i)
  | _ => rfl

/-- A class that is asked plainly shows the mark that is the first in its line. -/
theorem getClassAttr?_scopeMark {k : Kind} (h : w.store.AsksPlainly (.kind k)) :
    getClassAttr? call k scopeMark w = (.ok (w.store.seenMark (.kind k)), w) := by
  -- A class is asked along its own line first, and then along that of its metaclass.
  have hseen : w.store.seenMark (.kind k) =
      ((w.store.lineage k).findSome? fun o => w.store.markAt (.class o)).or
        ((w.store.lineage (.library (w.store.metaclass k))).findSome? fun o =>
          w.store.markAt (.class o)) := by
    show ((([] : List Store.MarkPlace) ++ (_ ++ _ : List Kind).map _).findSome? _) = _
    rw [List.nil_append, List.findSome?_map, List.findSome?_append]
    rfl
  have hname : classAttr? w.store k scopeMark = none := rfl
  unfold getClassAttr?
  rw [bind_of_ok (store_apply w)]
  simp only [hname]
  obtain ⟨hnone, hmark⟩ | ⟨owner, b, hsome, hmark⟩ := h.inherited?_eq (k := k) fun o ho =>
    List.mem_append_left _ ho
  · rw [hseen, hmark, Option.none_or]
    simp only [hnone]
    obtain ⟨hnone, hmark⟩ | ⟨owner, b, hsome, hmark⟩ :=
      h.inherited?_eq (k := .library (w.store.metaclass k)) fun o ho => List.mem_append_right _ ho
    · rw [hmark]
      simp only [hnone]
      rfl
    · rw [hmark]
      simp only [hsome, bindEntry]
      rw [bind_of_ok (bindValue_bool _ _ b)]
      rfl
  · rw [hseen, hmark, Option.some_or]
    simp only [hsome]
    rw [bind_of_ok (bindEntryToClass_bool k owner b)]
    rfl

/-- An instance that is asked plainly shows its own mark, or else the first in the line of its
    class. -/
theorem getInstanceAttr?_scopeMark (h : w.store.AsksPlainly f) (hk : ∀ k, f ≠ .kind k) :
    getInstanceAttr? call f scopeMark w = (.ok (w.store.seenMark f), w) := by
  have hline : w.store.ancestry f = w.store.lineage (w.store.kindOf f) := by
    cases f with
    | kind k => exact absurd rfl (hk k)
    | _ => rfl
  have hseen : w.store.seenMark f =
      ((w.store.deref? (w.store.holder f)).bind (·.attrs.get? scopeMark)).or
        ((w.store.lineage (w.store.kindOf f)).findSome? fun o => w.store.markAt (.class o)) := by
    rw [Store.seenMark, Store.markLine, hline, List.findSome?_append, Store.findSome?_objectPlaces,
      List.findSome?_map]
    rfl
  have hown := ownValue?_scopeMark (w := w) h.noScope
  unfold getInstanceAttr?
  rw [bind_of_ok (store_apply w)]
  dsimp only
  obtain ⟨hnone, hmark⟩ | ⟨owner, b, hsome, hmark⟩ :=
    h.inherited?_eq (k := w.store.kindOf f) fun o ho => by rw [hline]; exact ho
  · rw [hseen, hmark, Option.or_none]
    simp only [hnone]
    rw [bind_of_ok hown]
    cases (w.store.deref? (w.store.holder f)).bind (·.attrs.get? scopeMark) <;> rfl
  · rw [hseen, hmark]
    simp only [hsome]
    -- An answer does not decide over what the instance holds.
    have hgoverns : entryGoverns w.store (.value (.bool b)) = false := w.store.governs_bool b
    rw [hgoverns, if_neg Bool.false_ne_true, bind_of_ok hown]
    cases (w.store.deref? (w.store.holder f)).bind (·.attrs.get? scopeMark) with
    | some m => rfl
    | none =>
      simp only [bindEntry]
      rw [bind_of_ok (bindValue_bool _ _ b)]
      rfl

/-- A callable that is asked plainly shows the mark that is the first in its line. -/
theorem getAttr?_scopeMark (call : Call) (h : w.store.AsksPlainly f) :
    getAttr? call f scopeMark w = (.ok (w.store.seenMark f), w) := by
  by_cases hclass : ∃ k, f = .kind k
  · obtain ⟨k, rfl⟩ := hclass
    exact getClassAttr?_scopeMark h
  · have hf (k : Kind) : f ≠ .kind k := fun hk => hclass ⟨k, hk⟩
    have hget := h.special "__getattribute__" (by simp)
    have hmissing := h.special "__getattr__" (by simp)
    exact (getAttr?_of_undeclared call hf hget hmissing _).trans (getInstanceAttr?_scopeMark h hf)

/-- Where no mark is found, nothing is given in its place. -/
theorem getAttrD_scopeMark (call : Call) (h : w.store.AsksPlainly f) :
    getAttrD call f scopeMark .none w = (.ok ((w.store.seenMark f).getD .none), w) := by
  have hattr := getAttr?_scopeMark call h
  cases hseen : w.store.seenMark f with
  | some m =>
    rw [hseen] at hattr
    have hget : getAttr call f scopeMark w = (.ok m, w) := by
      rw [getAttr, bind_of_ok hattr]
      rfl
    rw [getAttrD, catching, bind_of_ok (outcome_of hget)]
    rfl
  | none =>
    rw [hseen] at hattr
    -- A mark that is missing is missing in the host's words, which are caught.
    obtain ⟨words, hwords⟩ : ∃ words, missingWords f scopeMark w = (.ok words, w) := by
      cases f <;> exact ⟨_, rfl⟩
    have hget : getAttr call f scopeMark w = (.error (.host .attributeError words), w) := by
      rw [getAttr, bind_of_ok hattr]
      exact (bind_of_ok hwords).trans rfl
    rw [getAttrD, catching, bind_of_ok (outcome_of hget)]
    rfl

/-! ### Keeping the mark -/

/-- An instance keeps its mark at its place, and one that has no place for it refuses. -/
theorem setOwn_scopeMark (h : ∀ i, f ≠ .scope i) (hk : ∀ k, f ≠ .kind k) (b : Bool) :
    setOwn f scopeMark (.bool b) w =
      match w.store.markPlace? f with
      | some p => (.ok (), { w with store := w.store.putMark p (.bool b) })
      | none => (.error .attributeError, w) := by
  unfold setOwn
  rw [bind_of_ok (store_apply w)]
  cases f with
  | kind k => exact absurd rfl (hk k)
  | scope i => exact absurd rfl (h i)
  | object i =>
    unfold Store.markPlace?
    dsimp only
    cases htakes : w.store.takesAttrs (.object i) with
    | false => rfl
    | true =>
      simp only [Bool.not_true, Bool.false_eq_true, if_false, if_true]
      rcases w.store.body? (.object i) with _ | b <;> first | rfl | (cases b <;> rfl)
  | _ => rfl

/-- No class in the line of a callable that is asked plainly takes part in writing the mark. -/
theorem setInstanceAttr_scopeMark (call : Call) (h : w.store.AsksPlainly f) (hk : ∀ k, f ≠ .kind k)
    (x : Value) : setInstanceAttr call f scopeMark x w = setOwn f scopeMark x w := by
  have hline : w.store.ancestry f = w.store.lineage (w.store.kindOf f) := by
    cases f with
    | kind k => exact absurd rfl (hk k)
    | _ => rfl
  unfold setInstanceAttr
  rw [bind_of_ok (store_apply w)]
  obtain ⟨hnone, -⟩ | ⟨owner, b, hsome, -⟩ :=
    h.inherited?_eq (k := w.store.kindOf f) fun o ho => by rw [hline]; exact ho
  · simp only [hnone]
  · -- A class on the line may hold an answer, which has no say in writes.
    have hspecial : callSpecial? call (.bool b) "__set__" [f, x] w = (.ok none, w) :=
      callSpecial?_of_library rfl _ _
    have hbody : w.store.body? (.bool b) = none := rfl
    simp only [hsome, hbody]
    rw [bind_of_ok hspecial]
    simp only [w.store.governs_bool b, Bool.false_eq_true, if_false]

/-- A callable keeps an answer at its place. One that has none refuses, in one of two ways. -/
theorem setAttr_scopeMark (call : Call) (h : w.store.AsksPlainly f) (b : Bool) :
    ∃ r, setAttr call f scopeMark (.bool b) w = (r, { w with store := w.store.keepMark f b }) ∧
      (r = .ok () ∨ r = .error .attributeError ∨ r = .error .typeError) := by
  by_cases hkind : ∃ k, f = .kind k
  · obtain ⟨k, rfl⟩ := hkind
    unfold setAttr
    dsimp only
    rw [Store.keepMark_kind]
    cases Store.isOpenClass k with
    | true => exact ⟨.ok (), rfl, .inl rfl⟩
    | false => exact ⟨.error .typeError, rfl, .inr (.inr rfl)⟩
  · have hk (k : Kind) : f ≠ .kind k := fun hf => hkind ⟨k, hf⟩
    -- No class takes writes over, so the mark is set as any attribute is.
    have hset : setAttr call f scopeMark (.bool b) w = setOwn f scopeMark (.bool b) w := by
      have hspecial := callSpecial?_of_none call
        (h.special "__setattr__" (by simp)) [.text scopeMark, .bool b]
      have hinst := setInstanceAttr_scopeMark call h hk (.bool b)
      cases f with
      | kind k => exact absurd rfl (hk k)
      | _ =>
        unfold setAttr
        dsimp only
        rw [bind_of_ok hspecial]
        exact hinst
    rw [hset, setOwn_scopeMark h.noScope hk, Store.keepMark]
    cases w.store.markPlace? f with
    | some p => exact ⟨_, rfl, .inl rfl⟩
    | none => exact ⟨_, rfl, .inr (.inl rfl)⟩

/-- What a callable is taken to ask for: what the mark that it shows says, else what it asks for by
    its own parameters, which it then remembers. -/
theorem acceptsScope_eq (call : Call) (h : w.store.AsksPlainly f) :
    acceptsScope call f w =
      match w.store.seenMark f with
      | some m => (.ok m, w)
      | none => (.ok (.bool (w.store.asksScope f)),
          { w with store := w.store.keepMark f (w.store.asksScope f) }) := by
  have hget := getAttrD_scopeMark call h
  unfold acceptsScope
  rw [bind_of_ok hget]
  cases hseen : w.store.seenMark f with
  | some m =>
    obtain ⟨b, rfl⟩ := h.exists_eq_bool hseen
    rfl
  | none =>
    obtain ⟨r, hset, hr⟩ := setAttr_scopeMark call h (w.store.asksScope f)
    simp only [Option.getD_none]
    rw [bind_of_ok (store_apply w)]
    refine (bind_of_ok (outcome_of hset)).trans ?_
    obtain rfl | rfl | rfl := hr <;> rfl

end Host

end ScriptBridge
