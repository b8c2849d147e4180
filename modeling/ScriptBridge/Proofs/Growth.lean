import ScriptBridge.Container
import ScriptBridge.Proofs.Run

namespace ScriptBridge

/-!
# Worlds that only grow

Much of what an operation does leaves all there is as it is, and adds objects for its own use: a
list of names, a function bound to a value. What is said here of values of library classes holds
whatever calling a value means, because no declared class is asked about them.

* `World.Grows` relates a world to those with more objects;
* `Store.declaredSpecial?_library`: a library class has its special methods from the library;
* `Host.itemsOf_list` walks through a plain list, `Host.getAttr_libraryMethod` reads a method.
-/

/-! ### Worlds with more objects -/

/-- Whether one world is another with new objects, and new keys, and nothing else that is new. -/
def World.Grows (w w' : World) : Prop :=
  ∃ os n, w' = { w with store := { w.store with objects := w.store.objects ++ os, stamps := n } }

namespace World.Grows

variable {w w' w'' : World}

/-- A world grows by nothing. -/
@[refl] theorem refl (w : World) : w.Grows w := ⟨#[], w.store.stamps, by simp⟩

/-- Growing twice is growing. -/
theorem trans (h : w.Grows w') (h' : w'.Grows w'') : w.Grows w'' := by
  obtain ⟨os, n, rfl⟩ := h
  obtain ⟨os', n', rfl⟩ := h'
  exact ⟨os ++ os', n', by simp⟩

/-- Objects that are there stay as they are. -/
theorem deref? (h : w.Grows w') {v : Value} {o : Object} (ho : w.store.deref? v = some o) :
    w'.store.deref? v = some o := by
  obtain ⟨os, n, rfl⟩ := h
  cases v with
  | object i =>
    obtain ⟨hi, rfl⟩ := Array.getElem?_eq_some_iff.1 ho
    exact (Array.getElem?_append_left hi).trans ho
  | _ => cases ho

/-- What a value holds, it holds still when the world has grown. -/
theorem body? (h : w.Grows w') {v : Value} {b : Body} (hb : w.store.body? v = some b) :
    w'.store.body? v = some b := by
  obtain ⟨o, ho, rfl⟩ := Option.map_eq_some_iff.1 hb
  rw [Store.body?, h.deref? ho, Option.map_some]

/-- What a value answers by does not change. Only a bound method answers for another value. -/
theorem libraryMethod? (h : w.Grows w') {v : Value} {b : Body} (hb : w.store.body? v = some b)
    (hbound : ∀ f r, b ≠ .bound f r) (name : String) :
    w'.store.libraryMethod? v name = w.store.libraryMethod? v name := by
  obtain ⟨o, ho, rfl⟩ := Option.map_eq_some_iff.1 hb
  have ho' := h.deref? ho
  obtain ⟨os, n, rfl⟩ := h
  cases v with
  | object i =>
    have hsame (s : Store) (hs : s.deref? (.object i) = some o) :
        s.kindOf (.object i) = o.kind ∧ s.ownNames (.object i) = Store.objectNames o := by
      have hi : s.objects[i]? = some o := hs
      simp only [Store.kindOf, Store.ownNames, hi, Option.elim_some, true_and]
    unfold Store.libraryMethod?
    rw [(hsame _ ho).1, (hsame _ ho).2, (hsame _ ho').1, (hsame _ ho').2]
    rfl
  | _ => cases ho

end World.Grows

/-- A new object is the only change. -/
theorem Run.exists_alloc_eq (w : World) (o : Object) :
    ∃ i w', alloc o w = (.ok (.object i), w') ∧ w.Grows w' ∧
      w'.store.deref? (.object i) = some o := by
  refine ⟨_, _, rfl, ⟨#[o], w.store.stamps, ?_⟩, Store.deref?_alloc_self w.store o⟩
  show { w with store := (w.store.alloc o).2 } = _
  simp [Store.alloc]

/-! ### Values of library classes -/

namespace Store

/-- A library class has a special method from the nearest class of the library that has it. -/
theorem special?_library (s : Store) (l : LibraryKind) (name : String) :
    s.special? (.library l) name = (l.lineage.find? (·.hasSpecial name)).map .library := by
  unfold special?
  simp only [lineage]
  induction l.lineage with
  | nil => rfl
  | cons k rest ih =>
    cases h : k.hasSpecial name <;> simp [ownSpecial?, h, ih]

/-- No declared class defines a special method of a library class. -/
theorem declaredSpecial?_library (s : Store) (l : LibraryKind) (name : String) :
    s.declaredSpecial? (.library l) name = none := by
  rw [declaredSpecial?, special?_library]
  cases l.lineage.find? (·.hasSpecial name) <;> rfl

/-- The kind of a value is that of the object behind it. -/
theorem kindOf_of_deref? {s : Store} {v : Value} {o : Object} (h : s.deref? v = some o) :
    s.kindOf v = o.kind := by
  cases v with
  | object i => simp only [kindOf, show s.objects[i]? = some o from h, Option.elim_some]
  | _ => cases h

end Store

namespace Host

open Run

variable {call : Call} {w : World} {v : Value} {l : LibraryKind} {i : Nat}

/-- A special method that no declared class has is not called. -/
theorem callSpecial?_of_none (call : Call) {name : String}
    (h : w.store.declaredSpecial? (w.store.kindOf v) name = none) (args : List Value) :
    callSpecial? call v name args w = (.ok none, w) := by
  simp [callSpecial?, bind_apply, h]

/-- A special method that the library defines is not asked of a declared class. -/
theorem callSpecial?_of_special {name : String}
    (h : w.store.special? (w.store.kindOf v) name = some (.library l)) (args : List Value) :
    callSpecial? call v name args w = (.ok none, w) :=
  callSpecial?_of_none call (by rw [Store.declaredSpecial?, h]) args

/-- A special method of the library is found without running host code. -/
theorem librarySpecial?_of_special {name : String}
    (h : w.store.special? (w.store.kindOf v) name = some (.library l)) :
    librarySpecial? v name w = (.ok (some l), w) := by
  simp [librarySpecial?, bind_apply, h]

/-- No declared class is asked about a value of a library class. -/
theorem callSpecial?_of_library (h : w.store.kindOf v = .library l) (name : String)
    (args : List Value) : callSpecial? call v name args w = (.ok none, w) :=
  callSpecial?_of_none call (by rw [h, Store.declaredSpecial?_library]) args

/-- The library class that is asked about a value of a library class. -/
theorem librarySpecial?_of_library (h : w.store.kindOf v = .library l) {name : String}
    {owner : LibraryKind} (howner : l.lineage.find? (·.hasSpecial name) = some owner) :
    librarySpecial? v name w = (.ok (some owner), w) := by
  refine librarySpecial?_of_special ?_
  rw [h, Store.special?_library, howner]
  rfl

/-- What holds its elements is walked through from the first to the last, if it is walked through
    as the library does. -/
theorem itemsOf_of_elements (owner : LibraryKind) {b : Body} {items : List Value}
    (hk : w.store.kindOf v = .library l)
    (howner : l.lineage.find? (·.hasSpecial "__iter__") = some owner)
    (hwalk : owner ∉ [LibraryKind.iterable, .collection, .sequence])
    (hb : requireContent v w = (.ok b, w)) (hitems : b.elements? = some items) :
    itemsOf call v w = (.ok items, w) := by
  simp only [List.mem_cons, List.not_mem_nil, or_false, not_or] at hwalk
  obtain ⟨hiterable, hcollection, hsequence⟩ := hwalk
  unfold itemsOf
  rw [bind_of_ok (callSpecial?_of_library hk _ _)]
  dsimp only
  rw [bind_of_ok (librarySpecial?_of_library hk howner)]
  -- The three abstract classes walk in ways of their own, which are left out.
  split
  next h => exact absurd (Option.some.inj h) hiterable
  next h => exact absurd (Option.some.inj h) hcollection
  next h => exact absurd (Option.some.inj h) hsequence
  next =>
    rw [bind_of_ok hb]
    cases b with
    | side side of => cases hitems
    | range start stop step => cases hitems
    | _ =>
      simp only [hitems]
      rfl
  next h => cases h

/-- A plain list is walked through from its first item to its last. -/
theorem itemsOf_list {items : List Value}
    (h : w.store.deref? (.object i) = some { kind := .library .list, body := .list items }) :
    itemsOf call (.object i) w = (.ok items, w) := by
  have hb : requireContent (.object i) w = (.ok (.list items), w) := by
    simp [requireContent, wholeContent?, bind_apply, Store.content?, Store.ownContent?,
      Store.body?, h]
  exact itemsOf_of_elements .list (Store.kindOf_of_deref? h) (by decide) (by decide) hb rfl

/-- A plain map is walked through by its keys. -/
theorem itemsOf_dict {m : HostMap}
    (h : w.store.deref? (.object i) = some { kind := .library .dict, body := .dict m }) :
    itemsOf call (.object i) w = (.ok (m.keys.map (·.value)), w) := by
  have hb : requireContent (.object i) w = (.ok (.dict m), w) := by
    simp [requireContent, wholeContent?, bind_apply, Store.content?, Store.ownContent?,
      Store.body?, h]
  exact itemsOf_of_elements .dict (Store.kindOf_of_deref? h) (by decide) (by decide) hb rfl

/-- A new list gives its items back. -/
theorem exists_newList_eq (call : Call) (items : List Value) (w : World) :
    ∃ i w', newList items w = (.ok (.object i), w') ∧ w.Grows w' ∧
      itemsOf call (.object i) w' = (.ok items, w') := by
  obtain ⟨i, w', hnew, hgrows, ho⟩ := exists_alloc_eq w
    { kind := .library .list, body := .list items }
  exact ⟨i, w', hnew, hgrows, itemsOf_list ho⟩

/-- Texts are shown as they are, and nothing is asked. -/
theorem exists_mapM_textOf_eq (call : Call) (w : World) (values : List Value)
    (h : ∀ x ∈ values, ∃ t, x = .text t) :
    ∃ texts, values.mapM (textOf call) w = (.ok texts, w) := by
  induction values with
  | nil => exact ⟨[], rfl⟩
  | cons x rest ih =>
    obtain ⟨t, rfl⟩ := h x List.mem_cons_self
    obtain ⟨texts, ht⟩ := ih fun y hy => h y (List.mem_cons_of_mem _ hy)
    refine ⟨t :: texts, ?_⟩
    rw [List.mapM_cons, bind_of_ok (x := textOf call (.text t)) rfl, bind_of_ok ht]
    rfl

/-- Nothing is caught where nothing fails. -/
theorem catching_of_ok {α : Type} {y : Run α} {a : α} {w' : World} (l : LibraryKind)
    (otherwise : Run α) (h : y w = (.ok a, w')) : catching l y otherwise w = (.ok a, w') := by
  rw [catching, bind_of_ok (outcome_apply w y), h]
  rfl

/-- An attribute is read as all classes do if no declared class takes reads over, or answers for
    what is missing. -/
theorem getAttr?_of_undeclared (call : Call) (hv : ∀ k, v ≠ .kind k)
    (hread : w.store.declaredSpecial? (w.store.kindOf v) "__getattribute__" = none)
    (hmissing : w.store.declaredSpecial? (w.store.kindOf v) "__getattr__" = none) (name : String) :
    getAttr? call v name w = getInstanceAttr? call v name w := by
  unfold getAttr?
  split
  next k => exact absurd rfl (hv k)
  next =>
    rw [bind_of_ok (store_apply w)]
    dsimp only
    rw [hmissing]
    exact bind_of_ok (callSpecial?_of_none call hread _)

/-- An attribute that is found as all classes do is read so if no declared class takes reads over:
    what answers for missing attributes is not asked. -/
theorem getAttr?_of_found {x : Value} {w' : World} {name : String} (hv : ∀ k, v ≠ .kind k)
    (hread : w.store.declaredSpecial? (w.store.kindOf v) "__getattribute__" = none)
    (hfound : getInstanceAttr? call v name w = (.ok (some x), w')) :
    getAttr? call v name w = (.ok (some x), w') := by
  have hregular := callSpecial?_of_none call hread [.text name]
  unfold getAttr?
  split
  next k => exact absurd rfl (hv k)
  next =>
    rw [bind_of_ok (store_apply w)]
    dsimp only
    split
    next =>
      rw [bind_of_ok hregular]
      exact hfound
    next =>
      rw [bind_of_ok (catching_of_ok _ _ ((bind_of_ok hregular).trans hfound))]
      rfl

/-- No declared class has a say in how an attribute of an instance of a library class is read. -/
theorem getAttr?_of_library (hk : w.store.kindOf v = .library l) (hv : ∀ k, v ≠ .kind k)
    (name : String) : getAttr? call v name w = getInstanceAttr? call v name w := by
  refine getAttr?_of_undeclared call hv ?_ ?_ name <;> rw [hk, Store.declaredSpecial?_library]

/-- A method of a library class is read through one of its values as a function bound to it, unless
    the value itself holds something of the name. -/
theorem getAttr_libraryMethod {owner : LibraryKind} {name attr : String} {params : LibraryParams}
    (hk : w.store.kindOf (.object i) = .library l)
    (hm : w.store.inherited? (.library l) name =
      some (.library owner, .library (.method attr params)))
    (hown : ownValue? (.object i) name w = (.ok none, w)) :
    getAttr call (.object i) name w = attach (.native ⟨some owner, attr⟩) (.object i) w := by
  have hinst : getInstanceAttr? call (.object i) name w =
      (some <$> attach (.native ⟨some owner, attr⟩) (.object i)) w := by
    unfold getInstanceAttr?
    rw [bind_of_ok (store_apply w), hk]
    simp only [hm, entryGoverns, Bool.false_eq_true, if_false]
    rw [bind_of_ok hown]
    rfl
  have hattr : getAttr? call (.object i) name w =
      (some <$> attach (.native ⟨some owner, attr⟩) (.object i)) w :=
    (getAttr?_of_library hk (by simp) name).trans hinst
  obtain ⟨j, w', hj, -⟩ := exists_alloc_eq w
    { kind := .library .boundMethod, body := .bound (.native ⟨some owner, attr⟩) (.object i) }
  replace hj : attach (.native ⟨some owner, attr⟩) (.object i) w = (.ok (.object j), w') := hj
  rw [map_apply, hj] at hattr
  rw [getAttr, bind_of_ok hattr, hj]
  rfl

/-- A method that the library has for a value is the library's. -/
theorem viaKeyed_apply {method : String} (h : w.store.libraryMethod? v method = some l) (key : Key)
    (args : Value → List Value) (native : LibraryKind → Run Value) :
    viaKeyed call v method key args native w = native l w := by
  have hm : libraryMethod? v method w = (.ok (some l), w) := by rw [← h]; rfl
  rw [viaKeyed, bind_of_ok hm]

end Host

end ScriptBridge
