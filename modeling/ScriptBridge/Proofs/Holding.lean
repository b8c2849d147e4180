import ScriptBridge.Proofs.Serving

namespace ScriptBridge

/-!
# What containers hold

Structs, scripted instances, arrays, lists, queues and host maps keep what is written to them in the
content of one object. Replacing it by another of its sort changes nothing else about the values of
a store.

* `Holding` is what a container holds, `Store.Contains` tells which value holds what;
* `Wrote` is what becomes of a holding when a key of it is written;
* `Store.libraryMethod?_setBody`, `Store.classify_setBody` say that a value answers as before;
* `Host.getItem_of_isSequence`, `Host.getItem_of_dict`, `Host.exists_setItem_eq` look at elements.
-/

/-! ### Holdings -/

namespace OrderedMap

variable {κ φ α : Type} [Keyed κ φ] [DecidableEq φ]

/-- Whether a map is another with a key set: no other key changes, and the order is kept, where a
    new key comes last. -/
structure SetTo (k : κ) (a : α) (m m' : OrderedMap κ α) : Prop where
  here : m'.get? k = some a
  others : ∀ k', Keyed.form k' ≠ Keyed.form k → m'.get? k' = m.get? k'
  order : m'.keys = if m.contains k then m.keys else m.keys ++ [k]

/-- To insert a key sets it to its value. -/
theorem setTo_insert (m : OrderedMap κ α) (k : κ) (a : α) : SetTo k a m (m.insert k a) where
  here := get?_insert_self m k a
  others _ h := get?_insert_of_ne m (Ne.symm h) a
  order := keys_insert m k a

end OrderedMap

/-- Whether a list is another with a value at a place, counted from zero: it is as long as it was,
    or as the place asks for, every other item stays, and the places in between are absent. -/
structure PaddedTo (i : Nat) (x : Value) (xs ys : List Value) : Prop where
  here : ys[i]? = some x
  length : ys.length = max xs.length (i + 1)
  kept : ∀ j < xs.length, j ≠ i → ys[j]? = xs[j]?
  padded : ∀ j < i, xs.length ≤ j → ys[j]? = some .absent

/-- A list that is filled up and set is padded to the place. -/
theorem paddedTo_setPadded (xs : List Value) (i : Nat) (x : Value) :
    PaddedTo i x xs (setPadded xs i x) where
  here := getElem?_setPadded_self xs i x
  length := length_setPadded xs i x
  kept j hj hne := by rw [getElem?_setPadded_of_ne xs hne, if_pos hj]
  padded j hj hle := by
    rw [getElem?_setPadded_of_ne xs (Nat.ne_of_lt hj), if_neg (by omega), if_pos hj]

/-- What a container holds: the entries of a struct, the pairs of a host map, or the items of a
    sequence. -/
inductive Holding where
  | entries (m : OrderedMap Key Value)
  | pairs (m : HostMap)
  | items (xs : List Value)

namespace Key

/-- The form by which a host map compares the value that a key stands for. -/
def mapForm (k : Key) : KeyForm :=
  match k.number with
  | some n => .number (.ofInt n)
  | none => .text k.name

/-- No class decides over the form by which a map is asked for a key. -/
theorem isCustom_mapForm (k : Key) : k.mapForm.isCustom = false := by
  unfold mapForm
  cases k.number <;> rfl

/-- The key of a host map that a key stands for. -/
def mapKey (k : Key) : MapKey := ⟨k.toValue, k.mapForm⟩

/-- A key that was made from no number is looked up under its name. -/
theorem mapKey_of_number_eq_none {k : Key} (h : k.number = none) : k.mapKey = .ofText k.name := by
  simp only [mapKey, toValue, mapForm, h]
  rfl

end Key

/-- What becomes of a holding when a key of it is written. The items of a sequence are counted from
    one. -/
inductive Wrote (k : Key) (x : Value) : Holding → Holding → Prop where
  | entry {m m' : OrderedMap Key Value} (h : m.SetTo k x m') : Wrote k x (.entries m) (.entries m')
  | pair {m m' : HostMap} (h : m.SetTo k.mapKey x m') : Wrote k x (.pairs m) (.pairs m')
  | item {xs ys : List Value} {i : Nat} (hi : k.reading = .index (i + 1)) (h : PaddedTo i x xs ys) :
    Wrote k x (.items xs) (.items ys)

/-- Whether a holding has a value under a key. -/
def Holding.Gives (k : Key) (x : Value) : Holding → Prop
  | entries m => m.get? k = some x
  | pairs m => m.get? k.mapKey = some x
  | items xs => ∃ i : Nat, k.reading = .index (i + 1) ∧ xs[i]? = some x

/-- What was written is given. -/
theorem Wrote.gives {k : Key} {x : Value} {h h' : Holding} (hw : Wrote k x h h') :
    h'.Gives k x := by
  cases hw with
  | entry h => exact h.here
  | pair h => exact h.here
  | item hi h => exact ⟨_, hi, h.here⟩

/-- Whether a key means a place of its own in a holding: a sequence reads `length` as its length,
    and a host map asks keys that compute the same hash. -/
def Holding.Places (k : Key) : Holding → Prop
  | entries _ => True
  | pairs m => ∀ key ∈ m.keys, key.form.isCustom → ¬ key.form.sameHash k.mapForm
  | items _ => k.same .length = false

/-- A key that means a place of its own before it is written does so after. -/
theorem Wrote.places {k : Key} {x : Value} {h h' : Holding} (hw : Wrote k x h h')
    (hp : h.Places k) : h'.Places k := by
  cases hw with
  | entry => trivial
  | item => exact hp
  | @pair m m' h =>
    intro key hkey hc
    rw [h.order] at hkey
    split at hkey
    · exact hp key hkey hc
    · obtain hkey | hkey := List.mem_append.1 hkey
      · exact hp key hkey hc
      · obtain rfl := List.mem_singleton.1 hkey
        -- The key that was added compares by its own form, so no class is asked.
        rw [show k.mapKey.form = k.mapForm from rfl, k.isCustom_mapForm] at hc
        cases hc

/-! ### Replacing a content -/

/-- Whether two contents are of one sort, as far as the names tell that an object holds. -/
def Body.SameSort : Body → Body → Prop
  | .struct .., .struct .. | .array .., .array .. | .list .., .list .. | .deque .., .deque ..
  | .dict .., .dict .. => True
  | _, _ => False

/-- Whether a content is kept in its object, and is no view of what another holds. -/
def Body.IsDirect : Body → Prop
  | .plain | .entriesOf _ | .itemsOf _ | .viewOf _ => False
  | _ => True

/-- A struct is of the same sort with other keys. -/
theorem Body.sameSort_struct {m m' : OrderedMap Key Value} {card card' : Option Value} :
    (struct m card).SameSort (struct m' card') := trivial

/-- An array is of the same sort with other elements. -/
theorem Body.sameSort_array {xs ys : List Value} {card card' : Option Value} :
    (array xs card).SameSort (array ys card') := trivial

/-- The description that a content keeps. -/
def Body.card? : Body → Option Value
  | .struct _ card | .array _ card => card
  | _ => none

/-- What becomes of a world by a write to a container: where the write is refused, there is nothing
    new but the trace, and else the container has another content of its sort, which keeps the same
    description. -/
inductive World.Writes {α : Type} (c : Value) (w : World) : Except Fault α → World → Prop
  | refused {e : Fault} (lines : List String) : Writes c w (.error e) (w.withTrace lines)
  | done {a : α} {b b' : Body} (lines : List String) (hb : w.store.body? c = some b)
    (hsort : b.SameSort b') (hcard : b'.card? = b.card?) :
    Writes c w (.ok a) { w.withTrace lines with store := w.store.setBody c b' }

/-- What was traced before makes no difference. -/
theorem World.Writes.of_withTrace {α : Type} {c : Value} {w w' : World} {lines : List String}
    {r : Except Fault α} (h : (w.withTrace lines).Writes c r w') : w.Writes c r w' := by
  cases h with
  | refused lines' => exact .refused lines'
  | done lines' hb hsort hcard => exact .done lines' hb hsort hcard

namespace Store

variable {s : Store} {c v : Value} {b b' : Body}

/-- What an object consists of is its content, unless it wraps another one. -/
theorem content?_of_body? (h : s.body? v = some b) (hb : b.IsDirect) : s.content? v = some b := by
  cases b with
  | plain | entriesOf | itemsOf | viewOf => cases hb
  | _ => simp only [content?, ownContent?, h]

/-- To set what an object consists of leaves the class of every value. -/
theorem kindOf_setBody (s : Store) (c v : Value) (b : Body) :
    (s.setBody c b).kindOf v = s.kindOf v := by
  cases c with
  | object j =>
    cases v with
    | object i =>
      simp only [setBody, modify, kindOf, Array.getElem?_modify]
      split
      · cases s.objects[i]? <;> rfl
      · rfl
    | _ => rfl
  | _ => rfl

/-- What a value holds does not tell which special methods a class has. -/
theorem special?_setBody (s : Store) (c : Value) (b : Body) (k : Kind) (name : String) :
    (s.setBody c b).special? k name = s.special? k name := by
  cases c <;> rfl

/-- What a value holds does not tell what a class inherits. -/
theorem inherited?_setBody (s : Store) (c : Value) (b : Body) (k : Kind) (name : String) :
    (s.setBody c b).inherited? k name = s.inherited? k name := by
  cases c <;> rfl

/-- To set what an object consists of leaves the sort of every target. -/
theorem classify_setBody (s : Store) (c v : Value) (b : Body) :
    (s.setBody c b).classify v = s.classify v := by
  have hinst : (s.setBody c b).isInstance v = s.isInstance v := by
    funext k
    unfold isInstance
    rw [kindOf_setBody]
    cases c <;> rfl
  unfold classify
  rw [hinst]

/-- What stands for itself does so still. -/
theorem asTarget_setBody (h : s.asTarget v = ⟨s.kindOf v, v⟩) (hb : s.body? c = some b)
    (hsort : b.SameSort b') : (s.setBody c b').asTarget v = ⟨s.kindOf v, v⟩ := by
  by_cases hv : v = c
  -- Only a target object stands for something else, and that is no content of these sorts.
  · subst hv
    rw [asTarget, body?_setBody_self, hb, kindOf_setBody]
    cases b <;> cases b' <;> cases hsort <;> rfl
  · rw [asTarget, body?_setBody_of_ne s hv, kindOf_setBody]
    exact h

/-- An object reads as it did, apart from its content. -/
theorem elim_deref?_setBody {α : Type} {f : Object → α} (hf : ∀ o b, f { o with body := b } = f o)
    (a : α) (s : Store) (c v : Value) (b : Body) :
    ((s.setBody c b).deref? v).elim a f = (s.deref? v).elim a f := by
  by_cases h : v = c
  · subst h
    rw [setBody, deref?_modify_self]
    cases s.deref? v with
    | none => rfl
    | some o => exact hf o b
  · rw [setBody, deref?_modify_of_ne s h]

/-- A content of the same sort tells the same names. -/
theorem ownNames_setBody (hb : s.body? c = some b) (h : b.SameSort b') (v : Value) :
    (s.setBody c b').ownNames v = s.ownNames v := by
  cases v with
  | object i =>
    -- What a bound method tells is what its function tells, which is another object.
    by_cases hi : Value.object i = c
    · subst hi
      obtain ⟨⟨kind, body, attrs, slots⟩, ho, rfl⟩ := Option.map_eq_some_iff.1 hb
      have ho' := (deref?_modify_self s (.object i) fun o => { o with body := b' }).trans
        (congrArg (Option.map _) ho)
      replace ho : s.objects[i]? = _ := ho
      replace ho' : (s.setBody (.object i) b').objects[i]? = _ := ho'
      simp only [ownNames, ho, ho', Option.map_some]
      cases body <;> cases b' <;> cases h <;> cases kind <;> rfl
    · have ho : (s.setBody c b').objects[i]? = s.objects[i]? := deref?_modify_of_ne s hi _
      simp only [ownNames, ho]
      cases s.objects[i]? with
      | none => rfl
      | some o =>
        cases hbody : o.body with
        | bound g r =>
          simp only [hbody]
          exact elim_deref?_setBody (fun _ _ => rfl) [] s c g b'
        | _ => simp only [hbody]
  | scope i => cases c <;> rfl
  | kind k => cases c <;> rfl
  | _ => rfl

/-- A content of the same sort leaves every method that the library has for a value. -/
theorem libraryMethod?_setBody (hb : s.body? c = some b) (h : b.SameSort b') (v : Value)
    (name : String) : (s.setBody c b').libraryMethod? v name = s.libraryMethod? v name := by
  -- A method is found by the class and by the names that the value itself tells.
  unfold libraryMethod? declaredSpecial?
  simp only [kindOf_setBody, inherited?_setBody, special?_setBody, ownNames_setBody hb h]

end Store

/-! ### Containers -/

namespace Store

/-- Whether reads and writes of a value are answered by the methods of a library class. -/
structure AnswersAs (s : Store) (v : Value) (l : LibraryKind) : Prop where
  target : s.asTarget v = ⟨s.kindOf v, v⟩
  sort : s.classify v = .referenceable
  write : s.libraryMethod? v "assign" = some l
  read : s.libraryMethod? v "dereference" = some l

/-- Whether a value is a struct with some entries, which sets and reads them as the library does. -/
structure IsStruct (s : Store) (v : Value) (m : OrderedMap Key Value) : Prop where
  body : ∃ card, s.body? v = some (.struct m card)
  setter : s.special? (s.kindOf v) "__setitem__" = some (.library .struct)
  reader : s.libraryMethod? v "dereference" = some .struct

/-- Whether a value holds another as its public members, and no class has anything of the name. -/
structure ShowsPublic (s : Store) (v members : Value) : Prop where
  held : (s.deref? v).elim none (·.attrs.get? "this_scope") = some members
  free : s.inherited? (s.kindOf v) "this_scope" = none
  unbound : ∀ f r, s.body? v ≠ some (.bound f r)

/-- Whether a value is a list or an unbounded queue of the host's own, with some items. -/
inductive IsSequence (s : Store) (v : Value) (xs : List Value) : Prop where
  | list (hkind : s.kindOf v = .library .list) (hbody : s.body? v = some (.list xs))
  | deque (hkind : s.kindOf v = .library .deque) (hbody : s.body? v = some (.deque xs none))

/-- Which value holds what. Lists, queues and host maps are those of the host's own classes, structs
    and arrays those that answer by the library's methods, and the entries of a scripted instance
    are those of the struct of its public members. -/
inductive Contains (s : Store) (v : Value) : Holding → Prop where
  | struct {m : OrderedMap Key Value} (hanswers : s.AnswersAs v .struct)
      (hstruct : s.IsStruct v m) :
    Contains s v (.entries m)
  | scripted {m : OrderedMap Key Value} {members : Value} (hanswers : s.AnswersAs v .scripted)
    (hpublic : s.ShowsPublic v members) (hstruct : s.IsStruct members m) : Contains s v (.entries m)
  | array {xs : List Value} {card : Option Value} (hanswers : s.AnswersAs v .array)
    (hbody : s.body? v = some (.array xs card)) : Contains s v (.items xs)
  | sequence {xs : List Value} (hitems : s.IsSequence v xs) : Contains s v (.items xs)
  | dict {m : HostMap} (hkind : s.kindOf v = .library .dict) (hbody : s.body? v = some (.dict m)) :
    Contains s v (.pairs m)

variable {s : Store} {c v : Value} {b b' : Body} {l : LibraryKind} {m m' : OrderedMap Key Value}

/-- What answers by a library class is not nothing. -/
theorem AnswersAs.ne_none (h : s.AnswersAs v l) : v ≠ .none := by
  rintro rfl
  cases h.sort

/-- A value answers by the same class after a write to any container. -/
theorem AnswersAs.setBody (h : s.AnswersAs v l) (hb : s.body? c = some b) (hsort : b.SameSort b') :
    (s.setBody c b').AnswersAs v l where
  target := by rw [asTarget_setBody h.target hb hsort, kindOf_setBody]
  sort := by rw [classify_setBody, h.sort]
  write := by rw [libraryMethod?_setBody hb hsort, h.write]
  read := by rw [libraryMethod?_setBody hb hsort, h.read]

/-- A struct with other entries is a struct still. -/
theorem IsStruct.setBody (h : s.IsStruct v m) {card : Option Value}
    (hb : s.body? v = some (.struct m card)) (card' : Option Value) :
    (s.setBody v (.struct m' card')).IsStruct v m' where
  body := ⟨card', by rw [body?_setBody_self, hb, Option.map_some]⟩
  setter := by rw [kindOf_setBody, special?_setBody, h.setter]
  reader := by rw [libraryMethod?_setBody hb Body.sameSort_struct, h.reader]

/-- A scripted instance shows the same public members after a write to a struct. -/
theorem ShowsPublic.setBody {members : Value} (h : s.ShowsPublic v members) (c : Value)
    (m : OrderedMap Key Value) (card : Option Value) :
    (s.setBody c (.struct m card)).ShowsPublic v members where
  held := by rw [elim_deref?_setBody (fun _ _ => rfl), h.held]
  free := by rw [kindOf_setBody, inherited?_setBody, h.free]
  unbound f r := by
    by_cases hv : v = c
    · subst hv
      rw [body?_setBody_self]
      cases s.body? v <;> simp
    · rw [body?_setBody_of_ne s hv]
      exact h.unbound f r

/-- A sequence has a content, and that is no target. -/
theorem IsSequence.exists_body? {xs : List Value} (h : s.IsSequence v xs) :
    ∃ b, s.body? v = some b ∧ ∀ k x, b ≠ .target k x := by
  obtain ⟨-, hb⟩ | ⟨-, hb⟩ := h
  · exact ⟨.list xs, hb, fun _ _ h => nomatch h⟩
  · exact ⟨.deque xs none, hb, fun _ _ h => nomatch h⟩

/-- What has a content is not nothing. -/
theorem ne_none_of_body? (h : s.body? v = some b) : v ≠ .none := by
  rintro rfl
  cases h

/-- A container is not nothing. -/
theorem Contains.ne_none {h : Holding} (hc : s.Contains v h) : v ≠ .none := by
  cases hc with
  | struct ha | scripted ha | array ha => exact ha.ne_none
  | sequence hs =>
    obtain ⟨b, hb, -⟩ := hs.exists_body?
    exact ne_none_of_body? hb
  | dict _ hb => exact ne_none_of_body? hb

/-- Only targets stand for something else. -/
theorem asTarget_of_body? (h : s.body? v = some b) (hb : ∀ k x, b ≠ .target k x) :
    s.asTarget v = ⟨s.kindOf v, v⟩ := by
  rw [asTarget, h]
  cases b with
  | target k x => exact absurd rfl (hb k x)
  | _ => rfl

/-- A value whose method is the library's does not take the reading of attributes over. -/
theorem declaredSpecial?_of_libraryMethod? {name : String} (h : s.libraryMethod? v name = some l) :
    s.declaredSpecial? (s.kindOf v) "__getattribute__" = none := by
  unfold libraryMethod? at h
  split at h
  · cases hs : s.declaredSpecial? (s.kindOf v) "__getattribute__" with
    | none => rfl
    | some e => simp [hs] at h
  · cases h

end Store

/-! ### Containers of the host -/

namespace Host

open Run

variable {call : Call} {w : World} {v x : Value} {xs : List Value} {m : HostMap} {k : Key}
    {b : Body}

/-- The content of an object that is no view of another's. -/
theorem requireContent_of_body? (h : w.store.body? v = some b) (hb : b.IsDirect) :
    requireContent v w = (.ok b, w) := by
  have hwhole : wholeContent? v w = (.ok (some b), w) := by
    cases v with
    | object i => rw [← Store.content?_of_body? h hb]; rfl
    | _ => cases h
  rw [requireContent, bind_of_ok hwhole]
  cases b with
  | plain => cases hb
  | _ => rfl

/-- A sequence of the host has as many elements as items. -/
theorem length_of_isSequence (call : Call) (h : w.store.IsSequence v xs) :
    length call v w = (.ok xs.length, w) := by
  obtain ⟨hk, hb⟩ | ⟨hk, hb⟩ := h
  all_goals
    unfold length
    rw [bind_of_ok (callSpecial?_of_library hk _ _)]
    dsimp only
    rw [bind_of_ok (librarySpecial?_of_library hk rfl)]
    dsimp only
    rw [bind_of_ok (requireContent_of_body? hb trivial)]
    rfl

/-- A place that is counted from zero is where it says. -/
theorem place?_of_lt {i size : Nat} (hi : i < size) : place? size i = some i := by
  have hneg : ¬ (i : Int) < 0 := by omega
  have hin : 0 ≤ (i : Int) ∧ (i : Int) < size := by omega
  simp only [place?, if_neg hneg, if_pos hin, Int.toNat_natCast]

/-- A sequence of the host is read by counting from zero. -/
theorem getItem_of_isSequence (call : Call) (h : w.store.IsSequence v xs) {i : Nat}
    (hx : xs[i]? = some x) : getItem call v (.int i) w = (.ok x, w) := by
  have hplace := place?_of_lt (List.getElem?_eq_some_iff.1 hx).1
  -- Lists and queues are read by the same steps.
  obtain ⟨hk, hb⟩ | ⟨hk, hb⟩ := h
  all_goals
    unfold getItem
    rw [bind_of_ok (callSpecial?_of_library hk _ _)]
    dsimp only
    rw [bind_of_ok (librarySpecial?_of_library hk rfl)]
    cases v with
    | object j =>
      dsimp only
      rw [bind_of_ok (requireContent_of_body? hb trivial)]
      simp only [getContentItem, Body.length?]
      rw [bind_of_ok (x := indexOf call (.int i)) rfl, hplace]
      simp only [Option.bind_some, Body.element?, Body.elements?, hx]
      rfl
    | _ => cases hb

/-- Among keys none of which has to be asked, one is found only by its form. -/
theorem exists_equalKey?_eq (call : Call) (w : World) (given : MapKey)
    (hgiven : given.form.isCustom = false) (keys : List MapKey)
    (h : ∀ key ∈ keys, key.form.isCustom → ¬ key.form.sameHash given.form) :
    ∃ found, equalKey? call given keys w = (.ok found, w) ∧
      ∀ key ∈ found, key.form = given.form := by
  induction keys with
  | nil => exact ⟨none, rfl, fun _ hk => nomatch hk⟩
  | cons key rest ih =>
    obtain ⟨found, hrest, hfound⟩ := ih fun k hk => h k (List.mem_cons_of_mem _ hk)
    by_cases hform : key.form = given.form
    · refine ⟨some key, ?_, fun k hk => by cases hk; exact hform⟩
      simp only [equalKey?, sameKey, if_pos hform]
      rfl
    · -- Only a key that has a say of its own, and hashes alike, would be asked.
      have hask : ((key.form.isCustom || given.form.isCustom) &&
          key.form.sameHash given.form) = false := by
        have hkey := h key List.mem_cons_self
        cases hc : key.form.isCustom <;> simp_all
      refine ⟨found, ?_, hfound⟩
      simp only [equalKey?, sameKey, if_neg hform, hask]
      exact hrest

/-- A host map takes the value that a key stands for by its form, and asks nothing. -/
theorem mapKeyIn_of_places (call : Call) (w : World) (h : (Holding.pairs m).Places k) :
    mapKeyIn call m k.toValue w = (.ok k.mapKey, w) := by
  have hkey : mapKey call k.toValue w = (.ok k.mapKey, w) := by
    unfold Key.mapKey Key.mapForm Key.toValue
    cases k.number with
    | none => rfl
    | some n => rfl
  rw [mapKeyIn, bind_of_ok hkey, keyIn]
  split
  · obtain ⟨found, heq, hform⟩ := exists_equalKey?_eq call w k.mapKey k.isCustom_mapForm m.keys h
    rw [bind_of_ok heq]
    cases found with
    | none => rfl
    | some key =>
      dsimp only
      rw [hform key rfl]
      rfl
  · rfl

/-- A host map is written under the key that it finds for a value. -/
theorem setItem_of_dict {key : Value} {mk : MapKey} (x : Value)
    (hk : w.store.kindOf v = .library .dict) (hb : w.store.body? v = some (.dict m))
    (h : mapKeyIn call m key w = (.ok mk, w)) :
    setItem call v key x w =
      (.ok (), { w with store := w.store.setBody v (.dict (m.insert mk x)) }) := by
  -- The content of a plain map is its own, so to set the one is to set the other.
  have hset : w.store.setContent v (.dict (m.insert mk x)) =
      w.store.setBody v (.dict (m.insert mk x)) := by
    simp only [Store.setContent, hb]
  unfold setItem
  rw [bind_of_ok (callSpecial?_of_library hk _ _)]
  dsimp only
  rw [bind_of_ok (librarySpecial?_of_library hk rfl)]
  cases v with
  | object i =>
    dsimp only
    rw [bind_of_ok (requireContent_of_body? hb trivial)]
    simp only [setContentItem, insertKey, bind_assoc, pure_bind]
    rw [bind_of_ok h, ← hset]
    rfl
  | _ => cases hb

/-- A host map contains a value exactly if it has the key that it finds for it. -/
theorem contains_of_dict {key : Value} {mk : MapKey} (hk : w.store.kindOf v = .library .dict)
    (hb : w.store.body? v = some (.dict m)) (h : mapKeyIn call m key w = (.ok mk, w)) :
    contains call v key w = (.ok (m.contains mk), w) := by
  unfold contains
  rw [bind_of_ok (callSpecial?_of_library hk _ _)]
  dsimp only
  rw [bind_of_ok (librarySpecial?_of_library hk rfl)]
  cases v with
  | object i =>
    dsimp only
    rw [bind_of_ok (requireContent_of_body? hb trivial)]
    simp only [contentHas]
    rw [bind_of_ok h]
    rfl
  | _ => cases hb

/-- A host map that lacks a key is asked once more for the name of the key, unless the key stands
    for that. -/
theorem containsName_of_dict (hk : w.store.kindOf v = .library .dict)
    (hb : w.store.body? v = some (.dict m))
    (hname : mapKeyIn call m (.text k.name) w = (.ok (.ofText k.name), w))
    (hmissed : m.contains k.mapKey = false) :
    (if k.toValue = .text k.name then pure false else contains call v (.text k.name) : Run Bool) w =
      (.ok (m.contains (.ofText k.name)), w) := by
  split
  next heq =>
    have hnumber : k.number = none := by
      cases hn : k.number with
      | none => rfl
      | some n =>
        rw [Key.toValue, hn] at heq
        cases heq
    rw [← Key.mapKey_of_number_eq_none hnumber, hmissed]
    rfl
  next => exact contains_of_dict hk hb hname

/-- A host map is read under the key that it finds for a value. -/
theorem getItem_of_dict {key : Value} {mk : MapKey} (hk : w.store.kindOf v = .library .dict)
    (hb : w.store.body? v = some (.dict m)) (h : mapKeyIn call m key w = (.ok mk, w))
    (hx : m.get? mk = some x) : getItem call v key w = (.ok x, w) := by
  unfold getItem
  rw [bind_of_ok (callSpecial?_of_library hk _ _)]
  dsimp only
  rw [bind_of_ok (librarySpecial?_of_library hk rfl)]
  cases v with
  | object i =>
    dsimp only
    rw [bind_of_ok (requireContent_of_body? hb trivial)]
    simp only [getContentItem, getMapItem]
    rw [bind_of_ok h, hx]
    rfl
  | _ => cases hb

end Host

/-! ### Structs and scripted instances -/

namespace Host

open Run

variable {call : Call} {w : World} {v x : Value} {m : OrderedMap Key Value} {k : Key}

/-- A value that stands for a key in the store is made that key without a call. -/
theorem keyOf_of_key? (call : Call) (h : w.store.key? v = some k) :
    keyOf call v w = (.ok k, w) := by
  rw [keyOf, bind_of_ok (store_apply w)]
  simp only [h]
  rfl

/-- A key that a value is turned into is, as a value, that key. -/
theorem key?_asValue_of_keyOf {key : Value} {w' : World} (h : keyOf call key w = (.ok k, w'))
    (hkey : ∀ k, key = .key k → k.object = none) : w'.store.key? k.asValue = some k := by
  rw [keyOf, bind_of_ok (store_apply w)] at h
  -- A value that is a key is the key; any other is turned into one by its text.
  cases hs : w.store.key? key with
  | some k' =>
    rw [hs] at h
    cases h
    cases key with
    | key k' =>
      obtain rfl : k' = k := by simpa [Store.key?] using hs
      simp only [Key.asValue, hkey k' rfl]
      rfl
    | object i =>
      have hobject : k.object = some i := by
        simp only [Store.key?] at hs
        split at hs
        · cases hs
          rfl
        · cases hs
      rw [Key.asValue, hobject]
      exact hs
    | _ => cases hs
  | none =>
    rw [hs] at h
    dsimp only at h
    rcases ht : textOf call key w with ⟨e | name, u⟩
    · rw [bind_of_error ht] at h
      cases h
    · rw [bind_of_ok ht] at h
      split at h <;> cases h <;> rfl

/-- A struct that was not changed in between is what it was. -/
theorem structNow_of_body? {card : Option Value} (h : w.store.body? v = some (.struct m card))
    (m' : OrderedMap Key Value) (card' : Option Value) :
    structNow v m' card' w = (.ok (m, card), w) := by
  rw [structNow, bind_of_ok (body?_apply w v), h]
  rfl

/-- A struct sets an entry of its own. -/
theorem exists_setItem_eq (call : Call) (x : Value) (h : w.store.IsStruct v m)
    (hkey : w.store.key? k.asValue = some k) :
    ∃ card, w.store.body? v = some (.struct m card) ∧ setItem call v k.asValue x w =
      (.ok (), { w with store := w.store.setBody v (.struct (m.insert k x) card) }) := by
  obtain ⟨card, hb⟩ := h.body
  refine ⟨card, hb, ?_⟩
  unfold setItem
  rw [bind_of_ok (callSpecial?_of_special h.setter _)]
  dsimp only
  rw [bind_of_ok (librarySpecial?_of_special h.setter)]
  cases v with
  | object i =>
    dsimp only
    rw [bind_of_ok (requireContent_of_body? hb trivial)]
    simp only [setContentItem]
    rw [bind_of_ok (keyOf_of_key? call hkey), bind_of_ok (structNow_of_body? hb _ _)]
    rfl
  | _ => cases hb

/-- What a scripted instance holds for its public members is its own. -/
theorem ownValue?_of_showsPublic {members : Value} (h : w.store.ShowsPublic v members) :
    ownValue? v "this_scope" w = (.ok (some members), w) := by
  have hattr := h.held
  have hbody := h.unbound
  cases v with
  | object i =>
    unfold ownValue?
    rw [bind_of_ok (store_apply w)]
    simp only [Store.body?] at hbody
    cases ho : w.store.deref? (.object i) with
    | none => simp [ho] at hattr
    | some o =>
      simp only [ho, Option.elim_some, Option.map_some] at hattr hbody ⊢
      cases hb : o.body with
      | bound f r => exact absurd (congrArg some hb) (hbody f r)
      | _ => simp [hattr]
  | _ => cases hattr

/-- The public members of a scripted instance are those that it holds. -/
theorem publicScope_of_showsPublic (call : Call) {l : LibraryKind} {name : String} {members : Value}
    (h : w.store.ShowsPublic v members) (hm : w.store.libraryMethod? v name = some l) :
    Container.publicScope call v w = (.ok members, w) := by
  have hclass (k : Kind) : v ≠ .kind k := by
    rintro rfl
    cases h.held
  have hinst : getInstanceAttr? call v "this_scope" w = (.ok (some members), w) := by
    unfold getInstanceAttr?
    rw [bind_of_ok (store_apply w)]
    simp only [h.free]
    rw [bind_of_ok (ownValue?_of_showsPublic h)]
    rfl
  have hattr : getAttr? call v "this_scope" w = (.ok (some members), w) :=
    getAttr?_of_found hclass (Store.declaredSpecial?_of_libraryMethod? hm) hinst
  rw [Container.publicScope, getAttr, bind_of_ok hattr]
  rfl

end Host

end ScriptBridge
