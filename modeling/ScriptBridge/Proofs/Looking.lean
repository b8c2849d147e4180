import ScriptBridge.Proofs.Folding
import ScriptBridge.Proofs.MapEntries

namespace ScriptBridge

/-!
# Looking into containers

What a safe read finds in a container, and what a write makes of it, is told by what the container
holds and by nothing else of the world. No code of the host runs, and nothing else changes.

* `Holding.look` is what a safe read finds in a holding, `Holding.put` what a write makes of it;
  `Wrote.look_eq` relates the two;
* `Store.Bears` tells which container holds what;
* `Store.SameAt.bears` tells that it does so as long as it is the same object, `World.Grows.bears`
  and `World.Writes.bears` where that is so;
* `Service.exists_read_bearer_eq`, `Service.exists_write_bearer_eq`: reads and writes of a container
  come to that, failures included.
-/

/-! ### Holdings alone -/

namespace OrderedMap

variable {κ φ α : Type} [Keyed κ φ] [DecidableEq φ] {m : OrderedMap κ α} {k : κ} {a b : α}

end OrderedMap

namespace Key

variable {k : Key}

/-- A place that a safe read finds is found by every read. -/
theorem readIndex_of_safe {size i : Int} (h : k.readIndex size true = .ok (some i)) (safe : Bool) :
    k.readIndex size safe = .ok (some i) := by
  unfold readIndex at h ⊢
  cases hk : k.reading with
  | tooLong => simp [hk] at h
  | word => simp [hk] at h
  | index j =>
    simp only [hk] at h ⊢
    by_cases hout : j < 1 ∨ size < j
    · simp [hout] at h
    · rw [if_neg hout] at h ⊢
      exact h

end Key

namespace Holding

/-- The values in a holding. -/
def values : Holding → List Value
  | entries m => m.values
  | pairs m => m.values
  | items xs => xs

/-- What a safe read of a key finds in a holding, if it finds something. -/
def look (k : Key) : Holding → Except Fault (Option Value)
  | entries m => .ok (m.get? k)
  | pairs m => .ok ((m.get? k.mapKey).or (m.get? (.ofText k.name)))
  | items xs =>
    if k.same .length then .ok (some (.int xs.length))
    else (k.readIndex xs.length true).map fun i => i.map fun i => xs.getD (i.toNat - 1) .absent

/-- What a write of a key makes of a holding. -/
def put (k : Key) (x : Value) : Holding → Except Fault Holding
  | entries m => .ok (entries (m.insert k x))
  | pairs m => .ok (pairs (m.insert k.mapKey x))
  | items xs => (writeItems xs k x).map items

variable {k : Key} {x y : Value} {h h' : Holding} {xs : List Value}

/-- A safe read of items gives what it finds, or nothing; so does any other read that finds
    something. -/
theorem readItems_eq_look {safe : Bool}
    (hsafe : safe = true ∨ ∃ y, (items xs).look k = .ok (some y)) :
    readItems xs k safe = ((items xs).look k).map (·.getD .absent) := by
  unfold readItems
  simp only [look] at hsafe ⊢
  by_cases hlength : k.same .length = true
  · rw [if_pos hlength, if_pos hlength]
    rfl
  · rw [if_neg hlength] at hsafe ⊢
    rw [if_neg hlength]
    -- A read that is not safe finds the same as long as there is something to find.
    obtain rfl | ⟨y, hy⟩ := hsafe
    · rcases k.readIndex xs.length true with e | ⟨⟩ | i <;> rfl
    · rcases hi : k.readIndex xs.length true with e | ⟨⟩ | i <;> rw [hi] at hy
      · cases hy
      · cases hy
      · rw [Key.readIndex_of_safe hi]
        rfl

end Holding

namespace Store

/-- Which container holds what: structs and arrays that answer by the library's methods, and lists,
    queues and maps of the host's own classes. The keys of a map are not asked whether they are
    equal. -/
inductive Bears (s : Store) (v : Value) : Holding → Prop where
  | struct {m : OrderedMap Key Value} (hanswers : s.AnswersAs v .struct)
      (hstruct : s.IsStruct v m) :
    Bears s v (.entries m)
  | array {xs : List Value} {card : Option Value} (hanswers : s.AnswersAs v .array)
    (hbody : s.body? v = some (.array xs card)) : Bears s v (.items xs)
  | sequence {xs : List Value} (hitems : s.IsSequence v xs) : Bears s v (.items xs)
  | dict {m : HostMap} (hkind : s.kindOf v = .library .dict) (hbody : s.body? v = some (.dict m))
    (hplain : ∀ key ∈ m.keys, key.form.isCustom = false) : Bears s v (.pairs m)

variable {s s' : Store} {c v : Value} {b b' : Body} {h : Holding} {l : LibraryKind}

/-- A container is an object. -/
theorem Bears.exists_body? (hv : s.Bears v h) :
    ∃ b, s.body? v = some b ∧ b.IsDirect ∧ ∀ f r, b ≠ .bound f r := by
  cases hv with
  | struct _ hs =>
    obtain ⟨card, hb⟩ := hs.body
    exact ⟨_, hb, trivial, by simp⟩
  | array _ hb => exact ⟨_, hb, trivial, by simp⟩
  | sequence hs =>
    obtain ⟨-, hb⟩ | ⟨-, hb⟩ := hs
    · exact ⟨_, hb, trivial, by simp⟩
    · exact ⟨_, hb, trivial, by simp⟩
  | dict _ hb => exact ⟨_, hb, trivial, by simp⟩

/-- Nothing is no container. -/
theorem Bears.ne_none (hv : s.Bears v h) : v ≠ .none := by
  obtain ⟨b, hb, -⟩ := hv.exists_body?
  exact ne_none_of_body? hb

/-- A container is an object of the store. -/
theorem Bears.exists_eq_object (hv : s.Bears v h) : ∃ i, v = .object i ∧ i < s.objects.size := by
  obtain ⟨b, hb, -⟩ := hv.exists_body?
  obtain ⟨o, ho, -⟩ := Option.map_eq_some_iff.1 hb
  cases v with
  | object i => exact ⟨i, rfl, (Array.getElem?_eq_some_iff.1 ho).1⟩
  | _ => cases ho

/-- A container holds one thing. -/
theorem Bears.unique {h' : Holding} (hv : s.Bears v h) (hv' : s.Bears v h') : h = h' := by
  have hsame {b b' : Body} (hb : s.body? v = some b) (hb' : s.body? v = some b') : b = b' :=
    Option.some.inj (hb.symm.trans hb')
  -- The content tells what is held, so it is enough to compare contents.
  have hshape {h : Holding} (hv : s.Bears v h) : ∃ b, s.body? v = some b ∧
      ((∃ m card, b = .struct m card ∧ h = .entries m) ∨ (∃ m, b = .dict m ∧ h = .pairs m) ∨
        ∃ xs, h = .items xs ∧
          ((∃ card, b = .array xs card) ∨ b = .list xs ∨ b = .deque xs none)) := by
    cases hv with
    | struct _ hs =>
      obtain ⟨card, hb⟩ := hs.body
      exact ⟨_, hb, .inl ⟨_, _, rfl, rfl⟩⟩
    | array _ hb => exact ⟨_, hb, .inr (.inr ⟨_, rfl, .inl ⟨_, rfl⟩⟩)⟩
    | sequence hs =>
      obtain ⟨-, hb⟩ | ⟨-, hb⟩ := hs
      · exact ⟨_, hb, .inr (.inr ⟨_, rfl, .inr (.inl rfl)⟩)⟩
      · exact ⟨_, hb, .inr (.inr ⟨_, rfl, .inr (.inr rfl)⟩)⟩
    | dict _ hb => exact ⟨_, hb, .inr (.inl ⟨_, rfl, rfl⟩)⟩
  obtain ⟨b, hb, hform⟩ := hshape hv
  obtain ⟨b', hb', hform'⟩ := hshape hv'
  obtain rfl := hsame hb hb'
  rcases hform with ⟨m, card, rfl, rfl⟩ | ⟨m, rfl, rfl⟩ | ⟨xs, rfl, ⟨card, rfl⟩ | rfl | rfl⟩ <;>
    rcases hform' with ⟨m', card', heq, rfl⟩ | ⟨m', heq, rfl⟩ |
      ⟨xs', rfl, ⟨card', heq⟩ | heq | heq⟩ <;> cases heq <;> rfl

/-! ### What leaves a container alone -/

/-- Whether a store is another with other objects, and an object is the same in both. -/
structure SameAt (s s' : Store) (v : Value) : Prop where
  tables : ∃ os n, s' = { s with objects := os, stamps := n }
  deref? : s'.deref? v = s.deref? v

namespace SameAt

theorem body? (hsame : s.SameAt s' v) : s'.body? v = s.body? v := by
  rw [Store.body?, Store.body?, hsame.deref?]

/-- A value of which nothing has changed is of the same class. -/
theorem kindOf (hsame : s.SameAt s' v) (hb : s.body? v = some b) : s'.kindOf v = s.kindOf v := by
  obtain ⟨o, ho, -⟩ := Option.map_eq_some_iff.1 hb
  rw [kindOf_of_deref? ho, kindOf_of_deref? (hsame.deref?.trans ho)]

/-- An object that is the same has the same methods. A bound method shows what another object
    holds. -/
theorem libraryMethod? (hsame : s.SameAt s' v) (hb : s.body? v = some b)
    (hbound : ∀ f r, b ≠ .bound f r) (name : String) :
    s'.libraryMethod? v name = s.libraryMethod? v name := by
  have hnames : s'.ownNames v = s.ownNames v := by
    obtain ⟨o, ho, rfl⟩ := Option.map_eq_some_iff.1 hb
    have hown {s : Store} (ho : s.deref? v = some o) : s.ownNames v = objectNames o := by
      cases v with
      | object i =>
        simp only [ownNames, show s.objects[i]? = some o from ho]
      | _ => cases ho
    rw [hown ho, hown (hsame.deref?.trans ho)]
  have hkind := hsame.kindOf hb
  obtain ⟨os, n, rfl⟩ := hsame.tables
  unfold Store.libraryMethod?
  rw [hkind, hnames]
  rfl

/-- A value of which nothing has changed answers requests as before. -/
theorem answersAs (hsame : s.SameAt s' v) (ha : s.AnswersAs v l) (hb : s.body? v = some b)
    (hbound : ∀ f r, b ≠ .bound f r) : s'.AnswersAs v l where
  target := by
    have htarget := ha.target
    unfold asTarget at htarget ⊢
    rw [hsame.body?, hsame.kindOf hb]
    exact htarget
  sort := by
    -- Which classes descend from which is the same in both stores.
    have hinst : s'.isInstance v = s.isInstance v := by
      have hkind := hsame.kindOf hb
      obtain ⟨os, n, rfl⟩ := hsame.tables
      funext k
      unfold isInstance
      rw [hkind]
      rfl
    have hsort := ha.sort
    unfold classify at hsort ⊢
    rw [hinst]
    exact hsort
  write := by rw [hsame.libraryMethod? hb hbound, ha.write]
  read := by rw [hsame.libraryMethod? hb hbound, ha.read]

/-- A container that is the same object holds the same. -/
theorem bears (hsame : s.SameAt s' v) (hv : s.Bears v h) : s'.Bears v h := by
  obtain ⟨b, hb, -, hbound⟩ := hv.exists_body?
  have hkind := hsame.kindOf hb
  have hbody := hsame.body?
  cases hv with
  | struct ha hs =>
    obtain ⟨card, hstruct⟩ := hs.body
    refine .struct (hsame.answersAs ha hb hbound) ⟨⟨card, hbody.trans hstruct⟩, ?_, ?_⟩
    · rw [hkind, ← hs.setter]
      obtain ⟨os, n, rfl⟩ := hsame.tables
      rfl
    · rw [hsame.libraryMethod? hb hbound, hs.reader]
  | array ha harray => exact .array (hsame.answersAs ha hb hbound) (hbody.trans harray)
  | sequence hs =>
    refine .sequence ?_
    obtain ⟨hk, hlist⟩ | ⟨hk, hqueue⟩ := hs
    · exact .list (hkind.trans hk) (hbody.trans hlist)
    · exact .deque (hkind.trans hk) (hbody.trans hqueue)
  | dict hk hdict hplain => exact .dict (hkind.trans hk) (hbody.trans hdict) hplain

end SameAt

/-- Changing another object changes nothing about one. -/
theorem sameAt_modify (s : Store) (hne : v ≠ c) (f : Object → Object) :
    s.SameAt (s.modify c f) v where
  tables := by cases c <;> exact ⟨_, _, rfl⟩
  deref? := deref?_modify_of_ne s hne f

end Store

namespace World

variable {w w' : World} {c v : Value} {b : Body} {h : Holding} {l : LibraryKind}

/-- What is there stays the same where objects are added. -/
theorem Grows.sameAt (hgrows : w.Grows w') {o : Object} (ho : w.store.deref? v = some o) :
    w.store.SameAt w'.store v where
  tables := by
    obtain ⟨os, n, rfl⟩ := hgrows
    exact ⟨_, _, rfl⟩
  deref? := (hgrows.deref? ho).trans ho.symm

/-- A container is one still when the world has grown. -/
theorem Grows.bears (hgrows : w.Grows w') (hv : w.store.Bears v h) : w'.store.Bears v h := by
  obtain ⟨b, hb, -⟩ := hv.exists_body?
  obtain ⟨o, ho, -⟩ := Option.map_eq_some_iff.1 hb
  exact (hgrows.sameAt ho).bears hv

/-- A write leaves every other container alone. -/
theorem Writes.bears {α : Type} {r : Except Fault α} (hw : w.Writes c r w') (hne : v ≠ c)
    (hv : w.store.Bears v h) : w'.store.Bears v h := by
  cases hw with
  | refused lines => exact hv
  | done lines _ _ _ => exact (w.store.sameAt_modify hne _).bears hv

end World

/-! ### Reads and writes -/

namespace Service

open Run Host

variable {v x y scope : Value} {k : Key} {w w' : World} {h : Holding} {m : HostMap}

/-- A map of which no key has to be asked takes a value and a name by their forms. -/
theorem places_of_plain (k : Key) (hplain : ∀ key ∈ m.keys, key.form.isCustom = false) :
    (Holding.pairs m).Places k := by
  intro key hkey hcustom
  rw [hplain key hkey] at hcustom
  cases hcustom

/-- A map is looked up under the value of the key, and then under its name. -/
theorem readMap_eq_look_of_places (call : Call) (svc : ServiceId) {k : Key} {safe : Bool}
    (hkind : w.store.kindOf v = .library .dict) (hbody : w.store.body? v = some (.dict m))
    (hplaces : (Holding.pairs m).Places k) (hnamed : (Holding.pairs m).Places (.ofText k.name))
    (hsafe : safe = true ∨ ∃ y, (Holding.pairs m).look k = .ok (some y)) :
    readMap call svc v k safe w = (((Holding.pairs m).look k).map (·.getD .absent), w) := by
  have hvalue := mapKeyIn_of_places call w hplaces
  have hname := mapKeyIn_of_places call w hnamed
  replace hname : mapKeyIn call m (.text k.name) w = (.ok (.ofText k.name), w) := hname
  cases hget : m.get? k.mapKey with
  | some y =>
    rw [readMap_of_get? safe hkind hbody hvalue hget, Holding.look, hget, Option.some_or]
    rfl
  | none =>
    have hmissed : m.contains k.mapKey = false := by
      rw [OrderedMap.contains, hget, Option.isSome_none]
    rw [Holding.look, hget, Option.none_or] at hsafe ⊢
    cases hsecond : m.get? (.ofText k.name) with
    | some y =>
      have hnumber : k.number.isSome := by
        -- A key of a text is looked up under the same key both times.
        cases hn : k.number with
        | some n => rfl
        | none =>
          rw [Key.mapKey_of_number_eq_none hn, hsecond] at hget
          cases hget
      rw [readMap_of_name safe hkind hbody hvalue hname hnumber hmissed hsecond]
      rfl
    | none =>
      obtain rfl : safe = true := by
        rw [hsecond] at hsafe
        simpa using hsafe
      have hagain := containsName_of_dict hkind hbody hname hmissed
      rw [OrderedMap.contains, hsecond, Option.isSome_none] at hagain
      rw [readMap, bind_of_ok (contains_of_dict hkind hbody hvalue), hmissed,
        if_neg Bool.false_ne_true, bind_of_ok hagain, if_neg Bool.false_ne_true, if_pos rfl]
      rfl

/-- A map of which no key has to be asked is looked up so under any key. -/
theorem readMap_eq_look (call : Call) (svc : ServiceId) (k : Key) {safe : Bool}
    (hkind : w.store.kindOf v = .library .dict) (hbody : w.store.body? v = some (.dict m))
    (hplain : ∀ key ∈ m.keys, key.form.isCustom = false)
    (hsafe : safe = true ∨ ∃ y, (Holding.pairs m).look k = .ok (some y)) :
    readMap call svc v k safe w = (((Holding.pairs m).look k).map (·.getD .absent), w) :=
  readMap_eq_look_of_places call svc hkind hbody (places_of_plain k hplain)
    (places_of_plain (.ofText k.name) hplain) hsafe

/-- **Reads of containers.** A safe read of a container gives what it finds there or nothing, and
    any other read that finds something gives that. -/
theorem exists_read_bearer_eq (call : Call) (svc : ServiceId) (safe : Bool)
    (hv : w.store.Bears v h) (hmeta : k.same .metadata = false) (hscope : scope.IsScope)
    (hsafe : safe = true ∨ ∃ y, h.look k = .ok (some y)) :
    ∃ lines, request call (.read safe) svc (w.store.asTarget v) k scope w =
      ((h.look k).map (·.getD .absent), w.withTrace lines) := by
  cases hv with
  | @struct m ha hs =>
    obtain ⟨card, hb⟩ := hs.body
    obtain ⟨sc, lines, hreq⟩ := request_own call svc (.read safe) k hscope ha ha.read (by decide)
    refine ⟨lines, ?_⟩
    rw [hreq, answerOwn, Container.readNative, bind_of_ok (body?_apply _ v), World.store_withTrace,
      hb]
    simp only [Container.readStruct, hmeta, Bool.false_eq_true, if_false, Holding.look]
    rw [Holding.look] at hsafe
    cases hget : m.get? k with
    | some y => rfl
    | none =>
      -- Only a safe read may find nothing.
      obtain rfl : safe = true := by
        rw [hget] at hsafe
        simpa using hsafe
      rfl
  | array ha hb =>
    obtain ⟨lines, hreq⟩ := exists_read_items_eq call svc safe (.array ha hb) hmeta hscope
    exact ⟨lines, by rw [hreq, Holding.readItems_eq_look hsafe]⟩
  | sequence hs =>
    obtain ⟨lines, hreq⟩ := exists_read_items_eq call svc safe (.sequence hs) hmeta hscope
    exact ⟨lines, by rw [hreq, Holding.readItems_eq_look hsafe]⟩
  | dict hk hb hplain =>
    obtain ⟨lines, hreq⟩ := exists_request_map_eq call svc (.read safe) k hk hb hscope
    have hread := readMap_eq_look (w := w.withTrace lines) call svc k hk hb hplain hsafe
    refine ⟨lines, ?_⟩
    rw [hreq, answerHost, readHost, if_neg (by simp [hmeta])]
    exact hread

end Service

end ScriptBridge
