import ScriptBridge.Eval
import ScriptBridge.Proofs.Indexing

namespace ScriptBridge

/-!
# Writes to arrays of the host

Tuples, bytes, ranges, views of bytes and machine words have a fixed size. A key that names none of
their elements is refused as invalid before anything else. Whether an element takes a value is only
found out by trying: an array that cannot be changed, or a value of the wrong type, is refused as
invalid too. A number that is no byte fails for another reason, which escapes.

* `Store.IsHostArray` tells which values are such arrays, `Store.Stores` that only an element of one
  is replaced;
* `Body.takeIn` is what an element makes of a value that is written to it, `Host.takeIn_of_plain`
  what it makes of one that does not say for itself which integer it is;
* `Host.setItem_array_eq`: to write an element is to try, and to replace the content;
* `Service.exists_assign_array_eq` is a write as the dispatcher makes it;
* `array_write_stores_or_refuses` puts these together.
-/

open Run Host

/-! ### Arrays -/

namespace Body

/-- Whether values of a kind hold a content as an array of the host does. -/
def IsArrayOf : Body → Kind → Prop
  | tuple _, .library .tuple | bytes _, .library .bytes | byteArray _, .library .byteArray
  | byteView .., .library .byteView | range .., .library .range | words _, .words _ => True
  | _, _ => False

/-- Whether the elements of a content are bytes that can be replaced. -/
def KeepsBytes : Body → Prop
  | byteArray _ | byteView true _ => True
  | _ => False

/-- What an element of a content makes of a value that is written to it: bytes and machine words are
    made of numbers, and nothing else is replaced. -/
def takeIn (call : Call) : Body → Value → Run Value
  | byteArray _, x | byteView true _, x => do return .int (← byteOf call x)
  | words _, x => do return .int (← wordOf x)
  | _, _ => fail .typeError

/-- What an element of a content makes of the integer that a value is, or of a value that is
    none. -/
def made : Body → Option Int → Except Fault Value
  | byteArray _, some n | byteView true _, some n =>
    if 0 ≤ n ∧ n ≤ 255 then .ok (.int n) else .error .valueError
  | words _, some n => .ok (.int (wrapWord n))
  | _, _ => .error .typeError

/-- A content with an element replaced by what was made of a value. -/
def withItem : Body → Nat → Value → Body
  | byteArray ns, n, .int m => byteArray (ns.set n m.toNat)
  | byteView true ns, n, .int m => byteView true (ns.set n m.toNat)
  | words ns, n, .int m => words (ns.set n m)
  | b, _, _ => b

/-- Whether a content of an array can be replaced by another. -/
def MayBecome : Body → Body → Prop
  | byteArray _, byteArray _ | byteView true _, byteView true _ | words _, words _ => True
  | _, _ => False

/-- An array of the host has elements of the same sort after a write. -/
theorem IsArrayOf.of_mayBecome {b b' : Body} {k : Kind} (h : b.IsArrayOf k) (hb : b.MayBecome b') :
    b'.IsArrayOf k := by
  unfold MayBecome at hb
  split at hb
  case h_4 => exact hb.elim
  all_goals
    unfold IsArrayOf at h
    split at h <;> first | exact h.elim | cases ‹_ = _›
    trivial

/-- A value that is no element has the wrong type, or is a number that is no byte. -/
theorem eq_of_made_eq_error {b : Body} {n : Option Int} {f : Fault} (h : b.made n = .error f) :
    f = .typeError ∨ b.KeepsBytes ∧ f = .valueError ∧ ∃ m, n = some m ∧ ¬(0 ≤ m ∧ m ≤ 255) := by
  unfold made at h
  split at h
  case h_1 m | h_2 m =>
    split at h
    next => cases h
    next hout =>
      cases h
      exact .inr ⟨trivial, rfl, m, rfl, hout⟩
  case h_3 => cases h
  case h_4 =>
    cases h
    exact .inl rfl

end Body

/-- The integer that a value is, if it does not define for itself which one it is. -/
def Store.plainInt? (s : Store) (x : Value) : Option Int :=
  match s.scalar x with
  | .int n => some n
  | .bool b => some (if b then 1 else 0)
  | _ => none

/-- Whether a value is one of the host's arrays, with a content and the elements in that. -/
structure Store.IsHostArray (s : Store) (v : Value) (b : Body) (xs : List Value) : Prop where
  kind : b.IsArrayOf (s.kindOf v)
  content : s.content? v = some b
  items : b.items? = some xs

namespace Store

variable {s : Store} {v : Value} {b b' : Body} {xs : List Value}

namespace IsHostArray

variable (h : s.IsHostArray v b xs)

include h

/-- An array of the host shows its elements. -/
theorem shown?_eq : s.shown? v = some b := by
  have hcontent := h.content
  cases v with
  | text t => cases hcontent
  | _ => exact hcontent

/-- An array of the host is an array to the engine. -/
theorem classify_eq : s.classify v = .array := by
  have hkind := h.kind
  unfold Body.IsArrayOf at hkind
  unfold classify isInstance
  split at hkind
  case h_7 => exact hkind.elim
  all_goals
    rw [‹s.kindOf v = _›]
    rfl

/-- The elements of an array are counted and read as the library does. -/
theorem countsAndReads : s.CountsAndReads (s.kindOf v) := by
  have hkind := h.kind
  unfold Body.IsArrayOf at hkind
  split at hkind
  case h_6 _ n hk => exact hk ▸ countsAndReads_of_words n
  case h_7 => exact hkind.elim
  all_goals
    rw [‹s.kindOf v = _›]
    exact countsAndReads_of_library (by decide)

/-- An array is written as the library does, or not at all. -/
theorem setter :
    (s.special? (s.kindOf v) "__setitem__" = none ∧ ∀ call x, b.takeIn call x = fail .typeError) ∨
      ∃ l, s.special? (s.kindOf v) "__setitem__" = some (.library l) ∧ l ≠ .mutableMapping ∧
        l ≠ .mutableSequence := by
  have hkind := h.kind
  unfold Body.IsArrayOf at hkind
  split at hkind
  case h_1 hk | h_2 hk | h_5 hk => exact .inl ⟨by rw [hk, special?_library]; rfl, fun _ _ => rfl⟩
  case h_3 hk | h_4 hk =>
    exact .inr ⟨_, by rw [hk, special?_library]; rfl, by decide, by decide⟩
  case h_6 hk => exact .inr ⟨.wordArray, by rw [hk]; rfl, by decide, by decide⟩
  case h_7 => exact hkind.elim

end IsHostArray

/-! ### Replacing an element -/

/-- Bytes and machine words are shown by no object but their own. -/
theorem body?_of_ownContent? (hb : (∃ ns, b = .byteArray ns) ∨ (∃ ns, b = .words ns) ∨
    (∃ writable ns, b = .byteView writable ns) ∨ ∃ c, b = .viewOf c)
    (h : s.ownContent? v = some b) : s.body? v = some b := by
  unfold ownContent? at h
  split at h
  · split at h <;> cases h <;> simp at hb
  · split at h <;> cases h <;> simp at hb
  · exact h

/-- Bytes and machine words that a value shows are its own, unless it is a view of bytes. -/
theorem body?_of_content? (hb : (∃ ns, b = .byteArray ns) ∨ (∃ ns, b = .words ns) ∨
    ∃ ns, b = .byteView true ns) (h : s.content? v = some b) :
    s.body? v = some b ∨ ∃ c ns, b = .byteView true ns ∧ s.body? v = some (.viewOf c) ∧
      s.body? c = some (.byteArray ns) := by
  unfold content? at h
  split at h
  next c hview =>
    have hbody := body?_of_ownContent? (.inr (.inr (.inr ⟨c, rfl⟩))) hview
    split at h
    -- A view shows the bytes of what it views, and can be written only if that can.
    next ns hbytes =>
      cases h
      simp at hb
    next ns hbytes =>
      cases h
      exact .inr ⟨c, ns, rfl, hbody, body?_of_ownContent? (.inl ⟨ns, rfl⟩) hbytes⟩
    · cases h
      simp at hb
    · cases h
      simp at hb
  next =>
    refine .inl (body?_of_ownContent? ?_ h)
    obtain h | h | ⟨ns, h⟩ := hb
    · exact .inl h
    · exact .inr (.inl h)
    · exact .inr (.inr (.inl ⟨true, ns, h⟩))

/-- Bytes and machine words that are set replace the content of the object that is named. -/
theorem setContent_of_own (hb : (∃ ns, b = .byteArray ns) ∨ ∃ ns, b = .words ns) :
    s.setContent v b = s.setBody v b := by
  obtain ⟨ns, rfl⟩ | ⟨ns, rfl⟩ := hb <;> unfold setContent <;> split <;> first | cases ‹_ = _› | rfl

/-- To replace the elements of an array is to replace the content of one object: the array itself,
    or what it is a view of. -/
theorem exists_setContent_eq (h : s.content? v = some b) (hb : b.MayBecome b') :
    ∃ c d, s.setContent v b' = s.setBody c d ∧ (c = v ∨ s.body? v = some (.viewOf c)) ∧
      (s.setBody c d).content? v = some b' := by
  have hdirect (hbody : s.body? v = some b) (hset : s.setContent v b' = s.setBody v b')
      (hb' : b'.IsDirect) : ∃ c d, s.setContent v b' = s.setBody c d ∧
        (c = v ∨ s.body? v = some (.viewOf c)) ∧ (s.setBody c d).content? v = some b' := by
    refine ⟨v, b', hset, .inl rfl, content?_of_body? ?_ hb'⟩
    rw [body?_setBody_self, hbody, Option.map_some]
  unfold Body.MayBecome at hb
  split at hb
  next ns ns' =>
    obtain hbody | ⟨_, _, hview, -⟩ := body?_of_content? (.inl ⟨ns, rfl⟩) h
    · exact hdirect hbody (by simp only [setContent, hbody]) trivial
    · cases hview
  next ns ns' =>
    -- A view may own its bytes. Else they are replaced in what it is a view of, which is another
    -- object, so that the view itself stays one.
    obtain hbody | ⟨c, _, hview, hbody, howner⟩ := body?_of_content? (.inr (.inr ⟨ns, rfl⟩)) h
    · exact hdirect hbody (by simp only [setContent, hbody]) trivial
    · cases hview
      have hne : v ≠ c := by
        rintro rfl
        cases hbody.symm.trans howner
      refine ⟨c, .byteArray ns', by simp only [setContent, hbody], .inr hbody, ?_⟩
      have hbody' : (s.setBody c (.byteArray ns')).body? v = some (.viewOf c) := by
        rw [body?_setBody_of_ne s hne, hbody]
      have howner' : (s.setBody c (.byteArray ns')).body? c = some (.byteArray ns') := by
        rw [body?_setBody_self, howner, Option.map_some]
      simp only [content?, ownContent?, hbody', howner']
  next ns ns' =>
    obtain hbody | ⟨_, _, hview, -⟩ := body?_of_content? (.inr (.inl ⟨ns, rfl⟩)) h
    · exact hdirect hbody (by simp only [setContent, hbody]) trivial
    · cases hview
  next => exact hb.elim

/-- Whether a store differs from another in an element of an array, and in nothing else: the content
    of the array or of what it is a view of is another. -/
def Stores (s : Store) (v : Value) (b : Body) (xs : List Value) (n : Nat) (y : Value)
    (s' : Store) : Prop :=
  ∃ c d b', s' = s.setBody c d ∧ (c = v ∨ s.body? v = some (.viewOf c)) ∧ b.MayBecome b' ∧
    s'.IsHostArray v b' (xs.set n y)

/-- An array whose elements are replaced is one still. -/
theorem IsHostArray.stores (h : s.IsHostArray v b xs) (hb : b.MayBecome b') {n : Nat} {y : Value}
    (hitems : b'.items? = some (xs.set n y)) : s.Stores v b xs n y (s.setContent v b') := by
  obtain ⟨c, d, heq, hc, hcontent⟩ := exists_setContent_eq h.content hb
  refine ⟨c, d, b', heq, hc, hb, ?_⟩
  rw [heq]
  refine ⟨?_, hcontent, hitems⟩
  rw [kindOf_setBody]
  exact h.kind.of_mayBecome hb

end Store

namespace Host

variable {call : Call} {v x y : Value} {b : Body} {xs : List Value} {n : Nat} {w u : World}
    {f : Fault}

/-- The place of an element is found. -/
theorem requirePlace_of_lt (call : Call) {size : Nat} (h : n < size) (w : World) :
    requirePlace call size (.int n) w = (.ok n, w) := by
  rw [requirePlace, bind_of_ok (x := indexOf call (.int n)) rfl, place?_of_lt h]
  rfl

/-- Of an array, all that it holds is its elements. -/
theorem setBody_eq_setContent (hb : (∃ ns, b = .byteArray ns) ∨ ∃ ns, b = .words ns) (v : Value) :
    setBody v b = setContent v b :=
  congrArg modifyStore (funext fun _ => (Store.setContent_of_own hb).symm)

/-- An element is set to what it makes of a value. -/
theorem setContentItem_eq {k : Kind} (hb : b.IsArrayOf k) (hitems : b.items? = some xs)
    (hn : n < xs.length) :
    setContentItem call v b (.int n) x w =
      (b.takeIn call x >>= fun y => setContent v (b.withItem n y)) w := by
  unfold Body.takeIn
  split
  next ns =>
    cases hitems
    have hplace := requirePlace_of_lt call (by simpa using hn : n < ns.length) w
    rw [setContentItem, bind_of_ok hplace, bind_assoc]
    refine congrArg (Run.run · w) (bind_congr fun m => ?_)
    rw [pure_bind, setBody_eq_setContent (.inl ⟨_, rfl⟩)]
    rfl
  next ns =>
    cases hitems
    have hplace := requirePlace_of_lt call (by simpa using hn : n < ns.length) w
    rw [setContentItem, bind_of_ok hplace, bind_assoc]
    rfl
  next ns =>
    cases hitems
    have hplace := requirePlace_of_lt call (by simpa using hn : n < ns.length) w
    rw [setContentItem, bind_of_ok hplace, bind_assoc]
    refine congrArg (Run.run · w) (bind_congr fun m => ?_)
    rw [pure_bind, setBody_eq_setContent (.inr ⟨_, rfl⟩)]
    rfl
  next hbytes hview hwords =>
    -- Nothing else that is an array can be changed.
    unfold Body.IsArrayOf at hb
    split at hb
    case h_4 writable _ =>
      cases writable
      · rfl
      · exact (hview _ rfl).elim
    all_goals first | rfl | exact hb.elim | exact (hbytes _ rfl).elim | exact (hwords _ rfl).elim

/-- What an element makes of a value takes its place. -/
theorem items?_withItem (hitems : b.items? = some xs) (h : b.takeIn call x w = (.ok y, u)) :
    b.MayBecome (b.withItem n y) ∧ (b.withItem n y).items? = some (xs.set n y) := by
  unfold Body.takeIn at h
  split at h
  case h_4 => cases h
  all_goals
    cases hitems
    obtain ⟨m, _, -, hm⟩ := bind_eq_ok_iff.1 h
    cases hm
    exact ⟨trivial, by simp [Body.withItem, Body.items?, List.map_set]⟩

/-- A value is written to an element of an array by trying what the element makes of it. -/
theorem setItem_array_eq (call : Call) (hv : w.store.IsHostArray v b xs) (hn : n < xs.length) :
    setItem call v (.int n) x w =
      (b.takeIn call x >>= fun y => setContent v (b.withItem n y)) w := by
  have hspecial : callSpecial? call v "__setitem__" [.int n, x] w = (.ok none, w) := by
    obtain ⟨hnone, -⟩ | ⟨l, hl, -⟩ := hv.setter
    · exact callSpecial?_of_none call (by rw [Store.declaredSpecial?, hnone]) _
    · exact callSpecial?_of_special hl _
  unfold setItem
  rw [bind_of_ok hspecial]
  dsimp only
  -- Either no class has a method for setting items, or the library has.
  obtain ⟨hnone, htaken⟩ | ⟨l, hl, hmapping, hsequence⟩ := hv.setter
  · have hlibrary : librarySpecial? v "__setitem__" w = (.ok none, w) := by
      simp [librarySpecial?, bind_apply, hnone]
    rw [bind_of_ok hlibrary, htaken]
    rfl
  · rw [bind_of_ok (librarySpecial?_of_special hl)]
    split
    next h => cases h
    next h => exact absurd (Option.some.inj h) hmapping
    next h => exact absurd (Option.some.inj h) hsequence
    next =>
      have hcontent := bind_of_ok (f := fun b => setContentItem call v b (.int n) x)
        (requireContent_of_shown hv.shown?_eq hv.items)
      cases v with
      | scope j => cases hv.content
      | _ => exact hcontent.trans (setContentItem_eq hv.kind hv.items hn)

/-- A value whose class does not say how it is counted as a number is one already, or has the wrong
    type. -/
theorem indexOf_of_plain (call : Call)
    (hx : w.store.declaredSpecial? (w.store.kindOf x) "__index__" = none) :
    indexOf call x w = ((w.store.plainInt? x).elim (.error .typeError) .ok, w) := by
  have hspecial := callSpecial?_of_none call hx []
  unfold indexOf Store.plainInt?
  rw [bind_of_ok (store_apply w)]
  generalize w.store.scalar x = y
  cases y with
  | int n | bool b => rfl
  | _ =>
    dsimp only
    rw [bind_of_ok hspecial]
    rfl

/-- An element that keeps bytes makes a byte of a value that does not define for itself which
    integer it is. -/
theorem byteOf_of_plain (call : Call) (hb : b.KeepsBytes)
    (hx : w.store.declaredSpecial? (w.store.kindOf x) "__index__" = none) :
    (byteOf call x >>= fun m => pure (.int m)) w = (b.made (w.store.plainInt? x), w) := by
  -- All that keep bytes make the same of an integer.
  have hmade (n : Option Int) : b.made n = (Body.byteArray []).made n := by
    unfold Body.KeepsBytes at hb
    split at hb
    case h_3 => exact hb.elim
    all_goals cases n <;> rfl
  have hindex := indexOf_of_plain call hx
  rw [byteOf, bind_assoc, hmade]
  cases hn : w.store.plainInt? x with
  | none =>
    rw [hn] at hindex
    exact bind_of_error hindex
  | some n =>
    rw [hn] at hindex
    rw [bind_of_ok hindex, Body.made]
    split
    next hin => rw [pure_bind, pure_apply, Int.toNat_of_nonneg hin.1]
    next => rfl

/-- A value that does not define for itself which integer it is leaves the world as it is, and an
    element makes of it what it makes of the integer. -/
theorem takeIn_of_plain (call : Call) (b : Body)
    (hx : w.store.declaredSpecial? (w.store.kindOf x) "__index__" = none) :
    b.takeIn call x w = (b.made (w.store.plainInt? x), w) := by
  cases b with
  | byteArray ns => exact byteOf_of_plain call trivial hx
  | byteView writable ns =>
    cases writable
    · rfl
    · exact byteOf_of_plain call trivial hx
  | words ns =>
    unfold Body.takeIn wordOf Store.plainInt?
    dsimp only
    rw [bind_assoc, bind_of_ok (store_apply w)]
    generalize w.store.scalar x = y
    cases y with
    | bool b => cases b <;> rfl
    | _ => rfl
  | _ => rfl

end Host

/-! ### Writes by key -/

namespace Service

variable {call : Call} {svc : ServiceId} {v x y key scope : Value} {b : Body} {xs : List Value}
  {n : Nat} {w u : World} {f : Fault}

/-- A value that cannot be an element is refused as invalid, if trying fails for its type; any other
    failure escapes. -/
def unwritten (s : Store) (v : Value) (f : Fault) : Fault :=
  if faultIsA s f .typeError then .wrapped (.arrayImmutable (s.typeName (s.kindOf v))) f else f

/-- An array is written as the dispatcher writes arrays, and nothing but the trace is changed
    before. -/
theorem exists_assign_array_eq (call : Call) (svc : ServiceId) (hv : w.store.IsHostArray v b xs)
    (hscope : scope.IsScope) {k : Key} (hkey : keyOf call key w = (.ok k, w)) :
    ∃ lines, assign call svc v key x scope w =
      (writeArray call v k x >>= fun _ => pure x) (w.withTrace lines) := by
  have hne : v ≠ .none := by
    rintro rfl
    cases hv.content
  have hput : assign call svc v key x scope w =
      request call (.write x) svc (w.store.asTarget v) k scope w :=
    Ask.put_of_ok (a := ⟨.write x, key, scope⟩) hne hkey
  obtain ⟨lines, hrequest⟩ := request_host (r := .write x) call svc k trivial hscope hne
    (Store.asTarget_of_shown hv.shown?_eq hv.items) (by rw [hv.classify_eq]; decide)
  refine ⟨lines, hput.trans (hrequest.trans ?_)⟩
  rw [hv.classify_eq]
  rfl

/-- A range that the host cannot count is not written to. -/
theorem writeArray_of_not_countable (call : Call) (hv : w.store.IsHostArray v b xs)
    (hsize : ¬b.Countable) (k : Key) : writeArray call v k x w = (.error overflow, w) :=
  bind_of_error (length_of_not_countable hv.countsAndReads hv.shown?_eq hv.items hsize)

/-- A key that is no place of an element is refused. -/
theorem writeArray_of_outside (call : Call) (hv : w.store.IsHostArray v b xs) (hsize : b.Countable)
    {k : Key} (hlimit : k.reading ≠ .tooLong)
    (hout : ∀ n : Nat, k.reading = .index (n + 1) → xs.length ≤ n) :
    ∃ r : Reason, r.kind = .validationError ∧
      writeArray call v k x w = (.error (.engine r), w) := by
  have hrefused : ∃ r : Reason, r.kind = .validationError ∧
      k.writeIndex xs.length true = .error (.engine r) := by
    -- A word, an index below one and an index past the end are refused for reasons of their own.
    unfold Key.writeIndex
    split
    next h => exact absurd h hlimit
    next => exact ⟨_, rfl, rfl⟩
    next i hi =>
      split
      next => exact ⟨_, rfl, rfl⟩
      next hlow =>
        obtain ⟨n, rfl⟩ : ∃ n : Nat, i = n + 1 := ⟨(i - 1).toNat, by omega⟩
        have hn := hout n hi
        rw [if_pos ⟨rfl, by omega⟩]
        exact ⟨_, rfl, rfl⟩
  obtain ⟨r, hr, hindex⟩ := hrefused
  refine ⟨r, hr, ?_⟩
  have hlength : length call v w = (.ok xs.length, w) :=
    length_of_countable hv.countsAndReads hv.shown?_eq hv.items hsize
  rw [writeArray, bind_of_ok hlength, hindex]
  rfl

/-- At the place of an element, what the element makes of the value is stored. -/
theorem writeArray_of_place (call : Call) (hv : w.store.IsHostArray v b xs) (hsize : b.Countable)
    {k : Key} (hreading : k.reading = .index (n + 1)) (hn : n < xs.length) :
    writeArray call v k x w =
      match b.takeIn call x w with
      | (.ok y, u) => (.ok (), { u with store := u.store.setContent v (b.withItem n y) })
      | (.error f, u) => (.error (unwritten u.store v f), u) := by
  have hlength : length call v w = (.ok xs.length, w) :=
    length_of_countable hv.countsAndReads hv.shown?_eq hv.items hsize
  have hindex : k.writeIndex xs.length true = .ok (n + 1) := by
    simp only [Key.writeIndex, hreading]
    rw [if_neg (by omega), if_neg (by omega)]
  have hset := setItem_array_eq (x := x) call hv hn
  rw [bind_apply] at hset
  rw [writeArray, bind_of_ok hlength, hindex, bind_of_ok (x := orFail _) rfl, Int.add_sub_cancel]
  -- The element is taken in before it is stored, so what the host refuses is refused here.
  rcases htaken : b.takeIn call x w with ⟨f | y, u⟩
  · rw [htaken] at hset
    rw [bind_of_ok (outcome_of hset)]
    dsimp only
    rw [bind_of_ok (store_apply u), unwritten]
    split <;> rfl
  · rw [htaken] at hset
    rw [bind_of_ok (outcome_of hset)]
    rfl

/-- What the element makes of the value takes its place. -/
theorem exists_stores_of_taken (call : Call) (hv : w.store.IsHostArray v b xs)
    (hsize : b.Countable) {k : Key} (hreading : k.reading = .index (n + 1)) (hn : n < xs.length)
    (htaken : b.takeIn call x w = (.ok y, u)) (hu : u.store.IsHostArray v b xs) :
    ∃ s, u.store.Stores v b xs n y s ∧
      writeArray call v k x w = (.ok (), { u with store := s }) := by
  have hwrite := writeArray_of_place (x := x) call hv hsize hreading hn
  rw [htaken] at hwrite
  obtain ⟨hbecome, hitems⟩ := items?_withItem (n := n) hu.items htaken
  exact ⟨_, hu.stores hbecome hitems, hwrite⟩

/-- A value that the element makes nothing of is not stored. -/
theorem writeArray_of_refused (call : Call) (hv : w.store.IsHostArray v b xs)
    (hsize : b.Countable) {k : Key} (hreading : k.reading = .index (n + 1)) (hn : n < xs.length)
    (htaken : b.takeIn call x w = (.error f, u)) :
    writeArray call v k x w = (.error (unwritten u.store v f), u) := by
  have hwrite := writeArray_of_place (x := x) call hv hsize hreading hn
  rw [htaken] at hwrite
  exact hwrite

/-- How a write comes out for a value that does not define for itself which integer it is. -/
theorem writeArray_of_plain (call : Call) (hv : w.store.IsHostArray v b xs) (hsize : b.Countable)
    {k : Key} (hlimit : k.reading ≠ .tooLong)
    (hx : w.store.declaredSpecial? (w.store.kindOf x) "__index__" = none) :
    (∃ (n : Nat) (y : Value) (s : Store), k.reading = .index (n + 1) ∧ n < xs.length ∧
      b.made (w.store.plainInt? x) = .ok y ∧ w.store.Stores v b xs n y s ∧
      writeArray call v k x w = (.ok (), { w with store := s })) ∨
    (∃ f : Fault, faultIsA w.store f .validationError ∧ writeArray call v k x w = (.error f, w)) ∨
    (∃ n : Nat, k.reading = .index (n + 1) ∧ n < xs.length) ∧ b.KeepsBytes ∧
      (∃ m, w.store.plainInt? x = some m ∧ ¬(0 ≤ m ∧ m ≤ 255)) ∧
      writeArray call v k x w = (.error .valueError, w) := by
  by_cases haddressed : ∃ n : Nat, k.reading = .index (n + 1) ∧ n < xs.length
  · have htaken := takeIn_of_plain call b hx
    obtain ⟨n, hreading, hn⟩ := haddressed
    rcases hmade : b.made (w.store.plainInt? x) with f | y
    · have hwrote := writeArray_of_refused call hv hsize hreading hn
        (htaken.trans (congrArg (·, _) hmade))
      -- Of the refusals only that of a byte out of range is not for the type of the value.
      obtain rfl | ⟨hbytes, rfl, hbyte⟩ := Body.eq_of_made_eq_error hmade
      · exact .inr (.inl ⟨_, rfl, hwrote⟩)
      · exact .inr (.inr ⟨⟨n, hreading, hn⟩, hbytes, hbyte, hwrote⟩)
    · obtain ⟨s, hs, hwrote⟩ := exists_stores_of_taken call hv hsize hreading hn
        (htaken.trans (congrArg (·, _) hmade)) hv
      exact .inl ⟨n, y, s, hreading, hn, rfl, hs, hwrote⟩
  · obtain ⟨r, hr, hwrote⟩ := writeArray_of_outside (x := x) call hv hsize hlimit fun n hn =>
      Nat.le_of_not_lt fun hlt => haddressed ⟨n, hn, hlt⟩
    refine .inr (.inl ⟨.engine r, ?_, hwrote⟩)
    rw [faultIsA, hr]
    rfl

end Service

open Host Service in
/-- **A write to an array.** A key that is no place of an element is refused as invalid. At the
    place of an element, what the element makes of the value takes its place, and no other element
    nor any other object changes; a value that is no element for its type is refused as invalid, and
    the array is as it was. A value that does not define for itself which integer it is fails in no
    other way, unless it is a number that is no byte. A range that the host cannot count is not even
    looked into. -/
theorem array_write_stores_or_refuses (call : Call) (svc : ServiceId) {v key scope : Value}
    {b : Body}
    {xs : List Value} {w : World} (hv : w.store.IsHostArray v b xs) (hkey : key.IsReadable)
    (hscope : scope.IsScope) (x : Value) :
    ∃ lines, let t := w.withTrace lines
      let wrote := assign call svc v key x scope w
      let addressed := ∃ n : Nat, key.Means (n + 1) ∧ n < xs.length
      (¬b.Countable → wrote = (.error overflow, t)) ∧
      (b.Countable →
        (¬addressed → ∃ r : Reason, r.kind = .validationError ∧ wrote = (.error (.engine r), t)) ∧
        (∀ n : Nat, key.Means (n + 1) → n < xs.length →
          (∀ y u, b.takeIn call x t = (.ok y, u) → u.store.IsHostArray v b xs →
            ∃ s, u.store.Stores v b xs n y s ∧ wrote = (.ok x, { u with store := s })) ∧
          (∀ f u, b.takeIn call x t = (.error f, u) →
            wrote = (.error (unwritten u.store v f), u))) ∧
        (w.store.declaredSpecial? (w.store.kindOf x) "__index__" = none →
          (∃ (n : Nat) (y : Value) (s : Store), key.Means (n + 1) ∧ n < xs.length ∧
            b.made (w.store.plainInt? x) = .ok y ∧ w.store.Stores v b xs n y s ∧
            wrote = (.ok x, { t with store := s })) ∨
          (∃ f : Fault, faultIsA w.store f .validationError ∧ wrote = (.error f, t)) ∨
          addressed ∧ b.KeepsBytes ∧ (∃ m, w.store.plainInt? x = some m ∧ ¬(0 ≤ m ∧ m ≤ 255)) ∧
            wrote = (.error .valueError, t))) := by
  obtain ⟨k, hk, hlimit, hmeans⟩ := exists_keyOf_of_isReadable hkey
  obtain ⟨lines, hassign⟩ := exists_assign_array_eq (x := x) call svc hv hscope (hk call w)
  have ht : (w.withTrace lines).store.IsHostArray v b xs := hv
  have hwritten {u : World} (h : writeArray call v k x (w.withTrace lines) = (.ok (), u)) :
      assign call svc v key x scope w = (.ok x, u) := hassign.trans (bind_of_ok h)
  have hfailed {f : Fault} {u : World}
      (h : writeArray call v k x (w.withTrace lines) = (.error f, u)) :
      assign call svc v key x scope w = (.error f, u) := hassign.trans (bind_of_error h)
  refine ⟨lines, fun hsize => hfailed (writeArray_of_not_countable call ht hsize k),
    fun hsize => ⟨fun hout => ?outside, fun n hn hlt => ⟨fun y u htaken hu => ?stored,
      fun f u htaken => ?refused⟩, fun hx => ?plain⟩⟩
  case outside =>
    obtain ⟨r, hr, hwrite⟩ := writeArray_of_outside (x := x) call ht hsize hlimit fun n hn =>
      Nat.le_of_not_lt fun hlt => hout ⟨n, (hmeans _).2 hn, hlt⟩
    exact ⟨r, hr, hfailed hwrite⟩
  case stored =>
    -- The value may have had code run in which the array was changed: what is replaced is an
    -- element of what the array is after that.
    obtain ⟨s, hs, hwrite⟩ := exists_stores_of_taken call ht hsize ((hmeans _).1 hn) hlt htaken hu
    exact ⟨s, hs, hwritten hwrite⟩
  case refused =>
    exact hfailed (writeArray_of_refused call ht hsize ((hmeans _).1 hn) hlt htaken)
  case plain =>
    obtain ⟨n, y, s, hn, hlt, hmade, hs, hwrite⟩ | ⟨f, hf, hwrite⟩ | ⟨⟨n, hn, hlt⟩, hbyte⟩ :=
      writeArray_of_plain call ht hsize hlimit hx
    · exact .inl ⟨n, y, s, (hmeans _).2 hn, hlt, hmade, hs, hwritten hwrite⟩
    · exact .inr (.inl ⟨f, hf, hfailed hwrite⟩)
    · obtain ⟨hbytes, hrange, hwrite⟩ := hbyte
      exact .inr (.inr ⟨⟨n, (hmeans _).2 hn, hlt⟩, hbytes, hrange, hfailed hwrite⟩)

/-- Two bytes that can be replaced, and a pair that cannot. -/
def satchel : World where
  store :=
    { objects := #[
        { kind := .library .byteArray, body := .byteArray [1, 2] },
        { kind := .library .tuple, body := .tuple [.int 1, .int 2] }] }

open Service in
/-- The first byte is replaced and the second one kept; there is no third, and nothing of the pair
    is replaced. -/
theorem array_write_stores_or_refuses_satchel :
    (∃ s, satchel.store.Stores (.object 0) (.byteArray [1, 2]) [.int 1, .int 2] 0 (.int 9) s ∧
      ∃ lines, assign Host.callValue .main (.object 0) (.text "1") (.int 9) .none satchel =
        (.ok (.int 9), { satchel.withTrace lines with store := s })) ∧
    (∃ lines, ∃ r : Reason, r.kind = .validationError ∧
      assign Host.callValue .main (.object 0) (.int 3) (.int 9) .none satchel =
        (.error (.engine r), satchel.withTrace lines)) ∧
    ∃ lines, assign Host.callValue .main (.object 1) (.text "1") (.int 9) .none satchel =
      (.error (.wrapped (.arrayImmutable "tuple") .typeError), satchel.withTrace lines) := by
  have hbytes : satchel.store.IsHostArray (.object 0) (.byteArray [1, 2]) [.int 1, .int 2] :=
    ⟨trivial, rfl, rfl⟩
  have hpair : satchel.store.IsHostArray (.object 1) (.tuple [.int 1, .int 2])
      [.int 1, .int 2] := ⟨trivial, rfl, rfl⟩
  have hfirst : (Value.text "1").Means ((0 : Nat) + 1) := .text (by decide) (by decide)
  have hthird : (Value.int 3).IsReadable := .int (Nat.lt_of_lt_of_le (by decide)
    (Nat.le_pow (a := 10) (by decide) : 10 ≤ 10 ^ digitLimit))
  have hshort : (Value.text "1").IsReadable := .text fun _ => by decide
  refine ⟨?_, ?_, ?_⟩
  · obtain ⟨lines, -, hwrote⟩ := array_write_stores_or_refuses Host.callValue .main hbytes hshort
      (.inl rfl) (.int 9)
    obtain ⟨s, hs, hassign⟩ := ((hwrote nofun).2.1 0 hfirst (by decide)).1 (.int 9) _ rfl hbytes
    exact ⟨s, hs, lines, hassign⟩
  · obtain ⟨lines, -, hwrote⟩ := array_write_stores_or_refuses Host.callValue .main hbytes hthird
      (.inl rfl) (.int 9)
    refine ⟨lines, (hwrote nofun).1 ?_⟩
    rintro ⟨n, hn, hlt⟩
    generalize hthree : (n : Int) + 1 = i at hn
    cases hn
    simp at hlt
    omega
  · obtain ⟨lines, -, hwrote⟩ := array_write_stores_or_refuses Host.callValue .main hpair hshort
      (.inl rfl) (.int 9)
    exact ⟨lines, ((hwrote nofun).2.1 0 hfirst (by decide)).2 .typeError _ rfl⟩

open Service in
/-- A number that is no byte is not refused as invalid. -/
theorem array_write_escapes_satchel :
    ∃ lines, assign Host.callValue .main (.object 0) (.text "1") (.int 300) .none satchel =
      (.error .valueError, satchel.withTrace lines) ∧
      Host.faultIsA satchel.store .valueError .validationError = false := by
  have hbytes : satchel.store.IsHostArray (.object 0) (.byteArray [1, 2]) [.int 1, .int 2] :=
    ⟨trivial, rfl, rfl⟩
  have hkey : keyOf Host.callValue (.text "1") satchel = (.ok (.ofText "1"), satchel) := rfl
  obtain ⟨lines, hassign⟩ := exists_assign_array_eq (x := .int 300) Host.callValue .main hbytes
    (.inl rfl) hkey
  have hwrite := writeArray_of_place (w := satchel.withTrace lines) (x := .int 300) Host.callValue
    hbytes nofun (k := .ofText "1") (n := 0) (by decide) (by decide)
  exact ⟨lines, hassign.trans (Run.bind_of_error hwrite), rfl⟩

end ScriptBridge
