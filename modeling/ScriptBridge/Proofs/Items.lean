import ScriptBridge.Proofs.Received

namespace ScriptBridge

/-!
# Sequences are their items

The scripts' arrays answer for themselves, and the host's lists and queues are served by the
dispatcher. Each does to its items what is said here of lists of items alone.

* `readItems` and `writeItems` are what a read and a write come to among items;
* `Service.exists_read_items_eq`, `Service.exists_write_items_eq`: whatever holds the items is read
  and written that way, failures included.
-/

/-! ### Items alone -/

/-- What a key reads as among items: their number, or the item at the place. -/
def readItems (xs : List Value) (k : Key) (safe : Bool) : Except Fault Value :=
  if k.same .length then .ok (.int xs.length)
  else (k.readIndex xs.length safe).map fun i =>
    i.elim .absent fun i => xs.getD (i.toNat - 1) .absent

/-- What becomes of items when a key is written. -/
def writeItems (xs : List Value) (k : Key) (x : Value) : Except Fault (List Value) :=
  (k.writeIndex xs.length false).map fun i => setPadded xs (i.toNat - 1) x

/-! ### Indexes -/

namespace Key

variable {k : Key}

/-- An index that can be written at is one that the key spells, counted from one. -/
theorem exists_of_writeIndex {size i : Int} (h : k.writeIndex size false = .ok i) :
    ∃ n : Nat, i = n + 1 ∧ k.reading = .index (n + 1) := by
  unfold writeIndex at h
  cases hk : k.reading with
  | word => simp [hk] at h
  | tooLong => simp [hk] at h
  | index j =>
    simp only [hk, Bool.false_eq_true, false_and, if_false] at h
    split at h
    · cases h
    · cases h
      exact ⟨(i - 1).toNat, by omega, by rw [show ((i - 1).toNat : Int) + 1 = i by omega]⟩

/-- An index that is within the size is read. -/
theorem readIndex_of_reading {n size : Nat} (h : k.reading = .index (n + 1)) (hn : n < size)
    (safe : Bool) : k.readIndex size safe = .ok (some (n + 1)) := by
  have hin : ¬ ((n : Int) + 1 < 1 ∨ (size : Int) < n + 1) := by omega
  simp only [readIndex, h, if_neg hin]

/-- Keys count places from one, and lists from zero. -/
theorem toNat_place (n : Nat) : ((n : Int) + 1).toNat - 1 = n := by
  omega

/-- A place that can be read lies among the items. -/
theorem exists_of_readIndex {size : Nat} {safe : Bool} {i : Int}
    (h : k.readIndex size safe = .ok (some i)) : ∃ n : Nat, i = n + 1 ∧ n < size := by
  unfold readIndex at h
  cases hk : k.reading with
  | tooLong => simp [hk] at h
  | word => cases safe <;> simp [hk] at h
  | index j =>
    simp only [hk] at h
    by_cases hout : j < 1 ∨ (size : Int) < j
    · rw [if_pos hout] at h
      cases safe <;> cases h
    · rw [if_neg hout] at h
      cases h
      exact ⟨(i - 1).toNat, by omega, by omega⟩

end Key

namespace Service

open Run Host

variable {v x scope : Value} {k : Key} {w : World} {xs : List Value}

/-! ### Reads -/

/-- A list of the host is a sequence to the engine. -/
theorem classify_of_isSequence {s : Store} (h : s.IsSequence v xs) : s.classify v = .sequence := by
  obtain ⟨hk, -⟩ | ⟨hk, -⟩ := h
  all_goals
    unfold Store.classify Store.isInstance
    rw [hk]
    rfl

/-- An array is read as its items are. -/
theorem readArray_eq (call : Call) (v : Value) (xs : List Value) (safe : Bool) (w : World)
    (hmeta : k.same .metadata = false) :
    Container.readArray call v xs k safe w = (readItems xs k safe, w) := by
  unfold Container.readArray readItems
  rw [if_neg (by simp [hmeta])]
  by_cases hlength : k.same .length = true
  · rw [if_pos hlength, if_pos hlength]
    rfl
  · rw [if_neg hlength, if_neg hlength]
    rcases k.readIndex xs.length safe with f | ⟨⟩ | i <;> rfl

/-- What counts and reads its items has them as its elements. -/
theorem readElement_of_items (call : Call) (safe : Bool)
    (hlen : length call v w = (.ok xs.length, w))
    (hget : ∀ (i : Nat) (x : Value), xs[i]? = some x → getItem call v (.int i) w = (.ok x, w)) :
    readElement call v k safe w =
      ((k.readIndex xs.length safe).map fun i =>
          i.elim .absent fun i => xs.getD (i.toNat - 1) .absent,
        w) := by
  rw [readElement, bind_of_ok hlen]
  cases hi : k.readIndex xs.length safe with
  | error f => rfl
  | ok place =>
    cases place with
    | none => rfl
    | some i =>
      obtain ⟨n, rfl, hn⟩ := Key.exists_of_readIndex hi
      have hitem : xs[n]? = some (xs.getD n .absent) := by
        rw [List.getD_eq_getElem?_getD, List.getElem?_eq_getElem hn, Option.getD_some]
      -- The host counts from zero, keys count from one.
      rw [bind_of_ok (x := orFail (.ok _)) rfl]
      simp only [Int.add_sub_cancel, hget n _ hitem, Except.map, Option.elim_some, Key.toNat_place]

/-- What counts and reads its items is read as they are. -/
theorem readSequence_of_items (call : Call) (safe : Bool)
    (hlen : length call v w = (.ok xs.length, w))
    (hget : ∀ (i : Nat) (x : Value), xs[i]? = some x → getItem call v (.int i) w = (.ok x, w)) :
    readSequence call v k safe w = (readItems xs k safe, w) := by
  unfold readSequence readItems
  by_cases hlength : k.same .length = true
  · rw [if_pos hlength, if_pos hlength, bind_of_ok hlen]
    rfl
  · rw [if_neg hlength, if_neg hlength]
    exact readElement_of_items call safe hlen hget

/-- A sequence of the host is read as its items are. -/
theorem readSequence_eq (call : Call) (safe : Bool) (hs : w.store.IsSequence v xs) :
    readSequence call v k safe w = (readItems xs k safe, w) :=
  readSequence_of_items call safe (length_of_isSequence call hs)
    fun _ _ hitem => getItem_of_isSequence call hs hitem

/-- Whatever holds the items is read as they are, and changes nothing but the trace. -/
theorem exists_read_items_eq (call : Call) (svc : ServiceId) (safe : Bool)
    (hc : w.store.Contains v (.items xs)) (hmeta : k.same .metadata = false)
    (hscope : scope.IsScope) :
    ∃ lines, request call (.read safe) svc (w.store.asTarget v) k scope w =
      (readItems xs k safe, w.withTrace lines) := by
  cases hc with
  | array ha hb =>
    obtain ⟨sc, lines, hreq⟩ := request_own call svc (.read safe) k hscope ha ha.read (by decide)
    refine ⟨lines, ?_⟩
    rw [hreq, answerOwn, Container.readNative, bind_of_ok (body?_apply _ v), World.store_withTrace,
      hb]
    exact readArray_eq call v xs safe (w.withTrace lines) hmeta
  | sequence hs =>
    obtain ⟨b, hb, htarget⟩ := hs.exists_body?
    have hsort := classify_of_isSequence hs
    obtain ⟨lines, hreq⟩ := request_host (r := .read safe) call svc k trivial hscope
      (Store.ne_none_of_body? hb) (Store.asTarget_of_body? hb htarget) (by rw [hsort]; decide)
    refine ⟨lines, ?_⟩
    rw [hreq, hsort, answerHost, readHost, if_neg (by simp [hmeta])]
    exact readSequence_eq (w := w.withTrace lines) call safe hs

/-! ### Writes -/

/-- A sequence of the host is written as its items are. -/
theorem exists_writeSequence_eq (call : Call) (x : Value) (hs : w.store.IsSequence v xs) :
    ∃ w', writeSequence call v k x w = ((writeItems xs k x).map fun _ => (), w') ∧
      w.Writes v (writeItems xs k x) w' ∧
      w'.store.IsSequence v ((writeItems xs k x).toOption.getD xs) := by
  rw [writeSequence, bind_of_ok (length_of_isSequence call hs), writeItems]
  cases hi : k.writeIndex xs.length false with
  | error f => exact ⟨w, rfl, .refused w.trace, hs⟩
  | ok i =>
    rw [bind_of_ok (x := orFail (.ok _)) rfl, bind_of_ok (kindOf_apply w v),
      bind_of_ok (content?_apply w v)]
    -- Lists and queues are written in two ways that come to the same.
    obtain ⟨hk, hb⟩ | ⟨hk, hb⟩ := hs
    · have hset (ys : List Value) : w.store.setContent v (.list ys) =
          w.store.setBody v (.list ys) := by
        simp only [Store.setContent, hb]
      rw [hk, Store.content?_of_body? hb trivial]
      simp only [setContent_apply, hset]
      refine ⟨_, rfl, .done w.trace hb trivial rfl, .list ?_ ?_⟩
      · rw [Store.kindOf_setBody, hk]
      · rw [Store.body?_setBody_self, hb, Option.map_some]
        rfl
    · rw [hk, Store.content?_of_body? hb trivial]
      simp only [setBody_apply]
      refine ⟨_, rfl, .done w.trace hb trivial rfl, .deque ?_ ?_⟩
      · rw [Store.kindOf_setBody, hk]
      · rw [Store.body?_setBody_self, hb, Option.map_some]
        rfl

/-- Whatever holds the items is written as they are, and holds what they have become. -/
theorem exists_write_items_eq (call : Call) (svc : ServiceId) (x : Value)
    (hc : w.store.Contains v (.items xs)) (hscope : scope.IsScope) :
    ∃ w', request call (.write x) svc (w.store.asTarget v) k scope w =
        ((writeItems xs k x).map fun _ => x, w') ∧
      w.Writes v (writeItems xs k x) w' ∧
      w'.store.Contains v (.items ((writeItems xs k x).toOption.getD xs)) := by
  cases hc with
  | @array xs card ha hb =>
    obtain ⟨sc, lines, hreq⟩ := request_own call svc (.write x) k hscope ha ha.write (by decide)
    rw [hreq, answerOwn, Container.writeNative, bind_of_ok (body?_apply _ v), World.store_withTrace,
      hb, writeItems]
    dsimp only
    cases hi : k.writeIndex xs.length false with
    | error f => exact ⟨w.withTrace lines, rfl, .refused lines, .array ha hb⟩
    | ok i =>
      rw [bind_of_ok (x := orFail (.ok _)) rfl, bind_of_ok (setBody_apply _ v _)]
      have hset (ys : List Value) :
          (w.store.setBody v (.array ys card)).body? v = some (.array ys card) := by
        rw [Store.body?_setBody_self, hb, Option.map_some]
      exact ⟨_, rfl, .done lines hb Body.sameSort_array rfl,
        .array (ha.setBody hb Body.sameSort_array) (hset _)⟩
  | sequence hs =>
    obtain ⟨b, hb, htarget⟩ := hs.exists_body?
    have hsort := classify_of_isSequence hs
    obtain ⟨lines, hreq⟩ := request_host (r := .write x) call svc k trivial hscope
      (Store.ne_none_of_body? hb) (Store.asTarget_of_body? hb htarget) (by rw [hsort]; decide)
    obtain ⟨w', hwrite, hstep, hs'⟩ :=
      exists_writeSequence_eq (w := w.withTrace lines) (k := k) call x hs
    refine ⟨w', ?_, hstep.of_withTrace, .sequence hs'⟩
    rw [hreq, hsort, answerHost, writeHost]
    -- The write gives the value back only where it was not refused.
    cases hi : writeItems xs k x with
    | error f =>
      rw [hi] at hwrite
      exact bind_of_error hwrite
    | ok ys =>
      rw [hi] at hwrite
      exact bind_of_ok hwrite

end Service

end ScriptBridge
