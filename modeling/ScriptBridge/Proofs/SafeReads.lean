import ScriptBridge.Eval
import ScriptBridge.Proofs.Described
import ScriptBridge.Proofs.FieldReads
import ScriptBridge.Proofs.Indexing

namespace ScriptBridge

/-!
# Safe reads that fail

A safe read of a container gives what is there, or the absent value. But a key has to be written
down and its digits to be read before anything is looked up, and a range has to be counted; and the
host does not handle numbers of too many digits, or ranges that go too far.

* `Store.IsRow` tells which values of the host have items in a row, `Store.IsContainer` which values
  are containers;
* `Service.exists_row_eq` and the lemmas after it: what a read of each container comes to;
* `Store.SafeReadFails` lists why a safe read fails, and `safe_read_fails_iff` that it does so for
  no other reason.
-/

open Run Host

/-! ### Containers -/

/-- The host's classes of values that have items in a row: its own sequences and texts, and arrays
    of machine words. -/
def Kind.HasRow : Kind → Prop
  | .library l => l ∈ Store.indexedKinds
  | .words _ => True
  | _ => False

namespace Store

/-- Whether nothing that would describe a value is set on it. -/
def SaysNothing (s : Store) (v : Value) : Prop :=
  ∀ o, s.deref? v = some o → o.attrs.get? "get_box_meta" = none

/-- Whether a value of the host's own classes has a content with items in a row. A text is a plain
    one. -/
structure IsRow (s : Store) (v : Value) (b : Body) (xs : List Value) : Prop where
  kind : (s.kindOf v).HasRow
  shown : s.shown? v = some b
  items : b.items? = some xs
  text : s.classify v = .text → ∃ t, v = .text t
  silent : s.SaysNothing v

end Store

/-- The forms by which a map of the host is asked for a text or an integer: an integer is looked for
    under its value and under its digits. -/
def Value.mapForms : Value → List KeyForm
  | .text t => [.text t]
  | .int n => [.number (.ofInt n), .text (toString n)]
  | _ => []

/-- Whether a value is a container: it has items in a row, or it is a map of the host none of whose
    keys is asked whether it equals a given one, or a struct or an array of the scripts that answers
    by the library's methods. -/
inductive Store.IsContainer (s : Store) (v key : Value) : Prop where
  | row {b : Body} {xs : List Value} (h : s.IsRow v b xs)
  | map {m : HostMap} (hkind : s.kindOf v = .library .dict) (hbody : s.body? v = some (.dict m))
    (hsilent : s.SaysNothing v)
    (hplaces : ∀ there ∈ m.keys, there.form.isCustom →
      ∀ form ∈ key.mapForms, ¬there.form.sameHash form)
  | scripted {h : Holding} {card : Option Value} (hv : s.Bears v h) (hkeeps : s.KeepsCard v card)

/-- Why a safe read of a value by a text or an integer fails: the integer has too many digits to be
    written down, the text has too many to be read, or the value is a range that goes too far to be
    counted. -/
inductive Store.SafeReadFails (s : Store) (v : Value) : Value → Fault → Prop where
  | key {n : Int} (h : 10 ^ digitLimit ≤ n.natAbs) : SafeReadFails s v (.int n) .tooManyDigits
  | digits {t : String} (hv : (∃ b xs, s.IsRow v b xs ∧ b.Countable) ∨ ∃ xs, s.Bears v (.items xs))
    (hdigits : isDecimal t) (hlong : digitLimit < t.length) :
    SafeReadFails s v (.text t) .valueError
  | size {key : Value} {b : Body} {xs : List Value} (hv : s.IsRow v b xs) (hlong : ¬b.Countable)
    (hkey : (∃ n : Int, key = .int n ∧ n.natAbs < 10 ^ digitLimit) ∨
      ∃ t, key = .text t ∧ (Key.ofText t).same .metadata = false) :
    SafeReadFails s v key overflow

namespace Store

variable {s : Store} {v : Value} {b : Body} {xs : List Value}

/-- The class of a row leaves it to the host to count and to read its elements. -/
theorem IsRow.countsAndReads (h : s.IsRow v b xs) : s.CountsAndReads (s.kindOf v) := by
  have hkind := h.kind
  unfold Kind.HasRow at hkind
  split at hkind
  next l hk => exact hk ▸ countsAndReads_of_library hkind
  next n hk => exact hk ▸ countsAndReads_of_words n
  next => exact hkind.elim

/-- A row is a list, an array or a text to the engine. -/
theorem IsRow.classify_mem (h : s.IsRow v b xs) :
    s.classify v ∈ [TargetKind.sequence, .array, .text] := by
  have hkind := h.kind
  unfold Kind.HasRow at hkind
  split at hkind
  next l hk => exact classify_of_library hkind hk
  next n hk => simp [classify_of_words hk]
  next => exact hkind.elim

/-- Nothing is no row. -/
theorem IsRow.ne_none (h : s.IsRow v b xs) : v ≠ .none := by
  rintro rfl
  cases h.shown

/-- No class of a row or a map says how its values are described. -/
theorem inherited?_get_box_meta
    (hkind : (s.kindOf v).HasRow ∨ s.kindOf v = .library .dict) :
    s.inherited? (s.kindOf v) "get_box_meta" = none := by
  have hlibrary (l : LibraryKind) (hl : l ∈ LibraryKind.dict :: indexedKinds) :
      s.inherited? (.library l) "get_box_meta" = none := by
    -- Nothing can be set on these classes, so what they declare is all there is.
    have hhost : ∀ l ∈ LibraryKind.dict :: indexedKinds, ∀ l' ∈ l.lineage,
        l'.isEngineOwn = false := by decide
    have hall : ∀ l ∈ LibraryKind.dict :: indexedKinds,
        Store.inherited? {} (.library l) "get_box_meta" = none := by decide +kernel
    rw [inherited?_of_classAttrs fun l' hl' =>
      classAttrs_of_not_isEngineOwn (hhost l hl l' hl'), hall l hl]
  obtain hkind | hkind := hkind
  · unfold Kind.HasRow at hkind
    split at hkind
    next l hk => exact hk ▸ hlibrary l (List.mem_cons_of_mem _ hkind)
    next n hk =>
      rw [hk]
      rfl
    next => exact hkind.elim
  · exact hkind ▸ hlibrary .dict List.mem_cons_self

end Store

/-! ### Descriptions -/

namespace Host

variable {call : Call} {svc : ServiceId} {v : Value} {w : World}

/-- A row or a map that says nothing of its description is described. -/
theorem exists_description_of_silent (call : Call) (svc : ServiceId)
    (hkind : (w.store.kindOf v).HasRow ∨ w.store.kindOf v = .library .dict)
    (hclass : ∀ k, v ≠ .kind k) (hscope : ∀ i, v ≠ .scope i)
    (hbound : ∀ f r, w.store.body? v ≠ some (.bound f r)) (hsilent : w.store.SaysNothing v) :
    ∃ y u, description call svc v w = (.ok y, u) := by
  -- No class takes the reading of attributes over, so the description is asked for the regular way.
  have hplain : ∀ name, name = "__getattribute__" ∨ name = "__getattr__" →
      w.store.declaredSpecial? (w.store.kindOf v) name = none := by
    obtain hkind | hkind := hkind
    · unfold Kind.HasRow at hkind
      split at hkind
      next l hk => exact fun name _ => hk ▸ Store.declaredSpecial?_library w.store l name
      next n hk => rintro name (rfl | rfl) <;> rw [hk] <;> rfl
      next => exact hkind.elim
    · exact fun name _ => hkind ▸ Store.declaredSpecial?_library w.store .dict name
  have hget : getAttr? call v "get_box_meta" w = getInstanceAttr? call v "get_box_meta" w :=
    getAttr?_of_undeclared call hclass (hplain _ (.inl rfl)) (hplain _ (.inr rfl)) _
  have hown : ownValue? v "get_box_meta" w = (.ok none, w) := by
    refine ownValue?_get_box_meta hscope fun o ho => ⟨hsilent o ho, fun f r hb => hbound f r ?_⟩
    rw [Store.body?, ho, Option.map_some, hb]
  have huncallable : w.store.isCallable .none = false := rfl
  have hmake (style : MetadataStyle) : ∃ y u, makeDescription style v w = (.ok y, u) := by
    cases style <;> exact ⟨_, _, rfl⟩
  obtain ⟨y, u, hmake⟩ := hmake (w.service svc).style
  rw [description, bind_of_ok (getAttrD_get_box_meta_of_missing call hclass hget
    (Store.inherited?_get_box_meta hkind) hown), bind_of_ok (store_apply w)]
  · simp only [huncallable, Bool.false_and, Bool.false_eq_true, if_false]
    rw [bind_of_ok (service_apply w svc)]
    split
    next => exact ⟨y, u, hmake⟩
    next =>
      split
      next d _ => exact ⟨d, w, rfl⟩
      next =>
        rw [bind_of_ok hmake]
        exact ⟨y, _, rfl⟩
  · exact hclass

/-- A struct or an array that keeps its description gives one. -/
theorem exists_container_description_of_keeps (call : Call) {card : Option Value}
    (hv : w.store.KeepsCard v card) : ∃ y u, Container.description call v w = (.ok y, u) := by
  obtain ⟨l, hl⟩ := Option.isSome_iff_exists.1 hv.isSome_libraryMethod?
  have hmethod : libraryMethod? v "get_box_meta" w = (.ok (some l), w) := by
    rw [libraryMethod?, bind_of_ok (store_apply w), hl]
    rfl
  have hcard : ∃ y u, newCard v w = (.ok y, u) := ⟨_, _, rfl⟩
  obtain ⟨y, u, hcard⟩ := hcard
  rw [Container.description, viaMethod, bind_of_ok hmethod]
  dsimp only
  rw [keptDescription, bind_of_ok (body?_apply w v)]
  cases hv with
  | struct hbody _ | array hbody _ =>
    rw [hbody]
    cases card with
    | some y => exact ⟨y, w, rfl⟩
    | none =>
      dsimp only
      rw [bind_of_ok hcard]
      exact ⟨y, _, rfl⟩

end Host

/-! ### Reads -/

/-- Only digits can be too many to be read as an index, and such a key can be made of any text. -/
theorem Key.reading_ofText_eq_tooLong_iff {t : String} :
    (Key.ofText t).reading = .tooLong ↔ isDecimal t ∧ digitLimit < t.length := by
  cases hdigits : isDecimal t
  · simp [Key.reading, Key.ofText, hdigits]
  · by_cases hlong : t.length ≤ digitLimit
    · simp [Key.reading, Key.ofText, hdigits, hlong]
    · simp [Key.reading, Key.ofText, hdigits, hlong, Nat.lt_of_not_le hlong]

/-- An index is read safely unless its digits are too many. -/
theorem Key.exists_readIndex_safe {k : Key} (h : k.reading ≠ .tooLong) (size : Int) :
    ∃ i, k.readIndex size true = .ok i := by
  unfold readIndex
  split
  next hk => exact absurd hk h
  next => exact ⟨_, rfl⟩
  next =>
    split
    next => exact ⟨_, rfl⟩
    next => exact ⟨_, rfl⟩

/-- A key that is too long to be an index fails with an error of the host, whether or not the read
    is safe. -/
theorem Key.readIndex_of_tooLong {k : Key} (h : k.reading = .tooLong) (size : Int) (safe : Bool) :
    k.readIndex size safe = .error .valueError := by
  simp [readIndex, h]

/-- A safe read of elements gives something for every key that is not too long. -/
theorem exists_readItems_safe {k : Key} (h : k.reading ≠ .tooLong) (xs : List Value) :
    ∃ y, readItems xs k true = .ok y := by
  unfold readItems
  split
  next => exact ⟨_, rfl⟩
  next =>
    obtain ⟨i, hi⟩ := k.exists_readIndex_safe h xs.length
    exact ⟨_, by rw [hi]; rfl⟩

/-- A read of elements fails for a key that is too long, unless the key asks for the length. -/
theorem readItems_of_tooLong {k : Key} (h : k.reading = .tooLong) (hlength : k.same .length = false)
    (xs : List Value) (safe : Bool) : readItems xs k safe = .error .valueError := by
  rw [readItems, hlength, if_neg Bool.false_ne_true, Key.readIndex_of_tooLong h]
  rfl

namespace Service

variable {call : Call} {svc : ServiceId} {v scope : Value} {b : Body} {xs : List Value} {k : Key}
  {w : World}

/-- A row is read by the rules for its sort. -/
theorem exists_row_eq (call : Call) (svc : ServiceId) (safe : Bool) (h : w.store.IsRow v b xs)
    (hscope : scope.IsScope) (k : Key) :
    ∃ lines, request call (.read safe) svc (w.store.asTarget v) k scope w =
      readHost call svc ⟨w.store.kindOf v, v⟩ (w.store.classify v) k safe (w.withTrace lines) := by
  have hother : w.store.classify v ≠ .referenceable := by
    intro hsort
    have hmem := h.classify_mem
    rw [hsort] at hmem
    revert hmem
    decide
  exact request_host (r := .read safe) call svc k trivial hscope h.ne_none
    (Store.asTarget_of_shown h.shown h.items) hother

/-- A range that goes too far is not counted. -/
theorem readHost_row_of_not_countable (call : Call) (svc : ServiceId) (safe : Bool)
    (h : w.store.IsRow v b xs) (hlong : ¬b.Countable) (hmeta : k.same .metadata = false) :
    readHost call svc ⟨w.store.kindOf v, v⟩ (w.store.classify v) k safe w =
      (.error overflow, w) := by
  have hlength : length call v w = (.error overflow, w) :=
    length_of_not_countable h.countsAndReads h.shown h.items hlong
  have hread : readSequence call v k safe w = (.error overflow, w) := by
    unfold readSequence readElement
    split <;> exact bind_of_error hlength
  have hmem := h.classify_mem
  simp only [List.mem_cons, List.not_mem_nil, or_false] at hmem
  unfold readHost
  rw [if_neg (by simp [hmeta])]
  obtain hsort | hsort | hsort := hmem
  · rw [hsort]
    exact hread
  · rw [hsort]
    exact hread
  · -- A text is no range.
    obtain ⟨t, rfl⟩ := h.text hsort
    cases h.shown
    exact (hlong nofun).elim

/-- A text has no fields, so a word reads as nothing. -/
theorem exists_readField_text (call : Call) (t : String)
    (hfresh : (findField? svc ⟨.library .text, .text t⟩ k).Fresh svc w) :
    ∃ u, readField call svc ⟨.library .text, .text t⟩ k true none w = (.ok .absent, u) := by
  have hnone : w.store.findField? (.library .text) k = none := by
    have hhost : ∀ l ∈ LibraryKind.text.lineage, l.isEngineOwn = false := by decide
    have hfields : Store.fields {} (.library .text) = [] := by decide +kernel
    rw [Store.findField?_of_classAttrs fun l hl =>
      Store.classAttrs_of_not_isEngineOwn (hhost l hl), LibraryKind.field?, Store.findField?,
      hfields, List.find?_nil]
  have hfound := findField?_of_fresh hfresh
  rw [hnone] at hfound
  replace hfound : (findField? svc ⟨.library .text, .text t⟩ k w).1 = .ok none := hfound
  exact ⟨_, by rw [readField, bind_of_ok (Prod.ext hfound rfl)]; rfl⟩

/-- A safe read of a row that is counted gives what is there, unless the digits of the key are too
    many. -/
theorem readHost_row_of_countable (call : Call) (svc : ServiceId) (h : w.store.IsRow v b xs)
    (hsize : b.Countable) (hmeta : k.same .metadata = false)
    (hlength : k.reading = .tooLong → k.same .length = false)
    (hfresh : ∀ t, v = .text t → k.reading = .word →
      (findField? svc ⟨.library .text, v⟩ k).Fresh svc w) :
    let read := readHost call svc ⟨w.store.kindOf v, v⟩ (w.store.classify v) k true w
    (k.reading = .tooLong → read = (.error .valueError, w)) ∧
      (k.reading ≠ .tooLong → ∃ y u, read = (.ok y, u)) := by
  intro read
  have hcount : length call v w = (.ok xs.length, w) :=
    length_of_countable h.countsAndReads h.shown h.items hsize
  have hget (i : Nat) (x : Value) (hx : xs[i]? = some x) : getItem call v (.int i) w = (.ok x, w) :=
    getItem_of_items h.countsAndReads h.shown h.items hx
  -- Two of the three sorts are read as sequences.
  have hsequence (hread : read = readSequence call v k true w) :
      (k.reading = .tooLong → read = (.error .valueError, w)) ∧
        (k.reading ≠ .tooLong → ∃ y u, read = (.ok y, u)) := by
    rw [hread, readSequence_of_items call true hcount hget]
    refine ⟨fun hlong => by rw [readItems_of_tooLong hlong (hlength hlong)], fun hshort => ?_⟩
    obtain ⟨y, hy⟩ := exists_readItems_safe hshort xs
    exact ⟨y, w, by rw [hy]⟩
  have hplain : ¬k.same .metadata = true := by simp [hmeta]
  have hmem := h.classify_mem
  simp only [List.mem_cons, List.not_mem_nil, or_false] at hmem
  obtain hsort | hsort | hsort := hmem
  · exact hsequence (by simp only [read, readHost, if_neg hplain, hsort])
  · exact hsequence (by simp only [read, readHost, if_neg hplain, hsort])
  · -- In a text a word is a field, and `length` is a word like any other.
    obtain ⟨t, rfl⟩ := h.text hsort
    by_cases hword : k.reading = .word
    · obtain ⟨u, hfield⟩ := exists_readField_text call t (hfresh t rfl hword)
      have hread : read = (.ok .absent, u) := by
        simp only [read, readHost, if_neg hplain, hsort, if_pos hword]
        exact hfield
      rw [hread]
      exact ⟨fun hlong => (by rw [hword] at hlong; cases hlong), fun _ => ⟨_, u, rfl⟩⟩
    · have hread : read = readElement call (.text t) k true w := by
        simp only [read, readHost, if_neg hplain, hsort, if_neg hword]
      rw [hread, readElement_of_items call true hcount hget]
      refine ⟨fun hlong => by rw [Key.readIndex_of_tooLong hlong]; rfl, fun hshort => ?_⟩
      obtain ⟨i, hi⟩ := k.exists_readIndex_safe hshort xs.length
      exact ⟨_, w, by rw [hi]; rfl⟩

/-- A row that is asked for its description is described. -/
theorem exists_readHost_row_metadata (call : Call) (svc : ServiceId) (safe : Bool)
    (h : w.store.IsRow v b xs) (hmeta : k.same .metadata = true) :
    ∃ y u, readHost call svc ⟨w.store.kindOf v, v⟩ (w.store.classify v) k safe w = (.ok y, u) := by
  have hsubject : (Target.mk (w.store.kindOf v) v).subject = v := by
    simp [Target.subject, Target.hasInstance, h.ne_none]
  -- A bound method has no items.
  have hbound (f r : Value) : w.store.body? v ≠ some (.bound f r) := by
    intro hb
    have hshown : w.store.shown? v = some (.bound f r) := by
      cases v with
      | text t => cases hb
      | _ => exact Store.content?_of_body? hb trivial
    obtain rfl := Option.some.inj (h.shown.symm.trans hshown)
    cases h.items
  obtain ⟨y, u, hdescribed⟩ := exists_description_of_silent call svc (.inl h.kind)
    (by rintro k rfl; cases h.shown) (by rintro i rfl; cases h.shown) hbound h.silent
  refine ⟨y, u, ?_⟩
  unfold readHost
  rw [if_pos hmeta, hsubject]
  exact hdescribed

/-- A safe read of a map finds an entry or nothing, if no key of the map is asked. -/
theorem exists_request_map_safe (call : Call) (svc : ServiceId) {m : HostMap}
    (hkind : w.store.kindOf v = .library .dict) (hbody : w.store.body? v = some (.dict m))
    (hsilent : w.store.SaysNothing v) (hplaces : (Holding.pairs m).Places k)
    (hnamed : (Holding.pairs m).Places (.ofText k.name)) (hscope : scope.IsScope) :
    ∃ y u, request call (.read true) svc (w.store.asTarget v) k scope w = (.ok y, u) := by
  obtain ⟨lines, hreq⟩ := exists_request_map_eq call svc (.read true) k hkind hbody hscope
  rw [hreq, answerHost, readHost]
  by_cases hmeta : k.same .metadata = true
  · have hne := Store.ne_none_of_body? hbody
    have hsubject : (Target.mk (.library .dict) v).subject = v := by
      simp [Target.subject, Target.hasInstance, hne]
    rw [if_pos hmeta, hsubject]
    -- A map is no class, no scope and no bound method.
    refine exists_description_of_silent (w := w.withTrace lines) call svc (.inr hkind) ?_ ?_ ?_
      hsilent
    · rintro k rfl
      cases hbody
    · rintro i rfl
      cases hbody
    · intro f r hb
      cases hbody.symm.trans hb
  · rw [if_neg hmeta]
    exact ⟨_, _, readMap_eq_look_of_places (w := w.withTrace lines) call svc hkind hbody hplaces
      hnamed (.inl rfl)⟩

end Service

/-! ### Keys -/

/-- Whether a key is made of a text, or of an integer that can be written down. -/
inductive Key.MadeOf : Key → Value → Prop where
  | text (t : String) : MadeOf (.ofText t) (.text t)
  | int {n : Int} (h : n.natAbs < 10 ^ digitLimit) :
    MadeOf { name := toString n, number := some n } (.int n)

namespace Key.MadeOf

variable {k : Key} {key : Value}

/-- A key that is made of a value is what the engine takes the value for. -/
theorem keyOf_eq (h : k.MadeOf key) (call : Call) (w : World) : keyOf call key w = (.ok k, w) := by
  cases h with
  | text t => rfl
  | int h => exact keyOf_int (decimalText?_of_lt h) call w

/-- The forms by which a map is asked for a value are those of its key and of the name of that. -/
theorem mem_mapForms (h : k.MadeOf key) :
    k.mapForm ∈ key.mapForms ∧ (Key.ofText k.name).mapForm ∈ key.mapForms := by
  cases h with
  | text t => exact ⟨List.mem_cons_self, List.mem_cons_self⟩
  | int h => exact ⟨List.mem_cons_self, List.mem_cons_of_mem _ List.mem_cons_self⟩

/-- Only a text can have too many digits to be read. -/
theorem exists_of_tooLong (h : k.MadeOf key) (hlong : k.reading = .tooLong) :
    ∃ t, key = .text t ∧ isDecimal t ∧ digitLimit < t.length := by
  cases h with
  | text t => exact ⟨t, rfl, Key.reading_ofText_eq_tooLong_iff.1 hlong⟩
  | int h => cases hlong

end Key.MadeOf

namespace Service

variable {call : Call} {svc : ServiceId} {v key scope : Value} {b : Body} {xs : List Value}
  {k : Key} {f : Fault} {w : World}

/-- A safe read of a row fails only for a key of too many digits, or for a range that goes too
    far. -/
theorem safeReadFails_of_row (h : w.store.IsRow v b xs) (hk : k.MadeOf key) (hscope : scope.IsScope)
    (hfresh : ∀ t, v = .text t → k.reading = .word →
      (findField? svc ⟨.library .text, v⟩ k).Fresh svc w)
    (hf : (request call (.read true) svc (w.store.asTarget v) k scope w).1 = .error f) :
    w.store.SafeReadFails v key f := by
  obtain ⟨lines, hreq⟩ := exists_row_eq call svc true h hscope k
  rw [hreq] at hf
  cases hmeta : k.same .metadata with
  | true =>
    obtain ⟨y, u, hread⟩ :=
      exists_readHost_row_metadata (w := w.withTrace lines) call svc true h hmeta
    cases (congrArg Prod.fst hread).symm.trans hf
  | false =>
    by_cases hsize : b.Countable
    -- A key of too many digits is no word, so it does not ask for the length.
    · have hlength (hlong : k.reading = .tooLong) : k.same .length = false := by
        obtain ⟨t, rfl, hdigits, -⟩ := hk.exists_of_tooLong hlong
        cases hk
        exact same_ofText_of_isDecimal hdigits "length" (by decide)
      obtain ⟨hlong, hshort⟩ := readHost_row_of_countable (w := w.withTrace lines) call svc h hsize
        hmeta hlength fun t ht hword => fresh_findField?_withTrace (hfresh t ht hword) lines
      by_cases hdigits : k.reading = .tooLong
      · obtain ⟨t, rfl, ht⟩ := hk.exists_of_tooLong hdigits
        cases (congrArg Prod.fst (hlong hdigits)).symm.trans hf
        exact .digits (.inl ⟨b, xs, h, hsize⟩) ht.1 ht.2
      · obtain ⟨y, u, hread⟩ := hshort hdigits
        cases (congrArg Prod.fst hread).symm.trans hf
    · have hread :=
        readHost_row_of_not_countable (w := w.withTrace lines) call svc true h hsize hmeta
      cases (congrArg Prod.fst hread).symm.trans hf
      refine .size h hsize ?_
      cases hk with
      | text t => exact .inr ⟨t, rfl, hmeta⟩
      | int hn => exact .inl ⟨_, rfl, hn⟩

/-- A safe read of a struct or an array of the scripts fails only for a key of too many digits. -/
theorem safeReadFails_of_scripted {h : Holding} {card : Option Value} (hv : w.store.Bears v h)
    (hkeeps : w.store.KeepsCard v card) (hk : k.MadeOf key) (hscope : scope.IsScope)
    (hf : (request call (.read true) svc (w.store.asTarget v) k scope w).1 = .error f) :
    w.store.SafeReadFails v key f := by
  cases hmeta : k.same .metadata with
  | true =>
    obtain ⟨lines, hreq⟩ := exists_request_kept_eq call svc true hv hkeeps hmeta hscope
    obtain ⟨y, u, hread⟩ :=
      exists_container_description_of_keeps (w := w.withTrace lines) call hkeeps
    rw [hreq] at hf
    cases (congrArg Prod.fst hread).symm.trans hf
  | false =>
    obtain ⟨lines, hreq⟩ := exists_read_bearer_eq call svc true hv hmeta hscope (.inl rfl)
    cases h with
    | entries m | pairs m => cases (congrArg Prod.fst hreq).symm.trans hf
    | items xs =>
      -- Only what stands in a row reads the digits of the key.
      rw [← Holding.readItems_eq_look (.inl rfl)] at hreq
      rw [hreq] at hf
      by_cases hdigits : k.reading = .tooLong
      · obtain ⟨t, rfl, hdecimal, hlong⟩ := hk.exists_of_tooLong hdigits
        cases hk
        have hlength := same_ofText_of_isDecimal hdecimal "length" (by decide)
        cases (readItems_of_tooLong hdigits hlength xs true).symm.trans hf
        exact .digits (.inr ⟨xs, hv⟩) hdecimal hlong
      · obtain ⟨y, hy⟩ := exists_readItems_safe hdigits xs
        cases hy.symm.trans hf

/-- **What fails.** A safe read of a container fails only for a key of too many digits, or for a
    range that goes too far. -/
theorem safeReadFails_of_request (hv : w.store.IsContainer v key) (hk : k.MadeOf key)
    (hscope : scope.IsScope)
    (hfresh : ∀ t, v = .text t → k.reading = .word →
      (findField? svc ⟨.library .text, v⟩ k).Fresh svc w)
    (hf : (request call (.read true) svc (w.store.asTarget v) k scope w).1 = .error f) :
    w.store.SafeReadFails v key f := by
  cases hv with
  | row h => exact safeReadFails_of_row h hk hscope hfresh hf
  | map hkind hbody hsilent hplaces =>
    obtain ⟨hform, hname⟩ := hk.mem_mapForms
    obtain ⟨y, u, hread⟩ := exists_request_map_safe (k := k) call svc hkind hbody hsilent
      (fun there hmem hcustom => hplaces there hmem hcustom _ hform)
      (fun there hmem hcustom => hplaces there hmem hcustom _ hname) hscope
    cases (congrArg Prod.fst hread).symm.trans hf
  | scripted hv hkeeps => exact safeReadFails_of_scripted hv hkeeps hk hscope hf

/-- An integer of too many digits is refused before anything is looked up. -/
theorem dereference_int_of_le (call : Call) (svc : ServiceId) (v : Value) (safe : Bool)
    (scope : Value) {n : Int} (h : 10 ^ digitLimit ≤ n.natAbs) (w : World) :
    dereference call svc v (.int n) safe scope w = (.error .tooManyDigits, w) := by
  rw [dereference, bind_of_error (keyOf_int_of_le h call w)]

/-- A safe read fails for each of these reasons. -/
theorem dereference_of_safeReadFails (call : Call) (svc : ServiceId) (hscope : scope.IsScope)
    (hfails : w.store.SafeReadFails v key f) :
    ∃ lines, dereference call svc v key true scope w = (.error f, w.withTrace lines) := by
  have hasked {k : Key} (hne : v ≠ .none) (hk : k.MadeOf key) :
      dereference call svc v key true scope w =
        request call (.read true) svc (w.store.asTarget v) k scope w :=
    Ask.put_of_ok (a := ⟨.read true, key, scope⟩) hne (hk.keyOf_eq call w)
  -- One case for each reason: the key itself, its digits, and the size of the row.
  cases hfails with
  | key h => exact ⟨w.trace, dereference_int_of_le call svc v true scope h w⟩
  | @digits t hv hdigits hlong =>
    have hmeta := same_ofText_of_isDecimal hdigits "$bx" (by decide)
    have hlength := same_ofText_of_isDecimal hdigits "length" (by decide)
    have hreading : (Key.ofText t).reading = .tooLong :=
      Key.reading_ofText_eq_tooLong_iff.2 ⟨hdigits, hlong⟩
    obtain ⟨b, xs, h, hsize⟩ | ⟨xs, hv⟩ := hv
    · obtain ⟨lines, hreq⟩ := exists_row_eq call svc true h hscope (.ofText t)
      have hread := (readHost_row_of_countable (w := w.withTrace lines) call svc h hsize hmeta
        (fun _ => hlength) fun _ _ hword => absurd (hreading.symm.trans hword) nofun).1 hreading
      exact ⟨lines, (hasked h.ne_none (.text t)).trans (hreq.trans hread)⟩
    · obtain ⟨lines, hreq⟩ :=
        exists_read_bearer_eq call svc true hv hmeta hscope (.inl rfl)
      rw [← Holding.readItems_eq_look (.inl rfl), readItems_of_tooLong hreading hlength] at hreq
      exact ⟨lines, (hasked hv.ne_none (.text t)).trans hreq⟩
  | @size key b xs h hsize hkey =>
    obtain ⟨k, hk, hmeta⟩ : ∃ k : Key, k.MadeOf key ∧ k.same .metadata = false := by
      obtain ⟨n, rfl, hn⟩ | ⟨t, rfl, hmeta⟩ := hkey
      · exact ⟨_, .int hn, beq_false_of_ne
          (foldCase_toString_ne (t := "$bx") (by decide) (by decide +kernel))⟩
      · exact ⟨_, .text t, hmeta⟩
    obtain ⟨lines, hreq⟩ := exists_row_eq call svc true h hscope k
    exact ⟨lines, (hasked h.ne_none hk).trans (hreq.trans
      (readHost_row_of_not_countable (w := w.withTrace lines) call svc true h hsize hmeta))⟩

end Service

open Service in
/-- **Safe reads of containers.** A safe read of a container by a text or an integer gives a value,
    which may be the absent one, unless the key has too many digits or the container is a range that
    goes too far; and then it changes nothing but the trace. -/
theorem safe_read_fails_iff (call : Call) (svc : ServiceId) {v key scope : Value} {w : World}
    (hv : w.store.IsContainer v key) (hkey : (∃ t, key = .text t) ∨ ∃ n, key = .int n)
    (hscope : scope.IsScope)
    (hfresh : ∀ t name, v = .text t → key = .text name →
      (findField? svc ⟨.library .text, v⟩ (.ofText name)).Fresh svc w) :
    let read := dereference call svc v key true scope w
    (∀ f, read.1 = .error f ↔ w.store.SafeReadFails v key f) ∧
      ∀ f, read.1 = .error f → ∃ lines, read.2 = w.withTrace lines := by
  intro read
  have hfails (f : Fault) (hf : w.store.SafeReadFails v key f) :
      ∃ lines, read = (.error f, w.withTrace lines) :=
        dereference_of_safeReadFails call svc hscope hf
  have hne : v ≠ .none := by
    cases hv with
    | row h => exact h.ne_none
    | map _ hbody => exact Store.ne_none_of_body? hbody
    | scripted h => exact h.ne_none
  -- One direction says what a failed read had to meet, the other what meets it.
  have hreason (f : Fault) (hf : read.1 = .error f) : w.store.SafeReadFails v key f := by
    have hmade {k : Key} (hk : k.MadeOf key)
        (hword : ∀ t, v = .text t → k.reading = .word →
          (findField? svc ⟨.library .text, v⟩ k).Fresh svc w) : w.store.SafeReadFails v key f := by
      have hasked : read = request call (.read true) svc (w.store.asTarget v) k scope w :=
        Ask.put_of_ok (a := ⟨.read true, key, scope⟩) hne (hk.keyOf_eq call w)
      rw [hasked] at hf
      exact safeReadFails_of_request hv hk hscope hword hf
    obtain ⟨name, rfl⟩ | ⟨n, rfl⟩ := hkey
    · exact hmade (.text name) fun t ht _ => hfresh t name ht rfl
    · -- An integer is written down before it is a key at all.
      by_cases hn : n.natAbs < 10 ^ digitLimit
      · exact hmade (.int hn) fun _ _ hword => nomatch hword
      · have hlarge := Nat.le_of_not_lt hn
        have hread : read = (.error .tooManyDigits, w) :=
          dereference_int_of_le call svc v true scope hlarge w
        rw [hread] at hf
        cases hf
        exact .key hlarge
  refine ⟨fun f => ⟨hreason f, fun hf => ?_⟩, fun f hf => ?_⟩
  · obtain ⟨lines, hread⟩ := hfails f hf
    rw [hread]
  · obtain ⟨lines, hread⟩ := hfails f (hreason f hf)
    exact ⟨lines, by rw [hread]⟩

/-- A list of two items, and a range that goes too far to be counted. -/
def abacus : World where
  store :=
    { objects := #[
        { kind := .library .list, body := .list [.text "a", .text "b"] },
        { kind := .library .range, body := .range 0 9223372036854775808 1 }] }

theorem isRow_abacus_list :
    abacus.store.IsRow (.object 0) (.list [.text "a", .text "b"]) [.text "a", .text "b"] where
  kind := show LibraryKind.list ∈ Store.indexedKinds by decide
  shown := rfl
  items := rfl
  text h := absurd (show TargetKind.sequence = .text from h) nofun
  silent := by
    rintro _ ⟨⟩
    rfl

/-- The range holds more numbers than could be listed, and is a row still. -/
theorem exists_isRow_abacus_range :
    ∃ xs, abacus.store.IsRow (.object 1) (.range 0 9223372036854775808 1) xs :=
  ⟨_, show LibraryKind.range ∈ Store.indexedKinds by decide, rfl, rfl,
    fun h => absurd (show TargetKind.array = .text from h) nofun, by rintro _ ⟨⟩; rfl⟩

open Service in
/-- The list is read past its end, and the range is not read. -/
theorem safe_read_fails_iff_abacus :
    (∃ x, (dereference Host.callValue .main (.object 0) (.text "3") true .none abacus).1 = .ok x) ∧
      (dereference Host.callValue .main (.object 1) (.text "1") true .none abacus).1 =
        .error overflow := by
  obtain ⟨xs, hrange⟩ := exists_isRow_abacus_range
  have hlong : ¬(Body.range 0 9223372036854775808 1).Countable := fun h =>
    absurd (h _ _ _ rfl) (by decide)
  have hlist : abacus.store.IsContainer (.object 0) (.text "3") := .row isRow_abacus_list
  have hcounted : abacus.store.IsContainer (.object 1) (.text "1") := .row hrange
  obtain ⟨hfails, -⟩ :=
    safe_read_fails_iff Host.callValue .main hlist (.inl ⟨_, rfl⟩) (.inl rfl) nofun
  obtain ⟨hfails', -⟩ :=
    safe_read_fails_iff Host.callValue .main hcounted (.inl ⟨_, rfl⟩) (.inl rfl) nofun
  refine ⟨?_, (hfails' _).2 (.size hrange hlong (.inr ⟨_, rfl, by decide +kernel⟩))⟩
  cases hread : (dereference Host.callValue .main (.object 0) (.text "3") true .none abacus).1 with
  | ok x => exact ⟨x, rfl⟩
  | error f =>
    exfalso
    cases (hfails f).1 hread with
    | digits _ _ hdigits => exact absurd hdigits (by decide)
    | size hv hlong _ =>
      cases hv.shown
      exact hlong nofun

/-- Ones in a row are digits. -/
theorem isDecimal_ones (n : Nat) : isDecimal (String.ofList (List.replicate (n + 1) '1')) := by
  rw [isDecimal, Bool.and_eq_true, Bool.not_eq_true', String.isEmpty_eq_false_iff,
    String.toList_ofList, List.all_eq_true]
  constructor
  · intro hempty
    have hnil := congrArg String.toList hempty
    rw [String.toList_ofList, List.replicate_succ] at hnil
    cases hnil
  · intro c hc
    rw [(List.mem_replicate.1 hc).2]
    decide

/-- A key of one digit too many is not read, though there is no such place. -/
theorem safe_read_raises_abacus :
    let key := String.ofList (List.replicate 4301 '1')
    (Service.dereference Host.callValue .main (.object 0) (.text key) true .none abacus).1 =
      .error .valueError := by
  intro key
  have hlong : digitLimit < key.length := by
    rw [String.length_ofList, List.length_replicate]
    decide
  obtain ⟨lines, hread⟩ := Service.dereference_of_safeReadFails Host.callValue .main (.inl rfl)
    (.digits (.inl ⟨_, _, isRow_abacus_list, nofun⟩) (isDecimal_ones 4300) hlong)
  rw [hread]

end ScriptBridge
