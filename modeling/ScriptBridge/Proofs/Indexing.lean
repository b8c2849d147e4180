import Mathlib.Algebra.Group.Nat.Defs
import Mathlib.Data.List.Forall2
import ScriptBridge.Eval
import ScriptBridge.Proofs.Asked
import ScriptBridge.Proofs.Folding
import ScriptBridge.Proofs.Items

namespace ScriptBridge

/-!
# Counting from one

Whatever has items in a row is read by the integer that a key means, be it a sequence of the scripts
or of the host, and so are the characters of a text.

* `Body.items?` lists the items of a content that is read by index;
* `Store.Indexed` tells which value is read by index and what its items are,
  `Store.indexed_of_library` and `Store.indexed_of_words` that values of the library's own classes
  are;
* `Value.Means` is the integer that an integer or a text means, `Host.exists_keyOf_eq` the key that
  is made of it; `World.CountsTo` tells of any value that the key made of it means an integer;
* `Service.exists_dereference_eq` is what a read comes to, `Service.inTurn_dereference` what reads
  in a row do;
* `dereference_counts_from_one` puts it in terms of places.
-/

/-! ### Items -/

/-- The items of a content that is read by index. -/
def Body.items? : Body → Option (List Value)
  | .list xs | .deque xs _ | .tuple xs => some xs
  | .bytes ns | .byteArray ns | .byteView _ ns => some (ns.map fun (n : Nat) => .int n)
  | .words ns => some (ns.map .int)
  | .range start stop step =>
    let places := List.range (Store.rangeLength start stop step)
    some (places.map fun (i : Nat) => .int (start + i * step))
  | .scalar (.text t) => some (t.toList.map fun c => .text (String.singleton c))
  | _ => none

namespace Body

/-- Whether the host counts as far as a content goes. Only a range can go further. -/
def Countable (b : Body) : Prop :=
  ∀ start stop step, b = .range start stop step →
    Store.rangeLength start stop step ≤ Host.maxLength

variable {b : Body} {xs : List Value}

/-- What has elements has as many as are listed. -/
theorem length?_of_items? (h : b.items? = some xs) : b.length? = some xs.length := by
  unfold items? at h
  split at h <;> cases h <;> simp [length?, elements?, String.length_toList]

/-- What has elements gives the one at an index. -/
theorem element?_of_items? (h : b.items? = some xs) (i : Nat) : b.element? i = xs[i]? := by
  unfold items? at h
  split at h <;> cases h
  case h_8 start stop step =>
    -- A range has no list of its elements, and computes each.
    by_cases hi : i < Store.rangeLength start stop step <;> simp [element?, hi]
  all_goals simp [element?, elements?]

end Body

/-! ### Values that are read by index -/

namespace Store

/-- The content of a value; a text is its own. -/
def shown? (s : Store) : Value → Option Body
  | .text t => some (.scalar (.text t))
  | v => s.content? v

/-- Whether the elements of a kind are counted and read as the library does. -/
structure CountsAndReads (s : Store) (k : Kind) : Prop where
  counts : ∃ l, s.special? k "__len__" = some (.library l) ∧ l ≠ .sized ∧ l ≠ .collection
  reads : ∃ l, s.special? k "__getitem__" = some (.library l) ∧ l ≠ .mapping ∧ l ≠ .sequence

/-- Which value is read by index, and the items that it has: an array of the scripts, or anything
    that is sorted as a sequence or as a text and whose elements are counted and read as the library
    does. -/
inductive Indexed (s : Store) (v : Value) (xs : List Value) : Prop where
  | array {card : Option Value} (hanswers : s.AnswersAs v .array)
    (hbody : s.body? v = some (.array xs card))
  | host {b : Body} (hsort : s.classify v ∈ [TargetKind.sequence, .array, .text])
    (hkind : s.CountsAndReads (s.kindOf v)) (hb : s.shown? v = some b)
    (hitems : b.items? = some xs)

variable {s : Store} {v : Value} {b : Body} {xs : List Value}

/-- The library's classes of sequences and of texts. -/
def indexedKinds : List LibraryKind :=
  [.list, .deque, .tuple, .bytes, .byteArray, .range, .byteView, .text]

/-- The elements of a sequence or a text of one of the library's own classes are counted and read as
    the library does. -/
theorem countsAndReads_of_library {l : LibraryKind} (hl : l ∈ indexedKinds) :
    s.CountsAndReads (.library l) := by
  have hown : ∀ l ∈ indexedKinds, l.lineage.find? (·.hasSpecial "__len__") = some l ∧
      l.lineage.find? (·.hasSpecial "__getitem__") = some l ∧
      l ∉ [LibraryKind.sized, .collection, .mapping, .sequence] := by decide
  obtain ⟨hlen, hitem, hother⟩ := hown l hl
  simp only [List.mem_cons, List.not_mem_nil, or_false, not_or] at hother
  exact ⟨⟨l, by rw [special?_library, hlen]; rfl, hother.1, hother.2.1⟩,
    ⟨l, by rw [special?_library, hitem]; rfl, hother.2.2⟩⟩

/-- So are those of an array of machine words. -/
theorem countsAndReads_of_words (n : Nat) : s.CountsAndReads (.words n) :=
  ⟨⟨.wordArray, rfl, by decide, by decide⟩, ⟨.wordArray, rfl, by decide, by decide⟩⟩

/-- A sequence or a text of one of the library's own classes is sorted as one. -/
theorem classify_of_library {l : LibraryKind} (hl : l ∈ indexedKinds)
    (hk : s.kindOf v = .library l) : s.classify v ∈ [TargetKind.sequence, .array, .text] := by
  have hsort : s.classify v = .sequence ∨ s.classify v = .array ∨ s.classify v = .text := by
    unfold classify isInstance
    rw [hk]
    simp only [indexedKinds, List.mem_cons, List.not_mem_nil, or_false] at hl
    -- Two kinds are sequences, five are arrays, and the last is the kind of texts.
    obtain rfl | rfl | rfl | rfl | rfl | rfl | rfl | rfl := hl
    · exact .inl rfl
    · exact .inl rfl
    · exact .inr (.inl rfl)
    · exact .inr (.inl rfl)
    · exact .inr (.inl rfl)
    · exact .inr (.inl rfl)
    · exact .inr (.inl rfl)
    · exact .inr (.inr rfl)
  simpa using hsort

/-- So is an array of machine words. -/
theorem classify_of_words {n : Nat} (hk : s.kindOf v = .words n) : s.classify v = .array := by
  unfold classify isInstance
  rw [hk]
  rfl

/-- A sequence or a text of one of the library's own classes is read by index. -/
theorem indexed_of_library {l : LibraryKind} (hl : l ∈ indexedKinds)
    (hk : s.kindOf v = .library l) (hb : s.shown? v = some b) (hitems : b.items? = some xs) :
    s.Indexed v xs :=
  .host (classify_of_library hl hk) (hk ▸ countsAndReads_of_library hl) hb hitems

/-- So is an array of machine words. -/
theorem indexed_of_words {n : Nat} (hk : s.kindOf v = .words n) (hb : s.shown? v = some b)
    (hitems : b.items? = some xs) : s.Indexed v xs :=
  .host (by simp [classify_of_words hk]) (hk ▸ countsAndReads_of_words n) hb hitems

/-- What is read by index is no target. -/
theorem asTarget_of_shown (hb : s.shown? v = some b) (hitems : b.items? = some xs) :
    s.asTarget v = ⟨s.kindOf v, v⟩ := by
  unfold asTarget
  split
  next cls inst htarget =>
    have hcontent : s.content? v = some (.target cls inst) := by
      simp only [content?, ownContent?, htarget]
    have hshown : s.shown? v = some (.target cls inst) := by
      unfold shown?
      split
      · cases htarget
      · exact hcontent
    obtain rfl := Option.some.inj (hb.symm.trans hshown)
    cases hitems
  · rfl

end Store

namespace Host

open Run

variable {call : Call} {w : World} {v : Value} {b : Body} {xs : List Value}

/-- What shows elements has its contents at hand. -/
theorem requireContent_of_shown (hb : w.store.shown? v = some b) (hitems : b.items? = some xs) :
    requireContent v w = (.ok b, w) := by
  have hwhole : wholeContent? v w = (.ok (some b), w) := by
    cases v <;> exact congrArg (fun b => (Except.ok b, w)) hb
  rw [requireContent, bind_of_ok hwhole]
  cases b with
  | plain => cases hitems
  | _ => rfl

/-- The items of a value are counted, but those of a range only as far as the host counts. -/
theorem length_of_shown (hkind : w.store.CountsAndReads (w.store.kindOf v))
    (hb : w.store.shown? v = some b) (hitems : b.items? = some xs) :
    length call v w = (match b with
      | .range _ _ _ => if maxLength < xs.length then .error overflow else .ok xs.length
      | _ => .ok xs.length, w) := by
  obtain ⟨l, hl, hsized, hcollection⟩ := hkind.counts
  have hlen := Body.length?_of_items? hitems
  unfold length
  rw [bind_of_ok (callSpecial?_of_special hl _)]
  dsimp only
  rw [bind_of_ok (librarySpecial?_of_special hl)]
  split
  next h => cases h
  next h => exact absurd (Option.some.inj h) hsized
  next h => exact absurd (Option.some.inj h) hcollection
  next =>
    rw [bind_of_ok (requireContent_of_shown hb hitems)]
    cases b with
    | side side of => cases hitems
    | range start stop step =>
      have hn : Store.rangeLength start stop step = xs.length := Option.some.inj hlen
      by_cases hlong : maxLength < xs.length
      · simp only [hn, if_pos hlong]
        rfl
      · simp only [hn, if_neg hlong]
        rfl
    | _ =>
      simp only [hlen]
      rfl

/-- The items of a value are counted. Those of a range are, if the host counts so far. -/
theorem length_of_items (hkind : w.store.CountsAndReads (w.store.kindOf v))
    (hb : w.store.shown? v = some b) (hitems : b.items? = some xs)
    (hsize : (∃ start stop step, b = .range start stop step) → xs.length ≤ maxLength) :
    length call v w = (.ok xs.length, w) := by
  rw [length_of_shown hkind hb hitems]
  cases b with
  | range start stop step => exact congrArg (·, w) (if_neg (Nat.not_lt.2 (hsize ⟨_, _, _, rfl⟩)))
  | _ => rfl

/-- The items of a value are counted, if the host counts as far as its content goes. -/
theorem length_of_countable (hkind : w.store.CountsAndReads (w.store.kindOf v))
    (hb : w.store.shown? v = some b) (hitems : b.items? = some xs) (hsize : b.Countable) :
    length call v w = (.ok xs.length, w) := by
  refine length_of_items hkind hb hitems ?_
  rintro ⟨start, stop, step, rfl⟩
  have hlen : Store.rangeLength start stop step = xs.length :=
    Option.some.inj (Body.length?_of_items? hitems)
  exact hlen ▸ hsize start stop step rfl

/-- A range that goes further is not counted. -/
theorem length_of_not_countable (hkind : w.store.CountsAndReads (w.store.kindOf v))
    (hb : w.store.shown? v = some b) (hitems : b.items? = some xs) (hsize : ¬b.Countable) :
    length call v w = (.error overflow, w) := by
  obtain ⟨start, stop, step, rfl, hlong⟩ : ∃ start stop step, b = .range start stop step ∧
      maxLength < Store.rangeLength start stop step := by
    simpa [Body.Countable] using hsize
  have hlen : Store.rangeLength start stop step = xs.length :=
    Option.some.inj (Body.length?_of_items? hitems)
  rw [length_of_shown hkind hb hitems]
  exact congrArg (·, w) (if_pos (hlen ▸ hlong))

/-- An item of a value is read by counting from zero. -/
theorem getItem_of_items (hkind : w.store.CountsAndReads (w.store.kindOf v))
    (hb : w.store.shown? v = some b) (hitems : b.items? = some xs) {i : Nat} {x : Value}
    (hx : xs[i]? = some x) : getItem call v (.int i) w = (.ok x, w) := by
  obtain ⟨l, hl, hmapping, hsequence⟩ := hkind.reads
  have hplace := place?_of_lt (List.getElem?_eq_some_iff.1 hx).1
  have hcontent : getContentItem call v b (.int i) w = (.ok x, w) := by
    have hlen := Body.length?_of_items? hitems
    have helement := (Body.element?_of_items? hitems i).trans hx
    unfold getContentItem
    cases b with
    | dict | mapView | struct => cases hitems
    | _ =>
      simp only [hlen]
      rw [bind_of_ok (x := indexOf call (.int i)) rfl, hplace, Option.bind_some, helement]
      rfl
  unfold getItem
  rw [bind_of_ok (callSpecial?_of_special hl _)]
  dsimp only
  rw [bind_of_ok (librarySpecial?_of_special hl)]
  split
  next h => cases h
  next h => exact absurd (Option.some.inj h) hmapping
  next h => exact absurd (Option.some.inj h) hsequence
  next =>
    cases v with
    -- A scope has no contents of its own to show.
    | scope j => cases hb
    | _ =>
      dsimp only
      rw [bind_of_ok (requireContent_of_shown hb hitems)]
      exact hcontent

end Host

/-! ### Keys that are integers -/

/-- The integer that a value means by itself: an integer, if it has no more digits than are ever
    converted, or what the digits of a text stand for, of whatever script they are. -/
inductive Value.Means : Value → Int → Prop where
  | int {n : Int} : n.natAbs < 10 ^ digitLimit → Means (.int n) n
  | text {t : String} : isDecimal t → t.length ≤ digitLimit → Means (.text t) (decimalValue t)

/-- Whether a value is a text or an integer that can be taken for an index: it has no more digits
    than are ever converted. -/
inductive Value.IsReadable : Value → Prop where
  | int {n : Int} : n.natAbs < 10 ^ digitLimit → IsReadable (.int n)
  | text {t : String} : (isDecimal t → t.length ≤ digitLimit) → IsReadable (.text t)

/-- The digits that a number is written with are digits. -/
theorem isDecimal_repr (n : Nat) : isDecimal n.repr = true := by
  rw [isDecimal, Bool.and_eq_true, Bool.not_eq_true', String.isEmpty_eq_false_iff,
    List.all_eq_true]
  constructor
  · intro hempty
    have hnil : Nat.toDigits 10 n = [] := by rw [← Nat.toList_repr, hempty, String.toList_empty]
    exact Nat.toDigits_ne_nil hnil
  · intro c hc
    rw [Nat.toList_repr] at hc
    have hdigit := Nat.isDigit_of_mem_toDigits (by decide) (by decide) hc
    rw [Char.isDigit_iff_toNat] at hdigit
    -- They are those of the first script.
    rw [decimalDigit?, Option.isSome_map, List.find?_isSome]
    refine ⟨48, by decide, ?_⟩
    rw [Bool.and_eq_true, decide_eq_true_eq, decide_eq_true_eq]
    exact ⟨hdigit.1, Nat.lt_succ_of_le hdigit.2⟩

/-- A minus folds to itself. -/
theorem char_minus : caseFolding.char '-' = ['-'] := by
  decide +kernel

/-- No integer is written as a word, unless that begins with a minus. -/
theorem foldCase_toString_ne {n : Int} {t : String} (ht : isDecimal t = false)
    (hsign : (foldCase t).toList.head? ≠ some '-') : foldCase (toString n) ≠ foldCase t := by
  intro h
  rw [Int.toString_eq_repr, Int.repr_eq_if] at h
  split at h
  · obtain rfl | ⟨hword, -⟩ := eq_or_words_of_foldCase_eq h
    · rw [isDecimal_repr] at ht
      cases ht
    · rw [isDecimal_repr] at hword
      cases hword
  · apply hsign
    rw [← h, foldCase, CaseMap.text, String.toList_ofList, String.toList_append]
    simp [char_minus]

/-- No word is the same key as digits. -/
theorem same_ofText_of_isDecimal {t : String} (ht : isDecimal t) (word : String)
    (hword : isDecimal word = false) : (Key.ofText t).same (.ofText word) = false := by
  refine beq_false_of_ne fun (h : foldCase t = foldCase word) => ?_
  obtain rfl | ⟨hdigits, -⟩ := eq_or_words_of_foldCase_eq h
  · rw [ht] at hword
    cases hword
  · rw [ht] at hdigits
    cases hdigits

namespace Host

open Run

variable {n : Int} {text : String}

/-- An integer of not too many digits is written down. -/
theorem decimalText?_of_lt (h : n.natAbs < 10 ^ digitLimit) :
    decimalText? n = some (toString n) := by
  unfold decimalText?
  generalize digitLimit = limit at h
  exact if_pos h

/-- A number of too many digits is not written down. -/
theorem decimalText?_of_le (h : 10 ^ digitLimit ≤ n.natAbs) : decimalText? n = none := by
  unfold decimalText?
  generalize digitLimit = limit at h
  exact if_neg (Nat.not_lt.2 h)

/-- What comes of writing an integer down. -/
def writtenDown (n : Int) : Except Fault String := (decimalText? n).elim (.error .tooManyDigits) .ok

/-- A number shows as it is written down, and inside whatever it is shown. -/
theorem showWith_int (n : Int) (call : Call) (fuel : Nat) (within : List Value) (w : World) :
    showWith call (fuel + 1) within (.int n) w = (writtenDown n, w) := by
  have hk : w.store.kindOf (.int n) = .library .int := rfl
  have hcontent : w.store.content? (.int n) = none := rfl
  have hscalar : w.store.showScalar (w.store.name (w.store.kindOf (.int n))) (.int n) =
      writtenDown n := by
    unfold Store.showScalar writtenDown
    dsimp only
    cases decimalText? n <;> rfl
  unfold showWith
  rw [bind_of_ok (store_apply w), bind_of_ok (callSpecial?_of_library hk _ _)]
  dsimp only
  rw [hcontent]
  dsimp only
  rw [hscalar]
  cases writtenDown n <;> rfl

/-- The text of a number is how it is written down. -/
theorem textOf_int (n : Int) (call : Call) (w : World) :
    textOf call (.int n) w = (writtenDown n, w) := by
  have hk : w.store.kindOf (.int n) = .library .int := rfl
  have hspecial : librarySpecial? (.int n) "__str__" w = (.ok (some .object), w) := rfl
  unfold textOf
  dsimp only
  rw [bind_of_ok (callSpecial?_of_library hk _ _)]
  dsimp only
  rw [bind_of_ok (store_apply w), bind_of_ok hspecial]
  exact showWith_int n call 999 [] w

/-- A number that can be written down is a key of that text. -/
theorem keyOf_int (hn : decimalText? n = some text) (call : Call) (w : World) :
    keyOf call (.int n) w = (.ok { name := text, number := some n }, w) := by
  have hkey : w.store.key? (.int n) = none := rfl
  have hscalar : w.store.scalar (.int n) = .int n := rfl
  have htext : textOf call (.int n) w = (.ok text, w) := by rw [textOf_int, writtenDown, hn]; rfl
  unfold keyOf
  rw [bind_of_ok (store_apply w), hkey]
  dsimp only
  rw [bind_of_ok htext, hscalar]
  rfl

/-- An integer of too many digits is turned into no key. -/
theorem keyOf_int_of_le (h : 10 ^ digitLimit ≤ n.natAbs) (call : Call) (w : World) :
    keyOf call (.int n) w = (.error .tooManyDigits, w) := by
  have hkey : w.store.key? (.int n) = none := rfl
  have htext : textOf call (.int n) w = (.error .tooManyDigits, w) := by
    rw [textOf_int, writtenDown, decimalText?_of_le h]
    rfl
  unfold keyOf
  rw [bind_of_ok (store_apply w), hkey]
  dsimp only
  rw [bind_of_error htext]

/-- **The key of an integer.** A value that means an integer is turned into a key that is read as
    it, and that no word is. -/
theorem exists_keyOf_eq {key : Value} {i : Int} (h : key.Means i) :
    ∃ k : Key, k.reading = .index i ∧ k.same .length = false ∧ k.same .metadata = false ∧
      ∀ (call : Call) (w : World), keyOf call key w = (.ok k, w) := by
  cases h with
  | int hn =>
    have htext := decimalText?_of_lt hn
    have hword (word : String) (hw : isDecimal word = false)
        (hsign : (foldCase word).toList.head? ≠ some '-') :
        Key.same { name := toString i, number := some i } (.ofText word) = false :=
      beq_false_of_ne (foldCase_toString_ne hw hsign)
    exact ⟨_, rfl, hword "length" (by decide) (by decide +kernel),
      hword "$bx" (by decide) (by decide +kernel), keyOf_int htext⟩
  | @text t hdecimal hlimit =>
    refine ⟨.ofText t, ?_, same_ofText_of_isDecimal hdecimal "length" (by decide),
      same_ofText_of_isDecimal hdecimal "$bx" (by decide), fun _ _ => rfl⟩
    simp [Key.reading, Key.ofText, hdecimal, hlimit]

/-- A text or an integer that can be taken for an index is turned into a key that is read as the
    integer that it means, if it means one. -/
theorem exists_keyOf_of_isReadable {key : Value} (h : key.IsReadable) :
    ∃ k : Key, (∀ (call : Call) (w : World), keyOf call key w = (.ok k, w)) ∧
      k.reading ≠ .tooLong ∧ ∀ i, key.Means i ↔ k.reading = .index i := by
  cases h with
  | @int n hn =>
    refine ⟨_, keyOf_int (decimalText?_of_lt hn), nofun, fun i => ⟨?_, ?_⟩⟩
    · rintro ⟨⟩
      rfl
    · rintro ⟨⟩
      exact .int hn
  | @text t ht =>
    -- A text is a word unless all its characters are digits.
    have hreading : (Key.ofText t).reading =
        if isDecimal t then .index (decimalValue t) else .word := by
      cases hd : isDecimal t <;> simp [Key.reading, Key.ofText, hd, ht]
    refine ⟨.ofText t, fun _ _ => rfl, ?_, fun i => ⟨?_, ?_⟩⟩
    · rw [hreading]
      split <;> simp
    · rintro ⟨⟩
      rw [hreading, if_pos ‹_›]
    · rw [hreading]
      split
      next hd =>
        rintro ⟨⟩
        exact .text hd (ht hd)
      next => exact nofun

end Host

/-! ### Reading by place -/

/-- The integer that a key means: the one it was made from, or what the digits of its name stand
    for. -/
inductive Key.Means (k : Key) : Int → Prop where
  | number {i : Int} (hnumber : k.number = some i) : Means k i
  | digits (hnumber : k.number = none) (hdecimal : isDecimal k.name)
    (hlimit : k.name.length ≤ digitLimit) : Means k (decimalValue k.name)

/-- The integer that a key means is the one it is read as. -/
theorem Key.means_iff {k : Key} {i : Int} : k.Means i ↔ k.reading = .index i := by
  constructor
  · rintro (hnumber | ⟨hnumber, hdecimal, hlimit⟩)
    · simp only [reading, hnumber]
    · simp [reading, hnumber, hdecimal, hlimit]
  · intro h
    unfold reading at h
    split at h
    next n hnumber =>
      cases h
      exact .number hnumber
    next hnumber =>
      split at h
      next => cases h
      next hdecimal =>
        split at h
        next hlimit =>
          cases h
          exact .digits hnumber (by simpa using hdecimal) hlimit
        next => cases h

/-- Whether a value, as a key, means an integer among the items of another value: the key that is
    made of it does, and it is called neither like the description nor, unless the items are the
    characters of a text, like the length. To make the key may run functions of scripts, so the
    items are those that there are afterwards. -/
structure World.CountsTo (w : World) (call : Call) (v : Value) (xs : List Value) (key : Value)
    (i : Int) (u : World) : Prop where
  made : ∃ k, Host.keyOf call key w = (.ok k, u) ∧ k.Means i ∧ k.same .metadata = false ∧
    (k.same .length = false ∨ u.store.classify v = .text)
  items : u.store.Indexed v xs

/-- An integer or digits mean their integer, and nothing is asked. -/
theorem World.countsTo_of_means {w : World} {v key : Value} {xs : List Value} {i : Int}
    (call : Call) (hv : w.store.Indexed v xs) (h : key.Means i) : w.CountsTo call v xs key i w := by
  obtain ⟨k, hreading, hlength, hmeta, hk⟩ := Host.exists_keyOf_eq h
  exact ⟨⟨k, hk call w, Key.means_iff.2 hreading, hmeta, .inl hlength⟩, hv⟩

section Places

variable {xs : List Value} {k : Key} {i : Int}

/-- What is read of some items at the place that a key means. -/
def itemAt (xs : List Value) (k : Key) (safe : Bool) : Except Fault Value :=
  (k.readIndex xs.length safe).map fun i => i.elim .absent fun i => xs.getD (i.toNat - 1) .absent

/-- What no key of the length is read at is its place. -/
theorem readItems_eq_itemAt (hk : k.same .length = false) (safe : Bool) :
    readItems xs k safe = itemAt xs k safe := by
  rw [readItems, if_neg (by simp [hk]), itemAt]

/-- A place among the items reads the item there. -/
theorem itemAt_of_place {n : Nat} (hk : k.Means (n + 1)) {x : Value} (hx : xs[n]? = some x)
    (safe : Bool) : itemAt xs k safe = .ok x := by
  have hn : n < xs.length := (List.getElem?_eq_some_iff.1 hx).1
  simp only [itemAt, Key.readIndex_of_reading (Key.means_iff.1 hk) hn, Except.map, Option.elim_some,
    Key.toNat_place, List.getD_eq_getElem?_getD, hx, Option.getD_some]

/-- Any other integer misses. -/
theorem itemAt_of_outside (hk : k.Means i) (hi : i < 1 ∨ xs.length < i) (safe : Bool) :
    itemAt xs k safe =
      if safe then .ok .absent else .error (.engine (.indexOutOfBounds i xs.length)) := by
  simp only [itemAt, Key.readIndex, Key.means_iff.1 hk, if_pos hi]
  cases safe <;> rfl

end Places

namespace Service

open Run Host

variable {call : Call} {svc : ServiceId} {v key scope : Value} {b : Body} {xs : List Value}
  {k : Key} {w u : World}

/-- A sequence or a text is read as its items are. The key of the length reads something else of
    a sequence, and a word something else of a text. -/
theorem readHost_of_items (safe : Bool)
    (hsort : w.store.classify v ∈ [TargetKind.sequence, .array, .text])
    (hkind : w.store.CountsAndReads (w.store.kindOf v)) (hb : w.store.shown? v = some b)
    (hitems : b.items? = some xs) (hsize : xs.length ≤ maxLength) (hword : k.reading ≠ .word)
    (hmeta : k.same .metadata = false)
    (hlength : k.same .length = false ∨ w.store.classify v = .text) :
    readHost call svc ⟨w.store.kindOf v, v⟩ (w.store.classify v) k safe w =
      (itemAt xs k safe, w) := by
  have helement : readElement call v k safe w = (itemAt xs k safe, w) :=
    readElement_of_items call safe (length_of_items hkind hb hitems fun _ => hsize)
      fun _ _ hx => getItem_of_items hkind hb hitems hx
  have hsequence (h : w.store.classify v ≠ .text) :
      readSequence call v k safe w = (itemAt xs k safe, w) := by
    rw [readSequence, if_neg (by simp [hlength.resolve_right h])]
    exact helement
  simp only [List.mem_cons, List.not_mem_nil, or_false] at hsort
  unfold readHost
  rw [if_neg (by simp [hmeta])]
  -- What is no text is read as a sequence, which `length` is a key of.
  obtain h | h | h := hsort
  · rw [h]
    exact hsequence (by simp [h])
  · rw [h]
    exact hsequence (by simp [h])
  · -- A text is not asked for its length.
    rw [h]
    dsimp only
    rw [if_neg hword]
    exact helement

/-- **Reading by index.** Whatever is read by index is read as its items are once the key is made,
    and nothing but the trace is changed. -/
theorem exists_dereference_eq (safe : Bool) (hv : u.store.Indexed v xs)
    (hsize : xs.length ≤ maxLength) (hscope : scope.IsScope)
    (hkey : keyOf call key w = (.ok k, u)) (hword : k.reading ≠ .word)
    (hmeta : k.same .metadata = false)
    (hlength : k.same .length = false ∨ u.store.classify v = .text) :
    ∃ lines, dereference call svc v key safe scope w = (itemAt xs k safe, u.withTrace lines) := by
  have hasked (hne : v ≠ .none) : dereference call svc v key safe scope w =
      request call (.read safe) svc (u.store.asTarget v) k scope u :=
    Ask.put_of_ok (a := ⟨.read safe, key, scope⟩) hne hkey
  cases hv with
  | array hanswers hbody =>
    have hother : k.same .length = false := by
      refine hlength.resolve_right fun htext => ?_
      rw [hanswers.sort] at htext
      cases htext
    obtain ⟨lines, hread⟩ := exists_read_items_eq call svc safe (.array hanswers hbody) hmeta hscope
    rw [readItems_eq_itemAt hother] at hread
    exact ⟨lines, (hasked hanswers.ne_none).trans hread⟩
  | host hsort hkind hb hitems =>
    have hne : v ≠ .none := by
      rintro rfl
      cases hb
    have hother : u.store.classify v ≠ .referenceable := by
      intro h
      rw [h] at hsort
      revert hsort
      decide
    obtain ⟨lines, hrequest⟩ := request_host (r := .read safe) call svc k trivial hscope hne
      (Store.asTarget_of_shown hb hitems) hother
    have hread : readHost call svc ⟨u.store.kindOf v, v⟩ (u.store.classify v) k safe
        (u.withTrace lines) = (itemAt xs k safe, u.withTrace lines) :=
      readHost_of_items (w := u.withTrace lines) safe hsort hkind hb hitems hsize hword hmeta
        hlength
    exact ⟨lines, (hasked hne).trans (hrequest.trans hread)⟩

/-- A key that means an integer reads what is at that place. -/
theorem exists_dereference_of_countsTo (svc : ServiceId) (safe : Bool)
    (hsize : xs.length ≤ maxLength)
    (hscope : scope.IsScope) {i : Int} (h : w.CountsTo call v xs key i u) :
    ∃ k lines, k.Means i ∧
      dereference call svc v key safe scope w = (itemAt xs k safe, u.withTrace lines) := by
  obtain ⟨⟨k, hkey, hmeans, hmeta, hlength⟩, hitems⟩ := h
  obtain ⟨lines, hread⟩ := exists_dereference_eq safe hitems hsize hscope hkey
    (by simp [Key.means_iff.1 hmeans]) hmeta hlength
  exact ⟨k, lines, hmeans, hread⟩

/-- A key that means the place of an item reads that item. -/
theorem exists_dereference_of_place (svc : ServiceId) (safe : Bool) (hsize : xs.length ≤ maxLength)
    (hscope : scope.IsScope) {n : Nat} {x : Value} (h : w.CountsTo call v xs key (n + 1) u)
    (hx : xs[n]? = some x) :
    ∃ lines, dereference call svc v key safe scope w = (.ok x, u.withTrace lines) := by
  obtain ⟨k, lines, hmeans, hread⟩ := exists_dereference_of_countsTo svc safe hsize hscope h
  exact ⟨lines, by rw [hread, itemAt_of_place hmeans hx]⟩

/-- A key that means no place of an item misses. -/
theorem exists_dereference_of_outside (svc : ServiceId) (safe : Bool)
    (hsize : xs.length ≤ maxLength) (hscope : scope.IsScope) {i : Int}
    (h : w.CountsTo call v xs key i u) (hi : i < 1 ∨ xs.length < i) :
    ∃ lines, dereference call svc v key safe scope w =
      (if safe then .ok .absent else .error (.engine (.indexOutOfBounds i xs.length)),
        u.withTrace lines) := by
  obtain ⟨k, lines, hmeans, hread⟩ := exists_dereference_of_countsTo svc safe hsize hscope h
  exact ⟨lines, by rw [hread, itemAt_of_outside hmeans hi]⟩

/-- Keys that mean the same integer read the same. -/
theorem dereference_eq_of_countsTo (svc : ServiceId) (safe : Bool) (hsize : xs.length ≤ maxLength)
    (hscope : scope.IsScope) {key' : Value} {i : Int} {u' : World}
    (h : w.CountsTo call v xs key i u) (h' : w.CountsTo call v xs key' i u') :
    (dereference call svc v key safe scope w).1 = (dereference call svc v key' safe scope w).1 := by
  obtain ⟨k, lines, hmeans, hread⟩ := exists_dereference_of_countsTo svc safe hsize hscope h
  obtain ⟨k', lines', hmeans', hread'⟩ := exists_dereference_of_countsTo svc safe hsize hscope h'
  have hsame : k.readIndex xs.length safe = k'.readIndex xs.length safe := by
    simp only [Key.readIndex, Key.means_iff.1 hmeans, Key.means_iff.1 hmeans']
  rw [hread, hread', itemAt, itemAt, hsame]

/-- The world after the first of some reads. -/
def afterReads (call : Call) (svc : ServiceId) (v scope : Value) (safe : Bool) (keys : List Value)
    (w : World) : World :=
  afterAll w (keys.map fun key => dereference call svc v key safe scope)

/-- Reads in a row, each by a key that means the place of an item, come to these items. -/
theorem inTurn_dereference (svc : ServiceId) (safe : Bool) (hscope : scope.IsScope)
    (hsize : xs.length ≤ maxLength) {keys ys : List Value} (hlen : keys.length = ys.length)
    (hkeys : ∀ (n : Nat) (key x : Value), keys[n]? = some key → ys[n]? = some x →
      let z := afterReads call svc v scope safe (keys.take n) w
      z.store.Indexed v xs →
        ∃ (m : Nat) (u : World), z.CountsTo call v xs key (m + 1) u ∧ xs[m]? = some x)
    (hv : w.store.Indexed v xs) :
    inTurn w (keys.map fun key => dereference call svc v key safe scope) = ys.map .ok := by
  induction keys generalizing ys w with
  | nil =>
    obtain rfl : ys = [] := List.length_eq_zero_iff.1 hlen.symm
    rfl
  | cons key keys ih =>
    cases ys with
    | nil => cases hlen
    | cons y ys =>
      obtain ⟨m, u, hcounts, hy⟩ := hkeys 0 key y rfl rfl hv
      replace hcounts : w.CountsTo call v xs key (m + 1) u := hcounts
      obtain ⟨lines, hread⟩ := exists_dereference_of_place svc safe hsize hscope hcounts hy
      have hafter (n : Nat) : afterReads call svc v scope safe ((key :: keys).take (n + 1)) w =
          afterReads call svc v scope safe (keys.take n) (u.withTrace lines) := by
        show afterReads call svc v scope safe (keys.take n)
          (dereference call svc v key safe scope w).2 = _
        rw [hread]
      -- A read leaves the value with its items for the next one.
      have hrest := ih (w := u.withTrace lines) (Nat.succ.inj hlen)
        (fun n key' x hkey' hx => hafter n ▸ hkeys (n + 1) key' x hkey' hx) hcounts.items
      rw [List.map_cons, List.map_cons, inTurn, hread, hrest]

end Service

open Run Service in
/-- **Counting from one.** Whatever is read by index, be it a sequence of the scripts or of the host
    or a text, has its first item at one. An integer that is no place of an item misses: a safe read
    gives the absent value, and another fails as a validation does. It does not matter how a key
    means its integer, and the places in their order give the items in theirs. -/
theorem dereference_counts_from_one (call : Call) (svc : ServiceId) {v scope : Value}
    {xs : List Value} {w : World} (hv : w.store.Indexed v xs) (hsize : xs.length ≤ Host.maxLength)
    (hscope : scope.IsScope) (safe : Bool) :
    (∀ (key : Value) (i : Int) (z : World), key.Means i → z.store.Indexed v xs →
      z.CountsTo call v xs key i z) ∧
    (∀ (key : Value) (n : Nat) (x : Value) (u : World), w.CountsTo call v xs key (n + 1) u →
      xs[n]? = some x →
      ∃ lines, dereference call svc v key safe scope w = (.ok x, u.withTrace lines)) ∧
    (∀ (key : Value) (i : Int) (u : World), w.CountsTo call v xs key i u →
      i < 1 ∨ xs.length < i →
      (∃ lines, dereference call svc v key safe scope w =
        (if safe then .ok .absent else .error (.engine (.indexOutOfBounds i xs.length)),
          u.withTrace lines)) ∧
      (Reason.indexOutOfBounds i xs.length).kind = .validationError) ∧
    (∀ (key key' : Value) (i : Int) (u u' : World), w.CountsTo call v xs key i u →
      w.CountsTo call v xs key' i u' →
      (dereference call svc v key safe scope w).1 =
        (dereference call svc v key' safe scope w).1) ∧
    (∀ keys : List Value, keys.length = xs.length →
      (∀ (n : Nat) (key : Value), keys[n]? = some key →
        let z := afterReads call svc v scope safe (keys.take n) w
        z.store.Indexed v xs → ∃ u, z.CountsTo call v xs key (n + 1) u) →
      inTurn w (keys.map fun key => dereference call svc v key safe scope) = xs.map .ok) := by
  refine ⟨fun key i z hkey hz => World.countsTo_of_means call hz hkey,
    fun key n x u hkey hx => exists_dereference_of_place svc safe hsize hscope hkey hx,
    fun key i u hkey hi => ⟨exists_dereference_of_outside svc safe hsize hscope hkey hi, rfl⟩,
    fun key key' i u u' hkey hkey' =>
      dereference_eq_of_countsTo svc safe hsize hscope hkey hkey',
    fun keys hlen hkeys => inTurn_dereference svc safe hscope hsize hlen ?_ hv⟩
  -- Each key is read in the world that the reads before it leave.
  intro n key x hkey hx z hz
  obtain ⟨u, hcounts⟩ := hkeys n key hkey hz
  exact ⟨n, u, hcounts, hx⟩

/-- Three items in a list of the host and in an array of the scripts, and two instances of classes
    of integers: one is written in another way, and one like the key of the length. -/
def cupboard : World where
  store :=
    { objects := #[
        { kind := .library .list, body := .list [.text "rye", .text "oil", .text "salt"] },
        { kind := .library .array, body := .array [.text "rye", .text "oil", .text "salt"] none },
        { kind := .declared 0, body := .scalar (.int 2) },
        { kind := .library .function,
          body := .function ⟨"__str__", [⟨"self", .normal, none, none⟩], .literal (.text "II"),
            true, { owner := some (.declared 0) }⟩ },
        { kind := .declared 1, body := .scalar (.int 2) },
        { kind := .library .function,
          body := .function ⟨"__str__", [⟨"self", .normal, none, none⟩],
            .literal (.text "length"), true, { owner := some (.declared 1) }⟩ }]
      classes := #[
        { name := "Roman", qualifiedName := "Roman", home := some "host",
          bases := [.library .int], lineage := [.declared 0, .library .int, .library .object],
          metaclass := .type, attrs := ⟨[("__str__", .object 3)]⟩ },
        { name := "I", qualifiedName := "I", home := some "host",
          bases := [.library .int], lineage := [.declared 1, .library .int, .library .object],
          metaclass := .type, attrs := ⟨[("__str__", .object 5)]⟩ }] }

/-- The second item of the list, by Arabic digits with a zero before them and by an instance of a
    class of integers, and none past its end; all of the array, by an integer, by such digits and by
    others. -/
theorem dereference_counts_from_one_cupboard :
    (∃ lines, Service.dereference Host.callValue .main (.object 0) (.text "٠٢") false .none
      cupboard = (.ok (.text "oil"), cupboard.withTrace lines)) ∧
    (Service.dereference Host.callValue .main (.object 0) (.object 2) false .none cupboard).1 =
      .ok (.text "oil") ∧
    (∃ lines, Service.dereference Host.callValue .main (.object 0) (.int 4) false .none cupboard =
      (.error (.engine (.indexOutOfBounds 4 3)), cupboard.withTrace lines)) ∧
    Run.inTurn cupboard ([.int 1, .text "٠٢", .text "3"].map fun key =>
        Service.dereference Host.callValue .main (.object 1) key false .none) =
      [.ok (.text "rye"), .ok (.text "oil"), .ok (.text "salt")] := by
  have hlist : cupboard.store.Indexed (.object 0) [.text "rye", .text "oil", .text "salt"] :=
    Store.indexed_of_library (by decide) rfl rfl rfl
  have harray : cupboard.store.Indexed (.object 1) [.text "rye", .text "oil", .text "salt"] :=
    .array ⟨rfl, rfl, rfl, rfl⟩ rfl
  have hlarge : 10 ≤ 10 ^ digitLimit := Nat.le_pow (by decide)
  have hint (i : Int) (hi : i.natAbs < 10) : (Value.int i).Means i := by
    constructor
    exact Nat.lt_of_lt_of_le hi hlarge
  have harabic : (Value.text "٠٢").Means 2 := .text (by decide) (by decide)
  have hthree : (Value.text "3").Means 3 := .text (by decide) (by decide)
  have hkeys (n : Nat) (key : Value) (h : [.int 1, .text "٠٢", .text "3"][n]? = some key) :
      key.Means (n + 1) := by
    match n, h with
    | 0, rfl => exact hint 1 (by decide)
    | 1, rfl => exact harabic
    | 2, rfl => exact hthree
  obtain ⟨hmeans, hplace, houtside, -, -⟩ :=
    dereference_counts_from_one Host.callValue .main hlist (by decide) (.inl rfl) false
  obtain ⟨hmeans', -, -, -, hall⟩ :=
    dereference_counts_from_one Host.callValue .main harray (by decide) (.inl rfl) false
  -- The instance is asked for its text, for which new objects are made.
  have hroman : cupboard.CountsTo Host.callValue (.object 0)
      [.text "rye", .text "oil", .text "salt"] (.object 2) ((1 : Nat) + 1) _ :=
    ⟨⟨_, rfl, .number rfl, by decide +kernel, .inl (by decide +kernel)⟩,
      Store.indexed_of_library (l := .list) (by decide) rfl rfl rfl⟩
  obtain ⟨lines, hread⟩ := hplace _ 1 _ _ hroman rfl
  refine ⟨hplace _ 1 _ _ (hmeans _ _ _ harabic hlist) rfl, congrArg Prod.fst hread,
    (houtside _ 4 _ (hmeans _ _ _ (hint 4 (by decide)) hlist) (by decide)).1,
    hall _ rfl fun n key hkey hz => ⟨_, hmeans' _ _ _ (hkeys n key hkey) hz⟩⟩

/-- An integer that is shown as `length` reads the length of the list, and not its second item. -/
theorem length_key_reads_size_cupboard :
    cupboard.store.Indexed (.object 0) [.text "rye", .text "oil", .text "salt"] ∧
      cupboard.store.isA (.object 4) .int ∧ cupboard.store.scalar (.object 4) = .int 2 ∧
      (Service.dereference Host.callValue .main (.object 0) (.object 4) false .none cupboard).1 =
        .ok (.int 3) :=
  ⟨Store.indexed_of_library (l := .list) (by decide) rfl rfl rfl, rfl, rfl, rfl⟩

end ScriptBridge
