import Mathlib.Data.List.Basic
import ScriptBridge.Key

namespace ScriptBridge

/-!
# Folding, digits and underscores

Case folding leaves decimal digits of all scripts alone, and makes none out of other characters. So
a key that reads as a number is spelled in one way only. The same holds of underscores, so two names
that fold alike are both public or both private.

* `foldCase_of_isDecimal`: digits fold to themselves;
* `isDecimal_of_foldCase`: only digits fold to digits;
* `eq_or_words_of_foldCase_eq`: two texts that fold alike are the same, or neither is a number;
* `head?_foldCase_eq_underscore_iff`: a text begins with an underscore exactly if its folded form
  does.
-/

/-! ### What the tables say -/

/-- Whether the code points between two bounds lie apart from all decimal digits. -/
def apartFromDigits (first last : Nat) : Bool :=
  decimalZeros.all fun z => Nat.blt last z || Nat.ble (z + 10) first

/-- Folding moves no digit, and moves no character to a digit or to an underscore. -/
theorem runs_apart :
    (caseFoldingRuns.all fun r => apartFromDigits r.first r.last &&
      (apartFromDigits (r.first + r.delta).toNat (r.last + r.delta).toNat &&
        (Nat.blt (r.last + r.delta).toNat 95 || Nat.blt 95 (r.first + r.delta).toNat))) = true := by
  decide +kernel

/-- Folding expands no digit, and expands no character to digits only or to a text with an
    underscore. -/
theorem expansions_apart :
    (caseFoldingExpansions.all fun e => apartFromDigits e.1 e.1 &&
      ((e.2.any fun n => (decimalDigit? (Char.ofNat n)).isNone) &&
        e.2.all fun n => Char.ofNat n != '_')) = true := by
  decide +kernel

/-- What the tables say of one run. -/
theorem apart_of_mem_runs {r : CaseRun} (hr : r ∈ caseFoldingRuns) :
    apartFromDigits r.first r.last = true ∧
      apartFromDigits (r.first + r.delta).toNat (r.last + r.delta).toNat = true ∧
      ((r.last + r.delta).toNat < 95 ∨ 95 < (r.first + r.delta).toNat) := by
  have h := List.all_eq_true.1 runs_apart r hr
  rwa [Bool.and_eq_true, Bool.and_eq_true, Bool.or_eq_true, Nat.blt_eq, Nat.blt_eq] at h

/-- What the tables say of one expansion. -/
theorem apart_of_mem_expansions {e : Nat × List Nat} (he : e ∈ caseFoldingExpansions) :
    apartFromDigits e.1 e.1 = true ∧ (∃ n ∈ e.2, decimalDigit? (Char.ofNat n) = none) ∧
      ∀ n ∈ e.2, Char.ofNat n ≠ '_' := by
  have h := List.all_eq_true.1 expansions_apart e he
  rw [Bool.and_eq_true, Bool.and_eq_true, List.any_eq_true, List.all_eq_true] at h
  obtain ⟨hdigit, ⟨n, hn, hnone⟩, hunderscore⟩ := h
  exact ⟨hdigit, ⟨n, hn, Option.isNone_iff_eq_none.1 hnone⟩,
    fun n hn => bne_iff_ne.1 (hunderscore n hn)⟩

/-! ### Single characters -/

/-- The run that the distance of a code point comes from. -/
theorem CaseMap.exists_run_of_distance {n : Nat} {d : Int} {runs : List CaseRun}
    (h : distance n runs = some d) :
    ∃ r ∈ runs, r.first ≤ n ∧ n ≤ r.last ∧ r.delta = d ∧ (n - r.first) % r.step = 0 := by
  induction runs with
  | nil => cases h
  | cons r rest ih =>
    unfold distance at h
    split at h
    · cases h
    · split at h
      next hfirst hin =>
        exact ⟨r, List.mem_cons_self, by omega, hin.1, Option.some.inj h, hin.2⟩
      next =>
        obtain ⟨r', hr', hin⟩ := ih h
        exact ⟨r', List.mem_cons_of_mem _ hr', hin⟩

/-- A digit lies in one of the blocks of ten. -/
theorem exists_zero_of_digit {c : Char} (h : (decimalDigit? c).isSome) :
    ∃ z ∈ decimalZeros, z ≤ c.toNat ∧ c.toNat < z + 10 := by
  rw [decimalDigit?, Option.isSome_map] at h
  obtain ⟨z, hz, hin⟩ := List.find?_isSome.1 h
  rw [Bool.and_eq_true, decide_eq_true_eq, decide_eq_true_eq] at hin
  exact ⟨z, hz, hin⟩

/-- What lies apart from the digits is no digit. -/
theorem not_digit_of_apart {first last : Nat} (h : apartFromDigits first last = true) {c : Char}
    (hfirst : first ≤ c.toNat) (hlast : c.toNat ≤ last) : ¬ (decimalDigit? c).isSome := by
  intro hc
  obtain ⟨z, hz, hlow, hhigh⟩ := exists_zero_of_digit hc
  have hapart := List.all_eq_true.1 h z hz
  rw [Bool.or_eq_true, Nat.blt_eq, Nat.ble_eq] at hapart
  omega

/-- A digit folds to itself. -/
theorem char_of_digit {c : Char} (h : (decimalDigit? c).isSome) : caseFolding.char c = [c] := by
  -- The tables lie apart from the blocks of digits, so neither of them has an entry for one.
  have hdistance : CaseMap.distance c.toNat caseFolding.runs = none := by
    cases hd : CaseMap.distance c.toNat caseFolding.runs with
    | none => rfl
    | some d =>
      obtain ⟨r, hr, hfirst, hlast, -⟩ := CaseMap.exists_run_of_distance hd
      exact absurd h (not_digit_of_apart (apart_of_mem_runs hr).1 hfirst hlast)
  have hexpansion : caseFolding.expansions.find? (·.1 == c.toNat) = none := by
    cases he : caseFolding.expansions.find? (·.1 == c.toNat) with
    | none => rfl
    | some e =>
      have hn : e.1 = c.toNat := by simpa using List.find?_some he
      have hapart := (apart_of_mem_expansions (List.mem_of_find?_eq_some he)).1
      exact absurd h (not_digit_of_apart hapart (Nat.le_of_eq hn) (Nat.le_of_eq hn.symm))
  rw [CaseMap.char, hdistance, hexpansion]

/-- A code point that is none stands for the first character, which is no digit. -/
theorem toNat_ofNat_of_digit {n : Nat} (h : (decimalDigit? (Char.ofNat n)).isSome) :
    (Char.ofNat n).toNat = n := by
  by_cases hn : n.isValidChar
  · rw [Char.ofNat, dif_pos hn]
    rfl
  · rw [Char.ofNat, dif_neg hn] at h
    exact absurd h (by decide)

/-- What folds to digits is a digit. -/
theorem digit_of_char {c : Char} (h : ∀ c' ∈ caseFolding.char c, (decimalDigit? c').isSome) :
    (decimalDigit? c).isSome := by
  -- A character is moved by a run, replaced by an expansion, or left as it is.
  unfold CaseMap.char at h
  split at h
  next d hd =>
    obtain ⟨r, hr, hfirst, hlast, rfl, -⟩ := CaseMap.exists_run_of_distance hd
    have himage := h _ List.mem_cons_self
    have hn := toNat_ofNat_of_digit himage
    refine absurd himage (not_digit_of_apart (apart_of_mem_runs hr).2.1 ?_ ?_)
    · rw [hn]; omega
    · rw [hn]; omega
  next =>
    split at h
    next n image he =>
      obtain ⟨-, ⟨n', hn', hnone⟩, -⟩ := apart_of_mem_expansions (List.mem_of_find?_eq_some he)
      have hsome := h _ (List.mem_map_of_mem hn')
      rw [hnone] at hsome
      cases hsome
    next => exact h c List.mem_cons_self

/-- A code point that is none stands for the first character, which is no underscore. -/
theorem eq_of_ofNat_eq_underscore {n : Nat} (h : Char.ofNat n = '_') : n = 95 := by
  by_cases hn : n.isValidChar
  · have hnat : (Char.ofNat n).toNat = n := by
      rw [Char.ofNat, dif_pos hn]
      rfl
    rw [← hnat, h]
    rfl
  · rw [Char.ofNat, dif_neg hn] at h
    exact absurd h (by decide)

/-- What folds to an underscore is one. -/
theorem eq_underscore_of_char {c : Char} (h : '_' ∈ caseFolding.char c) : c = '_' := by
  unfold CaseMap.char at h
  split at h
  next d hd =>
    obtain ⟨r, hr, hfirst, hlast, rfl, -⟩ := CaseMap.exists_run_of_distance hd
    have himage := eq_of_ofNat_eq_underscore (List.mem_singleton.1 h).symm
    -- No run moves a character to 95, which is the underscore.
    have hapart := (apart_of_mem_runs hr).2.2
    omega
  next =>
    split at h
    next n image he =>
      obtain ⟨n', hn', hchar⟩ := List.mem_map.1 h
      exact absurd hchar ((apart_of_mem_expansions (List.mem_of_find?_eq_some he)).2.2 n' hn')
    next => exact (List.mem_singleton.1 h).symm

/-- An underscore folds to itself. -/
theorem char_underscore : caseFolding.char '_' = ['_'] := by
  decide +kernel

/-! ### Texts -/

/-- A text of digits folds to itself. -/
theorem foldCase_of_isDecimal {s : String} (h : isDecimal s = true) : foldCase s = s := by
  have hall : ∀ c ∈ s.toList, (decimalDigit? c).isSome := by
    rw [isDecimal, Bool.and_eq_true] at h
    exact List.all_eq_true.1 h.2
  have hfix (cs : List Char) (hcs : ∀ c ∈ cs, (decimalDigit? c).isSome) :
      cs.flatMap caseFolding.char = cs := by
    induction cs with
    | nil => rfl
    | cons c rest ih =>
      rw [List.flatMap_cons, char_of_digit (hcs c List.mem_cons_self),
        ih fun c' hc' => hcs c' (List.mem_cons_of_mem _ hc')]
      rfl
  rw [foldCase, CaseMap.text, hfix s.toList hall, String.ofList_toList]

/-- Only a text of digits folds to a text of digits. -/
theorem isDecimal_of_foldCase {s : String} (h : isDecimal (foldCase s) = true) :
    isDecimal s = true := by
  rw [isDecimal, Bool.and_eq_true] at h ⊢
  obtain ⟨hne, hall⟩ := h
  constructor
  · rw [Bool.not_eq_true', String.isEmpty_eq_false_iff] at hne ⊢
    exact fun hs => hne (foldCase_eq_empty_iff.2 hs)
  · rw [List.all_eq_true] at hall ⊢
    intro c hc
    refine digit_of_char fun c' hc' => hall c' ?_
    rw [foldCase, CaseMap.text, String.toList_ofList]
    exact List.mem_flatMap.2 ⟨c, hc, hc'⟩

/-- **One spelling of numbers.** Two texts that fold alike are the same text, or neither is a
    number. -/
theorem eq_or_words_of_foldCase_eq {s t : String} (h : foldCase s = foldCase t) :
    s = t ∨ isDecimal s = false ∧ isDecimal t = false := by
  cases hs : isDecimal s with
  | true =>
    have ht : isDecimal t = true := by
      apply isDecimal_of_foldCase
      rw [← h, foldCase_of_isDecimal hs, hs]
    left
    rw [← foldCase_of_isDecimal hs, h, foldCase_of_isDecimal ht]
  | false =>
    refine .inr ⟨rfl, ?_⟩
    cases ht : isDecimal t with
    | false => rfl
    | true =>
      have hs' : isDecimal s = true := by
        apply isDecimal_of_foldCase
        rw [h, foldCase_of_isDecimal ht, ht]
      rw [hs] at hs'
      cases hs'

/-- **One side of privacy.** A text begins with an underscore exactly if its folded form does. -/
theorem head?_foldCase_eq_underscore_iff {s : String} :
    (foldCase s).toList.head? = some '_' ↔ s.toList.head? = some '_' := by
  rw [foldCase, CaseMap.text, String.toList_ofList]
  cases s.toList with
  | nil => rfl
  | cons c rest =>
    -- No character vanishes, so the folded form begins with what the first one folds to.
    have hne : caseFolding.char c ≠ [] := CaseMap.char_ne_nil (by decide) c
    rw [List.flatMap_cons, List.head?_append_of_ne_nil _ hne, List.head?_cons, Option.some_inj]
    constructor
    · intro h
      exact eq_underscore_of_char (List.mem_of_head? h)
    · rintro rfl
      rw [char_underscore, List.head?_cons]

end ScriptBridge
