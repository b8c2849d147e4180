namespace ScriptBridge

/-!
# Case maps

A full Unicode case map sends each character to one or more characters. Nearly all of them move by
a constant distance within long runs, so a map is written as a list of runs and a short list of
characters that expand.

* `CaseMap.char` is the image of one character, `CaseMap.text` of a text.
-/

/-- The code points `first, first + step, …, last`, each of which moves by `delta`. -/
structure CaseRun where
  first : Nat
  last : Nat
  step : Nat
  delta : Int

/-- A case map: runs in ascending order of `first`, and the characters with longer images. -/
structure CaseMap where
  runs : List CaseRun
  expansions : List (Nat × List Nat)

namespace CaseMap

/-- The distance a code point moves by, if some run holds it. The runs are ascending, so the search
    ends at the first run that starts beyond the code point. -/
def distance (n : Nat) : List CaseRun → Option Int
  | [] => none
  | r :: rest =>
    if n < r.first then none
    else if n ≤ r.last ∧ (n - r.first) % r.step = 0 then some r.delta
    else distance n rest

/-- The image of a character. -/
def char (m : CaseMap) (c : Char) : List Char :=
  match distance c.toNat m.runs with
  | some d => [Char.ofNat (c.toNat + d).toNat]
  | none =>
    match m.expansions.find? (·.1 == c.toNat) with
    | some (_, image) => image.map Char.ofNat
    | none => [c]

/-- The image of a text, character by character. -/
def text (m : CaseMap) (s : String) : String :=
  String.ofList (s.toList.flatMap m.char)

/-- No character vanishes, if none expands to nothing. -/
theorem char_ne_nil {m : CaseMap} (h : ∀ e ∈ m.expansions, e.2 ≠ []) (c : Char) :
    m.char c ≠ [] := by
  unfold char
  split
  · simp
  · split
    next n image he => simpa using h _ (List.mem_of_find?_eq_some he)
    next => simp

/-- Only the empty text has the empty image, if no character expands to nothing. -/
theorem text_eq_empty_iff {m : CaseMap} (h : ∀ e ∈ m.expansions, e.2 ≠ []) {s : String} :
    m.text s = "" ↔ s = "" := by
  rw [text, ← String.ofList_nil, String.ofList_inj, List.flatMap_eq_nil_iff]
  constructor
  · intro hs
    have hnil : s.toList = [] := List.eq_nil_iff_forall_not_mem.2 fun c hc =>
      char_ne_nil h c (hs c hc)
    rw [← String.ofList_toList (s := s), hnil]
  · rintro rfl c hc
    simp at hc

end CaseMap

end ScriptBridge
