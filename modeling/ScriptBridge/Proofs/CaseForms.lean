import ScriptBridge.Proofs.Folding
import ScriptBridge.Text.UpperCase

namespace ScriptBridge

/-!
# Upper case and folded form

Upper case and folding tell nearly the same texts apart. The two relations differ at seven
characters: the dotless `ı` has the upper-case form of `i` and folds to itself, and six capitals
fold to letters with another upper-case form.

* `CaseMap.absorbs` tells from the tables whether one case map undoes what another one did;
* `fold_upper_char_iff`, `upper_fold_char_iff` are what the two maps say of each other, and
  `foldCase_eq_of_upperCase_eq`, `upperCase_eq_of_foldCase_eq` what they say of texts.
-/

/-! ### What a case map moves -/

/-- The code points of a run. -/
def CaseRun.points (r : CaseRun) : List Nat :=
  (List.range ((r.last - r.first) / r.step + 1)).map fun i => r.first + i * r.step

/-- Every step from the first code point of a run to the last ends at one of its points. -/
theorem CaseRun.mem_points {r : CaseRun} {n : Nat} (hfirst : r.first ≤ n) (hlast : n ≤ r.last)
    (hstep : (n - r.first) % r.step = 0) : n ∈ r.points := by
  refine List.mem_map.2 ⟨(n - r.first) / r.step, List.mem_range.2 ?_, ?_⟩
  · exact Nat.lt_succ_of_le (Nat.div_le_div_right (by omega))
  · rw [Nat.div_mul_cancel (Nat.dvd_of_mod_eq_zero hstep)]
    omega

namespace CaseMap

/-- The image of a code point under expansions that ascend. -/
noncomputable def expanded (n : Nat) (expansions : List (Nat × List Nat)) : List Nat :=
  List.rec [n]
    (fun e _ rest => Bool.rec (Bool.rec [n] rest (Nat.ble e.1 n)) e.2 (Nat.beq e.1 n)) expansions

/-- The image of a code point, `other` where no run moves it. -/
noncomputable def moved (n : Nat) (other : List Nat) (runs : List CaseRun) : List Nat :=
  List.rec other
    (fun r _ rest =>
      Bool.rec other
        (Bool.rec rest
          (Bool.rec rest [(n + r.delta).toNat] (Nat.beq (Nat.mod (Nat.sub n r.first) r.step) 0))
          (Nat.ble n r.last))
        (Nat.ble r.first n))
    runs

/-- What a case map makes of a code point. The recursors, which are evaluated without an instance or
    a match, make it quick to ask for every code point of a table. -/
noncomputable def image (m : CaseMap) (n : Nat) : List Nat :=
  moved n (expanded n m.expansions) m.runs

/-- The expansions from a code point on. -/
noncomputable def expansionsFrom (low : Nat) (expansions : List (Nat × List Nat)) :
    List (Nat × List Nat) :=
  List.rec [] (fun e rest later => Bool.rec (e :: rest) later (Nat.ble (Nat.succ e.1) low))
    expansions

/-- The runs that end at a code point or later. -/
noncomputable def runsFrom (low : Nat) (runs : List CaseRun) : List CaseRun :=
  List.rec []
    (fun r rest later =>
      Bool.rec (r :: rest) (Bool.rec (r :: rest) later (Nat.ble r.first low))
        (Nat.ble (Nat.succ r.last) low))
    runs

/-- What a case map makes of a code point, looked up in what is left of its table beyond another
    one. -/
noncomputable def imageFrom (m : CaseMap) (low n : Nat) : List Nat :=
  Bool.rec (m.image n)
    (image { runs := runsFrom low m.runs, expansions := expansionsFrom low m.expansions } n)
    (Nat.ble low n)

/-- Where expansions ascend, the search for one can stop early and finds the same. -/
theorem expanded_eq {expansions : List (Nat × List Nat)}
    (hascending : expansions.IsChain (·.1 < ·.1)) (n : Nat) :
    expanded n expansions = match expansions.find? (·.1 == n) with
      | some (_, image) => image
      | none => [n] := by
  have htrans : IsTrans (Nat × List Nat) (·.1 < ·.1) := ⟨fun _ _ _ => Nat.lt_trans⟩
  rw [List.isChain_iff_pairwise] at hascending
  induction hascending with
  | nil => rfl
  | @cons e rest hrest _ ih =>
    -- The definition is spelt with recursors on booleans, which the equation shows.
    have hcons : expanded n (e :: rest) =
        Bool.rec (Bool.rec [n] (expanded n rest) (Nat.ble e.1 n)) e.2 (Nat.beq e.1 n) := rfl
    rw [hcons, ih, List.find?_cons]
    by_cases hn : e.1 = n
    · rw [(Nat.beq_eq ▸ hn : Nat.beq e.1 n = true), beq_iff_eq.2 hn]
    · rw [Bool.eq_false_iff.2 (mt Nat.eq_of_beq_eq_true hn), beq_false_of_ne hn]
      by_cases hle : e.1 ≤ n
      · rw [Nat.ble_eq_true_of_le hle]
      · -- The expansions ascend, so what is below the first of them is none.
        have hnone : rest.find? (·.1 == n) = none := by
          refine List.find?_eq_none.2 fun e' he' heq => hle ?_
          exact Nat.le_of_lt (eq_of_beq heq ▸ hrest e' he')
        rw [Bool.eq_false_iff.2 (mt Nat.le_of_ble_eq_true hle), hnone]

/-- A character is moved by the run that it stands in, or else it is what it is without. -/
theorem moved_eq (n : Nat) (other : List Nat) (runs : List CaseRun) :
    moved n other runs = match distance n runs with
      | some d => [(n + d).toNat]
      | none => other := by
  induction runs with
  | nil => rfl
  | cons r rest ih =>
    -- The definition is spelt with recursors, so each of its conditions is turned into a
    -- proposition.
    have hcons : moved n other (r :: rest) = Bool.rec other
        (Bool.rec (moved n other rest)
          (Bool.rec (moved n other rest) [(n + r.delta).toNat]
            (Nat.beq (Nat.mod (Nat.sub n r.first) r.step) 0))
          (Nat.ble n r.last))
        (Nat.ble r.first n) := rfl
    rw [hcons, ih, distance]
    by_cases hfirst : r.first ≤ n
    · rw [Nat.ble_eq_true_of_le hfirst, if_neg (Nat.not_lt.2 hfirst)]
      by_cases hlast : n ≤ r.last
      · rw [Nat.ble_eq_true_of_le hlast]
        by_cases hstep : (n - r.first) % r.step = 0
        · rw [if_pos ⟨hlast, hstep⟩, show Nat.mod (Nat.sub n r.first) r.step = 0 from hstep]
          rfl
        · have hbeq : Nat.beq (Nat.mod (Nat.sub n r.first) r.step) 0 = false :=
            Bool.eq_false_iff.2 (mt Nat.eq_of_beq_eq_true hstep)
          rw [if_neg (hstep ·.2), hbeq]
      · rw [if_neg (hlast ·.1), Bool.eq_false_iff.2 (mt Nat.le_of_ble_eq_true hlast)]
    · rw [Bool.eq_false_iff.2 (mt Nat.le_of_ble_eq_true hfirst), if_pos (Nat.not_le.1 hfirst)]

/-- The image of a character is the image of its code point. -/
theorem char_eq_image {m : CaseMap} (hascending : m.expansions.IsChain (·.1 < ·.1)) (c : Char) :
    m.char c = (m.image c.toNat).map Char.ofNat := by
  rw [char, image, moved_eq, expanded_eq hascending]
  cases distance c.toNat m.runs with
  | some d => rfl
  | none =>
    cases m.expansions.find? (·.1 == c.toNat) with
    | some e => rfl
    | none => simp

/-- What one map makes of what another makes of a character, by the images of code points. -/
theorem flatMap_char_eq_image {m m' : CaseMap} (hascending : m.expansions.IsChain (·.1 < ·.1))
    (hascending' : m'.expansions.IsChain (·.1 < ·.1)) (c : Char) :
    (m.char c).flatMap m'.char = ((m.image c.toNat).map Char.ofNat).flatMap fun c =>
      (m'.image c.toNat).map Char.ofNat := by
  rw [char_eq_image hascending]
  exact List.flatMap_congr fun c _ => char_eq_image hascending' c

/-- Expansions of lower characters can be skipped. -/
theorem expanded_expansionsFrom {low n : Nat} (h : low ≤ n) (expansions : List (Nat × List Nat)) :
    expanded n (expansionsFrom low expansions) = expanded n expansions := by
  induction expansions with
  | nil => rfl
  | cons e rest ih =>
    have hcons : expansionsFrom low (e :: rest) =
        Bool.rec (e :: rest) (expansionsFrom low rest) (Nat.ble (Nat.succ e.1) low) := rfl
    cases hlow : Nat.ble (Nat.succ e.1) low with
    | false => rw [hcons, hlow]
    | true =>
      have hlt : e.1 < n := Nat.lt_of_lt_of_le (Nat.le_of_ble_eq_true hlow) h
      have hrest : expanded n (e :: rest) =
          Bool.rec (Bool.rec [n] (expanded n rest) (Nat.ble e.1 n)) e.2 (Nat.beq e.1 n) := rfl
      rw [hcons, hlow, hrest, Bool.eq_false_iff.2 (mt Nat.eq_of_beq_eq_true (Nat.ne_of_lt hlt)),
        Nat.ble_eq_true_of_le (Nat.le_of_lt hlt)]
      exact ih

/-- Runs that end before a character can be skipped. -/
theorem moved_runsFrom {low n : Nat} (h : low ≤ n) (other : List Nat) (runs : List CaseRun) :
    moved n other (runsFrom low runs) = moved n other runs := by
  induction runs with
  | nil => rfl
  | cons r rest ih =>
    have hcons : runsFrom low (r :: rest) = Bool.rec (r :: rest)
        (Bool.rec (r :: rest) (runsFrom low rest) (Nat.ble r.first low))
        (Nat.ble (Nat.succ r.last) low) := rfl
    cases hlast : Nat.ble (Nat.succ r.last) low with
    | false => rw [hcons, hlast]
    | true =>
      cases hfirst : Nat.ble r.first low with
      | false => rw [hcons, hlast, hfirst]
      | true =>
        have hlt : r.last < n := Nat.lt_of_lt_of_le (Nat.le_of_ble_eq_true hlast) h
        -- A run that ends before the least of the characters has none of them.
        have hdistance : distance n (r :: rest) = distance n rest := by
          rw [distance, if_neg (Nat.not_lt.2 (Nat.le_trans (Nat.le_of_ble_eq_true hfirst) h)),
            if_neg fun hin => absurd hin.1 (Nat.not_le.2 hlt)]
        rw [hcons, hlast, hfirst, moved_eq n other (r :: rest), hdistance, ← moved_eq]
        exact ih

/-- Nothing is lost with the part of a table before the code point. -/
theorem imageFrom_eq (m : CaseMap) (low n : Nat) : m.imageFrom low n = m.image n := by
  rw [imageFrom]
  cases hlow : Nat.ble low n with
  | false => rfl
  | true =>
    have hle : low ≤ n := Nat.le_of_ble_eq_true hlow
    exact (congrArg (moved n · _) (expanded_expansionsFrom hle _)).trans (moved_runsFrom hle _ _)

/-- Every code point that the first map moves or expands has the same image under the second one as
    what it becomes, or stands for one of the characters apart. -/
noncomputable def absorbs (m' m : CaseMap) (apart : List Char) : Bool :=
  (m.runs.all fun r => r.points.all fun n =>
    m'.imageFrom (r.first + r.delta).toNat (Char.ofNat (n + r.delta).toNat).toNat ==
      m'.imageFrom r.first n || apart.contains (Char.ofNat n)) &&
  m.expansions.all fun e =>
    (e.2.flatMap fun n => m'.imageFrom n (Char.ofNat n).toNat) == m'.imageFrom e.1 e.1 ||
      apart.contains (Char.ofNat e.1)

/-- A case map that absorbs another one makes the same of a character as of what the other one makes
    of it, unless the character is apart. -/
theorem flatMap_char_of_absorbs {m m' : CaseMap} {apart : List Char} {c : Char}
    (hascending : m'.expansions.IsChain (·.1 < ·.1)) (h : m'.absorbs m apart = true)
    (hc : c ∉ apart) : (m.char c).flatMap m'.char = m'.char c := by
  simp only [absorbs, imageFrom_eq, Bool.and_eq_true, List.all_eq_true, Bool.or_eq_true, beq_iff_eq,
    List.contains_iff_mem] at h
  obtain ⟨hruns, hexpansions⟩ := h
  rw [char]
  -- A character is moved by a run, replaced by an expansion, or left as it is.
  split
  next d hd =>
    obtain ⟨r, hr, hfirst, hlast, rfl, hstep⟩ := exists_run_of_distance hd
    have hmoved :=
      (hruns r hr c.toNat (r.mem_points hfirst hlast hstep)).resolve_right (by simpa using hc)
    rw [List.flatMap_singleton, char_eq_image hascending, hmoved, ← char_eq_image hascending]
  next hd =>
    split
    next n image he =>
      have hn : n = c.toNat := by simpa using List.find?_some he
      have hexpanded := (hexpansions _ (List.mem_of_find?_eq_some he)).resolve_right
        (by simpa [hn] using hc)
      rw [char_eq_image hascending c, ← hn, ← hexpanded, List.flatMap_map, List.map_flatMap]
      exact List.flatMap_congr fun k _ => char_eq_image hascending _
    next => exact List.flatMap_singleton ..

/-- A map does not tell a text from what another makes of it, if that is so for its characters. -/
theorem text_text {m m' : CaseMap} {s : String}
    (h : ∀ c ∈ s.toList, (m.char c).flatMap m'.char = m'.char c) :
    m'.text (m.text s) = m'.text s := by
  rw [text, text, text, String.toList_ofList, List.flatMap_assoc, List.flatMap_congr h]

end CaseMap

/-! ### The two maps -/

/-- The small letter that upper case does not tell from `i`. -/
def dotless : Char := '\u0131'

/-- The capitals that upper case tells from what they fold to: the dotted `I`, the theta symbol, the
    sharp `S`, and the signs for ohm, kelvin and ångström. -/
def capitalsApart : List Char := ['\u0130', '\u03f4', '\u1e9e', '\u2126', '\u212a', '\u212b']

/-- The table of upper case is in the order that the search relies on. -/
theorem ascending_upperCasing : upperCasing.expansions.IsChain (·.1 < ·.1) := by decide +kernel

/-- The table of folded case is in the order that the search relies on. -/
theorem ascending_caseFolding : caseFolding.expansions.IsChain (·.1 < ·.1) := by decide +kernel

/-- Only the dotless letter folds otherwise than its upper-case form. -/
theorem fold_upper_char_iff {c : Char} :
    (upperCasing.char c).flatMap caseFolding.char = caseFolding.char c ↔ c ≠ dotless := by
  have habsorbs : caseFolding.absorbs upperCasing [dotless] = true := by decide +kernel
  constructor
  · rintro h rfl
    rw [CaseMap.flatMap_char_eq_image ascending_upperCasing ascending_caseFolding,
      CaseMap.char_eq_image ascending_caseFolding] at h
    revert h
    decide +kernel
  · intro hne
    exact CaseMap.flatMap_char_of_absorbs ascending_caseFolding habsorbs (by simpa using hne)

/-- Only the capitals apart have another upper-case form than their folded form. -/
theorem upper_fold_char_iff {c : Char} :
    (caseFolding.char c).flatMap upperCasing.char = upperCasing.char c ↔ c ∉ capitalsApart := by
  have habsorbs : upperCasing.absorbs caseFolding capitalsApart = true := by decide +kernel
  constructor
  · intro h hmem
    let image (m : CaseMap) (c : Char) : List Char := (m.image c.toNat).map Char.ofNat
    -- The list is searched as a list: there are too many characters to ask them all.
    have hdiffer : (capitalsApart.all fun c =>
        (image caseFolding c).flatMap (image upperCasing) != image upperCasing c) = true := by
      decide +kernel
    rw [CaseMap.flatMap_char_eq_image ascending_caseFolding ascending_upperCasing,
      CaseMap.char_eq_image ascending_upperCasing] at h
    exact absurd h (bne_iff_ne.1 (List.all_eq_true.1 hdiffer c hmem))
  · exact CaseMap.flatMap_char_of_absorbs ascending_upperCasing habsorbs

/-- Texts with the same upper-case form fold alike, unless there is a dotless letter in one. -/
theorem foldCase_eq_of_upperCase_eq {s t : String} (hs : dotless ∉ s.toList)
    (ht : dotless ∉ t.toList) (h : upperCase s = upperCase t) : foldCase s = foldCase t := by
  have habsorbs {s : String} (hs : dotless ∉ s.toList) : foldCase (upperCase s) = foldCase s :=
    CaseMap.text_text fun c hc => fold_upper_char_iff.2 fun he => hs (he ▸ hc)
  rw [← habsorbs hs, h, habsorbs ht]

/-- Texts that fold alike have the same upper-case form, unless there is a capital apart in one. -/
theorem upperCase_eq_of_foldCase_eq {s t : String} (hs : ∀ c ∈ s.toList, c ∉ capitalsApart)
    (ht : ∀ c ∈ t.toList, c ∉ capitalsApart) (h : foldCase s = foldCase t) :
    upperCase s = upperCase t := by
  have habsorbs {s : String} (hs : ∀ c ∈ s.toList, c ∉ capitalsApart) :
      upperCase (foldCase s) = upperCase s :=
    CaseMap.text_text fun c hc => upper_fold_char_iff.2 (hs c hc)
  rw [← habsorbs hs, h, habsorbs ht]

end ScriptBridge
