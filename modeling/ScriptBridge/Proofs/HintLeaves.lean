import ScriptBridge.Eval
import ScriptBridge.Proofs.MethodNames
import ScriptBridge.Proofs.Run

namespace ScriptBridge

/-!
# What hints are made of

Unions can stand in unions to any depth. What is left when all of them are taken apart are the
leaves of a hint, and a hint accepts what its leaves accept.

* `Hint.HasLeaf` relates a hint to its leaves, `Hint.nodup_kinds` and `Hint.mem_kinds_iff` say what
  kinds it accepts;
* `Hint.mem_kinds_unite`: a union that is made of hints accepts what they accept, though it takes
  unions among them apart and leaves out what it has already;
* `HintDecl.leaves` are the leaves of a hint as a program writes it, `HintDecl.Makes` relates it to
  its value;
* `HintDecl.leaves_of_makeHint`: a hint that can be made accepts what its leaves accept, which can
  all be made, and `HintDecl.mem_kinds_of_makeHint` what kinds these are.
-/

/-- Two steps in a row give a result where both do. -/
theorem exists_of_bind_eq_ok {ε α β : Type} {x : Except ε α} {f : α → Except ε β} {b : β}
    (h : (x >>= f) = .ok b) : ∃ a, x = .ok a ∧ f a = .ok b := by
  cases x with
  | error e => cases h
  | ok a => exact ⟨a, rfl, h⟩

/-- What holds of some element of a list holds of some element of another, if it holds of the two at
    each place alike. -/
theorem exists_mem_iff_of_forall₂ {α β : Type} {p : α → Prop} {q : β → Prop} {as : List α}
    {bs : List β} (h : List.Forall₂ (fun a b => p a ↔ q b) as bs) :
    (∃ a ∈ as, p a) ↔ ∃ b ∈ bs, q b := by
  induction h with
  | nil => simp
  | cons hab _ ih => rw [List.exists_mem_cons_iff, List.exists_mem_cons_iff, hab, ih]

namespace Hint

variable {k : Kind}

/-! ### The kinds of a union -/

/-- Whether a hint is a union. -/
def isUnion : Hint → Bool
  | .union .. => true
  | _ => false

/-- Whether a hint is a leaf of another: what is no union is a leaf of itself, and the leaves of the
    members are those of the union. -/
inductive HasLeaf : Hint → Hint → Prop where
  | self {h : Hint} : h.isUnion = false → HasLeaf h h
  | member {isBar : Bool} {first m l : Hint} {rest : List Hint} :
      m ∈ first :: rest → HasLeaf m l → HasLeaf (.union isBar first rest) l

/-- Adding to a list repeats nothing. -/
theorem nodup_addNew {found : List Kind} (h : found.Nodup) (more : List Kind) :
    (addNew found more).Nodup := by
  induction more generalizing found with
  | nil => exact h
  | cons a rest ih =>
    show (addNew (if a ∈ found then found else found ++ [a]) rest).Nodup
    by_cases ha : a ∈ found
    · rw [if_pos ha]
      exact ih h
    · rw [if_neg ha]
      apply ih
      rw [List.nodup_append]
      refine ⟨h, by simp, ?_⟩
      rintro b hb c hc rfl
      exact ha (List.mem_singleton.1 hc ▸ hb)

/-- Collecting the kinds of hints puts no kind there twice. -/
theorem nodup_kindsOfAll {found : List Kind} (h : found.Nodup) (rest : List Hint) :
    (kindsOfAll found rest).Nodup := by
  induction rest generalizing found with
  | nil =>
    rw [kindsOfAll]
    exact h
  | cons m rest ih =>
    rw [kindsOfAll]
    exact ih (nodup_addNew h _)

/-- No hint accepts a kind twice. -/
theorem nodup_kinds (h : Hint) : h.kinds.Nodup := by
  cases h with
  | union isBar first rest =>
    rw [kinds]
    exact nodup_kindsOfAll (nodup_addNew List.nodup_nil _) rest
  | _ =>
    rw [kinds]
    simp

/-- The kinds that are collected are those there were, and those of each hint. -/
theorem mem_kindsOfAll_iff {found : List Kind} {rest : List Hint} :
    k ∈ kindsOfAll found rest ↔ k ∈ found ∨ ∃ m ∈ rest, k ∈ m.kinds := by
  induction rest generalizing found with
  | nil => simp [kindsOfAll]
  | cons m rest ih =>
    rw [kindsOfAll, ih, mem_addNew, List.exists_mem_cons_iff, or_assoc]

/-- A union accepts what its members accept. -/
theorem mem_kinds_union {isBar : Bool} {first : Hint} {rest : List Hint} :
    k ∈ (union isBar first rest).kinds ↔ ∃ m ∈ first :: rest, k ∈ m.kinds := by
  rw [kinds, mem_kindsOfAll_iff, mem_addNew, List.exists_mem_cons_iff]
  simp

/-- What a hint accepts is what one of its leaves accepts. -/
theorem exists_leaf_of_mem_kinds (h : Hint) (hk : k ∈ h.kinds) :
    ∃ l, h.HasLeaf l ∧ k ∈ l.kinds := by
  match h, hk with
  | .union isBar first rest, hk =>
    obtain ⟨m, hm, hkm⟩ := mem_kinds_union.1 hk
    -- A member stands in the list of its union, so it is smaller.
    have hsmaller : sizeOf m < sizeOf (union isBar first rest) := by
      have hlt := List.sizeOf_lt_of_mem hm
      simp only [List.cons.sizeOf_spec] at hlt
      simp only [union.sizeOf_spec]
      omega
    obtain ⟨l, hl, hkl⟩ := exists_leaf_of_mem_kinds m hkm
    exact ⟨l, .member hm hl, hkl⟩
  | .any, hk | .unspecific, hk | .classWide _, hk | .forward _, hk | .written _, hk
  | .nothing, hk | .kind _, hk | .generic .., hk | .typed .., hk | .annotated _, hk =>
    exact ⟨_, .self rfl, hk⟩
termination_by sizeOf h

/-- **The kinds of a hint.** A hint accepts what its leaves accept. -/
theorem mem_kinds_iff {h : Hint} : k ∈ h.kinds ↔ ∃ l, h.HasLeaf l ∧ k ∈ l.kinds := by
  constructor
  · exact exists_leaf_of_mem_kinds h
  · rintro ⟨l, hl, hk⟩
    induction hl with
    | self => exact hk
    | member hm _ ih => exact mem_kinds_union.2 ⟨_, hm, ih hk⟩

/-! ### Making unions -/

/-- Hints that are the same accept the same. -/
theorem kinds_eq_of_same {x y : Hint} (h : same x y = true) : x.kinds = y.kinds := by
  revert h
  -- Lists of hints that are the same add the same kinds to those found before.
  refine same.induct (fun x y => same x y = true → x.kinds = y.kinds)
    (fun xs ys => sameAll xs ys = true → ∀ found, kindsOfAll found xs = kindsOfAll found ys)
    ?any ?nothing ?kind ?union ?generic ?typed ?annotated ?classWide ?announced ?forward ?written
    ?other ?nil ?cons ?length x y
  case any | nothing | classWide => exact fun _ => rfl
  case kind =>
    intro k l h
    simp only [same, decide_eq_true_eq] at h
    rw [h]
  case union =>
    intro isBar x xs isBar' y ys ih ihs h
    simp only [same, Bool.and_eq_true] at h
    rw [kinds, kinds, ih h.1, ihs h.2]
  case generic | typed =>
    intro k xs l ys ih h
    simp only [same, Bool.and_eq_true, decide_eq_true_eq] at h
    rw [kinds, kinds, h.1]
  case annotated | announced =>
    intro x y _ _
    rw [kinds, kinds]
  case forward | written =>
    intro t u _
    rw [kinds, kinds]
  case other =>
    intro x y _ _ _ _ _ _ _ _ _ _ _ h
    simp [same] at h
  case nil => exact fun _ _ => rfl
  case cons =>
    intro x xs y ys ih ihs h found
    simp only [sameAll, Bool.and_eq_true] at h
    rw [kindsOfAll, kindsOfAll, ih h.1, ihs h.2]
  case length =>
    intro xs ys _ _ h
    simp [sameAll] at h

/-- Taking apart a union of hints that are none changes nothing of what it accepts. -/
theorem mem_kinds_leaves {h : Hint} :
    k ∈ h.kinds ↔ ∃ m ∈ h.leaves.1 :: h.leaves.2, k ∈ m.kinds := by
  cases h with
  | union isBar first rest => exact mem_kinds_union
  | _ => simp [leaves]

/-- Leaving out hints that are the same as others changes nothing of what all accept. -/
theorem exists_mem_foldl_iff (leaf : Hint) (found more : List Hint) :
    (∃ m ∈ leaf :: more.foldl
        (fun found h => if (leaf :: found).any (same h) then found else found ++ [h]) found,
        k ∈ m.kinds) ↔
      ∃ m ∈ leaf :: (found ++ more), k ∈ m.kinds := by
  -- What has been kept so far is generalized, since each hint is compared with all of it.
  induction more generalizing found with
  | nil => simp
  | cons h more ih =>
    rw [List.foldl_cons, ih]
    by_cases hany : (leaf :: found).any (same h) = true
    · -- The hint accepts what one of those before it accepts.
      obtain ⟨m, hm, hsame⟩ := List.any_eq_true.1 hany
      rw [if_pos hany]
      constructor
      · rintro ⟨m', hm', hk⟩
        exact ⟨m', by simp at hm' ⊢; tauto, hk⟩
      · rintro ⟨m', hm', hk⟩
        by_cases hnew : m' = h
        · refine ⟨m, by simp at hm ⊢; tauto, ?_⟩
          rw [← kinds_eq_of_same hsame, ← hnew]
          exact hk
        · exact ⟨m', by simp at hm' ⊢; tauto, hk⟩
    · rw [if_neg hany, List.append_assoc, List.singleton_append]

/-- **Making unions.** A union that is made of hints accepts what they accept. -/
theorem mem_kinds_unite {isBar : Bool} {first : Hint} {rest : List Hint} :
    k ∈ (unite isBar first rest).kinds ↔ ∃ m ∈ first :: rest, k ∈ m.kinds := by
  -- A union is made of the leaves of its members, of which those that repeat others are left out.
  have hmade : k ∈ (unite isBar first rest).kinds ↔
      ∃ m ∈ first.leaves.1 ::
          (first.leaves.2 ++ rest.flatMap fun h => h.leaves.1 :: h.leaves.2), k ∈ m.kinds := by
    rw [← List.nil_append (first.leaves.2 ++ _), ← exists_mem_foldl_iff]
    unfold unite
    dsimp only
    split
    next hnil => rw [hnil]; simp
    next others => exact mem_kinds_union
  have hrest : (∃ m ∈ rest.flatMap fun h => h.leaves.1 :: h.leaves.2, k ∈ m.kinds) ↔
      ∃ m ∈ rest, k ∈ m.kinds := by
    constructor
    · rintro ⟨l, hl, hk⟩
      obtain ⟨m, hm, hlm⟩ := List.mem_flatMap.1 hl
      exact ⟨m, hm, mem_kinds_leaves.2 ⟨l, hlm, hk⟩⟩
    · rintro ⟨m, hm, hk⟩
      obtain ⟨l, hlm, hk⟩ := mem_kinds_leaves.1 hk
      exact ⟨l, List.mem_flatMap.2 ⟨m, hm, hlm⟩, hk⟩
  rw [hmade]
  simp only [List.exists_mem_cons_iff, List.mem_append, or_and_right, exists_or, hrest]
  rw [← or_assoc, mem_kinds_leaves (h := first), List.exists_mem_cons_iff]

end Hint

namespace HintValue

variable {k : Kind}

/-! ### The forms of hints -/

/-- A text within another hint stays a text. -/
theorem eq_of_forward {t : String} {h : Hint} (hv : forward t = .ok h) : h = .forward t := by
  unfold forward at hv
  split at hv <;> dsimp only at hv <;> split at hv <;> cases hv <;> rfl

/-- What is made of a value within another hint accepts the same. -/
theorem kinds_of_converted {v : HintValue} {h : Hint} (hv : v.converted = .ok h) :
    h.kinds = v.toHint.kinds := by
  unfold converted at hv
  split at hv
  next t =>
    rw [eq_of_forward hv]
    rfl
  next =>
    cases hv
    rfl
  next =>
    cases hv
    rfl

/-- What is made of an argument of a form accepts the same. -/
theorem kinds_of_asArgument {announces : Bool} {v : HintValue} {h : Hint}
    (hv : v.asArgument announces = .ok h) : h.kinds = v.toHint.kinds := by
  unfold asArgument at hv
  split at hv
  · cases announces <;> cases hv
    rfl
  · cases announces <;> cases hv
    rfl
  · cases hv
  · cases hv
  · cases hv
  · cases hv
  · cases hv
  · exact kinds_of_converted hv

/-- What is made of several values, one by one. -/
theorem forall₂_of_mapM {α β : Type} {f : α → Except LibraryKind β} {as : List α} {bs : List β}
    (h : as.mapM f = .ok bs) : List.Forall₂ (fun a b => f a = .ok b) as bs := by
  induction as generalizing bs with
  | nil =>
    cases h
    exact .nil
  | cons a as ih =>
    rw [List.mapM_cons] at h
    obtain ⟨b, ha, h⟩ := exists_of_bind_eq_ok h
    obtain ⟨bs', has, h⟩ := exists_of_bind_eq_ok h
    cases h
    exact .cons ha (ih has)

/-- A union of values accepts what they accept. -/
theorem mem_kinds_of_union {args : List HintValue} {v : HintValue} (h : union args = .ok v) :
    k ∈ v.toHint.kinds ↔ ∃ a ∈ args, k ∈ a.toHint.kinds := by
  obtain ⟨hints, hmap, h⟩ := exists_of_bind_eq_ok h
  have hkinds : (∃ a ∈ args, k ∈ a.toHint.kinds) ↔ ∃ m ∈ hints, k ∈ m.kinds := by
    apply exists_mem_iff_of_forall₂
    refine (forall₂_of_mapM hmap).imp fun a m ha => ?_
    rw [kinds_of_asArgument ha]
  cases hints with
  | nil => cases h
  | cons first rest =>
    cases h
    rw [hkinds]
    exact Hint.mem_kinds_unite

/-- A value or the empty one: what the value accepts, and the empty value. -/
theorem mem_kinds_of_optional {v u : HintValue} (h : optional v = .ok u) :
    k ∈ u.toHint.kinds ↔ k ∈ v.toHint.kinds ∨ k = .library .noneType := by
  obtain ⟨m, hv, h⟩ := exists_of_bind_eq_ok h
  cases h
  rw [← kinds_of_asArgument hv]
  show k ∈ (Hint.unite false m [.kind (.library .noneType)]).kinds ↔ _
  rw [Hint.mem_kinds_unite, List.exists_mem_cons_iff]
  simp [Hint.kinds]

/-- Two values with a bar between accept what each accepts. -/
theorem mem_kinds_of_bar {a b v : HintValue} (h : a.bar b = .ok v) :
    k ∈ v.toHint.kinds ↔ k ∈ a.toHint.kinds ∨ k ∈ b.toHint.kinds := by
  unfold bar at h
  split at h
  · cases h
  · split at h
    · -- A form that stands on one side makes a union as forms do.
      rw [mem_kinds_of_union h]
      simp
    · split at h
      · obtain ⟨x, ha, h⟩ := exists_of_bind_eq_ok h
        obtain ⟨y, hb, h⟩ := exists_of_bind_eq_ok h
        cases h
        rw [← kinds_of_converted ha, ← kinds_of_converted hb]
        show k ∈ (Hint.unite true x [y]).kinds ↔ _
        rw [Hint.mem_kinds_unite]
        simp
      · cases h

/-- A class with arguments accepts the instances of the class. -/
theorem kinds_of_applyKind {how : Subscript} {c : Kind} {args : List HintValue} {v : HintValue}
    (h : applyKind how c args = .ok v) : v.toHint.kinds = [c] := by
  cases how with
  | refused => cases h
  | plain =>
    cases h
    rfl
  | callable =>
    simp only [applyKind, applyCallable] at h
    split at h <;> cases h <;> rfl
  | protocol =>
    obtain ⟨hints, -, h⟩ := exists_of_bind_eq_ok h
    dsimp only at h
    split at h <;> cases h
    rfl

/-- Things that can be called are of the class of such things. -/
theorem kinds_of_callable {params : List HintValue} {result v : HintValue}
    (h : callable params result = .ok v) : v.toHint.kinds = [.library .callable] := by
  obtain ⟨_, -, h⟩ := exists_of_bind_eq_ok h
  obtain ⟨_, -, h⟩ := exists_of_bind_eq_ok h
  cases h
  rfl

/-- A hint with notes accepts a kind of its own, whatever hint the notes are on. -/
theorem kinds_of_annotated {u v : HintValue} (h : annotated u = .ok v) :
    v.toHint.kinds = [.library .annotated] := by
  obtain ⟨_, -, h⟩ := exists_of_bind_eq_ok h
  cases h
  rfl

/-- A hint about a class accepts every kind. -/
theorem kinds_of_classWide {u v : HintValue} (h : classWide u = .ok v) :
    v.toHint.kinds = [.library .object] := by
  obtain ⟨_, -, h⟩ := exists_of_bind_eq_ok h
  cases h
  rfl

end HintValue

namespace HintDecl

open Host Run

variable {w u : World} {k : Kind}

/-! ### The leaves of a written hint -/

/-- Whether a hint as a program writes it is a union. -/
def isUnion : HintDecl → Bool
  | .optional _ | .union _ | .bars _ => true
  | _ => false

mutual

/-- The hints without unions that a hint is made of, in order. -/
def leaves : HintDecl → List HintDecl
  | .optional h => h.leaves ++ [.nothing]
  | .union members | .bars members => leavesOfAll members
  | h => [h]

/-- The leaves of several hints. -/
def leavesOfAll : List HintDecl → List HintDecl
  | [] => []
  | h :: rest => h.leaves ++ leavesOfAll rest

end

/-- What is no union is its own leaf. -/
theorem leaves_of_not_isUnion {d : HintDecl} (h : d.isUnion = false) : d.leaves = [d] := by
  cases d with
  | optional | union | bars => cases h
  | _ => simp [leaves]

mutual

/-- No leaf is a union. -/
theorem isUnion_of_mem_leaves : ∀ (d : HintDecl) {l : HintDecl}, l ∈ d.leaves → l.isUnion = false
  | .any, _, h | .nothing, _, h | .kind _, _, h | .generic .., _, h | .callable _, _, h
  | .unspecific, _, h | .newName _, _, h | .annotated _, _, h | .classWide _, _, h
  | .written _, _, h => by
    rw [leaves_of_not_isUnion rfl] at h
    rw [List.mem_singleton.1 h]
    rfl
  | .optional d, l, h => by
    rw [leaves, List.mem_append, List.mem_singleton] at h
    rcases h with h | rfl
    · exact isUnion_of_mem_leaves d h
    · rfl
  | .union ds, _, h | .bars ds, _, h => by
    rw [leaves] at h
    exact isUnion_of_mem_leavesOfAll ds h

/-- No leaf of a list of hints is a union. The recursion is that of the leaves, through hints and
    lists of them. -/
theorem isUnion_of_mem_leavesOfAll : ∀ (ds : List HintDecl) {l : HintDecl},
    l ∈ leavesOfAll ds → l.isUnion = false
  | [], _, h => by
    rw [leavesOfAll] at h
    cases h
  | d :: ds, l, h => by
    rw [leavesOfAll, List.mem_append] at h
    rcases h with h | h
    · exact isUnion_of_mem_leaves d h
    · exact isUnion_of_mem_leavesOfAll ds h

end

/-- Whether a hint can be made, and of what value. Nothing changes on the way. -/
def Makes (w : World) (d : HintDecl) (v : HintValue) : Prop := hintValue d w = (.ok v, w)

/-- Whether hints can be made, and some values accept what the values of the hints accept. -/
def Accept (w : World) (ds : List HintDecl) (vs : List HintValue) : Prop :=
  ∃ xs, List.Forall₂ (Makes w) ds xs ∧
    ∀ k, (∃ v ∈ vs, k ∈ v.toHint.kinds) ↔ ∃ x ∈ xs, k ∈ x.toHint.kinds

/-- Hints in a row accept what the first ones and the other ones accept. -/
theorem Accept.append {ds ds' : List HintDecl} {vs vs' : List HintValue} (h : Accept w ds vs)
    (h' : Accept w ds' vs') : Accept w (ds ++ ds') (vs ++ vs') := by
  obtain ⟨xs, hxs, hk⟩ := h
  obtain ⟨xs', hxs', hk'⟩ := h'
  refine ⟨xs ++ xs', List.rel_append hxs hxs', fun k => ?_⟩
  simp only [List.mem_append, or_and_right, exists_or, hk, hk']

/-- Values that accept the same can stand for each other. -/
theorem Accept.congr {ds : List HintDecl} {vs vs' : List HintValue} (h : Accept w ds vs)
    (hk : ∀ k, (∃ v ∈ vs', k ∈ v.toHint.kinds) ↔ ∃ v ∈ vs, k ∈ v.toHint.kinds) :
    Accept w ds vs' := by
  obtain ⟨xs, hxs, hks⟩ := h
  exact ⟨xs, hxs, fun k => (hk k).trans (hks k)⟩

/-- A hint of its own accepts what its value does. -/
theorem Makes.accept {d : HintDecl} {v : HintValue} (h : Makes w d v) : Accept w [d] [v] :=
  ⟨[v], .cons h .nil, fun _ => Iff.rfl⟩

/-- The hint of the empty value can always be made. -/
theorem Makes.nothing (w : World) : Makes w .nothing .empty := by
  unfold Makes
  rw [hintValue]
  rfl

/-! ### Making a hint -/

/-- A class that is known is found, and nothing changes. -/
theorem kindNamed_eq_ok_iff {name : String} :
    kindNamed name w = (.ok k, u) ↔ w.store.kindNamed? name = some k ∧ u = w := by
  unfold kindNamed
  rw [bind_of_ok (store_apply w)]
  cases w.store.kindNamed? name with
  | none => simp
  | some k' => simp [eq_comm]

/-- A result is passed on, and nothing changes. -/
theorem orHostError_eq_ok_iff {α : Type} {x : Except LibraryKind α} {a : α} :
    orHostError x w = (.ok a, u) ↔ x = .ok a ∧ u = w := by
  cases x with
  | error e => simp [orHostError]
  | ok b => simp [orHostError, eq_comm]

/-- Putting bars between values changes nothing. They accept what each accepts. -/
theorem mem_kinds_of_bars {v r : HintValue} {rest : List HintValue}
    (h : rest.foldlM (fun a b => orHostError (a.bar b)) v w = (.ok r, u)) :
    u = w ∧ ∀ k, k ∈ r.toHint.kinds ↔ ∃ x ∈ v :: rest, k ∈ x.toHint.kinds := by
  induction rest generalizing v with
  | nil =>
    cases h
    exact ⟨rfl, fun k => by simp⟩
  | cons b rest ih =>
    rw [List.foldlM_cons] at h
    obtain ⟨v', _, hmade, hrest⟩ := bind_eq_ok_iff.1 h
    obtain ⟨hbar, rfl⟩ := orHostError_eq_ok_iff.1 hmade
    obtain ⟨hu, hk⟩ := ih hrest
    refine ⟨hu, fun k => ?_⟩
    rw [hk, List.exists_mem_cons_iff, HintValue.mem_kinds_of_bar hbar, or_assoc,
      List.exists_mem_cons_iff, List.exists_mem_cons_iff]

mutual

/-- Making a hint changes nothing. -/
theorem eq_of_hintValue : ∀ (d : HintDecl) {w u : World} {v : HintValue},
    hintValue d w = (.ok v, u) → u = w
  -- What is made of parts changes nothing because making the parts does not.
  | .any, _, _, _, h | .nothing, _, _, _, h | .unspecific, _, _, _, h | .written _, _, _, _, h
  | .classWide none, _, _, _, h => by
    rw [hintValue] at h
    cases h
    rfl
  | .kind name, _, _, _, h => by
    rw [hintValue] at h
    obtain ⟨_, _, hk, hmade⟩ := bind_eq_ok_iff.1 h
    obtain ⟨-, rfl⟩ := kindNamed_eq_ok_iff.1 hk
    cases hmade
    rfl
  | .optional d, _, _, _, h | .annotated d, _, _, _, h | .classWide (some d), _, _, _, h => by
    rw [hintValue] at h
    obtain ⟨_, _, hd, hmade⟩ := bind_eq_ok_iff.1 h
    obtain rfl := eq_of_hintValue d hd
    exact (orHostError_eq_ok_iff.1 hmade).2
  | .newName d, _, _, _, h => by
    rw [hintValue] at h
    obtain ⟨_, _, hd, hmade⟩ := bind_eq_ok_iff.1 h
    obtain rfl := eq_of_hintValue d hd
    cases hmade
    rfl
  | .union ds, _, _, _, h => by
    rw [hintValue] at h
    obtain ⟨_, _, hds, hmade⟩ := bind_eq_ok_iff.1 h
    obtain rfl := eq_of_hintValues ds hds
    exact (orHostError_eq_ok_iff.1 hmade).2
  | .bars ds, _, _, _, h => by
    rw [hintValue] at h
    obtain ⟨vs, _, hds, hmade⟩ := bind_eq_ok_iff.1 h
    obtain rfl := eq_of_hintValues ds hds
    cases vs with
    | nil => cases hmade
    | cons v rest => exact (mem_kinds_of_bars hmade).1
  | .callable ds, _, _, _, h => by
    rw [hintValue] at h
    obtain ⟨vs, _, hds, hmade⟩ := bind_eq_ok_iff.1 h
    obtain rfl := eq_of_hintValues ds hds
    split at hmade
    · cases hmade
    · exact (orHostError_eq_ok_iff.1 hmade).2
  | .generic name ds, _, _, _, h => by
    rw [hintValue] at h
    obtain ⟨_, _, hk, hargs⟩ := bind_eq_ok_iff.1 h
    obtain ⟨-, rfl⟩ := kindNamed_eq_ok_iff.1 hk
    obtain ⟨_, _, hds, hmade⟩ := bind_eq_ok_iff.1 hargs
    obtain rfl := eq_of_hintValues ds hds
    rw [bind_of_ok (store_apply _)] at hmade
    exact (orHostError_eq_ok_iff.1 hmade).2

/-- Making several hints changes nothing. -/
theorem eq_of_hintValues : ∀ (ds : List HintDecl) {w u : World} {vs : List HintValue},
    hintValues ds w = (.ok vs, u) → u = w
  | [], _, _, _, h => by
    rw [hintValues] at h
    cases h
    rfl
  | d :: ds, _, _, _, h => by
    rw [hintValues] at h
    obtain ⟨_, _, hd, hrest⟩ := bind_eq_ok_iff.1 h
    obtain ⟨_, _, hds, hmade⟩ := bind_eq_ok_iff.1 hrest
    obtain rfl := eq_of_hintValue d hd
    obtain rfl := eq_of_hintValues ds hds
    cases hmade
    rfl

end

mutual

/-- A hint accepts what its leaves accept, which can all be made. -/
theorem accept_leaves : ∀ (d : HintDecl) {w : World} {v : HintValue},
    Makes w d v → Accept w d.leaves [v]
  | .any, _, _, h | .nothing, _, _, h | .kind _, _, _, h | .generic .., _, _, h
  | .callable _, _, _, h | .unspecific, _, _, h | .newName _, _, _, h | .annotated _, _, _, h
  | .classWide _, _, _, h | .written _, _, _, h => by
    -- What is no union is its own leaf.
    rw [leaves_of_not_isUnion rfl]
    exact h.accept
  | .optional d, w, v, h => by
    rw [Makes, hintValue] at h
    obtain ⟨x, _, hd, hmade⟩ := bind_eq_ok_iff.1 h
    obtain rfl := eq_of_hintValue d hd
    obtain ⟨hoptional, -⟩ := orHostError_eq_ok_iff.1 hmade
    rw [leaves]
    refine ((accept_leaves d hd).append (Makes.nothing _).accept).congr fun k => ?_
    have hempty : HintValue.empty.toHint.kinds = [.library .noneType] := rfl
    simp [HintValue.mem_kinds_of_optional hoptional, hempty]
  | .union ds, w, v, h => by
    rw [Makes, hintValue] at h
    obtain ⟨xs, _, hds, hmade⟩ := bind_eq_ok_iff.1 h
    obtain rfl := eq_of_hintValues ds hds
    obtain ⟨hunion, -⟩ := orHostError_eq_ok_iff.1 hmade
    rw [leaves]
    refine (accept_leavesOfAll ds hds).congr fun k => ?_
    rw [← HintValue.mem_kinds_of_union hunion]
    simp
  | .bars ds, w, v, h => by
    rw [Makes, hintValue] at h
    obtain ⟨xs, _, hds, hmade⟩ := bind_eq_ok_iff.1 h
    obtain rfl := eq_of_hintValues ds hds
    rw [leaves]
    cases xs with
    -- There is no union of nothing with bars.
    | nil => cases hmade
    | cons x rest =>
      refine (accept_leavesOfAll ds hds).congr fun k => ?_
      rw [← (mem_kinds_of_bars hmade).2 k]
      simp

/-- Several hints accept what their leaves accept, which can all be made. -/
theorem accept_leavesOfAll : ∀ (ds : List HintDecl) {w : World} {vs : List HintValue},
    hintValues ds w = (.ok vs, w) → Accept w (leavesOfAll ds) vs
  | [], _, _, h => by
    rw [hintValues] at h
    cases h
    exact ⟨[], .nil, fun _ => Iff.rfl⟩
  | d :: ds, w, _, h => by
    rw [hintValues] at h
    obtain ⟨v, _, hd, hrest⟩ := bind_eq_ok_iff.1 h
    obtain ⟨vs, _, hds, hmade⟩ := bind_eq_ok_iff.1 hrest
    obtain rfl := eq_of_hintValue d hd
    obtain rfl := eq_of_hintValues ds hds
    cases hmade
    rw [leavesOfAll]
    exact (accept_leaves d hd).append (accept_leavesOfAll ds hds)

end

/-! ### Made hints -/

/-- The kinds that a hint without unions accepts, as far as its class is known. -/
def leafKinds (s : Store) : HintDecl → List Kind
  | .any | .unspecific | .newName _ | .classWide _ | .written _ => [.library .object]
  | .nothing => [.library .noneType]
  | .kind name | .generic name _ => (s.kindNamed? name).toList
  | .callable _ => [.library .callable]
  | .annotated _ => [.library .annotated]
  | .optional _ | .union _ | .bars _ => []

/-- A hint without unions accepts the kinds that it spells. -/
theorem Makes.kinds_eq {d : HintDecl} {v : HintValue} (h : Makes w d v) (hd : d.isUnion = false) :
    v.toHint.kinds = d.leafKinds w.store := by
  unfold Makes at h
  cases d with
  | any | nothing | unspecific | written =>
    rw [hintValue] at h
    cases h
    rfl
  | kind name =>
    rw [hintValue] at h
    obtain ⟨_, _, hk, hmade⟩ := bind_eq_ok_iff.1 h
    obtain ⟨hknown, rfl⟩ := kindNamed_eq_ok_iff.1 hk
    cases hmade
    rw [leafKinds, hknown]
    rfl
  -- The arguments of a generic hint are made, and then count for nothing.
  | generic name ds =>
    rw [hintValue] at h
    obtain ⟨_, _, hk, hargs⟩ := bind_eq_ok_iff.1 h
    obtain ⟨hknown, rfl⟩ := kindNamed_eq_ok_iff.1 hk
    obtain ⟨_, _, -, hmade⟩ := bind_eq_ok_iff.1 hargs
    rw [bind_of_ok (store_apply _)] at hmade
    rw [leafKinds, hknown, HintValue.kinds_of_applyKind (orHostError_eq_ok_iff.1 hmade).1]
    rfl
  | callable ds =>
    rw [hintValue] at h
    obtain ⟨_, _, -, hmade⟩ := bind_eq_ok_iff.1 h
    split at hmade
    · cases hmade
    · exact HintValue.kinds_of_callable (orHostError_eq_ok_iff.1 hmade).1
  | newName d =>
    rw [hintValue] at h
    obtain ⟨_, _, -, hmade⟩ := bind_eq_ok_iff.1 h
    cases hmade
    rfl
  | annotated d =>
    rw [hintValue] at h
    obtain ⟨_, _, -, hmade⟩ := bind_eq_ok_iff.1 h
    exact HintValue.kinds_of_annotated (orHostError_eq_ok_iff.1 hmade).1
  | classWide d =>
    cases d with
    | none =>
      rw [hintValue] at h
      cases h
      rfl
    | some d =>
      rw [hintValue] at h
      obtain ⟨_, _, -, hmade⟩ := bind_eq_ok_iff.1 h
      exact HintValue.kinds_of_classWide (orHostError_eq_ok_iff.1 hmade).1
  -- These are the unions.
  | optional | union | bars => cases hd

/-- A hint is made where its value is, and accepts the same. -/
theorem Makes.exists_makeHint {d : HintDecl} {v : HintValue} (h : Makes w d v) :
    ∃ x, makeHint d w = (.ok x, w) ∧ x.kinds = v.toHint.kinds := by
  unfold makeHint
  rw [bind_of_ok h]
  split
  · exact ⟨_, rfl, rfl⟩
  · exact ⟨_, rfl, rfl⟩

/-- A hint that is made accepts what the values of its leaves accept. Nothing changes on the way. -/
theorem exists_values_of_makeHint {d : HintDecl} {x : Hint} (h : makeHint d w = (.ok x, u)) :
    u = w ∧ ∃ vs, List.Forall₂ (Makes w) d.leaves vs ∧
      ∀ k, k ∈ x.kinds ↔ ∃ v ∈ vs, k ∈ v.toHint.kinds := by
  obtain ⟨v, w', hv, hmade⟩ := bind_eq_ok_iff.1 h
  have hx : u = w' ∧ x.kinds = v.toHint.kinds := by
    split at hmade <;> cases hmade <;> exact ⟨rfl, rfl⟩
  obtain ⟨rfl, hx⟩ := hx
  obtain rfl := eq_of_hintValue d hv
  obtain ⟨vs, hvs, haccept⟩ := accept_leaves d hv
  refine ⟨rfl, vs, hvs, fun k => ?_⟩
  rw [hx, ← haccept]
  simp

/-- **The leaves of a written hint.** Making a hint changes nothing. All its leaves can be made too,
    and it accepts what they accept. -/
theorem leaves_of_makeHint {d : HintDecl} {x : Hint} (h : makeHint d w = (.ok x, u)) :
    u = w ∧ (∀ l ∈ d.leaves, l.isUnion = false ∧ ∃ y, makeHint l w = (.ok y, w)) ∧
      ∀ k, k ∈ x.kinds ↔ ∃ l ∈ d.leaves, ∃ y, makeHint l w = (.ok y, w) ∧ k ∈ y.kinds := by
  obtain ⟨hu, vs, hvs, hk⟩ := exists_values_of_makeHint h
  have hboth : List.Forall₂ (fun l v => (∃ y, makeHint l w = (.ok y, w)) ∧ Makes w l v)
      d.leaves vs := by
    refine hvs.imp fun l v hv => ?_
    obtain ⟨y, hy, -⟩ := hv.exists_makeHint
    exact ⟨⟨y, hy⟩, hv⟩
  have hmade := ((List.forall₂_and_left _ _).1 hboth).1
  refine ⟨hu, fun l hl => ⟨isUnion_of_mem_leaves d hl, hmade l hl⟩, fun k => ?_⟩
  rw [hk]
  refine (exists_mem_iff_of_forall₂ (hvs.imp fun l v hv => ?_)).symm
  -- A leaf makes one hint only.
  obtain ⟨y, hy, hkinds⟩ := hv.exists_makeHint
  rw [← hkinds]
  constructor
  · rintro ⟨y', hy', hmem⟩
    rw [hy] at hy'
    cases hy'
    exact hmem
  · exact fun hmem => ⟨y, hy, hmem⟩

/-- The kinds that the leaves of a hint spell. -/
def kindsOfLeaves (s : Store) (d : HintDecl) : List Kind := d.leaves.flatMap (leafKinds s)

/-- A hint that is made accepts the kinds that its leaves spell. -/
theorem mem_kinds_of_makeHint {d : HintDecl} {x : Hint} (h : makeHint d w = (.ok x, u)) :
    k ∈ x.kinds ↔ k ∈ d.kindsOfLeaves w.store := by
  obtain ⟨-, vs, hvs, hk⟩ := exists_values_of_makeHint h
  have hleaves := (List.forall₂_and_left d.leaves vs).2
    ⟨fun l hl => isUnion_of_mem_leaves d hl, hvs⟩
  rw [hk, kindsOfLeaves, List.mem_flatMap]
  refine (exists_mem_iff_of_forall₂ (hleaves.imp fun l v hl => ?_)).symm
  rw [hl.2.kinds_eq hl.1]

end HintDecl

end ScriptBridge
