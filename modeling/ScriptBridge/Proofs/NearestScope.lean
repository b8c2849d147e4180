import ScriptBridge.Proofs.Binding
import ScriptBridge.Proofs.StructHistory

namespace ScriptBridge

/-!
# Variables and the nearest scope

A variable is looked up in a scope, then in its parent, and so on to the root. What is found can be
told from what was written alone: by way of which scopes, under which keys, and in which order.

* `Store.Way` are the scopes on the way from a scope to its root; `Store.Way.length_le` says that a
  lookup follows it to its end;
* `lastWritten` is what was written last in some variables, `Store.nearest?` where a lookup along a
  way finds it;
* `World.Spells` tells that a value stands for the same key each time it is asked;
  `World.spells_of_labels` says so of an instance whose class gives it a text;
* `Scoping` relates a moment to the scopes that were made and the variables that were written before
  it, in any order; `World.Told` is what each step keeps, and `Scoping.told` follows by induction;
* `Scoping.nearest_counts`: what a scope says of a variable, and what a write changes.
-/

/-! ### The way to the root -/

/-- Whether some scopes are those on the way from a scope to its root, that scope first. -/
inductive Store.Way (s : Store) : Nat → List Nat → Prop where
  | root {i : Nat} {c : Scope} (hc : s.scopes[i]? = some c) (hparent : c.parent = .none) :
    Way s i [i]
  | inner {i j : Nat} {c : Scope} {way : List Nat} (hc : s.scopes[i]? = some c)
    (hparent : c.parent = .scope j) (hway : Way s j way) : Way s i (i :: way)

namespace Store.Way

variable {s : Store} {i j : Nat} {way way' : List Nat}

/-- There is one way from a scope. -/
theorem unique (h : s.Way i way) (h' : s.Way i way') : way = way' := by
  -- The parent of a scope tells whether the way ends there and where it goes on.
  induction h generalizing way' with
  | root hc hparent =>
    cases h' with
    | root => rfl
    | inner hc' hparent' =>
      rw [hc] at hc'
      cases hc'
      rw [hparent] at hparent'
      cases hparent'
  | inner hc hparent _ ih =>
    cases h' with
    | root hc' hparent' =>
      rw [hc] at hc'
      cases hc'
      rw [hparent] at hparent'
      cases hparent'
    | inner hc' hparent' hway' =>
      rw [hc] at hc'
      cases hc'
      rw [hparent] at hparent'
      cases hparent'
      rw [ih hway']

/-- From each scope on a way the rest of it leads on. -/
theorem exists_suffix (h : s.Way i way) (hj : j ∈ way) : ∃ rest, s.Way j rest ∧ rest <:+ way := by
  induction h with
  | @root i c hc hparent =>
    obtain rfl := List.mem_singleton.1 hj
    exact ⟨_, .root hc hparent, List.suffix_rfl⟩
  | @inner i _ c way hc hparent hway ih =>
    obtain rfl | hj := List.mem_cons.1 hj
    · exact ⟨_, .inner hc hparent hway, List.suffix_rfl⟩
    · obtain ⟨rest, hrest, hsuffix⟩ := ih hj
      exact ⟨rest, hrest, hsuffix.trans (List.suffix_cons _ _)⟩

/-- A way that leads to a root runs in no circle. -/
theorem nodup (h : s.Way i way) : way.Nodup := by
  induction h with
  | root => exact List.nodup_singleton _
  | @inner i j c way hc hparent hway ih =>
    refine List.nodup_cons.2 ⟨fun hi => ?_, ih⟩
    obtain ⟨rest, hrest, hsuffix⟩ := hway.exists_suffix hi
    have hlength := hsuffix.length_le
    rw [hrest.unique (.inner hc hparent hway), List.length_cons] at hlength
    omega

/-- A way is a matter of the scopes alone. -/
theorem of_scopes {s' : Store} (h : s.Way i way) (hscopes : s'.scopes = s.scopes) :
    s'.Way i way := by
  induction h with
  | root hc hparent => exact .root (hscopes ▸ hc) hparent
  | inner hc hparent _ ih => exact .inner (hscopes ▸ hc) hparent ih

/-- Every place on a way is a scope. -/
theorem exists_scope (h : s.Way i way) (hj : j ∈ way) : ∃ c, s.scopes[j]? = some c := by
  obtain ⟨rest, hrest, -⟩ := h.exists_suffix hj
  cases hrest with
  | root hc => exact ⟨_, hc⟩
  | inner hc => exact ⟨_, hc⟩

/-- There are no more scopes on a way than there are scopes. -/
theorem length_le (h : s.Way i way) : way.length ≤ s.scopes.size := by
  have hsubset : way ⊆ List.range s.scopes.size := fun j hj => by
    obtain ⟨c, hc⟩ := h.exists_scope hj
    exact List.mem_range.2 (Array.getElem?_eq_some_iff.1 hc).1
  simpa using (h.nodup.subperm hsubset).length_le

end Store.Way

/-- Whether every scope leads to a root: it has no parent, or one that was made before it. -/
def Store.Forest (s : Store) : Prop :=
  ∀ i (c : Scope), s.scopes[i]? = some c → c.parent = .none ∨ ∃ j < i, c.parent = .scope j

/-- Only the scopes make a forest. -/
theorem Store.Forest.of_scopes {s s' : Store} (h : s.Forest) (hscopes : s'.scopes = s.scopes) :
    s'.Forest := by
  rw [Forest, hscopes]
  exact h

/-- A new scope leads to a root, as all others do. -/
theorem Store.Forest.push {s s' : Store} (h : s.Forest) {c : Scope} {parent : Option Nat}
    (hscopes : s'.scopes = s.scopes.push c) (hc : c.parent = parent.elim .none .scope)
    (hparent : ∀ j ∈ parent, j < s.scopes.size) : s'.Forest := by
  intro i c' hc'
  rw [hscopes, Array.getElem?_push] at hc'
  split at hc'
  next hi =>
    cases hc'
    subst hi
    cases parent with
    | none => exact .inl hc
    | some j => exact .inr ⟨j, hparent j rfl, hc⟩
  next => exact h i c' hc'

/-- From every scope of a forest there is a way to a root. -/
theorem Store.Forest.exists_way {s : Store} (h : s.Forest) {i : Nat} (hi : i < s.scopes.size) :
    ∃ way, s.Way i way := by
  induction i using Nat.strong_induction_on with
  | _ i ih =>
    have hc := Array.getElem?_eq_getElem hi
    obtain hparent | ⟨j, hj, hparent⟩ := h i _ hc
    · exact ⟨[i], .root hc hparent⟩
    · obtain ⟨way, hway⟩ := ih j hj (hj.trans hi)
      exact ⟨i :: way, .inner hc hparent hway⟩

/-! ### What was written -/

/-- What is found last in a row is its last element, or it is found before it. -/
theorem find?_reverse_concat {α : Type} (p : α → Bool) (l : List α) (a : α) :
    (l ++ [a]).reverse.find? p = if p a then some a else l.reverse.find? p := by
  rw [List.reverse_concat, List.find?_cons]
  cases p a <;> rfl

/-- What was written as a variable, and where: in some variables, under a key. -/
structure Written where
  bindings : Value
  key : Key
  value : Value

/-- What was written last in some variables under a key. -/
def lastWritten (log : List Written) (b : Value) (k : Key) : Option Value :=
  (log.reverse.find? fun e => e.bindings = b ∧ e.key.folded = k.folded).map (·.value)

/-- The last write counts if it is to the same variable, and else those before it. -/
theorem lastWritten_concat (log : List Written) (e : Written) (b : Value) (k : Key) :
    lastWritten (log ++ [e]) b k =
      if e.bindings = b ∧ e.key.folded = k.folded then some e.value else lastWritten log b k := by
  simp only [lastWritten, find?_reverse_concat, decide_eq_true_eq]
  split <;> rfl

/-- Nothing was written in variables that no write mentions. -/
theorem lastWritten_of_forall_ne {log : List Written} {b : Value} (h : ∀ e ∈ log, e.bindings ≠ b)
    (k : Key) : lastWritten log b k = none := by
  rw [lastWritten, List.find?_eq_none.2 fun e he => by simp [h e (List.mem_reverse.1 he)]]
  rfl

namespace Store

/-- The variables of a scope. -/
def bindingsOf (s : Store) (i : Nat) : Value := (s.scopes[i]?).elim .none (·.bindings)

/-- The first scope on a way in whose variables something was written under a key, and what was
    written there last. -/
def nearest? (s : Store) (log : List Written) (way : List Nat) (k : Key) : Option (Nat × Value) :=
  way.findSome? fun j => (lastWritten log (s.bindingsOf j) k).map fun x => (j, x)

/-- Whether some variables are a struct, and hold what was written there last. -/
def Tells (s : Store) (log : List Written) (b : Value) : Prop :=
  ∃ m, s.HoldsStruct b m ∧ ∀ k, m.get? k = lastWritten log b k

/-- To set what an object consists of leaves the scopes. -/
theorem scopes_setBody (s : Store) (v : Value) (b : Body) : (s.setBody v b).scopes = s.scopes := by
  cases v <;> rfl

/-- Which variables a scope has depends on the scopes alone. -/
theorem bindingsOf_of_scopes {s s' : Store} (h : s'.scopes = s.scopes) (i : Nat) :
    s'.bindingsOf i = s.bindingsOf i := by
  rw [bindingsOf, bindingsOf, h]

/-- A new scope brings its own variables, and leaves those of the others. -/
theorem bindingsOf_push {s s' : Store} {c : Scope} (h : s'.scopes = s.scopes.push c) (i : Nat) :
    s'.bindingsOf i = if i = s.scopes.size then c.bindings else s.bindingsOf i := by
  rw [bindingsOf, h, Array.getElem?_push]
  split <;> rfl

/-- What is nearest on a way depends on the scopes alone. -/
theorem nearest?_of_scopes {s s' : Store} (h : s'.scopes = s.scopes) (log : List Written)
    (way : List Nat) (k : Key) : s'.nearest? log way k = s.nearest? log way k := by
  simp only [nearest?, bindingsOf_of_scopes h]

/-- What is written next in other variables, or in these under another key, changes nothing about
    what was written last. -/
theorem nearest?_concat (s : Store) (log : List Written) (e : Written) (way : List Nat) (k : Key) :
    s.nearest? (log ++ [e]) way k = s.nearest? log way k ∨
      k.folded = e.key.folded ∧
        ∃ j ∈ way, s.bindingsOf j = e.bindings ∧
          s.nearest? (log ++ [e]) way k = some (j, e.value) := by
  induction way with
  | nil => exact .inl rfl
  | cons j rest ih =>
    simp only [nearest?, List.findSome?_cons, lastWritten_concat] at ih ⊢
    by_cases he : e.bindings = s.bindingsOf j ∧ e.key.folded = k.folded
    · exact .inr ⟨he.2.symm, j, List.mem_cons_self, he.1.symm, by simp [he]⟩
    · rw [if_neg he]
      cases lastWritten log (s.bindingsOf j) k with
      | some x => exact .inl rfl
      | none =>
        obtain heq | ⟨hk, j', hj', hb, heq⟩ := ih
        · exact .inl heq
        · exact .inr ⟨hk, j', List.mem_cons_of_mem _ hj', hb, heq⟩

end Store

/-- After a write in some variables, every struct holds what was written there last. -/
theorem Store.Tells.written {s : Store} {log : List Written} {b c : Value}
    {m : OrderedMap Key Value} (hb : s.Tells log b) (hc : s.HoldsStruct c m)
    (hm : ∀ k, m.get? k = lastWritten log c k) (k : Key) (x : Value) (card : Option Value) :
    (s.setBody c (.struct (m.insert k x) card)).Tells (log ++ [⟨c, k, x⟩]) b := by
  by_cases hbc : c = b
  · subst hbc
    refine ⟨m.insert k x, hc.setBody _ card, fun k' => ?_⟩
    rw [lastWritten_concat]
    by_cases hk : k.folded = k'.folded
    · rw [if_pos ⟨rfl, hk⟩]
      exact (congrArg _ hk.symm).trans (m.get?_insert_self k x)
    · rw [if_neg (hk ·.2), ← hm]
      exact m.get?_insert_of_ne hk x
  · obtain ⟨m', ⟨hkind, card', hbody⟩, hget⟩ := hb
    refine ⟨m', ⟨by rw [kindOf_setBody, hkind], card', ?_⟩, fun k' => ?_⟩
    · rw [s.body?_setBody_of_ne (Ne.symm hbc), hbody]
    · rw [lastWritten_concat, if_neg (hbc ·.1), hget]

/-! ### Scopes that are left alone -/

/-- Whether one world has the scopes of another, and some variables hold there what they did. -/
structure World.KeepsScopes (vs : List Value) (w u : World) : Prop where
  scopes : u.store.scopes = w.store.scopes
  leaves : ∀ b ∈ vs, w.Leaves b u

namespace World.KeepsScopes

variable {vs : List Value} {w u u' : World}

@[refl] theorem refl (w : World) : w.KeepsScopes vs w := ⟨rfl, fun _ _ _ hm => hm⟩

/-- What two steps in a row leave alone, both together do. -/
theorem trans (h : w.KeepsScopes vs u) (h' : u.KeepsScopes vs u') : w.KeepsScopes vs u' :=
  ⟨h'.scopes.trans h.scopes, fun b hb m hm => h'.leaves b hb m (h.leaves b hb m hm)⟩

end World.KeepsScopes

/-- New objects leave the scopes and all variables alone. -/
theorem World.Grows.keepsScopes {w u : World} (h : w.Grows u) (vs : List Value) :
    w.KeepsScopes vs u where
  scopes := by
    obtain ⟨os, n, rfl⟩ := h
    rfl
  leaves b _ := h.leaves b

/-- Whether an operation comes to a result, and leaves the scopes and some variables alone. -/
def World.Yields {α : Type} (w : World) (vs : List Value) (x : Run α) (r : Except Fault α) : Prop :=
  ∃ u, x w = (r, u) ∧ w.KeepsScopes vs u

/-! ### Keys of variables -/

/-- Whether a value stands for a key and a text: it gives them each time it is asked, as long as
    nothing else happens, and to ask it leaves the scopes and some variables alone. A scope asks for
    the key first, and then its variables do, one call deeper. -/
def World.Spells (w : World) (vs : List Value) (n : Nat) (v : Value) (k : Key)
    (t : String) : Prop :=
  ∃ P : World → Prop, P w ∧ ∀ u, P u →
    (∀ depth ∈ [n, n + 1], ∃ u', Host.keyOf (Host.callAt depth) v u = (.ok k, u') ∧
      P u' ∧ u.KeepsScopes vs u') ∧
    ∃ u', Host.textOf (Host.callAt (n + 1)) v u = (.ok t, u') ∧ P u' ∧ u.KeepsScopes vs u'

namespace World.Spells

variable {w : World} {vs : List Value} {n : Nat} {v : Value} {k : Key} {t : String}

/-- The key is given, and will be given again. -/
theorem exists_keyOf (h : w.Spells vs n v k t) {depth : Nat} (hdepth : depth ∈ [n, n + 1]) :
    ∃ u, Host.keyOf (Host.callAt depth) v w = (.ok k, u) ∧ u.Spells vs n v k t ∧
      w.KeepsScopes vs u := by
  obtain ⟨P, hw, hP⟩ := h
  obtain ⟨u, hkey, hu, hkeeps⟩ := (hP w hw).1 depth hdepth
  exact ⟨u, hkey, ⟨P, hu, hP⟩, hkeeps⟩

/-- A value that stands for a key is read as that key. -/
theorem yields (h : w.Spells vs n v k t) {depth : Nat} (hdepth : depth ∈ [n, n + 1]) :
    w.Yields vs (Host.keyOf (Host.callAt depth) v) (.ok k) := by
  obtain ⟨u, hkey, -, hkeeps⟩ := h.exists_keyOf hdepth
  exact ⟨u, hkey, hkeeps⟩

/-- The text is given. -/
theorem exists_textOf (h : w.Spells vs n v k t) :
    w.Yields vs (Host.textOf (Host.callAt (n + 1)) v) (.ok t) := by
  obtain ⟨P, hw, hP⟩ := h
  obtain ⟨u, htext, -, hkeeps⟩ := (hP w hw).2
  exact ⟨u, htext, hkeeps⟩

end World.Spells

/-- A text stands for its key. -/
theorem World.spells_text (w : World) (vs : List Value) (n : Nat) (t : String) :
    w.Spells vs n (.text t) (.ofText t) t :=
  ⟨(· = w), rfl, fun u hu => ⟨fun _ _ => ⟨u, rfl, hu, .refl u⟩, u, rfl, hu, .refl u⟩⟩

/-- Whether the watched variables, among which are those of all scopes, hold what was written there
    last, and the scopes form a forest. -/
structure World.Told (vs : List Value) (log : List Written) (w : World) : Prop where
  forest : w.store.Forest
  watched : ∀ i < w.store.scopes.size, w.store.bindingsOf i ∈ vs
  tells : ∀ b ∈ vs, w.store.Tells log b
  logged : ∀ e ∈ log, e.bindings ∈ vs

namespace World.Told

open Run Host

variable {vs : List Value} {log : List Written} {w w' : World} {n i : Nat} {b v x : Value} {k : Key}

/-- What leaves the scopes and the watched variables alone changes nothing about them. -/
theorem aside (h : w.Told vs log) (hkeeps : w.KeepsScopes vs w') : w'.Told vs log where
  forest := h.forest.of_scopes hkeeps.scopes
  watched i hi := by
    rw [Store.bindingsOf_of_scopes hkeeps.scopes]
    exact h.watched i (hkeeps.scopes ▸ hi)
  tells b hb := by
    obtain ⟨m, hm, hget⟩ := h.tells b hb
    exact ⟨m, hkeeps.leaves b hb m hm, hget⟩
  logged := h.logged

/-- The variables on a way are watched. -/
theorem bindingsOf_mem {way : List Nat} (h : w.Told vs log) (hway : w.store.Way i way) {j : Nat}
    (hj : j ∈ way) : w.store.bindingsOf j ∈ vs := by
  obtain ⟨c, hc⟩ := hway.exists_scope hj
  exact h.watched j (Array.getElem?_eq_some_iff.1 hc).1

/-- The variables on a way hold what was written there last. -/
theorem tells_of_mem {way : List Nat} (h : w.Told vs log) (hway : w.store.Way i way) {j : Nat}
    (hj : j ∈ way) : w.store.Tells log (w.store.bindingsOf j) :=
  h.tells _ (h.bindingsOf_mem hway hj)

/-- Where another scope is added that has watched variables, the others are still told of. -/
theorem push {c : Scope} {parent : Option Nat} (h : w.Told vs log)
    (hscopes : w'.store.scopes = w.store.scopes.push c) (hc : c.parent = parent.elim .none .scope)
    (hparent : ∀ j ∈ parent, j < w.store.scopes.size) (hb : c.bindings ∈ vs)
    (hleaves : ∀ b ∈ vs, w.Leaves b w') : w'.Told vs log where
  forest := h.forest.push hscopes hc hparent
  watched i hi := by
    rw [Store.bindingsOf_push hscopes]
    split
    next => exact hb
    next hne =>
      rw [hscopes, Array.size_push] at hi
      exact h.watched i (by omega)
  tells b hb := by
    obtain ⟨m, hm, hget⟩ := h.tells b hb
    exact ⟨m, hleaves b hb m hm, hget⟩
  logged := h.logged

/-- Variables are watched from when they are empty. -/
theorem watch (h : w.Told vs log) (hempty : w.store.HoldsStruct b {}) (hnew : b ∉ vs) :
    w.Told (b :: vs) log where
  forest := h.forest
  watched i hi := List.mem_cons_of_mem _ (h.watched i hi)
  tells c hc := by
    obtain rfl | hc := List.mem_cons.1 hc
    · refine ⟨{}, hempty, fun k => ?_⟩
      rw [lastWritten_of_forall_ne fun e he heq => hnew (by rw [← heq]; exact h.logged e he)]
      rfl
    · exact h.tells c hc
  logged e he := List.mem_cons_of_mem _ (h.logged e he)

/-- A write in watched variables is told of, and nothing else changes. -/
theorem setBody (h : w.Told vs log) (hb : b ∈ vs) (k : Key) (x : Value)
    {m : OrderedMap Key Value} (hm : w.store.HoldsStruct b m)
    (hget : ∀ k, m.get? k = lastWritten log b k) (card : Option Value)
    (hw : w'.store = w.store.setBody b (.struct (m.insert k x) card)) :
    w'.Told vs (log ++ [⟨b, k, x⟩]) where
  forest := by
    rw [hw]
    exact h.forest.of_scopes (Store.scopes_setBody ..)
  watched i hi := by
    rw [hw, Store.scopes_setBody] at hi
    rw [hw, Store.bindingsOf_of_scopes (Store.scopes_setBody ..)]
    exact h.watched i hi
  tells c hc := by
    rw [hw]
    exact (h.tells c hc).written hm hget k x card
  logged e he := by
    obtain he | rfl := List.mem_append.1 he |>.imp_right List.mem_singleton.1
    · exact h.logged e he
    · exact hb

end World.Told

/-- Whether a value is an instance whose class gives it a text, by a method that does nothing
    else. -/
structure Store.Labels (s : Store) (v : Value) (t : String) : Prop where
  plain : s.body? v = some .plain
  method : ∃ owner g f, s.declaredSpecial? (s.kindOf v) "__str__" = some (owner, g) ∧
    s.body? g = some (.function f) ∧ Param.Takes f.params 1 ∧ f.body = .literal (.text t)

namespace World

open Run Host

variable {w u : World} {v : Value} {t : String}

/-- New objects do not change what class an instance is of, nor what that class does. -/
theorem Grows.labels (hgrows : w.Grows u) (h : w.store.Labels v t) : u.store.Labels v t where
  plain := hgrows.body? h.plain
  method := by
    obtain ⟨owner, g, f, hstr, hg, htakes, hbody⟩ := h.method
    obtain ⟨o, ho, -⟩ := Option.map_eq_some_iff.1 h.plain
    refine ⟨owner, g, f, ?_, hgrows.body? hg, htakes, hbody⟩
    rw [Store.kindOf_of_deref? (hgrows.deref? ho), ← hstr, Store.kindOf_of_deref? ho]
    obtain ⟨os, n, rfl⟩ := hgrows
    rfl

/-- The text is told by calling the method on the instance, for which new objects are made. -/
theorem exists_textOf_of_labels (h : w.store.Labels v t) (depth : Nat) :
    ∃ u, textOf (callAt (depth + 2)) v w = (.ok t, u) ∧ w.Grows u := by
  obtain ⟨owner, g, f, hstr, hg, htakes, hbody⟩ := h.method
  obtain ⟨i, w₁, hattach, hgrows₁, hbound⟩ := exists_alloc_eq w
    { kind := .library .boundMethod, body := .bound g v }
  replace hbound : w₁.store.body? (.object i) = some (.bound g v) := by
    rw [Store.body?, hbound, Option.map_some]
  -- The parameters are filled with the receiver, for which tuples or maps may be made.
  have hroom : Param.Takes f.params [v].length := htakes
  obtain ⟨bound, u, hparams, hgrows₂, -⟩ := exists_bindParams_eq hroom w₁
  have hcall : callAt (depth + 2) (.object i) {} w₁ = (.ok (.text t), u) := by
    rw [callAt_bound hbound, callAt_function (hgrows₁.body? hg)]
    rw [bind_of_ok (x := bindParams f.params { positional := [v] }) hparams, hbody]
    rfl
  have hentry : callEntry (callAt (depth + 2)) v g [] w = (.ok (.text t), u) := by
    have hplain : bindPlainly v (w.store.kindOf v) g w = (.ok (.object i), w₁) := by
      cases g with
      | object j =>
        unfold bindPlainly
        dsimp only
        rw [bind_of_ok (body?_apply w _), hg]
        exact hattach
      | _ => cases hg
    rw [callEntry, bind_of_ok (kindOf_apply w v), bind_of_ok hplain]
    exact hcall
  have hspecial :
      callSpecial? (callAt (depth + 2)) v "__str__" [] w = (.ok (some (.text t)), u) := by
    rw [callSpecial?, bind_of_ok (store_apply w), bind_of_ok (kindOf_apply w v), hstr]
    dsimp only
    rw [bind_of_ok hentry]
    rfl
  refine ⟨u, ?_, hgrows₁.trans hgrows₂⟩
  cases v with
  | object j =>
    unfold textOf
    dsimp only
    rw [bind_of_ok hspecial]
    rfl
  | _ => cases h.plain

/-- An instance whose class gives it a text stands for the key of that text. -/
theorem spells_of_labels (h : w.store.Labels v t) (vs : List Value) {n : Nat} (hn : 2 ≤ n) :
    w.Spells vs n v (.ofText t) t := by
  -- Asking makes new objects, and nothing else.
  refine ⟨w.Grows, .refl w, fun z hz => ?_⟩
  have hlabels := hz.labels h
  obtain ⟨i, rfl⟩ : ∃ i, v = .object i := by
    cases v with
    | object i => exact ⟨i, rfl⟩
    | _ => cases h.plain
  have htext {depth : Nat} (hdepth : 2 ≤ depth) : ∃ z', textOf (callAt depth) (.object i) z =
      (.ok t, z') ∧ w.Grows z' ∧ z.KeepsScopes vs z' := by
    obtain ⟨d, rfl⟩ := Nat.exists_eq_add_of_le' hdepth
    obtain ⟨z', ht, hgrows⟩ := exists_textOf_of_labels hlabels d
    exact ⟨z', ht, hz.trans hgrows, hgrows.keepsScopes vs⟩
  refine ⟨fun depth hdepth => ?_, htext (by omega)⟩
  obtain ⟨z', ht, hz'⟩ := htext (show 2 ≤ depth by simp at hdepth; omega)
  refine ⟨z', ?_, hz'⟩
  have hkey : z.store.key? (.object i) = none := by simp only [Store.key?, hlabels.plain]
  have hscalar : z.store.scalar (.object i) = .object i := by
    simp only [Store.scalar, hlabels.plain]
  rw [keyOf, bind_of_ok (store_apply z), hkey]
  dsimp only
  rw [bind_of_ok ht, hscalar]
  rfl

end World

/-! ### Looking up a variable -/

namespace Host

open Run

variable {w : World} {log : List Written} {i : Nat} {way : List Nat} {k : Key}

/-- Variables that tell what was written have a key exactly if something was written under it. -/
theorem bindingsHave_eq (call : Call) {b : Value} (hb : w.store.Tells log b) (k : Key) :
    bindingsHave call b k w = (.ok (lastWritten log b k).isSome, w) := by
  obtain ⟨m, hm, hget⟩ := hb
  obtain ⟨card, hbody⟩ := hm.body
  rw [bindingsHave, bind_of_ok (body?_apply w b), bind_of_ok (kindOf_apply w b), hbody, hm.kind,
    ← hget]
  rfl

/-- A scope asks its own variables, and then its parent. -/
theorem ownerFrom_succ (call : Call) {c : Scope} (hc : w.store.scopes[i]? = some c)
    (htells : w.store.Tells log (w.store.bindingsOf i)) (k : Key) (fuel : Nat) :
    ownerFrom call k (fuel + 1) (.scope i) w =
      if (lastWritten log (w.store.bindingsOf i) k).isSome then
        (.ok (some (.scope i, w.store.bindingsOf i)), w)
      else ownerFrom call k fuel c.parent w := by
  have hhave := bindingsHave_eq call htells k
  have hb : w.store.bindingsOf i = c.bindings := by rw [Store.bindingsOf, hc, Option.elim_some]
  rw [hb] at hhave ⊢
  rw [ownerFrom, bind_of_ok (store_apply w), hc]
  dsimp only
  rw [bind_of_ok hhave]
  split <;> rfl

/-- The scopes on the way are asked one after the other. -/
theorem ownerFrom_eq (call : Call) (hway : w.store.Way i way)
    (htells : ∀ j ∈ way, w.store.Tells log (w.store.bindingsOf j)) (k : Key) {fuel : Nat}
    (hfuel : way.length ≤ fuel) :
    ownerFrom call k fuel (.scope i) w =
      (.ok ((w.store.nearest? log way k).map fun e =>
        (.scope e.1, w.store.bindingsOf e.1)), w) := by
  -- The induction is on the way to the root, with one step of fuel for each scope on it.
  induction hway generalizing fuel with
  | @root i c hc hparent =>
    obtain ⟨fuel, rfl⟩ := Nat.exists_eq_add_of_le' (show 1 ≤ fuel from hfuel)
    rw [ownerFrom_succ call hc (htells i List.mem_cons_self), Store.nearest?, List.findSome?_cons,
      hparent]
    cases lastWritten log (w.store.bindingsOf i) k with
    | some x => rfl
    | none => cases fuel <;> rfl
  | @inner i j c way hc hparent hway ih =>
    obtain ⟨fuel, rfl⟩ := Nat.exists_eq_add_of_le' (Nat.one_le_of_lt hfuel)
    rw [ownerFrom_succ call hc (htells i List.mem_cons_self), Store.nearest?, List.findSome?_cons,
      hparent]
    cases lastWritten log (w.store.bindingsOf i) k with
    | some x => rfl
    | none =>
      exact ih (fun j hj => htells j (List.mem_cons_of_mem _ hj)) (Nat.le_of_succ_le_succ hfuel)

/-- The library answers for a scope, whatever kind of scope it is. -/
theorem specials_scope (call : Call) (i : Nat) (name : String) (args : List Value)
    (h : ∀ l ∈ [LibraryKind.scope, .classScope],
      l.lineage.find? (·.hasSpecial name) = some .scope) (w : World) :
    callSpecial? call (.scope i) name args w = (.ok none, w) ∧
      librarySpecial? (.scope i) name w = (.ok (some .scope), w) := by
  have hkind : ∃ l ∈ [LibraryKind.scope, .classScope],
      w.store.kindOf (.scope i) = .library l := by
    rw [Store.kindOf]
    split <;> simp
  obtain ⟨l, hl, hkind⟩ := hkind
  exact ⟨callSpecial?_of_library hkind _ _, librarySpecial?_of_library hkind (h l hl)⟩

end Host

namespace World.Told

open Run Host

variable {vs : List Value} {log : List Written} {w u : World} {n i : Nat} {way : List Nat}
  {v : Value} {k : Key} {t : String}

/-- A scope's owner of a variable is the nearest one in whose variables it was written. -/
theorem findOwner_eq {call : Call} (h : w.Told vs log) (hway : w.store.Way i way)
    (hkey : keyOf call v w = (.ok k, u)) (hkeeps : w.KeepsScopes vs u) :
    findOwner call i v w =
      (.ok ((w.store.nearest? log way k).map fun e =>
        (.scope e.1, w.store.bindingsOf e.1)), u) := by
  have hway' : u.store.Way i way := hway.of_scopes hkeeps.scopes
  have hlimit : way.length ≤ scopeLimit u.store := by
    have := hway'.length_le
    unfold scopeLimit
    omega
  have hown := ownerFrom_eq call hway' (fun j hj => (h.aside hkeeps).tells_of_mem hway' hj) k hlimit
  rw [Store.nearest?_of_scopes hkeeps.scopes] at hown
  simp only [Store.bindingsOf_of_scopes hkeeps.scopes] at hown
  rw [findOwner, bind_of_ok hkey, bind_of_ok (store_apply u)]
  exact hown

/-- What the owner's variables hold was written last there. -/
theorem getItem_nearest {call : Call} (h : w.Told vs log) (hway : w.store.Way i way)
    (hkey : keyOf call v w = (.ok k, u)) (hkeeps : w.KeepsScopes vs u) {e : Nat × Value}
    (he : w.store.nearest? log way k = some e) :
    getItem call (w.store.bindingsOf e.1) v w = (.ok e.2, u) := by
  obtain ⟨j, hj, hlast⟩ := List.exists_of_findSome?_eq_some he
  obtain ⟨x, hx, rfl⟩ := Option.map_eq_some_iff.1 hlast
  obtain ⟨m, hm, hget⟩ := h.tells_of_mem hway hj
  rw [getItem_struct_eq hm hkey (hkeeps.leaves _ (h.bindingsOf_mem hway hj) m hm), hget, hx]
  rfl

/-- A variable is read from its nearest owner. The key is made for the owner to be found, and once
    more by the owner's variables, or for the message if there is none. -/
theorem getItem_scope_eq (h : w.Told vs log) (hway : w.store.Way i way)
    (hspells : w.Spells vs n v k t) :
    w.Yields vs (getItem (callAt (n + 1)) (.scope i) v)
      ((w.store.nearest? log way k).elim (.error (.host .keyError (Quoted.text t))) (.ok ·.2)) := by
  obtain ⟨hown, hlibrary⟩ := specials_scope (callAt (n + 1)) i "__getitem__" [v] (by decide) w
  obtain ⟨u, hkey, hagain, hkeeps⟩ := hspells.exists_keyOf (List.mem_cons_of_mem _ (.head _))
  have hway' : u.store.Way i way := hway.of_scopes hkeeps.scopes
  have hnearest : u.store.nearest? log way k = w.store.nearest? log way k :=
    Store.nearest?_of_scopes hkeeps.scopes ..
  unfold World.Yields getItem
  rw [bind_of_ok hown]
  dsimp only
  rw [bind_of_ok hlibrary]
  dsimp only
  rw [bind_of_ok (h.findOwner_eq hway hkey hkeeps)]
  -- Without an owner the text is asked for once more, to name it in the message.
  cases he : w.store.nearest? log way k with
  | none =>
    obtain ⟨u', htext, hkeeps'⟩ := hagain.exists_textOf
    refine ⟨u', ?_, hkeeps.trans hkeeps'⟩
    dsimp only [Option.map_none]
    rw [bind_of_ok htext]
    rfl
  | some e =>
    obtain ⟨u', hkey', -, hkeeps'⟩ := hagain.exists_keyOf (.head _)
    refine ⟨u', ?_, hkeeps.trans hkeeps'⟩
    have hget := (h.aside hkeeps).getItem_nearest hway' hkey' hkeeps' (hnearest.trans he)
    rwa [Store.bindingsOf_of_scopes hkeeps.scopes] at hget

/-- A scope contains a key exactly if the nearest scope that has it is found. -/
theorem contains_scope_eq {call : Call} (h : w.Told vs log) (hway : w.store.Way i way)
    (hkey : w.Yields vs (keyOf call v) (.ok k)) :
    w.Yields vs (contains call (.scope i) v) (.ok (w.store.nearest? log way k).isSome) := by
  obtain ⟨hown, hlibrary⟩ := specials_scope call i "__contains__" [v] (by decide) w
  obtain ⟨u, hkey, hkeeps⟩ := hkey
  refine ⟨u, ?_, hkeeps⟩
  unfold contains
  rw [bind_of_ok hown]
  dsimp only
  rw [bind_of_ok hlibrary]
  dsimp only
  rw [bind_of_ok (h.findOwner_eq hway hkey hkeeps)]
  cases w.store.nearest? log way k <;> rfl

/-- The owner of a key is the nearest scope that has it, or nothing. -/
theorem find_owner_eq {call : Call} (h : w.Told vs log) (hway : w.store.Way i way)
    (hkey : w.Yields vs (keyOf call v) (.ok k)) :
    w.Yields vs (Native.invokeScope call (.scope i) "find_owner" [some v])
      (.ok ((w.store.nearest? log way k).elim .none (.scope ·.1))) := by
  obtain ⟨u, hkey, hkeeps⟩ := hkey
  refine ⟨u, ?_, hkeeps⟩
  rw [Native.invokeScope]
  rw [bind_of_ok (x := Native.scopeLookup call (.scope i) v) (h.findOwner_eq hway hkey hkeeps)]
  cases w.store.nearest? log way k <;> rfl

/-- A variable is read with something in its place if there is no owner. -/
theorem get_eq (h : w.Told vs log) (hway : w.store.Way i way) (hspells : w.Spells vs n v k t)
    (d : Value) :
    w.Yields vs (Native.invokeScope (callAt (n + 1)) (.scope i) "get" [some v, some d])
      (.ok ((w.store.nearest? log way k).elim d (·.2))) := by
  obtain ⟨u, hkey, hagain, hkeeps⟩ := hspells.exists_keyOf (List.mem_cons_of_mem _ (.head _))
  unfold World.Yields
  rw [Native.invokeScope]
  rw [bind_of_ok (x := Native.scopeLookup (callAt (n + 1)) (.scope i) v)
    (h.findOwner_eq hway hkey hkeeps)]
  cases he : w.store.nearest? log way k with
  | none => exact ⟨u, rfl, hkeeps⟩
  | some e =>
    obtain ⟨u', hkey', -, hkeeps'⟩ := hagain.exists_keyOf (List.mem_cons_of_mem _ (.head _))
    refine ⟨u', ?_, hkeeps.trans hkeeps'⟩
    have hnearest := (Store.nearest?_of_scopes hkeeps.scopes log way k).trans he
    have hget := (h.aside hkeeps).getItem_nearest (hway.of_scopes hkeeps.scopes) hkey' hkeeps'
      hnearest
    rwa [Store.bindingsOf_of_scopes hkeeps.scopes] at hget

end World.Told

/-! ### Writing a variable -/

namespace Host

open Run

variable {w u u' : World} {vs : List Value} {log : List Written} {n i : Nat} {inst b v : Value}
  {k : Key}

/-- A variable is written in the variables of the scope itself, once its key is made. -/
theorem exists_setItem_scope_eq {m m' : OrderedMap Key Value} (x : Value)
    (hi : i < w.store.scopes.size) (hb : w.store.HoldsStruct (w.store.bindingsOf i) m')
    (hkey : keyOf (callAt n) v w = (.ok k, u))
    (hb' : u.store.HoldsStruct (w.store.bindingsOf i) m) : ∃ card,
    setItem (callAt (n + 1)) (.scope i) v x w = (.ok (),
      { u with
          store := u.store.setBody (w.store.bindingsOf i) (.struct (m.insert k x) card) }) := by
  have hc := Array.getElem?_eq_getElem hi
  rw [Store.bindingsOf, hc, Option.elim_some] at hb hb' ⊢
  obtain ⟨card, hset⟩ := exists_setItem_struct_eq x hb hkey hb'
  obtain ⟨hown, hlibrary⟩ := specials_scope (callAt (n + 1)) i "__setitem__" [v, x] (by decide) w
  refine ⟨card, ?_⟩
  unfold setItem
  rw [bind_of_ok hown]
  dsimp only
  rw [bind_of_ok hlibrary]
  dsimp only
  rw [bind_of_ok (store_apply w), hc]
  have hsilent : operate (callAt (n + 1)) "setitem" [w.store.scopes[i].bindings, v, x] w =
      (.ok .none, _) := bind_of_ok hset
  exact bind_of_ok hsilent

/-- Writes among the variables of an instance. -/
def setVariable (call : Call) (inst v x : Value) : Run Unit := do
  setItem call (← getAttr call inst "variables_scope") v x

end Host

namespace World.Told

open Run Host

variable {vs : List Value} {log : List Written} {w w' u u' : World} {n i : Nat} {inst b v : Value}
  {k : Key}

/-- What is written in a scope is done in the world in which its key was made, and told of. -/
theorem exists_setItem_eq (h : w.Told vs log) (x : Value) (hi : i < w.store.scopes.size)
    (hkey : w.Yields vs (keyOf (callAt n) v) (.ok k)) :
    ∃ w', setItem (callAt (n + 1)) (.scope i) v x w = (.ok (), w') ∧
      w'.store.scopes = w.store.scopes ∧
      w'.Told vs (log ++ [⟨w.store.bindingsOf i, k, x⟩]) := by
  obtain ⟨u, hkey, hkeeps⟩ := hkey
  have hb := h.watched i hi
  obtain ⟨m, hm, hget⟩ := h.tells _ hb
  have hm' := hkeeps.leaves _ hb m hm
  obtain ⟨card, hset⟩ := exists_setItem_scope_eq x hi hm hkey hm'
  exact ⟨_, hset, (Store.scopes_setBody ..).trans hkeeps.scopes,
    (h.aside hkeeps).setBody hb k x hm' hget card rfl⟩

/-- What is written among the variables of an instance is done, and told of. -/
theorem exists_setVariable_eq (h : w.Told vs log) (x : Value)
    (hinst : getAttr (callAt (n + 1)) inst "variables_scope" w = (.ok b, u))
    (hkeeps : w.KeepsScopes vs u) (hb : b ∈ vs)
    (hkey : u.Yields vs (keyOf (callAt (n + 1)) v) (.ok k)) :
    ∃ w', setVariable (callAt (n + 1)) inst v x w = (.ok (), w') ∧
      w'.store.scopes = w.store.scopes ∧ w'.Told vs (log ++ [⟨b, k, x⟩]) := by
  obtain ⟨u', hkey, hkeeps'⟩ := hkey
  have hu := h.aside hkeeps
  obtain ⟨m, hm, hget⟩ := hu.tells b hb
  have hm' := hkeeps'.leaves b hb m hm
  obtain ⟨card, hset⟩ := exists_setItem_struct_eq x hm hkey hm'
  exact ⟨_, (bind_of_ok hinst).trans hset,
    (Store.scopes_setBody ..).trans (hkeeps.trans hkeeps').scopes,
    (hu.aside hkeeps').setBody hb k x hm' hget card rfl⟩

end World.Told

/-! ### New scopes -/

/-- Which struct a value is depends on the objects alone. -/
theorem Store.HoldsStruct.of_objects {s s' : Store} {v : Value} {m : OrderedMap Key Value}
    (h : s.HoldsStruct v m) (hobjects : s'.objects = s.objects) : s'.HoldsStruct v m := by
  obtain ⟨i, rfl⟩ := h.exists_eq_object
  obtain ⟨hkind, card, hbody⟩ := h
  refine ⟨?_, card, ?_⟩
  · rw [kindOf, hobjects]
    exact hkind
  · rw [body?, deref?, hobjects]
    exact hbody

namespace Run

variable {w u : World}

/-- A new scope has variables that are new and empty. -/
theorem exists_newScope_eq (parent : Value) (svc : Option ServiceId) (w : World) :
    ∃ b u w', newScope parent svc w = (.ok w.store.scopes.size, w') ∧
      (u.store.scopes = w.store.scopes ∧ ∀ v, w.Leaves v u) ∧
      (u.store.HoldsStruct b {} ∧ ∀ m, ¬ w.store.HoldsStruct b m) ∧
      w'.store.scopes =
        u.store.scopes.push { parent, bindings := b, service := svc, owner := none } ∧
      ∀ v, u.Leaves v w' := by
  obtain ⟨i, u, hnew, hgrows, ho⟩ := exists_alloc_eq w
    { kind := .library .struct, body := .struct {} none }
  -- The variables are the next object, so no struct there was can be them.
  obtain rfl : w.store.objects.size = i := by cases hnew; rfl
  have hscopes : u.store.scopes = w.store.scopes := by
    obtain ⟨os, n, rfl⟩ := hgrows
    rfl
  have hempty : u.store.HoldsStruct (.object w.store.objects.size) {} :=
    ⟨Store.kindOf_of_deref? ho, none, by rw [Store.body?, ho, Option.map_some]⟩
  let c : Scope :=
    { parent, bindings := .object w.store.objects.size, service := svc, owner := none }
  let u' : World := { u with store := { u.store with scopes := u.store.scopes.push c } }
  refine ⟨_, u, u', ?_, ⟨hscopes, hgrows.leaves⟩, ⟨hempty, fun m hm => ?_⟩, rfl,
    fun _ _ hm => hm.of_objects rfl⟩
  · rw [newScope, bind_of_ok (x := Host.newStruct {}) hnew, ← hscopes]
    rfl
  · obtain ⟨card, hbody⟩ := hm.body
    simp [Store.body?, Store.deref?] at hbody

/-- A new class scope shares the variables of its instance. -/
theorem exists_newClassScope_eq {call : Call} {inst b : Value} (parent : Value)
    (hinst : Host.getAttr call inst "variables_scope" w = (.ok b, u)) :
    ∃ w', newClassScope call parent inst w = (.ok u.store.scopes.size, w') ∧
      w'.store.scopes =
        u.store.scopes.push { parent, bindings := b, service := none, owner := some inst } ∧
      ∀ v, u.Leaves v w' :=
  ⟨_, bind_of_ok hinst, rfl, fun _ _ hm => hm.of_objects rfl⟩

end Run

/-! ### Histories of scopes -/

/-- Whether scopes were made, and variables written, in some order up to a moment. The variables
    that are watched had no entries when that began; a scope has its own, or those of an instance.
    To make a key, or to ask an instance for its variables, may run functions of scripts. Between
    such steps anything may happen that leaves the scopes and the watched variables alone. -/
inductive Scoping (n : Nat) : List Value → List Written → World → Prop where
  | start {vs : List Value} {w : World} (hforest : w.store.Forest)
    (hwatched : ∀ i < w.store.scopes.size, w.store.bindingsOf i ∈ vs)
    (hempty : ∀ b ∈ vs, w.store.HoldsStruct b {}) : Scoping n vs [] w
  | watch {vs : List Value} {log : List Written} {w : World} {b : Value} (h : Scoping n vs log w)
    (hempty : w.store.HoldsStruct b {}) (hnew : b ∉ vs) : Scoping n (b :: vs) log w
  | scope {vs : List Value} {log : List Written} {w w' : World} {svc : Option ServiceId} {i : Nat}
    (h : Scoping n vs log w) (parent : Option Nat)
    (hparent : ∀ j ∈ parent, j < w.store.scopes.size)
    (hmake : Run.newScope (parent.elim .none .scope) svc w = (.ok i, w')) :
    Scoping n (w'.store.bindingsOf i :: vs) log w'
  | classScope {vs : List Value} {log : List Written} {w u w' : World} {inst b : Value} {i : Nat}
    (h : Scoping n vs log w) (parent : Option Nat)
    (hparent : ∀ j ∈ parent, j < w.store.scopes.size)
    (hinst : Host.getAttr (Host.callAt (n + 1)) inst "variables_scope" w = (.ok b, u))
    (hkeeps : w.KeepsScopes vs u) (hb : b ∈ vs)
    (hmake : Run.newClassScope (Host.callAt (n + 1)) (parent.elim .none .scope) inst w =
      (.ok i, w')) : Scoping n vs log w'
  | written {vs : List Value} {log : List Written} {w w' : World} {i : Nat} {v x : Value} {k : Key}
    {r : Except Fault Unit} (h : Scoping n vs log w) (hi : i < w.store.scopes.size)
    (hkey : w.Yields vs (Host.keyOf (Host.callAt n) v) (.ok k))
    (hset : Host.setItem (Host.callAt (n + 1)) (.scope i) v x w = (r, w')) :
    Scoping n vs (log ++ [⟨w.store.bindingsOf i, k, x⟩]) w'
  | writtenOwn {vs : List Value} {log : List Written} {w u w' : World} {inst b v x : Value}
      {k : Key}
    {r : Except Fault Unit} (h : Scoping n vs log w)
    (hinst : Host.getAttr (Host.callAt (n + 1)) inst "variables_scope" w = (.ok b, u))
    (hkeeps : w.KeepsScopes vs u) (hb : b ∈ vs)
    (hkey : u.Yields vs (Host.keyOf (Host.callAt (n + 1)) v) (.ok k))
    (hset : Host.setVariable (Host.callAt (n + 1)) inst v x w = (r, w')) :
    Scoping n vs (log ++ [⟨b, k, x⟩]) w'
  | aside {vs : List Value} {log : List Written} {w w' : World} (h : Scoping n vs log w)
    (hkeeps : w.KeepsScopes vs w') : Scoping n vs log w'

namespace Scoping

open Run Host

variable {vs : List Value} {log : List Written} {w : World} {n : Nat}

/-- Whatever was done in some order, it is told what the variables hold. -/
theorem told (h : Scoping n vs log w) : w.Told vs log := by
  induction h with
  | start hforest hwatched hempty =>
    refine ⟨hforest, hwatched, fun b hb => ⟨{}, hempty b hb, fun k => rfl⟩, fun e he => ?_⟩
    cases he
  | watch _ hempty hnew ih => exact ih.watch hempty hnew
  | @scope vs log w w' svc i _ parent hparent hmake ih =>
    -- A new scope has new variables, which are empty, so they are watched from now on.
    obtain ⟨b, u, _, heq, ⟨hsame, hleaves⟩, ⟨hempty, hnew⟩, hscopes, hleaves'⟩ :=
      exists_newScope_eq (parent.elim .none .scope) svc w
    rw [hmake] at heq
    cases heq
    have hb : w'.store.bindingsOf w.store.scopes.size = b := by
      rw [Store.bindingsOf_push hscopes, if_pos (congrArg _ hsame.symm)]
    have hfresh : b ∉ vs := fun hmem => by
      obtain ⟨m, hm, -⟩ := ih.tells b hmem
      exact hnew m hm
    rw [hb]
    refine ((ih.aside ⟨hsame, fun v _ => hleaves v⟩).watch hempty hfresh).push hscopes rfl ?_
      List.mem_cons_self fun v _ => hleaves' v
    rwa [hsame]
  | @classScope vs log w u w' inst b i _ parent hparent hinst hkeeps hb hmake ih =>
    obtain ⟨_, heq, hscopes, hleaves⟩ :=
      exists_newClassScope_eq (parent.elim .none .scope) hinst
    rw [hmake] at heq
    cases heq
    refine (ih.aside hkeeps).push hscopes rfl ?_ hb fun b _ => hleaves b
    rwa [hkeeps.scopes]
  | written _ hi hkey hset ih =>
    -- A write tells of itself and leaves the other variables as they were.
    obtain ⟨_, heq, -, htold⟩ := ih.exists_setItem_eq _ hi hkey
    rw [hset] at heq
    cases heq
    exact htold
  | writtenOwn _ hinst hkeeps hb hkey hset ih =>
    obtain ⟨_, heq, -, htold⟩ := ih.exists_setVariable_eq _ hinst hkeeps hb hkey
    rw [hset] at heq
    cases heq
    exact htold
  | aside _ hkeeps ih => exact ih.aside hkeeps

end Scoping

/-! ### What scopes say -/

/-- Whether a scope looks a variable up as the writes tell: its owner is the nearest scope in whose
    variables something was written under the key, and what was written there last is the value. -/
structure World.LooksUp (w : World) (vs : List Value) (n i : Nat) (log : List Written)
    (way : List Nat) (v : Value) (k : Key) (t : String) : Prop where
  owner : w.Yields vs (Native.invokeScope (Host.callAt (n + 1)) (.scope i) "find_owner" [some v])
    (.ok ((w.store.nearest? log way k).elim .none (.scope ·.1)))
  has : w.Yields vs (Host.contains (Host.callAt (n + 1)) (.scope i) v)
    (.ok (w.store.nearest? log way k).isSome)
  get : ∀ d, w.Yields vs
    (Native.invokeScope (Host.callAt (n + 1)) (.scope i) "get" [some v, some d])
    (.ok ((w.store.nearest? log way k).elim d (·.2)))
  item : w.Yields vs (Host.getItem (Host.callAt (n + 1)) (.scope i) v)
    ((w.store.nearest? log way k).elim (.error (.host .keyError (Quoted.text t))) (.ok ·.2))

/-- Whether a write comes to something: no lookup on any way changes by it but for its key, and then
    only if the nearest owner has the variables that were written, and the value is what was
    written. -/
structure World.Records (w w' : World) (n : Nat) (vs : List Value) (log : List Written)
    (e : Written) : Prop where
  scoping : Scoping n vs (log ++ [e]) w'
  scopes : w'.store.scopes = w.store.scopes
  lookups : ∀ way k, w'.store.nearest? (log ++ [e]) way k = w.store.nearest? log way k ∨
    k.folded = e.key.folded ∧ ∃ j ∈ way, w.store.bindingsOf j = e.bindings ∧
      w'.store.nearest? (log ++ [e]) way k = some (j, e.value)

namespace Scoping

open Run Host

variable {vs : List Value} {log : List Written} {w : World} {n : Nat}

/-- What is recorded once the last write is done, if it added no scope. -/
theorem records {w' : World} {e : Written} (h : Scoping n vs (log ++ [e]) w')
    (hscopes : w'.store.scopes = w.store.scopes) : w.Records w' n vs log e where
  scoping := h
  scopes := hscopes
  lookups way k := by
    rw [Store.nearest?_of_scopes hscopes]
    exact w.store.nearest?_concat log e way k

/-- **The nearest scope counts.** Whatever scopes were made, and whatever was written as a variable,
    in any order: from every scope there is a way to a root, the variables on it hold what was
    written there last, and a variable is looked up along it, by any value that stands for the same
    key each time it is asked. Every write in a scope, or among the variables of an instance, is
    done, and changes a lookup only where the nearest scope then has the variables that were
    written. -/
theorem nearest_counts (h : Scoping n vs log w) :
    (∀ i < w.store.scopes.size, ∃ way, w.store.Way i way ∧
      (∀ j ∈ way, w.store.Tells log (w.store.bindingsOf j)) ∧
      ∀ v k t, w.Spells vs n v k t → w.LooksUp vs n i log way v k t) ∧
    (∀ i < w.store.scopes.size, ∀ v k x, w.Yields vs (keyOf (callAt n) v) (.ok k) →
      ∃ w', setItem (callAt (n + 1)) (.scope i) v x w = (.ok (), w') ∧
        w.Records w' n vs log ⟨w.store.bindingsOf i, k, x⟩) ∧
    (∀ inst, ∀ b ∈ vs, ∀ u, getAttr (callAt (n + 1)) inst "variables_scope" w = (.ok b, u) →
      w.KeepsScopes vs u → ∀ v k x, u.Yields vs (keyOf (callAt (n + 1)) v) (.ok k) →
        ∃ w', setVariable (callAt (n + 1)) inst v x w = (.ok (), w') ∧
          w.Records w' n vs log ⟨b, k, x⟩) := by
  -- The invariant of the history is what the log says of each scope.
  have htold := h.told
  refine ⟨fun i hi => ?_, fun i hi v k x hkey => ?_, fun inst b hb u hinst hkeeps v k x hkey => ?_⟩
  · obtain ⟨way, hway⟩ := htold.forest.exists_way hi
    refine ⟨way, hway, fun j hj => htold.tells_of_mem hway hj, fun v k t hspells => ?_⟩
    have hkey := hspells.yields (List.mem_cons_of_mem _ (.head _))
    exact
      { owner := htold.find_owner_eq hway hkey
        has := htold.contains_scope_eq hway hkey
        get := htold.get_eq hway hspells
        item := htold.getItem_scope_eq hway hspells }
  · obtain ⟨w', hset, hscopes, -⟩ := htold.exists_setItem_eq x hi hkey
    exact ⟨w', hset, (h.written hi hkey hset).records hscopes⟩
  · obtain ⟨w', hset, hscopes, -⟩ := htold.exists_setVariable_eq x hinst hkeeps hb hkey
    exact ⟨w', hset, (h.writtenOwn hinst hkeeps hb hkey hset).records hscopes⟩

end Scoping

/-! ### An instance below the root -/

/-- A root scope, an instance of a scripted class whose variables are empty, an instance of a class
    whose text is another one each time, and one of a class whose text is always the same. -/
def depot : World where
  store :=
    { objects := #[
        { kind := .library .struct, body := .struct {} none },
        { kind := .library .struct, body := .struct {} none },
        { kind := .declared 0, body := .plain, attrs := ⟨[("variables_scope", .object 1)]⟩ },
        { kind := .library .function,
          body := .function ⟨"__str__", [⟨"self", .normal, none, none⟩],
            .cond (.attr "day")
              (.sequence [.setAttr "day" (.literal (.bool false)), .literal (.text "rate")])
              (.sequence [.setAttr "day" (.literal (.bool true)), .literal (.text "fee")]),
            true, { owner := some (.declared 1) }⟩ },
        { kind := .declared 1, body := .plain, attrs := ⟨[("day", .bool true)]⟩ },
        { kind := .library .function,
          body := .function ⟨"__str__", [⟨"self", .normal, none, none⟩], .literal (.text "rate"),
            true, { owner := some (.declared 2) }⟩ },
        { kind := .declared 2, body := .plain }]
      classes := #[
        { name := "Depot", qualifiedName := "Depot", home := some "host",
          bases := [.library .scripted],
          lineage := .declared 0 :: LibraryKind.scripted.lineage.map .library,
          metaclass := .type },
        { name := "Sign", qualifiedName := "Sign", home := some "host", bases := [.library .object],
          lineage := [.declared 1, .library .object], metaclass := .type,
          attrs := ⟨[("__str__", .object 3)]⟩ },
        { name := "Label", qualifiedName := "Label", home := some "host",
          bases := [.library .object], lineage := [.declared 2, .library .object],
          metaclass := .type, attrs := ⟨[("__str__", .object 5)]⟩ }]
      scopes := #[
        { parent := .none, bindings := .object 0, service := some .main, owner := none }] }

/-- The class scope of the instance finds its own variable before that of the root, and the root
    does not find it. The variable is also found by an instance whose text is its name. -/
theorem nearest_counts_depot : ∃ w₁ w₂ w₃,
    Run.newClassScope Host.callValue (.scope 0) (.object 2) depot = (.ok 1, w₁) ∧
    Host.setItem Host.callValue (.scope 0) (.text "Rate") (.int 1) w₁ = (.ok (), w₂) ∧
    Host.setItem Host.callValue (.scope 1) (.text "rate") (.int 2) w₂ = (.ok (), w₃) ∧
    (Host.getItem Host.callValue (.scope 1) (.text "RATE") w₃).1 = .ok (.int 2) ∧
    (Host.getItem Host.callValue (.scope 1) (.object 6) w₃).1 = .ok (.int 2) ∧
    (Host.getItem Host.callValue (.scope 0) (.text "RATE") w₃).1 = .ok (.int 1) := by
  have hstart : Scoping 999 [.object 0, .object 1] [] depot := by
    refine .start (fun i c hc => ?_) (by decide) ?_
    · obtain ⟨hi, rfl⟩ := Array.getElem?_eq_some_iff.1 hc
      obtain rfl : i = 0 := Nat.lt_one_iff.1 hi
      exact .inl rfl
    · intro b hb
      obtain rfl | rfl : b = .object 0 ∨ b = .object 1 := by simpa using hb
      · exact ⟨rfl, none, rfl⟩
      · exact ⟨rfl, none, rfl⟩
  have hinst : Host.getAttr Host.callValue (.object 2) "variables_scope" depot =
      (.ok (.object 1), depot) := rfl
  obtain ⟨w₁, hmake, hscopes₁, -⟩ := Run.exists_newClassScope_eq (.scope 0) hinst
  have h₁ : Scoping 999 [.object 0, .object 1] [] w₁ :=
    .classScope hstart (some 0) (by decide) hinst (.refl depot) (by decide) hmake
  obtain ⟨w₂, hset₂, hrecords₂⟩ := (Scoping.nearest_counts h₁).2.1 0 (by rw [hscopes₁]; decide)
    (.text "Rate") (.ofText "Rate") (.int 1) ⟨w₁, rfl, .refl w₁⟩
  have hscopes₂ := hrecords₂.scopes.trans hscopes₁
  obtain ⟨w₃, hset₃, hrecords₃⟩ := (Scoping.nearest_counts hrecords₂.scoping).2.1 1
    (by rw [hscopes₂]; decide) (.text "rate") (.ofText "rate") (.int 2) ⟨w₂, rfl, .refl w₂⟩
  have hscopes₃ := hrecords₃.scopes.trans hscopes₂
  have hbindings {w : World} (h : w.store.scopes = w₁.store.scopes) :
      w.store.bindingsOf 0 = .object 0 ∧ w.store.bindingsOf 1 = .object 1 := by
    rw [Store.bindingsOf, Store.bindingsOf, h, hscopes₁]
    exact ⟨rfl, rfl⟩
  let log : List Written :=
    [⟨.object 0, .ofText "Rate", .int 1⟩, ⟨.object 1, .ofText "rate", .int 2⟩]
  have h₃ : Scoping 999 [.object 0, .object 1] log w₃ := by
    have h := hrecords₃.scoping
    rwa [(hbindings rfl).1, (hbindings hrecords₂.scopes).2] at h
  have hc₀ : w₃.store.scopes[0]? = depot.store.scopes[0]? := by
    rw [hscopes₃]
    rfl
  have hc₁ : w₃.store.scopes[1]? = some
      { parent := .scope 0, bindings := .object 1, service := none,
        owner := some (.object 2) } := by
    rw [hscopes₃]
    rfl
  have hroot : w₃.store.Way 0 [0] := .root hc₀ rfl
  have hinner : w₃.store.Way 1 [1, 0] := .inner hc₁ rfl hroot
  have hread (i : Nat) (hi : i < 2) {way : List Nat} (hway : w₃.store.Way i way) {v : Value}
      {k : Key} {t : String} (hspells : w₃.Spells [.object 0, .object 1] 999 v k t) {j : Nat}
      {x : Value} (hnearest : w₃.store.nearest? log way k = some (j, x)) :
      (Host.getItem Host.callValue (.scope i) v w₃).1 = .ok x := by
    obtain ⟨way', hway', -, hlooks⟩ := (Scoping.nearest_counts h₃).1 i (by rw [hscopes₃]; exact hi)
    obtain ⟨u, hitem, -⟩ := (hlooks _ _ _ hspells).item
    rw [← hway.unique hway', hnearest] at hitem
    exact congrArg Prod.fst hitem
  obtain ⟨hb₀, hb₁⟩ := hbindings (hscopes₃.trans hscopes₁.symm)
  have hnearest₁ {t : String} (ht : foldCase t = "rate") :
      w₃.store.nearest? log [1, 0] (.ofText t) = some (1, .int 2) := by
    have hlast : lastWritten log (.object 1) (.ofText t) = some (.int 2) := by
      have hown : foldCase "rate" = "rate" := by decide +kernel
      simp [log, lastWritten, Key.folded, Key.ofText, ht, hown]
    rw [Store.nearest?, List.findSome?_cons, hb₁, hlast]
    rfl
  have hnearest₀ : w₃.store.nearest? log [0] (.ofText "RATE") = some (0, .int 1) := by
    have hlast : lastWritten log (.object 0) (.ofText "RATE") = some (.int 1) := by decide +kernel
    rw [Store.nearest?, List.findSome?_cons, hb₀, hlast]
    rfl
  -- The writes leave the instance and its class as they were.
  have hlabels : w₃.store.Labels (.object 6) "rate" := by
    obtain rfl : w₁ = _ := (congrArg Prod.snd hmake).symm
    obtain rfl : w₂ = _ := (congrArg Prod.snd hset₂).symm
    obtain rfl : w₃ = _ := (congrArg Prod.snd hset₃).symm
    exact ⟨rfl, .declared 2, .object 5, _, rfl, rfl,
      ⟨by decide, by decide, by simp [Param.MustBeNamed]⟩, rfl⟩
  have htext := w₃.spells_text [.object 0, .object 1] 999 "RATE"
  exact ⟨w₁, w₂, w₃, hmake, hset₂, hset₃,
    hread 1 (by decide) hinner htext (hnearest₁ (by decide +kernel)),
    hread 1 (by decide) hinner (World.spells_of_labels hlabels _ (by decide))
      (hnearest₁ (by decide +kernel)),
    hread 0 (by decide) hroot htext hnearest₀⟩

/-- A value that stands for another key when it is asked again is found, and then missing. -/
theorem changing_key_missing_depot :
    let w := (Host.setItem Host.callValue (.scope 0) (.text "rate") (.int 1) depot).2
    let ask (name : String) (args : List Value) :=
      (Native.invokeScope Host.callValue (.scope 0) name (args.map some) w).1
    ask "find_owner" [.object 4] = .ok (.scope 0) ∧
      ask "get" [.object 4, .int 7] = .error Host.keyMissing := by
  decide +kernel

end ScriptBridge
