import Mathlib.Control.Monad.Basic
import ScriptBridge.Eval
import ScriptBridge.Proofs.Asked
import ScriptBridge.Proofs.ScopeMark

namespace ScriptBridge

/-!
# Calls that pass the scope

Scripts call a callable by its arguments, and the scope they call it from is passed along if the
callable asks for it. The answer is remembered as a mark, which other callables may show. As long as
none of them shows a wrong one, what was called before makes no difference.

* `Store.Honest` is a callable that answers as its own parameters do;
* `Store.Accords` relates two callables of which one may remember its answer without misleading the
  other, and `Store.answer_keepMark_eq_iff` says that this is all that counts;
* `Store.Spares` is what may happen between two calls;
* `ScopedCall.run_of_asksPlainly` is one call, `ScopedCall.passes_scope` one among many.
-/

/-! ### Answers -/

namespace Store

variable {s t : Store} {f g : Value} {p q : MarkPlace} {m : Value}

open Host (scopeMark)

/-- The answer that a callable gives: what the mark that is seen on it says, else what its own
    parameters do. -/
def answer (s : Store) (f : Value) : Bool :=
  match s.seenMark f with
  | some m => m == .bool true
  | none => s.asksScope f

/-- The store after a callable was asked: it remembers its answer if no mark is seen on it. -/
def afterAsking (s : Store) (f : Value) : Store :=
  match s.seenMark f with
  | some _ => s
  | none => s.keepMark f (s.asksScope f)

/-- Whether the answer of a callable is that of its own parameters. -/
structure Honest (s : Store) (f : Value) : Prop extends s.AsksPlainly f where
  answer_eq : s.answer f = s.asksScope f

/-- Whether the answer that one callable remembers is right for another one, if that takes it for
    its own. -/
def Accords (s : Store) (f g : Value) : Prop :=
  ∀ p, s.markPlace? f = some p → p ∈ s.markLine g → s.asksScope f = s.asksScope g

instance : Decidable (s.Accords f g) :=
  inferInstanceAs (Decidable (∀ p, s.markPlace? f = some p → p ∈ s.markLine g →
    s.asksScope f = s.asksScope g))

/-- On a callable that was not asked no mark is seen, so its parameters answer. -/
theorem Honest.of_unmarked (h : s.AsksPlainly f) (hseen : s.seenMark f = none) : s.Honest f where
  toAsksPlainly := h
  answer_eq := by rw [answer, hseen]

/-! ### What a mark changes for others -/

/-- A mark that is put at one place is not seen at another. -/
theorem markAt_putMark_of_ne (hq : q ≠ p) : (s.putMark p m).markAt q = s.markAt q := by
  cases p with
  | object i =>
    cases q with
    | object j =>
      have hj : (.object j : Value) ≠ .object i := fun h => hq (by injection h with h; rw [h])
      rw [markAt, markAt, putMark, deref?_modify_of_ne s hj]
    | «class» k => cases k <;> rfl
  | «class» k =>
    cases q with
    | object j => cases k <;> rfl
    | «class» k' =>
      have hk : k' ≠ k := fun h => hq (by rw [h])
      rw [markAt, markAt, putMark, s.classAttrs_setClassAttr_of_ne hk]

/-- A mark is at the place where it was put, if that is there. -/
theorem markAt_putMark_self :
    (s.putMark p m).markAt p = some m ∨ (s.putMark p m).markAt p = s.markAt p := by
  cases p with
  | object i =>
    rw [markAt, markAt, putMark, deref?_modify_self]
    cases s.deref? (.object i) with
    | some o => exact .inl (o.attrs.get?_insert_self scopeMark m)
    | none => exact .inr rfl
  | «class» k =>
    rw [markAt, markAt, putMark, classAttrs_setClassAttr_self]
    split
    · exact .inl ((s.classAttrs k).get?_insert_self scopeMark m)
    · exact .inr rfl

/-- The place where a callable keeps its mark is there. -/
theorem markAt_putMark_markPlace (hp : s.markPlace? f = some p) :
    (s.putMark p m).markAt p = some m := by
  cases f with
  | object i =>
    rw [markPlace?] at hp
    split at hp
    next htakes =>
      cases hp
      rw [markAt, putMark, deref?_modify_self]
      cases ho : s.deref? (.object i) with
      | some o => exact o.attrs.get?_insert_self scopeMark m
      | none =>
        simp [takesAttrs, ho] at htakes
    next => cases hp
  -- Only a class that is open has a place, and that is the class itself.
  | kind k =>
    have hplace : s.classPlace? k = some p := hp
    obtain rfl : .class k = p := by
      cases k with
      | declared i | library l =>
        have h := (Option.ite_none_right_eq_some.1 hplace).2
        injection h
      | _ => cases hplace
    rw [markAt, putMark, classAttrs_setClassAttr_self, hplace]
    exact (s.classAttrs k).get?_insert_self scopeMark m
  | _ => cases hp

/-- A mark that is put somewhere is seen, or nothing changes. -/
theorem seenMark_putMark (s : Store) (p : MarkPlace) (m : Value) (f : Value) :
    (s.putMark p m).seenMark f = s.seenMark f ∨
      p ∈ s.markLine f ∧ (s.putMark p m).seenMark f = some m := by
  rw [seenMark, seenMark, (s.alikeButMarks_putMark p m).markLine]
  induction s.markLine f with
  | nil => exact .inl rfl
  | cons q rest ih =>
    -- At each place on the line the mark is the old one, or it is there that it was put.
    have hq : (s.putMark p m).markAt q = s.markAt q ∨
        q = p ∧ (s.putMark p m).markAt q = some m := by
      by_cases hq : q = p
      · subst hq
        exact markAt_putMark_self.symm.imp_right fun h => ⟨rfl, h⟩
      · exact .inl (markAt_putMark_of_ne hq)
    rw [List.findSome?_cons, List.findSome?_cons]
    obtain hq | ⟨rfl, hq⟩ := hq
    · rw [hq]
      cases s.markAt q with
      | some x => exact .inl rfl
      | none => exact ih.imp_right fun h => ⟨List.mem_cons_of_mem _ h.1, h.2⟩
    · rw [hq]
      exact .inr ⟨List.mem_cons_self, rfl⟩

/-- A callable is asked plainly in a store with other marks, if the marks in its line are
    answers. -/
theorem AlikeButMarks.asksPlainly (h : s.AlikeButMarks t) (hf : s.AsksPlainly f)
    (hmarks : ∀ p ∈ s.markLine f, ∀ m, t.markAt p = some m → ∃ b, m = .bool b) :
    t.AsksPlainly f where
  noScope := hf.noScope
  special n hn := by
    have hmark : n ≠ scopeMark := by
      rintro rfl
      revert hn
      decide
    rw [h.kindOf, h.declaredSpecial? _ hmark, hf.special n hn]
  marks := by rw [h.markLine]; exact hmarks

/-- A callable is asked plainly still after a mark has been put somewhere. -/
theorem AsksPlainly.putMark (hf : s.AsksPlainly f) (p : MarkPlace) (b : Bool) :
    (s.putMark p (.bool b)).AsksPlainly f := by
  refine (s.alikeButMarks_putMark p _).asksPlainly hf fun q hq m hm => ?_
  by_cases hqp : q = p
  · subst hqp
    obtain hself | hself := markAt_putMark_self (s := s) (p := q) (m := .bool b)
    · rw [hself] at hm
      exact ⟨b, by injection hm with hm; exact hm.symm⟩
    · rw [hself] at hm
      exact hf.marks q hq m hm
  · rw [markAt_putMark_of_ne hqp] at hm
    exact hf.marks q hq m hm

/-! ### Callables that are asked -/

/-- Keeping a mark changes marks alone. -/
theorem alikeButMarks_keepMark (s : Store) (f : Value) (b : Bool) :
    s.AlikeButMarks (s.keepMark f b) := by
  rw [keepMark]
  cases s.markPlace? f with
  | some p => exact s.alikeButMarks_putMark p (.bool b)
  | none => exact .refl s

/-- A callable is asked plainly still after another has been remembered. -/
theorem AsksPlainly.keepMark (hg : s.AsksPlainly g) (f : Value) (b : Bool) :
    (s.keepMark f b).AsksPlainly g := by
  rw [Store.keepMark]
  cases s.markPlace? f with
  | some p => exact hg.putMark p b
  | none => exact hg

/-- A callable stays honest when another one remembers its answer, if the two accord. -/
theorem Honest.keepMark (hg : s.Honest g) (haccords : s.Accords f g) :
    (s.keepMark f (s.asksScope f)).Honest g where
  toAsksPlainly := hg.toAsksPlainly.keepMark f _
  answer_eq := by
    rw [(s.alikeButMarks_keepMark f _).asksScope, answer, (s.alikeButMarks_keepMark f _).asksScope,
      Store.keepMark]
    cases hp : s.markPlace? f with
    | none => exact hg.answer_eq
    | some p =>
      obtain hseen | ⟨hline, hseen⟩ := s.seenMark_putMark p (.bool (s.asksScope f)) g
      · simp only [hseen]
        exact hg.answer_eq
      · simp only [hseen]
        rw [haccords p hp hline]
        cases s.asksScope g <;> rfl

/-- After a callable was asked for the first time, another one that was not asked before answers by
    its own parameters exactly if the two accord. -/
theorem answer_keepMark_eq_iff (hg : s.seenMark g = none) :
    (s.keepMark f (s.asksScope f)).answer g = s.asksScope g ↔ s.Accords f g := by
  have hasks := (s.alikeButMarks_keepMark f (s.asksScope f)).asksScope g
  rw [answer, hasks, Accords, keepMark]
  cases hp : s.markPlace? f with
  | none => simp [hg]
  | some p =>
    obtain hseen | ⟨hline, hseen⟩ := s.seenMark_putMark p (.bool (s.asksScope f)) g
    · -- The mark is at its place and yet not seen, so the place is not one of the callable's.
      have hline : p ∉ s.markLine g := by
        intro hline
        rw [hg, seenMark, (s.alikeButMarks_putMark p _).markLine,
          List.findSome?_eq_none_iff] at hseen
        have hmark := hseen p hline
        rw [markAt_putMark_markPlace hp] at hmark
        cases hmark
      simp [hseen, hg, hline]
    -- The mark is seen, so the other one answers as the first would.
    · simp only [hseen, Option.some.injEq, forall_eq']
      constructor
      · intro h _
        rw [← h]
        cases s.asksScope f <;> rfl
      · intro h
        rw [h hline]
        cases s.asksScope g <;> rfl

/-! ### Callables of one program -/

/-- Whether some callables are honest, and each of them may be asked. -/
structure Conform (s : Store) (fs : List Value) : Prop where
  honest : ∀ f ∈ fs, s.Honest f
  accords : ∀ f ∈ fs, ∀ g ∈ fs, s.Accords f g

/-- Whether a callable is asked for its mark in one store as in another. -/
structure AlikeFor (s t : Store) (f : Value) : Prop where
  line : t.markLine f = s.markLine f
  place : t.markPlace? f = s.markPlace? f
  asks : t.asksScope f = s.asksScope f
  special : ∀ n ∈ ["__getattribute__", "__getattr__", "__setattr__"],
    t.declaredSpecial? (t.kindOf f) n = s.declaredSpecial? (s.kindOf f) n
  marks : ∀ p ∈ s.markLine f, t.markAt p = s.markAt p

/-- Whether a store comes from another one by what leaves the marks of some callables to them: other
    things may change, and callables may be asked. -/
inductive Spares (fs : List Value) : Store → Store → Prop
  | refl (s : Store) : Spares fs s s
  | other {s t u : Store} (h : Spares fs s t) (halike : ∀ f ∈ fs, t.AlikeFor u f) : Spares fs s u
  | asked {s t : Store} {f : Value} (h : Spares fs s t) (hf : f ∈ fs) :
    Spares fs s (t.afterAsking f)

namespace AlikeFor

instance : Decidable (s.AlikeFor t f) :=
  decidable_of_iff
    (t.markLine f = s.markLine f ∧ t.markPlace? f = s.markPlace? f ∧ t.asksScope f = s.asksScope f ∧
      (∀ n ∈ ["__getattribute__", "__getattr__", "__setattr__"],
        t.declaredSpecial? (t.kindOf f) n = s.declaredSpecial? (s.kindOf f) n) ∧
      ∀ p ∈ s.markLine f, t.markAt p = s.markAt p)
    ⟨fun ⟨h₁, h₂, h₃, h₄, h₅⟩ => ⟨h₁, h₂, h₃, h₄, h₅⟩,
      fun ⟨h₁, h₂, h₃, h₄, h₅⟩ => ⟨h₁, h₂, h₃, h₄, h₅⟩⟩

variable (h : s.AlikeFor t f)
include h

/-- A callable sees the same mark if the marks in its line are the same. -/
theorem seenMark : t.seenMark f = s.seenMark f := by
  have hmarks := h.marks
  rw [Store.seenMark, Store.seenMark, h.line]
  revert hmarks
  induction s.markLine f with
  | nil => exact fun _ => rfl
  | cons p rest ih =>
    intro hmarks
    have hrest := ih fun q hq => hmarks q (List.mem_cons_of_mem p hq)
    rw [List.findSome?_cons, List.findSome?_cons, hmarks p List.mem_cons_self, hrest]

/-- A callable is honest still if the marks in its line are the same. -/
theorem honest (hf : s.Honest f) : t.Honest f where
  noScope := hf.noScope
  special n hn := by rw [h.special n hn, hf.special n hn]
  marks p hp := by
    rw [h.line] at hp
    rw [h.marks p hp]
    exact hf.marks p hp
  answer_eq := by rw [answer, h.seenMark, h.asks]; exact hf.answer_eq

end AlikeFor

/-- Whether two callables accord is told by where one keeps its mark, where the other looks for one,
    and what both ask for. -/
theorem Accords.of_eq (h : s.Accords f g) (hplace : t.markPlace? f = s.markPlace? f)
    (hline : t.markLine g = s.markLine g) (hasks : ∀ v ∈ [f, g], t.asksScope v = s.asksScope v) :
    t.Accords f g := by
  intro p hp hpg
  rw [hplace] at hp
  rw [hline] at hpg
  rw [hasks f (by simp), hasks g (by simp)]
  exact h p hp hpg

/-- Asking one of the callables leaves them as they should be. -/
theorem Conform.afterAsking {fs : List Value} (h : s.Conform fs) (hf : f ∈ fs) :
    (s.afterAsking f).Conform fs ∧ ∀ g ∈ fs, (s.afterAsking f).asksScope g = s.asksScope g := by
  rw [Store.afterAsking]
  cases s.seenMark f with
  | some m => exact ⟨h, fun _ _ => rfl⟩
  | none =>
    have hkeep := s.alikeButMarks_keepMark f (s.asksScope f)
    refine ⟨⟨fun g hg => (h.honest g hg).keepMark (h.accords f hf g hg), fun g hg k hk => ?_⟩,
      fun g _ => hkeep.asksScope g⟩
    exact (h.accords g hg k hk).of_eq (hkeep.markPlace? g) (hkeep.markLine k)
      fun v _ => hkeep.asksScope v

/-- What leaves the marks of some callables to them leaves the callables as they should be. -/
theorem Spares.conform {fs : List Value} (hspares : Spares fs s t) (h : s.Conform fs) :
    t.Conform fs ∧ ∀ f ∈ fs, t.asksScope f = s.asksScope f := by
  -- Between two askings, whatever else happens leaves the callables alike.
  induction hspares with
  | refl => exact ⟨h, fun _ _ => rfl⟩
  | other _ halike ih =>
    obtain ⟨hconform, hasks⟩ := ih
    refine ⟨⟨fun f hf => (halike f hf).honest (hconform.honest f hf), fun f hf g hg => ?_⟩,
      fun f hf => (halike f hf).asks.trans (hasks f hf)⟩
    refine (hconform.accords f hf g hg).of_eq (halike f hf).place (halike g hg).line fun v hv => ?_
    simp only [List.mem_cons, List.not_mem_nil, or_false] at hv
    obtain rfl | rfl := hv
    · exact (halike _ hf).asks
    · exact (halike _ hg).asks
  | asked _ hf ih =>
    obtain ⟨hconform, hasks⟩ := ih
    obtain ⟨hafter, hafter_asks⟩ := hconform.afterAsking hf
    exact ⟨hafter, fun g hg => (hafter_asks g hg).trans (hasks g hg)⟩

end Store

/-! ### Calls -/

/-- Arguments before the scope is added to them. -/
structure Given where
  positional : List Value
  named : List (String × Value) := []

/-- The arguments that a callable is called with: the scope under its name if it is passed, and what
    was given. -/
def Given.toArgs (g : Given) (scope : Value) (passes : Bool) : Args :=
  let context : OrderedMap String Value := if passes then .ofList [("context", scope)] else {}
  { positional := g.positional, named := (context.insertAll g.named).entries }

/-- A key is looked up in the pairs of a map as in the map. -/
theorem OrderedMap.lookup_entries {α : Type} (m : OrderedMap String α) (k : String) :
    m.entries.lookup k = m.get? k := by
  show _ = (OrderedMap.entryOf? k m.entries).map (·.2)
  induction m.entries with
  | nil => rfl
  | cons e rest ih =>
    obtain ⟨name, a⟩ := e
    rw [OrderedMap.entryOf?]
    show _ = Option.map _ (if name = k then _ else _)
    by_cases h : name = k
    · simp [h]
    · have hk : (k == name) = false := by simpa using Ne.symm h
      simp [List.lookup_cons, hk, h, ih]

/-- Setting other keys changes nothing about a key. -/
theorem OrderedMap.get?_insertAll_of_forall_ne {α : Type} {k : String} {pairs : List (String × α)}
    (h : ∀ p ∈ pairs, p.1 ≠ k) (m : OrderedMap String α) :
    (m.insertAll pairs).get? k = m.get? k := by
  induction pairs generalizing m with
  | nil => rfl
  | cons p rest ih =>
    have hp : p.1 ≠ k := h p List.mem_cons_self
    show ((m.insert p.1 p.2).insertAll rest).get? k = _
    rw [ih fun q hq => h q (List.mem_cons_of_mem p hq)]
    exact m.get?_insert_of_ne hp p.2

/-- If nothing is given under its name, the scope is there exactly if it is passed. -/
theorem Given.lookup_toArgs {g : Given} (h : ∀ p ∈ g.named, p.1 ≠ "context") (scope : Value)
    (passes : Bool) :
    (g.toArgs scope passes).named.lookup "context" = if passes then some scope else none := by
  rw [toArgs, OrderedMap.lookup_entries, OrderedMap.get?_insertAll_of_forall_ne h]
  cases passes <;> rfl

/-- A call of a callable from some scope, with values before the arguments: a registered function is
    given the value that it is called on. -/
structure ScopedCall where
  function : Value
  before : List Value
  scope : Value
  args : Value

namespace ScopedCall

open Run Host

variable (call : Call) (c : ScopedCall)

/-- Makes the call. -/
def run : Run Value := callFunction call c.function c.before c.scope c.args

/-- What is given: by name if the arguments are a map, else one after the other. -/
def given : Run Given := do
  if (← store).isInstance c.args .mapping then do
    let pairs ← (← mapPairs call c.args).mapM fun (k, v) => do return (← textOf call k, v)
    return ⟨c.before, pairs⟩
  else return ⟨c.before ++ (← itemsOf call c.args), []⟩

/-- Calls the callable with what is given, and with the scope if it is to be passed. -/
def passing (passes : Bool) : Run Value := do
  let g ← c.given call
  call c.function (g.toArgs c.scope passes)

/-- A call asks the callable first. -/
theorem run_eq :
    c.run call = acceptsScope call c.function >>= truth call >>= c.passing call := by
  rw [bind_assoc]
  refine bind_congr fun mark => bind_congr fun passes => ?_
  rw [passing, given, bind_assoc]
  refine bind_congr fun s => ?_
  cases s.isInstance c.args .mapping with
  | true =>
    simp only [if_true, bind_assoc, pure_bind]
    rfl
  | false =>
    simp only [Bool.false_eq_true, if_false, bind_assoc, pure_bind]
    rfl

/-- The world after the callable of the call was asked. -/
def asked (w : World) : World := { w with store := w.store.afterAsking c.function }

/-- The world in which one of some calls is made, after those before it. -/
def reached (w : World) (calls : List ScopedCall) (n : Nat) : World :=
  afterAll w ((calls.take n).map (run call))

variable {call c} {w : World}

/-- A callable that is asked plainly is called as it answers, after it was asked. -/
theorem run_of_asksPlainly (h : w.store.AsksPlainly c.function) :
    c.run call w = c.passing call (w.store.answer c.function) (c.asked w) := by
  have hasked := acceptsScope_eq call h
  have hanswer : (acceptsScope call c.function >>= truth call) w =
      (.ok (w.store.answer c.function), c.asked w) := by
    rw [asked, Store.answer, Store.afterAsking]
    cases hseen : w.store.seenMark c.function with
    | some m =>
      obtain ⟨b, rfl⟩ := h.exists_eq_bool hseen
      rw [hseen] at hasked
      rw [bind_of_ok hasked, truth_bool]
      cases b <;> rfl
    | none =>
      rw [hseen] at hasked
      rw [bind_of_ok hasked, truth_bool]
  rw [run_eq, bind_of_ok hanswer]

/-- Wherever some calls have come to, their callables are as they should be. -/
theorem conform_reached {fs : List Value} {calls : List ScopedCall}
    (hcalls : ∀ c ∈ calls, c.function ∈ fs) (hconform : w.store.Conform fs)
    (hspares : ∀ n (hn : n < calls.length),
      Store.Spares fs (calls[n].asked (reached call w calls n)).store
        (reached call w calls (n + 1)).store)
    {n : Nat} (hn : n ≤ calls.length) :
    (reached call w calls n).store.Conform fs ∧
      ∀ f ∈ fs, (reached call w calls n).store.asksScope f = w.store.asksScope f := by
  induction n with
  | zero => exact ⟨hconform, fun _ _ => rfl⟩
  | succ n ih =>
    obtain ⟨hbefore, hasks⟩ := ih (by omega)
    have hf : calls[n].function ∈ fs := hcalls _ (List.getElem_mem _)
    obtain ⟨hasked, hasked_asks⟩ := hbefore.afterAsking hf
    obtain ⟨hafter, hafter_asks⟩ := (hspares n hn).conform hasked
    refine ⟨hafter, fun f hf => ?_⟩
    rw [hafter_asks f hf]
    exact (hasked_asks f hf).trans (hasks f hf)

/-- **The scope is passed to those that ask for it.** Each of some calls passes the scope that it is
    made from under its name if the callable has a parameter of that name, and not otherwise,
    whatever was called before. The callables accord with each other, and what is done between their
    calls leaves the marks to them. -/
theorem passes_scope {fs : List Value} {calls : List ScopedCall}
    (hcalls : ∀ c ∈ calls, c.function ∈ fs) (hconform : w.store.Conform fs)
    (hspares : ∀ n (hn : n < calls.length),
      Store.Spares fs (calls[n].asked (reached call w calls n)).store
        (reached call w calls (n + 1)).store)
    {n : Nat} (hn : n < calls.length) :
    let c := calls[n]
    let u := reached call w calls n
    let passes := w.store.asksScope c.function
    c.run call u = c.passing call passes (c.asked u) ∧
      ∀ g : Given, (∀ p ∈ g.named, p.1 ≠ "context") →
        (g.toArgs c.scope passes).named.lookup "context" =
          if passes then some c.scope else none := by
  intro c u passes
  obtain ⟨hreached, hasks⟩ := conform_reached hcalls hconform hspares (Nat.le_of_lt hn)
  have hf : c.function ∈ fs := hcalls c (List.getElem_mem hn)
  have hhonest : u.store.Honest c.function := hreached.honest _ hf
  have hpasses : u.store.answer c.function = passes := hhonest.answer_eq.trans (hasks _ hf)
  refine ⟨?_, fun g hg => g.lookup_toArgs hg c.scope passes⟩
  rw [run_of_asksPlainly hhonest.toAsksPlainly, hpasses]

end ScopedCall

/-! ### Two classes and a function -/

/-- A function that asks for the scope, a class that does not, one that inherits from it and does,
    and an empty list. -/
def switchboard : World where
  store :=
    let function (name : String) (params : List String) : Object :=
      { kind := .library .function,
        body := .function
          ⟨name, params.map fun p => ⟨p, .normal, none, none⟩, .literal .none, true, {}⟩ }
    { objects := #[
        function "announce" ["context"],
        function "__init__" ["self"],
        function "__init__" ["self", "context"],
        { kind := .library .list, body := .list [] }]
      classes := #[
        { name := "Quiet", qualifiedName := "Quiet", home := some "host",
          bases := [.library .object], lineage := [.declared 0, .library .object],
          metaclass := .type, attrs := ⟨[("__init__", .object 1)]⟩ },
        { name := "Asking", qualifiedName := "Asking", home := some "host",
          bases := [.declared 0], lineage := [.declared 1, .declared 0, .library .object],
          metaclass := .type, attrs := ⟨[("__init__", .object 2)]⟩ }] }

/-- A call from the main scope without arguments. -/
def ring (f : Value) : ScopedCall := ⟨f, [], .text "scope", .object 3⟩

/-- A call of the class that does not ask for the scope, and one of the function that does. -/
def rounds : List ScopedCall := [ring (.kind (.declared 0)), ring (.object 0)]

/-- No mark is anywhere. -/
theorem conform_switchboard : switchboard.store.Conform (rounds.map (·.function)) := by
  have hspecial : ∀ f ∈ rounds.map (·.function),
      ∀ n ∈ ["__getattribute__", "__getattr__", "__setattr__"],
        switchboard.store.declaredSpecial? (switchboard.store.kindOf f) n = none := by
    decide +kernel
  have hmarks : ∀ f ∈ rounds.map (·.function),
      ∀ p ∈ switchboard.store.markLine f, switchboard.store.markAt p = none := by decide +kernel
  constructor
  · intro f hf
    have hplain : switchboard.store.AsksPlainly f :=
      { noScope := fun i hi => by subst hi; revert hf; simp [rounds, ring]
        special := hspecial f hf
        marks := fun p hp m hm => by rw [hmarks f hf p hp] at hm; cases hm }
    exact .of_unmarked hplain (List.findSome?_eq_none_iff.2 (hmarks f hf))
  · decide +kernel

/-- The class makes an instance, and the function does nothing. -/
theorem spares_rounds : ∀ n (hn : n < rounds.length),
    Store.Spares (rounds.map (·.function))
      (rounds[n].asked (ScopedCall.reached Host.callValue switchboard rounds n)).store
      (ScopedCall.reached Host.callValue switchboard rounds (n + 1)).store := by
  have hfirst : Store.Spares (rounds.map (·.function))
      (rounds[0].asked (ScopedCall.reached Host.callValue switchboard rounds 0)).store
      (ScopedCall.reached Host.callValue switchboard rounds 1).store :=
    .other (.refl _) (by decide +kernel)
  have hsecond : Store.Spares (rounds.map (·.function))
      (rounds[1].asked (ScopedCall.reached Host.callValue switchboard rounds 1)).store
      (ScopedCall.reached Host.callValue switchboard rounds 2).store :=
    .other (.refl _) (by decide +kernel)
  intro n hn
  match n, hn with
  | 0, _ => exact hfirst
  | 1, _ => exact hsecond

/-- The function is given the scope also after the class was called. -/
theorem passes_scope_switchboard :
    let u := ScopedCall.reached Host.callValue switchboard rounds 1
    rounds[1].run Host.callValue u = rounds[1].passing Host.callValue true (rounds[1].asked u) ∧
      ∀ g : Given, (∀ p ∈ g.named, p.1 ≠ "context") →
        (g.toArgs (.text "scope") true).named.lookup "context" = some (.text "scope") := by
  have hasks : switchboard.store.asksScope rounds[1].function = true := by decide +kernel
  have hpasses := ScopedCall.passes_scope (n := 1)
    (fun c (hc : c ∈ rounds) => List.mem_map_of_mem hc) conform_switchboard spares_rounds
    (by decide)
  simp only [hasks, if_true] at hpasses
  exact hpasses

/-- A class that asks for the scope is not given it after the class that it inherits from was
    called. -/
theorem scope_withheld_switchboard :
    let quiet := ring (.kind (.declared 0))
    let asking := ring (.kind (.declared 1))
    let u := (quiet.run Host.callValue switchboard).2
    u.store.asksScope asking.function = true ∧ u.store.answer asking.function = false ∧
      (asking.run Host.callValue u).1 = .error .typeError ∧
      (asking.run Host.callValue switchboard).1 = .ok (.object 4) := by
  decide +kernel

end ScriptBridge
