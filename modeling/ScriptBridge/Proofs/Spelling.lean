import ScriptBridge.Eval
import ScriptBridge.Proofs.Folding
import ScriptBridge.Proofs.Inquiry
import ScriptBridge.Proofs.Serving

namespace ScriptBridge

/-!
# Spellings of a key

The spelling of a key matters to host maps and to host code that is handed the key. Everything else
goes by the folded name: of what a request does, the spelling shows in the wording of errors and in
the trace only.

* `Key.Respelled` relates two spellings of a word;
* `Run.Alike` relates operations that give the same, or fail with errors of the same kind, and leave
  the same world but for the trace;
* `Service.serve_alike` is the invariant along the wrappers of a target;
* `requests_alike`: two spellings of a key read and call alike.
-/

/-! ### Two spellings -/

/-- Whether two keys are spellings of the same word. -/
structure Key.Respelled (k k' : Key) : Prop where
  folded : k.folded = k'.folded
  isWord : k.reading = .word
  isWord' : k'.reading = .word

namespace Key.Respelled

variable {k k' : Key}

/-- Two spellings are the same key as any third. -/
theorem same_eq (h : k.Respelled k') : k.same = k'.same := by
  funext x
  rw [same, same, h.folded]

/-- A struct holds the same under both spellings. -/
theorem get?_eq {α : Type} (h : k.Respelled k') (m : OrderedMap Key α) : m.get? k = m.get? k' :=
  congrArg m.find? h.folded

/-- Either both spellings are empty, or none is. -/
theorem isEmpty_eq (h : k.Respelled k') : k.name.isEmpty = k'.name.isEmpty := by
  have hempty (x : Key) : x.folded = "" ↔ x.name.isEmpty = true := by
    rw [Key.folded, foldCase_eq_empty_iff, String.isEmpty_iff]
  rw [Bool.eq_iff_iff, ← hempty, ← hempty, h.folded]

end Key.Respelled

/-- Two texts that fold alike are the same key, or spellings of the same word. -/
theorem Key.eq_or_respelled {s t : String} (h : foldCase s = foldCase t) :
    s = t ∨ (Key.ofText s).Respelled (.ofText t) := by
  obtain heq | ⟨hs, ht⟩ := eq_or_words_of_foldCase_eq h
  · exact .inl heq
  · exact .inr ⟨h, by simp [reading, ofText, hs], by simp [reading, ofText, ht]⟩

/-! ### Operations that come out alike -/

/-- Whether two outcomes are the same but for the wording of a refusal. -/
inductive Outcome.Alike {α : Type} : Except Fault α → Except Fault α → Prop where
  | same (x : Except Fault α) : Alike x x
  | refused {r r' : Reason} (h : r.kind = r'.kind) :
      Alike (.error (.engine r)) (.error (.engine r'))

/-- Whether two operations come out alike at a world, and leave the same world but for the trace. -/
structure Run.Alike {α : Type} (x y : Run α) (w : World) : Prop where
  outcome : Outcome.Alike (x w).1 (y w).1
  world : ∃ lines, (y w).2 = (x w).2.withTrace lines

namespace Run.Alike

variable {α β : Type} {w : World} {x y : Run α}

/-- A request ends alike with itself. -/
theorem refl (x : Run α) (w : World) : Alike x x w := ⟨.same _, (x w).2.trace, rfl⟩

/-- Refusals of one kind are alike, whatever they say. -/
theorem refuse {r r' : Reason} (h : r.kind = r'.kind) :
    Alike (Run.refuse r : Run α) (Run.refuse r') w :=
  ⟨.refused h, w.trace, rfl⟩

/-- Only how the operations run at the world counts. -/
theorem congr (h : Alike x y w) {x' y' : Run α} (hx : x' w = x w) (hy : y' w = y w) :
    Alike x' y' w :=
  ⟨by rw [hx, hy]; exact h.outcome, by rw [hx, hy]; exact h.world⟩

/-- The trace is nothing to an operation. -/
theorem withTrace (h : Alike x y w) (lines : List String) :
    Outcome.Alike (x w).1 (y (w.withTrace lines)).1 ∧
      ∃ lines', (y (w.withTrace lines)).2 = (x w).2.withTrace lines' := by
  obtain ⟨t, ht⟩ := y.blind w lines
  obtain ⟨t', ht'⟩ := h.world
  rw [ht]
  exact ⟨h.outcome, t, by rw [ht', World.withTrace_withTrace]⟩

/-- What follows has to be alike only where the first operation succeeds. -/
theorem bind {f g : α → Run β} (h : Alike x y w)
    (hf : ∀ a w', x w = (.ok a, w') → Alike (f a) (g a) w') : Alike (x >>= f) (y >>= g) w := by
  obtain ⟨ho, t, hw⟩ := h
  -- Alike operations succeed together, and then with the same value.
  rcases hx : x w with ⟨e | a, u⟩ <;> rcases hy : y w with ⟨e' | a', u'⟩ <;> rw [hx, hy] at ho hw
  · obtain rfl : u' = u.withTrace t := hw
    refine ⟨?_, t, by rw [bind_of_error hx, bind_of_error hy]⟩
    rw [bind_of_error hx, bind_of_error hy]
    cases ho with
    | same => exact .same _
    | refused h => exact .refused h
  · -- If one fails and the other does not, they are not alike.
    cases ho
  · cases ho
  · cases ho
    obtain rfl : u' = u.withTrace t := hw
    obtain ⟨ho, hw⟩ := (hf a u hx).withTrace t
    exact ⟨by rw [bind_of_ok hx, bind_of_ok hy]; exact ho,
      by rw [bind_of_ok hx, bind_of_ok hy]; exact hw⟩

/-- After the same operation. -/
theorem bind_same (x : Run α) {f g : α → Run β}
    (hf : ∀ a w', x w = (.ok a, w') → Alike (f a) (g a) w') : Alike (x >>= f) (x >>= g) w :=
  (refl x w).bind hf

/-- Where the outcome is looked at, refusals of the same kind must be treated alike. -/
theorem outcome_bind {f g : Except Fault α → Run β} (h : Alike x y w)
    (hsame : ∀ o w', x w = (o, w') → Alike (f o) (g o) w')
    (hrefused : ∀ r r' w', r.kind = r'.kind →
      Alike (f (.error (.engine r))) (g (.error (.engine r'))) w') :
    Alike (Run.outcome x >>= f) (Run.outcome y >>= g) w := by
  obtain ⟨ho, t, hw⟩ := h
  rcases hx : x w with ⟨o, u⟩
  rcases hy : y w with ⟨o', u'⟩
  rw [hx, hy] at ho hw
  obtain rfl : u' = u.withTrace t := hw
  have hbind : (Run.outcome x >>= f) w = f o u := bind_of_ok (by rw [outcome_apply, hx])
  have hbind' : (Run.outcome y >>= g) w = g o' (u.withTrace t) :=
    bind_of_ok (by rw [outcome_apply, hy])
  -- Where both are refused the reasons may differ, and no more is known of them than their kind.
  have hrest : Alike (f o) (g o') u := by
    cases ho with
    | same => exact hsame o u hx
    | refused h => exact hrefused _ _ u h
  obtain ⟨ho, hw⟩ := hrest.withTrace t
  exact ⟨by rw [hbind, hbind']; exact ho, by rw [hbind, hbind']; exact hw⟩

/-- A test that both pass or both fail leads to branches that are compared in pairs. -/
theorem ite {p q : Prop} [Decidable p] [Decidable q] (hpq : p ↔ q) {a b c d : Run α}
    (ht : p → Alike a c w) (he : ¬ p → Alike b d w) :
    Alike (if p then a else b) (if q then c else d) w := by
  by_cases h : p
  · rw [if_pos h, if_pos (hpq.1 h)]
    exact ht h
  · rw [if_neg h, if_neg fun hq => h (hpq.2 hq)]
    exact he h

/-- Traces may differ in what they say. -/
theorem trace (svc : ServiceId) (parts parts' : List String) :
    Alike (Run.trace svc parts) (Run.trace svc parts') w := by
  obtain ⟨t, ht⟩ := w.exists_report_withTrace_eq w.trace svc (fun _ => [parts']) fun _ => [parts]
  exact ⟨.same _, t, ht⟩

end Run.Alike

/-! ### Lookups -/

namespace Resolver

/-- Searches that come out alike are answered alike, and leave the same memory. -/
theorem lookup_alike (r : Resolver) (key : LookupKey) (search search' : Unit → Except Fault Finding)
    (h : Outcome.Alike (search ()) (search' ())) :
    Outcome.Alike (r.lookup key search).1 (r.lookup key search').1 ∧
      (r.lookup key search).2 = (r.lookup key search').2 := by
  revert h
  -- A refusal is not remembered, so its wording leaves no trace in the memory.
  unfold lookup
  rcases search () with e | f <;> rcases search' () with e' | f' <;> intro h <;> cases h <;>
    cases r.enabled <;> cases r.cache.get? key <;>
    first
      | exact ⟨.same _, rfl⟩
      | exact ⟨.refused ‹_›, rfl⟩

end Resolver

namespace Inquiry

/-- Whether two inquiries are the same but for the spelling of a name. -/
inductive Respelled : Inquiry → Inquiry → Prop where
  | method (k : Kind) {name name' : Key} (h : name.Respelled name') (kinds : List Kind) :
      Respelled (.method k name kinds) (.method k name' kinds)
  | field (k : Kind) {name name' : Key} (h : name.Respelled name') :
      Respelled (.field k name) (.field k name')

namespace Respelled

variable {q q' : Inquiry}

/-- Respelled inquiries are remembered under the same key. -/
theorem key_eq (h : q.Respelled q') : q.key = q'.key := by
  cases h with
  | method k h kinds => rw [key, key, h.folded]
  | field k h => rw [key, key, h.folded]

/-- The classes are searched for the folded name. -/
theorem search_alike (h : q.Respelled q') (s : Store) (limit : Int) :
    Outcome.Alike (q.search s limit) (q'.search s limit) := by
  have hfound : q.found? s = q'.found? s := by
    cases h with
    | method k h kinds => rw [found?, found?, Store.discover?, Store.discover?, h.folded]
    | field k h => rw [found?, found?, Store.findField?, Store.findField?, h.folded]
  have hfailure : q.failure? s = q'.failure? s := by cases h <;> rfl
  have hmissing : (q.missing s limit).kind = (q'.missing s limit).kind := by cases h <;> rfl
  -- Only the refusal spells the name, and it is of one kind in both.
  unfold search
  rw [hfound, hfailure]
  split
  · exact .same _
  · exact .same _
  · exact .refused hmissing

/-- A resolver is asked for the folded name, and remembers by it. -/
theorem consult_alike {α : Type} (h : q.Respelled q') (svc : ServiceId) (view : Finding → α)
    (w : World) : (Run.consult svc q view).Alike (Run.consult svc q' view) w := by
  -- Both spellings have one key, so what is recalled and what is kept are the same.
  obtain ⟨ho, hr⟩ := (w.resolver svc).lookup_alike q.key (fun _ => w.search svc q)
    (fun _ => w.search svc q') (h.search_alike _ _)
  replace ho : Outcome.Alike (w.lookup svc q).1 (w.lookup svc q').1 := by
    rw [World.lookup, World.lookup, ← h.key_eq]
    exact ho
  replace hr : (w.lookup svc q).2 = (w.lookup svc q').2 := by
    rw [World.lookup, World.lookup, ← h.key_eq]
    exact hr
  obtain ⟨t, ht⟩ := Run.consult_apply w svc q view
  obtain ⟨t', ht'⟩ := Run.consult_apply w svc q' view
  refine ⟨?_, t', ?_⟩
  · rw [ht, ht']
    revert ho
    rcases (w.lookup svc q).1 with e | f <;> rcases (w.lookup svc q').1 with e' | f' <;>
      intro ho <;>
      cases ho
    · exact .same _
    · exact .refused ‹_›
    · exact .same _
  · rw [ht, ht', hr, World.withTrace_withTrace]

end Respelled

end Inquiry

namespace Service

open Run Host

variable {call : Call} {w : World} {k k' : Key}

/-- A resolver answers both spellings from the same place in its memory. -/
theorem inquire_alike {α : Type} {q q' : Inquiry} (h : q.Respelled q') (svc : ServiceId)
    (view : Finding → Option α) : (inquire svc q view).Alike (inquire svc q' view) w := by
  unfold inquire
  refine (h.consult_alike svc view w).bind fun found w _ => ?_
  cases found with
  | some a => exact .refl _ w
  | none =>
    refine .bind_same store fun s w _ => .bind_same (service svc) fun x w _ => .refuse ?_
    cases h <;> rfl

/-- The same field is found under both spellings. -/
theorem findField?_alike (h : k.Respelled k') (svc : ServiceId) (t : Target) :
    (findField? svc t k).Alike (findField? svc t k') w := by
  have hown (s : Store) : s.ownAttribute? t.inst k = s.ownAttribute? t.inst k' := by
    rw [Store.ownAttribute?, Store.ownAttribute?, h.folded]
  -- A refused search is followed by a look at the instance itself, whatever the refusal says.
  unfold findField?
  refine (inquire_alike (.field t.kind h) svc _).outcome_bind (fun o w _ => ?_) fun r r' w _ => ?_
  · simp only [hown]
    exact .refl _ w
  · simp only [hown]
    exact .refl _ w

/-- A field reads the same under both spellings, and is refused in the same way. -/
theorem readField_alike (h : k.Respelled k') (svc : ServiceId) (t : Target) (safe : Bool)
    (fallback : Option Value) :
    (readField call svc t k safe fallback).Alike (readField call svc t k' safe fallback) w := by
  unfold readField
  refine (findField?_alike h svc t).bind fun f w _ => ?_
  cases f with
  | none =>
    cases fallback with
    | some v => exact .refl _ w
    | none =>
      refine .ite Iff.rfl (fun _ => .refl _ w) fun _ => ?_
      exact .bind_same _ fun _ w _ => .bind_same _ fun _ w _ => .refuse rfl
  | some f => exact .ite Iff.rfl (fun _ => .refuse rfl) fun _ => .refl _ w

end Service

/-! ### Values that answer for themselves -/

/-- Whether a value is a struct that is read by the library's own method. -/
def Store.ReadsAsStruct (s : Store) (v : Value) : Prop :=
  s.libraryMethod? v "dereference" = some .struct ∧ ∃ m card, s.body? v = some (.struct m card)

namespace Container

open Run Host

variable {call : Call} {w : World} {k k' : Key} {v scope args : Value} {l : LibraryKind}
  {safe : Bool}

/-- The refusals of both spellings list the same keys. -/
theorem keyRefused_alike (members : Value) {reason reason' : Listing → List Value → Reason}
    (h : ∀ shown keys, (reason shown keys).kind = (reason' shown keys).kind) :
    (keyRefused call members reason).Alike (keyRefused call members reason') w :=
  .bind_same _ fun (shown, keys) _ _ => .refuse (h shown keys)

/-- A struct reads the same under both spellings. -/
theorem readStruct_alike (h : k.Respelled k') (v : Value) (m : OrderedMap Key Value) (safe : Bool) :
    (readStruct call v m k safe).Alike (readStruct call v m k' safe) w := by
  unfold readStruct
  rw [h.same_eq, h.get?_eq]
  refine .ite Iff.rfl (fun _ => .refl _ w) fun _ => ?_
  cases m.get? k' with
  | some x => exact .refl _ w
  | none => exact .ite Iff.rfl (fun _ => .refl _ w) fun _ => keyRefused_alike v fun _ _ => rfl

/-- A word is no index. -/
theorem readIndex_alike {α : Type} (h : k.Respelled k') (n : Int) (safe : Bool)
    (f : Option Int → Run α) :
    (orFail (k.readIndex n safe) >>= f).Alike (orFail (k'.readIndex n safe) >>= f) w := by
  rw [Key.readIndex, Key.readIndex, h.isWord, h.isWord']
  cases safe with
  | true => exact .refl _ w
  | false => exact ⟨.refused rfl, w.trace, rfl⟩

/-- An array takes both spellings for the same place, or for none. -/
theorem readArray_alike (h : k.Respelled k') (v : Value) (items : List Value) (safe : Bool) :
    (readArray call v items k safe).Alike (readArray call v items k' safe) w := by
  unfold readArray
  rw [h.same_eq]
  refine .ite Iff.rfl (fun _ => .refl _ w) fun _ => ?_
  exact .ite Iff.rfl (fun _ => .refl _ w) fun _ => readIndex_alike h _ safe _

/-- Whether the public members of a scripted instance are a struct that reads by the library's own
    method. -/
def PublicStruct (call : Call) (v : Value) (w : World) : Prop :=
  (publicScope call v).After w fun members w => w.store.ReadsAsStruct members

/-- A scripted instance with public members in a struct reads the same under both spellings. -/
theorem readScripted_alike (h : k.Respelled k') (hpublic : PublicStruct call v w) (scope : Value)
    (safe : Bool) :
    (readScripted call v scope k safe).Alike (readScripted call v scope k' safe) w := by
  unfold readScripted
  rw [h.same_eq]
  refine .ite Iff.rfl (fun _ => .refl _ w) fun _ => .bind_same _ fun members w hmembers => ?_
  obtain ⟨hmethod, m, card, hbody⟩ := hpublic members w hmembers
  refine Run.Alike.bind ?_ fun found w _ => ?_
  · have hread : (readStruct call members m k true).Alike (readStruct call members m k' true) w :=
      readStruct_alike h members m true
    refine hread.congr ?_ ?_
    all_goals rw [viaKeyed_apply hmethod, bind_of_ok (body?_apply w members), hbody]
  · refine .ite Iff.rfl (fun _ => .refl _ w) fun _ => ?_
    exact .bind_same _ fun type w _ => .bind_same _ fun members w _ =>
      keyRefused_alike members fun _ _ => rfl

/-- Whether a value reads keys by the library's own method, whatever their spelling. -/
def ReadsAnySpelling (call : Call) (v : Value) (w : World) : Prop :=
  ∃ l, w.store.libraryMethod? v "dereference" = some l ∧ l.holdsKeys ∧
    (l = .scripted → PublicStruct call v w)

/-- The library classes that hold keys read the same under both spellings. -/
theorem readNative_alike (h : k.Respelled k') (hl : l.holdsKeys)
    (hscripted : l = .scripted → PublicStruct call v w) (scope : Value) (safe : Bool) :
    (readNative call l v scope k safe).Alike (readNative call l v scope k' safe) w := by
  unfold readNative
  refine .bind_same _ fun b w' hb => ?_
  obtain rfl : w' = w := by cases hb; rfl
  split
  · exact readStruct_alike h ..
  · exact readArray_alike h ..
  · exact .refl _ _
  · exact .refl _ _
  · exact readScripted_alike h (hscripted rfl) scope safe
  · exact .refl _ _
  · cases l <;> simp_all [LibraryKind.holdsKeys]

/-- A value that answers by the library's methods reads the same under both spellings. -/
theorem read_alike (h : k.Respelled k') (hreads : ReadsAnySpelling call v w) (scope : Value)
    (safe : Bool) : (read call v scope k safe).Alike (read call v scope k' safe) w := by
  obtain ⟨l, hmethod, hl, hscripted⟩ := hreads
  refine (readNative_alike h hl hscripted scope safe).congr ?_ ?_
  · exact viaKeyed_apply hmethod ..
  · exact viaKeyed_apply hmethod ..

/-- What was read is called the same; the key is only named in a refusal. -/
theorem invokeValue_alike (k k' : Key) (scope owner x args : Value) :
    (invokeValue call scope owner k x args).Alike (invokeValue call scope owner k' x args) w := by
  unfold invokeValue
  refine .ite Iff.rfl (fun _ => .refl _ w) fun _ => .bind_same _ fun s w _ => ?_
  refine .ite Iff.rfl (fun _ => ?_) fun _ => .refl _ w
  exact .bind_same _ fun type w _ => .refuse rfl

/-- What is stored is called the same under both spellings. -/
theorem invokeStored_alike (h : k.Respelled k') (hreads : ReadsAnySpelling call v w)
    (scope args : Value) (safe : Bool) :
    (invokeStored call v scope k args safe).Alike (invokeStored call v scope k' args safe) w :=
  (read_alike h hreads scope safe).bind fun x _ _ => invokeValue_alike k k' scope v x args

/-- The same function is registered under both spellings. -/
theorem memberFunction?_eq (h : k.Respelled k') (svc : ServiceId) (v : Value) :
    memberFunction? svc k v = memberFunction? svc k' v := by
  have hform (c : Category) : Keyed.form (RegistryKey.mk c k) = Keyed.form (RegistryKey.mk c k') :=
    congrArg (c, ·) h.folded
  unfold memberFunction? Registry.find? OrderedMap.get?
  simp only [hform]

/-- Whether the registry in charge of a scope is a service's, or there is none. -/
def RegistersByName (call : Call) (v scope : Value) (w : World) : Prop :=
  (registryFor call scope).After w fun x w =>
    (x = .none ∨ ∃ svc, x = .service svc) ∧ ReadsAnySpelling call v w

/-- A registry that goes by names finds the same function under both spellings. -/
theorem scopedFunction?_bind_alike {f g : Option Found → Run Value} (h : k.Respelled k')
    (hregistry : RegistersByName call v scope w)
    (hf : ∀ found w, ReadsAnySpelling call v w → (f found).Alike (g found) w) :
    (scopedFunction? call scope k v >>= f).Alike (scopedFunction? call scope k' v >>= g) w := by
  unfold scopedFunction?
  rw [bind_assoc, bind_assoc]
  refine .bind_same _ fun x w hx => ?_
  obtain ⟨rfl | ⟨svc, rfl⟩, hreads⟩ := hregistry x w hx
  · exact .bind_same _ fun found w' hw => by cases hw; exact hf _ _ hreads
  · dsimp only
    rw [memberFunction?_eq h, bind_assoc, bind_assoc]
    refine .bind_same _ fun found w' hw => ?_
    obtain rfl : w' = w := by cases hw; rfl
    exact .bind_same _ fun found w' hw => by cases hw; exact hf _ _ hreads

/-- Whether a value that holds keys answers a request by the library's own methods, whatever the
    spelling. A write keeps the spelling. -/
def AnswersAnySpelling (call : Call) (v scope : Value) : KeyUse → World → Prop
  | .read _, w => ReadsAnySpelling call v w
  | .write _, _ => False
  | .call .., w => ReadsAnySpelling call v w ∧ RegistersByName call v scope w

/-- The library classes that hold keys call the same under both spellings. -/
theorem invokeNative_alike (h : k.Respelled k') (hl : l.holdsKeys)
    (hanswers : AnswersAnySpelling call v scope (.call args safe) w) :
    (invokeNative call l v scope k args safe).Alike
      (invokeNative call l v scope k' args safe) w := by
  unfold invokeNative
  rw [h.same_eq]
  split
  · refine scopedFunction?_bind_alike h hanswers.2 fun found w hreads => ?_
    cases found with
    | some f => exact .refl _ w
    | none =>
      exact .ite Iff.rfl (fun _ => .refl _ w) fun _ => invokeStored_alike h hreads scope args safe
  · refine scopedFunction?_bind_alike h hanswers.2 fun found w hreads => ?_
    cases found with
    | some f => exact .refl _ w
    | none => exact invokeStored_alike h hreads scope args safe
  · exact invokeStored_alike h hanswers.1 scope args safe
  · exact .refl _ w
  · cases l <;> simp_all [LibraryKind.holdsKeys]

end Container

/-! ### Targets of the host -/

namespace Service

open Run Host

variable {call : Call} {w : World} {k k' : Key}

/-- An element is read at the same place under both spellings. -/
theorem readElement_alike (h : k.Respelled k') (v : Value) (safe : Bool) :
    (readElement call v k safe).Alike (readElement call v k' safe) w :=
  .bind_same _ fun _ _ _ => Container.readIndex_alike h _ safe _

/-- Both spellings of `length` read the length. -/
theorem readSequence_alike (h : k.Respelled k') (v : Value) (safe : Bool) :
    (readSequence call v k safe).Alike (readSequence call v k' safe) w := by
  unfold readSequence
  rw [h.same_eq]
  exact .ite Iff.rfl (fun _ => .refl _ w) fun _ => readElement_alike h v safe

/-- Host maps tell spellings apart, and nothing else does. -/
theorem readHost_alike (h : k.Respelled k') (svc : ServiceId) (t : Target) {kind : TargetKind}
    (hkind : kind ≠ .orderedMap) (safe : Bool) :
    (readHost call svc t kind k safe).Alike (readHost call svc t kind k' safe) w := by
  unfold readHost
  rw [h.same_eq, h.isWord, h.isWord']
  refine .ite Iff.rfl (fun _ => .refl _ w) fun _ => ?_
  split
  · exact absurd rfl hkind
  · exact readSequence_alike h t.inst safe
  · exact readSequence_alike h t.inst safe
  · refine .ite Iff.rfl (fun _ => .refl _ w) fun _ => ?_
    exact .ite Iff.rfl (fun _ => .refl _ w) fun _ => readField_alike h svc t safe none
  · exact .ite Iff.rfl (fun _ => readField_alike h svc t safe none) fun h => absurd rfl h
  · exact readField_alike h svc t safe none

/-- The same member is called under both spellings. -/
theorem invokeTarget_alike (h : k.Respelled k') (svc : ServiceId) (t : Target) (args : Value)
    (safe : Bool) :
    (invokeTarget call svc t k args safe).Alike (invokeTarget call svc t k' args safe) w := by
  unfold invokeTarget
  rw [h.isEmpty_eq]
  refine .ite Iff.rfl (fun _ => .refl _ w) fun _ => ?_
  refine .bind_same _ fun args w _ => .bind_same _ fun s w _ => ?_
  refine (inquire_alike (.method t.kind h _) svc _).outcome_bind (fun o w _ => .refl _ w) ?_
  intro r r' w hr
  exact .ite Iff.rfl (fun _ => .refl _ w) fun _ => .refuse hr

/-- A target that is no map calls the same under both spellings. -/
theorem invokeHost_alike (h : k.Respelled k') (svc : ServiceId) (t : Target) {kind : TargetKind}
    (hkind : kind ≠ .orderedMap) (args : Value) (safe : Bool) (scope : Value) :
    (invokeHost call svc t kind k args safe scope).Alike
      (invokeHost call svc t kind k' args safe scope) w := by
  have hregistered : registeredFor? svc t k = registeredFor? svc t k' := by
    rw [registeredFor?, registeredFor?, Container.memberFunction?_eq h]
  have hentry (key : Key) : mapValue? call kind t.inst key = pure none := by
    rw [mapValue?, if_neg hkind]
  unfold invokeHost
  rw [hregistered]
  simp only [hentry, pure_bind]
  refine .bind_same _ fun registered w _ => ?_
  cases registered with
  | some f => exact .refl _ w
  | none =>
    exact .bind_same _ fun s w _ => .ite Iff.rfl (fun _ => .refl _ w) fun _ =>
      invokeTarget_alike h svc t args safe

/-! ### Requests -/

variable {r : KeyUse} {l : LibraryKind} {v scope : Value}

/-- Whether a target answers a request whatever the spelling: it is no host map, and if it answers
    for itself, then by the library's own methods. -/
def TakesAnySpelling (call : Call) (r : KeyUse) (kind : TargetKind) (t : Target) (scope : Value)
    (w : World) : Prop :=
  kind ≠ .orderedMap ∧ (kind = .referenceable →
    ∃ l, w.store.libraryMethod? t.inst r.method = some l ∧
      (l = .wrapper ∨ l.holdsKeys ∧ Container.AnswersAnySpelling call t.inst scope r w))

/-- A target that is no map reads and calls alike under both spellings. -/
theorem answerHost_alike (h : k.Respelled k') (hwrite : ∀ x, r ≠ .write x) (svc : ServiceId)
    (t : Target) {kind : TargetKind} (hkind : kind ≠ .orderedMap) (scope : Value) :
    (answerHost call svc t kind k scope r).Alike (answerHost call svc t kind k' scope r) w := by
  cases r with
  | read safe => exact readHost_alike h svc t hkind safe
  | write x => exact absurd rfl (hwrite x)
  | call args safe => exact invokeHost_alike h svc t hkind args safe scope

/-- A value that answers for itself does so alike under both spellings. -/
theorem answerOwn_alike (h : k.Respelled k') (hl : l.holdsKeys)
    (hmethod : w.store.libraryMethod? v r.method = some l)
    (hanswers : Container.AnswersAnySpelling call v scope r w) :
    (answerOwn call l v scope k r).Alike (answerOwn call l v scope k' r) w := by
  cases r with
  | read safe =>
    obtain ⟨l', hmethod', -, hscripted⟩ := hanswers
    obtain rfl : l = l' := Option.some.inj (hmethod.symm.trans hmethod')
    exact Container.readNative_alike h hl hscripted scope safe
  | write x => exact hanswers.elim
  | call args safe => exact Container.invokeNative_alike h hl hanswers

/-- Sorting a target traces the spelling, and does nothing else with it. -/
theorem receive_alike (k k' : Key) (r : KeyUse) (svc : ServiceId) (t : Target) (scope : Value) :
    (receive call svc r t k scope).Alike (receive call svc r t k' scope) w := by
  have hsort (w : World) : (sortTarget svc r t k).Alike (sortTarget svc r t k') w :=
    .bind_same _ fun s w _ => (Run.Alike.trace svc _ _).bind fun _ w _ => .refl _ w
  cases r with
  | call args safe =>
    exact .bind_same _ fun scope w _ => (hsort w).bind fun kind w _ => .refl _ w
  | _ => exact (hsort w).bind fun kind w _ => .refl _ w

/-- A request comes to the same targets whatever the spelling, and is answered alike. -/
theorem serve_alike (h : k.Respelled k') (hwrite : ∀ x, r ≠ .write x) (fuel : Nat)
    (svc : ServiceId) (t : Target) (scope : Value) (w : World)
    (halong : Along call r k (TakesAnySpelling call r) fuel svc t scope w) :
    (serve call r k fuel svc t scope).Alike (serve call r k' fuel svc t scope) w := by
  induction fuel generalizing svc t scope w with
  | zero => exact .refl _ w
  | succ fuel ih =>
    rw [serve, serve]
    refine (receive_alike k k' r svc t scope).bind fun (kind, scope) w hreceived => ?_
    obtain ⟨⟨hkind, hanswers⟩, hpasses⟩ := halong (kind, scope) w hreceived
    cases kind with
    | referenceable =>
      obtain ⟨l, hmethod, hl⟩ := hanswers rfl
      refine Run.Alike.congr ?_ (viaKeyed_apply hmethod ..) (viaKeyed_apply hmethod ..)
      obtain rfl | ⟨hl, hanswers⟩ := hl
      · -- A wrapper passes the key on as it is spelt, with one step less to go.
        refine .bind_same _ fun x w hx => ?_
        obtain ⟨svc, rfl, htarget⟩ := hpasses rfl hmethod x w hx
        exact .bind_same _ fun t w ht => ih svc t scope w (htarget t w ht)
      · cases l with
        | wrapper => cases hl
        | _ => exact answerOwn_alike h hl hmethod hanswers
    | orderedMap => exact absurd rfl hkind
    | _ => exact answerHost_alike h hwrite svc t (by simp) scope

end Service

/-- Whether all that a request for a text comes to takes any spelling of it. -/
def Service.AnySpelling (call : Call) (r : KeyUse) (svc : ServiceId) (target : Value) (s : String)
    (scope : Value) (w : World) : Prop :=
  Along call r (.ofText s) (TakesAnySpelling call r) (w.store.objects.size + 2) svc
    (w.store.asTarget target) scope w

/-- **Spellings of a key.** Two texts that fold alike read alike and call alike, on every target
    that is no host map and hands the key to no host code: they give the same value, or fail with
    errors of the same kind, and leave the same world but for the trace. -/
theorem requests_alike (call : Call) (svc : ServiceId) (target args scope : Value) (safe : Bool)
    (s t : String) (w : World) (h : foldCase s = foldCase t) :
    (Service.AnySpelling call (.read safe) svc target s scope w →
      (Service.dereference call svc target (.text s) safe scope).Alike
        (Service.dereference call svc target (.text t) safe scope) w) ∧
    (Service.AnySpelling call (.call args safe) svc target s scope w →
      (Service.dereferenceAndInvoke call svc target (.text s) args safe scope).Alike
        (Service.dereferenceAndInvoke call svc target (.text t) args safe scope) w) := by
  obtain rfl | hkey := Key.eq_or_respelled h
  · exact ⟨fun _ => .refl _ w, fun _ => .refl _ w⟩
  constructor
  · intro halong
    have hserve := Service.serve_alike hkey (by simp) _ svc _ scope w halong
    by_cases htarget : target = .none
    · subst htarget
      cases safe with
      | true => exact ⟨.same _, w.trace, rfl⟩
      | false => exact ⟨.refused rfl, w.trace, rfl⟩
    · have hread (s : String) : Service.dereference call svc target (.text s) safe scope w =
          Service.serve call (.read safe) (.ofText s) (w.store.objects.size + 2) svc
            (w.store.asTarget target) scope w := by
        rw [Service.dereference, Run.bind_of_ok (x := Host.keyOf call (.text s)) rfl,
          if_neg htarget]
        rfl
      exact hserve.congr (hread s) (hread t)
  · intro halong
    exact (Service.serve_alike hkey (by simp) _ svc _ scope w halong).congr rfl rfl

/-- A scripted instance, its public members, a wrapper around it, and arguments for a call. -/
def parlour : World where
  store :=
    { objects := #[
        { kind := .declared 0, attrs := ⟨[("this_scope", .object 1)]⟩ },
        { kind := .library .struct, body := .struct ⟨[(.ofText "Straße", .int 1)]⟩ none },
        { kind := .library .wrapper,
          body := .wrapper (.kind (.declared 0)) (.object 0) (.service .main) },
        { kind := .library .tuple, body := .tuple [] }]
      classes := #[
        { name := "P", qualifiedName := "P", home := some "host", bases := [.library .scripted],
          lineage := .declared 0 :: LibraryKind.scripted.lineage.map .library,
          metaclass := .type }] }

/-- A member is read and called through the wrapper, under two spellings of different length. -/
theorem requests_alike_parlour :
    let call := Host.callValue
    foldCase "straße" = foldCase "STRASSE" ∧
    (Service.AnySpelling call (.read false) .main (.object 2) "straße" (.scope 0) parlour ∧
      (Service.dereference call .main (.object 2) (.text "straße") false (.scope 0)).Alike
        (Service.dereference call .main (.object 2) (.text "STRASSE") false (.scope 0)) parlour) ∧
    (Service.AnySpelling call (.call (.object 3) false) .main (.object 2) "straße" (.scope 0)
        parlour ∧
      (Service.dereferenceAndInvoke call .main (.object 2) (.text "straße") (.object 3) false
          (.scope 0)).Alike
        (Service.dereferenceAndInvoke call .main (.object 2) (.text "STRASSE") (.object 3) false
          (.scope 0)) parlour) := by
  have hfold : foldCase "straße" = foldCase "STRASSE" := by decide +kernel
  have hreads : Container.ReadsAnySpelling Host.callValue (.object 0) parlour := by
    refine ⟨.scripted, rfl, rfl, fun _ => ?_⟩
    rintro members w ⟨⟩
    exact ⟨rfl, _, _, rfl⟩
  have hread : Service.AnySpelling Host.callValue (.read false) .main (.object 2) "straße"
      (.scope 0) parlour := by
    rintro ⟨kind, scope⟩ w ⟨⟩
    refine ⟨⟨by decide, fun _ => ⟨.wrapper, rfl, .inl rfl⟩⟩, fun _ _ => ?_⟩
    rintro x w ⟨⟩
    refine ⟨.main, rfl, ?_⟩
    rintro t w ⟨⟩ ⟨kind, scope⟩ w ⟨⟩
    refine ⟨⟨by decide, fun _ => ⟨.scripted, rfl, .inr ⟨rfl, hreads⟩⟩⟩, fun _ h => nomatch h⟩
  have hcall : Service.AnySpelling Host.callValue (.call (.object 3) false) .main (.object 2)
      "straße" (.scope 0) parlour := by
    rintro ⟨kind, scope⟩ w ⟨⟩
    refine ⟨⟨by decide, fun _ => ⟨.wrapper, rfl, .inl rfl⟩⟩, fun _ _ => ?_⟩
    rintro x w ⟨⟩
    refine ⟨.main, rfl, ?_⟩
    rintro t w ⟨⟩ ⟨kind, scope⟩ w ⟨⟩
    refine ⟨⟨by decide, fun _ => ⟨.scripted, rfl, .inr ⟨rfl, hreads, ?_⟩⟩⟩, fun _ h => nomatch h⟩
    rintro x w ⟨⟩
    exact ⟨.inl rfl, hreads⟩
  have halike := requests_alike Host.callValue .main (.object 2) (.object 3) (.scope 0) false
    "straße" "STRASSE" parlour hfold
  exact ⟨hfold, ⟨hread, halike.1 hread⟩, hcall, halike.2 hcall⟩

/-- A scripted instance whose public members are a wrapper around a host map. -/
def shopfront : World where
  store :=
    { objects := #[
        { kind := .declared 0, attrs := ⟨[("this_scope", .object 1)]⟩ },
        { kind := .library .wrapper,
          body := .wrapper (.kind (.library .dict)) (.object 2) (.service .main) },
        { kind := .library .dict, body := .dict ⟨[(.ofText "Name", .int 1)]⟩ }]
      classes := parlour.store.classes }

/-- The instance itself is no host map, and yet it has a member under one spelling only. -/
theorem spellings_differ_shopfront :
    foldCase "Name" = foldCase "NAME" ∧ shopfront.store.classify (.object 0) = .referenceable ∧
      shopfront.store.libraryMethod? (.object 0) "dereference" = some .scripted ∧
      (Service.dereference Host.callValue .main (.object 0) (.text "Name") false .none
        shopfront).1 = .ok (.int 1) ∧
      ∃ words, (Service.dereference Host.callValue .main (.object 0) (.text "NAME") false .none
        shopfront).1 = .error (.host .attributeError words) :=
  ⟨by decide +kernel, by decide +kernel, rfl, rfl, _, rfl⟩

end ScriptBridge
