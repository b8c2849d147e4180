import ScriptBridge.Dispatch.Lookup
import ScriptBridge.Proofs.Run

namespace ScriptBridge

/-!
# What comes of an inquiry

An inquiry put to a service is answered by the service's resolver, from memory or by a search.

* `Inquiry.ask` puts any inquiry to a service;
* `Resolver.Sorted` is the invariant of memories: under a key with kinds of arguments stands a
  callable, under a key without stands a field;
* `Inquiry.ask_eq`: the answer and the new memory are those of `Resolver.lookup`, and of the rest of
  the world only the trace changes;
* `Inquiry.ask_eq_search`: a resolver that remembers nothing answers by a search.
-/

namespace Inquiry

/-- A search succeeds with what the classes hold, unless it ends in an error of the host. -/
theorem search_eq_ok_iff {s : Store} {limit : Int} {q : Inquiry} {f : Finding} :
    q.search s limit = .ok f ↔ q.failure? s = none ∧ q.found? s = some f := by
  unfold search
  split <;> simp_all

/-- A search is refused only for what is missing. -/
theorem missing_of_search {s : Store} {limit : Int} {q : Inquiry} {r : Reason}
    (h : q.search s limit = .error (.engine r)) : r = q.missing s limit := by
  unfold search at h
  split at h <;> cases h
  rfl

/-- Puts an inquiry to a service. -/
def ask (svc : ServiceId) : Inquiry → Run Finding
  | .method k name kinds => .method <$> Service.resolveMethod svc k name kinds
  | .constructor k kinds => .method <$> Service.resolveConstructor svc k kinds
  | .field k name => .field <$> Service.resolveField svc k name

end Inquiry

/-! ### Findings of the right form -/

/-- The findings that can be remembered by a key: members and constructors with the kinds of their
    arguments, fields without. -/
def Finding.Suits : Finding → LookupKey → Prop
  | .method _, key => key.kinds.isSome
  | .field _, key => key.kinds = none

/-- Whether everything that a resolver remembers has the form that its key asks for. -/
def Resolver.Sorted (r : Resolver) : Prop :=
  ∀ key f, r.cache.get? key = some f → f.Suits key

namespace Inquiry

/-- What a search finds suits the key it will be remembered by. -/
theorem suits_of_search {s : Store} {limit : Int} {q : Inquiry} {f : Finding}
    (h : q.search s limit = .ok f) : f.Suits q.key := by
  have hf := (search_eq_ok_iff.1 h).2
  cases q with
  | method k name kinds =>
    obtain ⟨m, -, rfl⟩ := Option.map_eq_some_iff.1 hf
    rfl
  | constructor k kinds =>
    obtain ⟨m, -, rfl⟩ := Option.map_eq_some_iff.1 hf
    rfl
  | field k name =>
    obtain ⟨g, -, rfl⟩ := Option.map_eq_some_iff.1 hf
    rfl

end Inquiry

namespace Resolver

variable {r : Resolver} {key : LookupKey} {search : Unit → Except Fault Finding}

/-- What a resolver answers suits the key, if what it remembers and what is searched for do. -/
theorem suits_of_lookup (hr : r.Sorted) (hs : ∀ f, search () = .ok f → f.Suits key)
    {f : Finding} (h : (r.lookup key search).1.map Prod.fst = .ok f) : f.Suits key := by
  cases hanswer : (r.lookup key search).1 with
  | error e =>
    rw [hanswer] at h
    cases h
  | ok answer =>
    rw [hanswer] at h
    cases h
    obtain ⟨-, hc⟩ | hf := get?_or_search_of_lookup hanswer
    · exact hr key _ hc
    · exact hs _ hf

/-- A lookup that fails ends in the error of the search. -/
theorem error_of_lookup {e : Fault} (h : (r.lookup key search).1 = .error e) :
    search () = .error e := by
  cases hs : search () with
  | error e' =>
    unfold lookup at h
    simp only [hs] at h
    split at h
    · cases h; rfl
    · split at h <;> cases h
      rfl
  | ok f =>
    unfold lookup at h
    simp only [hs] at h
    split at h
    · cases h
    · split at h <;> cases h

end Resolver

/-! ### The trace aside, an inquiry changes the resolver only -/

namespace Service

/-- An inquiry is refused only for what is missing. -/
theorem missing_of_inquire {α : Type} {svc : ServiceId} {q : Inquiry}
    {view : Finding → Option α} {w : World} {r : Reason}
    (h : (inquire svc q view w).1 = .error (.engine r)) :
    r = q.missing w.store (w.listingLimit svc) := by
  obtain ⟨lines, hc⟩ := Run.consult_apply w svc q view
  cases hanswer : (w.lookup svc q).1 with
  | error e =>
    rw [hanswer] at hc
    rw [inquire, Run.bind_of_error hc] at h
    cases h
    exact Inquiry.missing_of_search (Resolver.error_of_lookup hanswer)
  | ok found =>
    rw [hanswer] at hc
    rw [inquire, Run.bind_of_ok (a := view found.1) hc] at h
    cases hv : view found.1 with
    | some a => simp [hv] at h
    | none =>
      rw [hv] at h
      cases h
      cases svc <;> rfl

/-- What comes of an inquiry whose view shows all that can be found: the answer of the resolver, and
    its new memory. -/
theorem map_inquire_eq {α : Type} {svc : ServiceId} {q : Inquiry} {view : Finding → Option α}
    {wrap : α → Finding} {w : World}
    (h : ∀ f, (w.lookup svc q).1.map Prod.fst = .ok f → ∃ a, view f = some a ∧ wrap a = f) :
    ∃ lines, (wrap <$> inquire svc q view) w =
      ((w.lookup svc q).1.map Prod.fst,
        (w.withResolver svc (w.lookup svc q).2).withTrace lines) := by
  obtain ⟨lines, hc⟩ := Run.consult_apply w svc q view
  refine ⟨lines, ?_⟩
  rw [Run.map_apply, inquire]
  cases hanswer : (w.lookup svc q).1 with
  | error e =>
    rw [hanswer] at hc
    rw [Run.bind_of_error hc]
    rfl
  | ok found =>
    obtain ⟨a, ha, hwrap⟩ := h found.1 (by rw [hanswer]; rfl)
    rw [hanswer] at hc
    rw [Run.bind_of_ok hc]
    simp [ha, hwrap, Except.map]

end Service

namespace Inquiry

/-- **What comes of an inquiry.** The answer and the new memory are those of the resolver, and of
    the rest of the world only the trace changes. -/
theorem ask_eq (svc : ServiceId) (q : Inquiry) {w : World} (h : (w.resolver svc).Sorted) :
    ∃ lines, q.ask svc w =
      ((w.lookup svc q).1.map Prod.fst,
        (w.withResolver svc (w.lookup svc q).2).withTrace lines) := by
  -- What is remembered under a key suits it, so a field is never given for a member.
  have hsuits (f : Finding) (hf : (w.lookup svc q).1.map Prod.fst = .ok f) : f.Suits q.key :=
    Resolver.suits_of_lookup h (fun _ => suits_of_search) hf
  cases q with
  | method k name kinds =>
    refine Service.map_inquire_eq fun f hf => ?_
    cases f with
    | method r => exact ⟨r, rfl, rfl⟩
    | field g => exact absurd (hsuits _ hf) (by simp [Finding.Suits, key])
  | constructor k kinds =>
    refine Service.map_inquire_eq fun f hf => ?_
    cases f with
    | method r => exact ⟨r, rfl, rfl⟩
    | field g => exact absurd (hsuits _ hf) (by simp [Finding.Suits, key])
  | field k name =>
    refine Service.map_inquire_eq fun f hf => ?_
    cases f with
    | method r => exact absurd (hsuits _ hf) (by simp [Finding.Suits, key])
    | field g => exact ⟨g, rfl, rfl⟩

/-- A resolver that is switched off answers by a search. -/
theorem ask_eq_search (svc : ServiceId) (q : Inquiry) (w : World) (r : Resolver)
    (hr : r.Sorted) (h : r.enabled = false) :
    (q.ask svc (w.withResolver svc r)).1 = w.search svc q := by
  obtain ⟨lines, hq⟩ := q.ask_eq svc (w := w.withResolver svc r) (by simpa using hr)
  rw [hq, World.lookup_withResolver_of_off w svc h]
  cases w.search svc q <;> rfl

end Inquiry

end ScriptBridge
