import ScriptBridge.Proofs.Inquiry

namespace ScriptBridge

/-!
# What a resolver remembers

A resolver is asked, told to forget, and switched off and on, in any order. What it remembers under
a key is what the first inquiry found that had this key and succeeded.

* `ResolverStep` is one thing done to the resolver of a service, `after` the world after several;
* `Notes` is a record of whose findings are remembered, kept from the steps alone;
* `Notes.Kept` is the invariant that ties the notes to the resolver, `Notes.Kept.after` the run
  lemma;
* `ask_after`: every answer is that of a search, made for the author of what is remembered;
* `Inquiry.search_ok_of_key_eq`: what one inquiry finds, every other with its key finds, unless a
  member without a name is looked for;
* `answers_of_named`: if all members are looked for by name, the answers of a whole run are those of
  a resolver that remembers nothing.
-/

/-! ### Runs of a resolver -/

/-- What can be done to the resolver of a service. -/
inductive ResolverStep where
  /-- An inquiry is put to it. -/
  | ask (q : Inquiry)
  /-- It forgets all findings. -/
  | clear
  /-- Its memory is switched on or off. -/
  | enable (on : Bool)

namespace ResolverStep

/-- The inquiry that a step puts, if it puts one. -/
def inquiry? : ResolverStep → Option Inquiry
  | .ask q => some q
  | .clear | .enable _ => none

/-- The answer that a step gets, if it asks, and the world after it. -/
def run (svc : ServiceId) (w : World) : ResolverStep → Option (Except Fault Finding) × World
  | .ask q => ((q.ask svc w).1, (q.ask svc w).2)
  | .clear => (none, w.withResolver svc (w.resolver svc).clear)
  | .enable on => (none, w.withResolver svc { w.resolver svc with enabled := on })

end ResolverStep

/-- The world after some steps. -/
def after (svc : ServiceId) (w : World) (steps : List ResolverStep) : World :=
  steps.foldl (fun w step => (step.run svc w).2) w

/-- The answers to the inquiries among some steps. -/
def answers (svc : ServiceId) : World → List ResolverStep → List (Except Fault Finding)
  | _, [] => []
  | w, step :: rest => (step.run svc w).1.toList ++ answers svc (step.run svc w).2 rest

/-- The inquiries among some steps. -/
def asked (steps : List ResolverStep) : List Inquiry := steps.filterMap ResolverStep.inquiry?

/-! ### Whose findings are remembered -/

/-- Whether a memory is on, and the inquiry that each remembered finding was made for. -/
structure Notes where
  enabled : Bool
  author? : LookupKey → Option Inquiry := fun _ => none

namespace Notes

variable (s : Store) (limit : Int)

/-- Notes of one more step: the first inquiry with a key that succeeds is the author, until all is
    forgotten. -/
def step (n : Notes) : ResolverStep → Notes
  | .ask q =>
    if n.enabled ∧ n.author? q.key = none ∧ (q.search s limit).toBool then
      { n with author? := fun key => if key = q.key then some q else n.author? key }
    else n
  | .clear => { n with author? := fun _ => none }
  | .enable on => { n with enabled := on }

/-- Notes of some more steps. -/
def steps (n : Notes) (steps : List ResolverStep) : Notes := steps.foldl (step s limit) n

/-- The inquiry whose search answers an inquiry: the author of what is remembered, if there is one
    and memory is on. -/
def answerer (n : Notes) (q : Inquiry) : Inquiry :=
  if n.enabled then (n.author? q.key).getD q else q

/-- Whether notes tell what a resolver remembers. -/
structure Describes (n : Notes) (r : Resolver) : Prop where
  enabled : r.enabled = n.enabled
  /-- Every author has the key and found something. -/
  author : ∀ key q, n.author? key = some q → q.key = key ∧ ∃ f, q.search s limit = .ok f
  /-- What is remembered is what the author found. -/
  memory : ∀ key, r.cache.get? key = (n.author? key).bind fun q => (q.search s limit).toOption

/-- **The invariant of a run.** Of the world where a run began, only the resolver and the trace have
    changed, and the notes tell what the resolver remembers. -/
def Kept (svc : ServiceId) (origin : World) (n : Notes) (w : World) : Prop :=
  ∃ r lines, w = (origin.withResolver svc r).withTrace lines ∧
    n.Describes origin.store (origin.listingLimit svc) r

end Notes

/-! ### Reading and writing a memory -/

namespace Cache

variable {κ φ α : Type} [Keyed κ φ] [DecidableEq φ]

/-- What is remembered last is remembered. -/
theorem get?_insert_self (c : Cache κ α) (k : κ) (a : α) : (c.insert k a).get? k = some a :=
  c.records.get?_insert_self k a

/-- What is remembered for other keys stays. -/
theorem get?_insert_of_ne (c : Cache κ α) {k k' : κ} (h : Keyed.form k ≠ Keyed.form k') (a : α) :
    (c.insert k a).get? k' = c.get? k' :=
  c.records.get?_insert_of_ne h a

end Cache

namespace Resolver

variable {r : Resolver} {key key' : LookupKey} {search : Unit → Except Fault Finding}

/-- A lookup leaves memory on or off. -/
theorem enabled_lookup : (r.lookup key search).2.enabled = r.enabled := by
  cases hon : r.enabled with
  | false => rw [lookup_of_disabled hon, hon]
  | true =>
    cases hc : r.cache.get? key with
    | some f => rw [lookup_of_some hon hc, hon]
    | none =>
      cases hs : search () with
      | error e => rw [lookup_of_error hon hc hs, hon]
      | ok f => rw [lookup_of_ok hon hc hs, hon]

/-- What is remembered after a lookup was remembered before, or it is what was looked up and
    found. -/
theorem get?_cache_lookup {f : Finding} (h : (r.lookup key search).2.cache.get? key' = some f) :
    r.cache.get? key' = some f ∨ key' = key ∧ search () = .ok f := by
  cases hon : r.enabled with
  | false =>
    rw [lookup_of_disabled hon] at h
    exact .inl h
  | true =>
    cases hc : r.cache.get? key with
    | some g =>
      rw [lookup_of_some hon hc] at h
      exact .inl h
    | none =>
      -- Only a search that succeeds is remembered.
      cases hs : search () with
      | error e =>
        rw [lookup_of_error hon hc hs] at h
        exact .inl h
      | ok g =>
        rw [lookup_of_ok hon hc hs] at h
        by_cases hkey : key' = key
        · subst hkey
          rw [Cache.get?_insert_self] at h
          cases h
          exact .inr ⟨rfl, rfl⟩
        · rw [Cache.get?_insert_of_ne _ (Ne.symm hkey)] at h
          exact .inl h

end Resolver

/-! ### One step keeps the invariant -/

namespace Notes

variable {s : Store} {limit : Int} {n : Notes} {r : Resolver}

/-- A new resolver is described by notes without authors. -/
theorem describes_new (on : Bool) : Describes s limit { enabled := on } { enabled := on } where
  enabled := rfl
  author := by intro key q h; cases h
  memory := by intro key; rfl

namespace Describes

/-- Findings stay under keys of their form. -/
theorem sorted (h : n.Describes s limit r) : r.Sorted := by
  intro key f hf
  rw [h.memory key] at hf
  cases hq : n.author? key with
  | none => simp [hq] at hf
  | some q =>
    obtain ⟨hkey, g, hg⟩ := h.author key q hq
    obtain rfl : g = f := by simpa [hq, hg, Except.toOption] using hf
    exact hkey ▸ Inquiry.suits_of_search hg

/-- A resolver answers an inquiry by the search for its answerer. -/
theorem answer (h : n.Describes s limit r) (q : Inquiry) :
    (r.lookup q.key fun _ => q.search s limit).1.map Prod.fst =
      (n.answerer q).search s limit := by
  cases hon : r.enabled with
  | false =>
    -- Nothing is recalled, whatever the notes say.
    rw [Resolver.lookup_of_disabled hon, answerer, if_neg (by simp [← h.enabled, hon])]
    cases q.search s limit <;> rfl
  | true =>
    rw [answerer, if_pos (h.enabled ▸ hon)]
    have hm := h.memory q.key
    cases hq : n.author? q.key with
    | none =>
      have hc : r.cache.get? q.key = none := by simpa [hq] using hm
      cases hs : q.search s limit with
      | error e => rw [Resolver.lookup_of_error hon hc rfl]; exact hs.symm
      | ok f => rw [Resolver.lookup_of_ok hon hc rfl]; exact hs.symm
    | some a =>
      obtain ⟨-, f, hf⟩ := h.author q.key a hq
      have hc : r.cache.get? q.key = some f := by simpa [hq, hf, Except.toOption] using hm
      rw [Resolver.lookup_of_some hon hc]
      exact hf.symm

/-- An inquiry that finds something new is the author of it. -/
theorem insert (h : n.Describes s limit r) (hon : n.enabled = true) {q : Inquiry} {f : Finding}
    (hq : n.author? q.key = none) (hs : q.search s limit = .ok f) (count : Nat) :
    (n.step s limit (.ask q)).Describes s limit
      { r with discoveries := count, cache := r.cache.insert q.key f } := by
  rw [step, if_pos ⟨hon, hq, by rw [hs]; rfl⟩]
  refine ⟨h.enabled, ?_, ?_⟩
  · intro key a ha
    by_cases hk : key = q.key
    · obtain rfl : q = a := by simpa [hk] using ha
      exact ⟨hk.symm, f, hs⟩
    · exact h.author key a (by simpa [hk] using ha)
  · intro key
    -- Under all keys but that of the inquiry, notes and memory are as they were.
    by_cases hk : key = q.key
    · simp [hk, Cache.get?_insert_self, hs, Except.toOption]
    · have hne : Keyed.form q.key ≠ Keyed.form key := fun he => hk he.symm
      simpa [Cache.get?_insert_of_ne _ hne, hk] using h.memory key

/-- After an inquiry, the notes of it tell what the resolver remembers. -/
theorem ask (h : n.Describes s limit r) (q : Inquiry) :
    (n.step s limit (.ask q)).Describes s limit
      (r.lookup q.key fun _ => q.search s limit).2 := by
  cases hon : r.enabled with
  | false =>
    rw [Resolver.lookup_of_disabled hon, step, if_neg (by simp [← h.enabled, hon])]
    exact ⟨h.enabled, h.author, h.memory⟩
  | true =>
    have hm := h.memory q.key
    cases hq : n.author? q.key with
    | some a =>
      -- The finding of the author is recalled, and nothing changes.
      obtain ⟨-, f, hf⟩ := h.author q.key a hq
      have hc : r.cache.get? q.key = some f := by simpa [hq, hf, Except.toOption] using hm
      rw [Resolver.lookup_of_some hon hc, step, if_neg (by simp [hq])]
      exact h
    | none =>
      have hc : r.cache.get? q.key = none := by simpa [hq] using hm
      cases hs : q.search s limit with
      | error e =>
        -- A search that fails is counted, but not remembered.
        rw [Resolver.lookup_of_error hon hc rfl, step, if_neg (by simp [hs, Except.toBool])]
        exact ⟨h.enabled, h.author, h.memory⟩
      | ok f =>
        rw [Resolver.lookup_of_ok hon hc rfl]
        exact h.insert (h.enabled ▸ hon) hq hs _

end Describes

namespace Kept

variable {svc : ServiceId} {origin w : World}

/-- What a kept world has in common with the world where the run began, and its resolver. -/
theorem describes (h : n.Kept svc origin w) :
    w.search svc = origin.search svc ∧
      n.Describes origin.store (origin.listingLimit svc) (w.resolver svc) := by
  obtain ⟨r, lines, rfl, hr⟩ := h
  exact ⟨by funext q; simp, by simpa using hr⟩

/-- Another resolver and another trace keep a world, if the notes describe the resolver. -/
theorem withResolver (h : n.Kept svc origin w) {n' : Notes} {r' : Resolver}
    (hr : n'.Describes origin.store (origin.listingLimit svc) r') :
    n'.Kept svc origin (w.withResolver svc r') := by
  obtain ⟨r, lines, rfl, -⟩ := h
  exact ⟨r', lines, by simp, hr⟩

/-- A trace does not change what is remembered. -/
theorem withTrace (h : n.Kept svc origin w) (lines : List String) :
    n.Kept svc origin (w.withTrace lines) := by
  obtain ⟨r, lines', rfl, hr⟩ := h
  exact ⟨r, lines, by simp, hr⟩

/-- What comes of an inquiry in a kept world. -/
theorem ask (h : n.Kept svc origin w) (q : Inquiry) :
    (q.ask svc w).1 = origin.search svc (n.answerer q) ∧
      (n.step origin.store (origin.listingLimit svc) (.ask q)).Kept svc origin
        (q.ask svc w).2 := by
  obtain ⟨hsearch, hr⟩ := h.describes
  obtain ⟨lines, hq⟩ := q.ask_eq svc hr.sorted
  rw [hq, World.lookup, hsearch]
  exact ⟨hr.answer q, (h.withResolver (hr.ask q)).withTrace lines⟩

/-- **Step lemma.** Every step keeps the invariant. -/
theorem step (h : n.Kept svc origin w) (step : ResolverStep) :
    (n.step origin.store (origin.listingLimit svc) step).Kept svc origin (step.run svc w).2 := by
  have hr := h.describes.2
  cases step with
  | ask q => exact (h.ask q).2
  | clear =>
    refine h.withResolver ?_
    exact ⟨hr.enabled, fun _ _ hq => (nomatch hq), fun _ => rfl⟩
  | enable on =>
    refine h.withResolver ?_
    exact ⟨rfl, hr.author, hr.memory⟩

/-- **Run lemma.** Every run keeps the invariant. -/
theorem after (h : n.Kept svc origin w) (steps : List ResolverStep) :
    (n.steps origin.store (origin.listingLimit svc) steps).Kept svc origin (after svc w steps) := by
  induction steps generalizing n w with
  | nil => exact h
  | cons step rest ih => exact ih (h.step step)

end Kept

/-- A run begins with a new resolver and with notes without authors. -/
theorem kept_new (svc : ServiceId) (w : World) (on : Bool) :
    Kept svc w { enabled := on } (w.withResolver svc { enabled := on }) :=
  ⟨_, w.trace, by cases svc <;> rfl, describes_new on⟩

end Notes

/-- The notes of a run that begins with a new resolver. -/
def notesOf (svc : ServiceId) (w : World) (on : Bool) (steps : List ResolverStep) : Notes :=
  Notes.steps w.store (w.listingLimit svc) { enabled := on } steps

/-- **Every answer is that of a search.** After any run, an inquiry is answered by what a search
    finds for the author of what is remembered under its key, or for the inquiry itself. -/
theorem ask_after (svc : ServiceId) (w : World) (on : Bool) (steps : List ResolverStep)
    (q : Inquiry) :
    (q.ask svc (after svc (w.withResolver svc { enabled := on }) steps)).1 =
      w.search svc ((notesOf svc w on steps).answerer q) :=
  (((Notes.kept_new svc w on).after steps).ask q).1

/-! ### Inquiries with the same key -/

namespace Inquiry

/-- The inquiries with the key of one for a member: those for members of the same folded name, and
    for the constructor if there is no name. -/
theorem key_eq_method_iff {a : Inquiry} {k : Kind} {name : Key} {kinds : List Kind} :
    a.key = (method k name kinds).key ↔
      (∃ name', name'.folded = name.folded ∧ a = .method k name' kinds) ∨
        (name.name = "" ∧ a = .constructor k kinds) := by
  -- Folding makes no name empty, so only the empty name folds to that of a constructor.
  have hempty : Key.newInstance.folded = name.folded ↔ name.name = "" := by
    rw [eq_comm, show Key.newInstance.folded = "" from foldCase_eq_empty_iff.2 rfl]
    exact foldCase_eq_empty_iff
  cases a with
  | method k' name' kinds' => simp only [key, LookupKey.mk.injEq, Option.some.injEq]; grind
  | constructor k' kinds' => simp only [key, LookupKey.mk.injEq, hempty]; grind
  | field k' name' => simp [key]

/-- The inquiries with the key of one for a constructor: that one, and those for nameless
    members. -/
theorem key_eq_constructor_iff {a : Inquiry} {k : Kind} {kinds : List Kind} :
    a.key = (constructor k kinds).key ↔
      (∃ name, name.name = "" ∧ a = .method k name kinds) ∨ a = .constructor k kinds := by
  cases a with
  | method k' name kinds' =>
    rw [eq_comm, key_eq_method_iff]
    grind
  | constructor k' kinds' => simp [key]
  | field k' name' => simp [key]

/-- The inquiries with the key of one for a field: those for fields of the same folded name. -/
theorem key_eq_field_iff {a : Inquiry} {k : Kind} {name : Key} :
    a.key = (field k name).key ↔ ∃ name', name'.folded = name.folded ∧ a = .field k name' := by
  cases a with
  | method k' name' kinds' => simp [key]
  | constructor k' kinds' => simp [key]
  | field k' name' => simp only [key, LookupKey.mk.injEq]; grind

/-- A member is found by the folded name alone. -/
theorem search_method_ok {s : Store} {limit : Int} {k : Kind} {name name' : Key}
    {kinds : List Kind} (h : name'.folded = name.folded) {f : Finding}
    (hf : (method k name' kinds).search s limit = .ok f) :
    (method k name kinds).search s limit = .ok f := by
  rw [search_eq_ok_iff] at hf ⊢
  simpa only [failure?, found?, Store.discover?, h] using hf

/-- A field is found by the folded name alone. -/
theorem search_field_ok {s : Store} {limit : Int} {k : Kind} {name name' : Key}
    (h : name'.folded = name.folded) {f : Finding}
    (hf : (field k name').search s limit = .ok f) : (field k name).search s limit = .ok f := by
  rw [search_eq_ok_iff] at hf ⊢
  simpa only [failure?, found?, Store.findField?, h] using hf

/-- Whether an inquiry for a member names it. -/
def Named : Inquiry → Prop
  | .method _ name _ => name.name ≠ ""
  | .constructor .. | .field .. => True

instance : DecidablePred Named
  | .method _ name _ => inferInstanceAs (Decidable (name.name ≠ ""))
  | .constructor .. | .field .. => inferInstanceAs (Decidable True)

/-- What one named inquiry finds, every other with its key finds. -/
theorem search_ok_of_key_eq {s : Store} {limit : Int} {a q : Inquiry} (ha : a.Named) (hq : q.Named)
    (hkey : a.key = q.key) {f : Finding} (hf : a.search s limit = .ok f) :
    q.search s limit = .ok f := by
  cases q with
  | method k name kinds =>
    rcases key_eq_method_iff.1 hkey with ⟨name', hname, rfl⟩ | ⟨hname, -⟩
    · exact search_method_ok hname hf
    · exact absurd hname hq
  | constructor k kinds =>
    rcases key_eq_constructor_iff.1 hkey with ⟨name, hname, rfl⟩ | rfl
    · exact absurd hname ha
    · exact hf
  | field k name =>
    obtain ⟨name', hname, rfl⟩ := key_eq_field_iff.1 hkey
    exact search_field_ok hname hf

end Inquiry

/-! ### Runs in which every member is named -/

namespace Notes

/-- Whatever holds of all inquiries holds of all authors. -/
theorem author_step {s : Store} {limit : Int} {n : Notes} {P : Inquiry → Prop}
    (h : ∀ key q, n.author? key = some q → P q) {step : ResolverStep}
    (hs : ∀ q, step.inquiry? = some q → P q) (key : LookupKey) (q : Inquiry)
    (hq : (n.step s limit step).author? key = some q) : P q := by
  cases step with
  | ask q' =>
    rw [Notes.step] at hq
    split at hq
    · by_cases hk : key = q'.key
      · exact hs q (by simpa [hk, ResolverStep.inquiry?] using hq)
      · exact h key q (by simpa [hk] using hq)
    · exact h key q hq
  | clear => cases hq
  | enable on => exact h key q hq

/-- An inquiry is answered as by its own search, if it and all authors are named. -/
theorem search_answerer {s : Store} {limit : Int} {n : Notes} {r : Resolver}
    (hr : n.Describes s limit r) (hn : ∀ key q, n.author? key = some q → q.Named) {q : Inquiry}
    (hq : q.Named) : (n.answerer q).search s limit = q.search s limit := by
  unfold answerer
  split
  · cases ha : n.author? q.key with
    | none => rfl
    | some a =>
      obtain ⟨hkey, f, hf⟩ := hr.author q.key a ha
      rw [Option.getD_some, hf, Inquiry.search_ok_of_key_eq (hn _ _ ha) hq hkey hf]
  · rfl

/-- The answers of a run are those of searches, if all inquiries are named. -/
theorem Kept.answers_eq {svc : ServiceId} {origin w : World} {n : Notes}
    (h : n.Kept svc origin w) (hn : ∀ key q, n.author? key = some q → q.Named)
    {steps : List ResolverStep} (hs : ∀ q ∈ asked steps, q.Named) :
    answers svc w steps = (asked steps).map (origin.search svc) := by
  -- Both the world and the notes move on with each step, and all authors stay named.
  induction steps generalizing n w with
  | nil => rfl
  | cons step rest ih =>
    have hstep (q : Inquiry) (hq : step.inquiry? = some q) : q.Named :=
      hs q (by simp [asked, hq])
    have hrest := ih (h.step step) (author_step hn hstep) fun q hq =>
      hs q (List.mem_filterMap.2 (by
        obtain ⟨x, hx, hq⟩ := List.mem_filterMap.1 hq
        exact ⟨x, List.mem_cons_of_mem _ hx, hq⟩))
    rw [answers, hrest]
    cases step with
    | ask q =>
      have hq : (q.ask svc w).1 = origin.search svc q :=
        (h.ask q).1.trans (search_answerer h.describes.2 hn (hstep q rfl))
      simp [asked, ResolverStep.run, ResolverStep.inquiry?, hq]
    | clear => rfl
    | enable on => rfl

end Notes

/-- **Transparency.** If every member that is looked up has a name, then the answers of a whole run,
    in which findings are recalled and forgotten and memory is switched off and on, are those that
    the inquiries get from a new resolver that remembers nothing. -/
theorem answers_of_named (svc : ServiceId) (w : World) (on : Bool) (steps : List ResolverStep)
    (h : ∀ q ∈ asked steps, q.Named) :
    answers svc (w.withResolver svc { enabled := on }) steps =
      (asked steps).map fun q => (q.ask svc (w.withResolver svc { enabled := false })).1 := by
  rw [(Notes.kept_new svc w on).answers_eq (fun _ _ hq => (nomatch hq)) h]
  refine List.map_congr_left fun q _ => ?_
  rw [q.ask_eq_search svc w { enabled := false } (fun _ _ hf => (nomatch hf)) rfl]

/-- A run that recalls a finding under another spelling, forgets it, and goes on without memory. -/
theorem answers_of_named_text :
    let upper (name : String) := Inquiry.method (.library .text) (.ofText name) []
    let steps : List ResolverStep :=
      [.ask (upper "upper"), .ask (upper "UPPER"), .ask (upper "missing"), .clear,
       .ask (.constructor (.library .text) []), .enable false, .ask (upper "Upper")]
    answers .main (({} : World).withResolver .main { enabled := true }) steps =
      (asked steps).map fun q =>
        (q.ask .main (({} : World).withResolver .main { enabled := false })).1 :=
  answers_of_named .main {} true _ (by decide)

end ScriptBridge
