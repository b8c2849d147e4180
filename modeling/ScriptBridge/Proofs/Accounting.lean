import Mathlib.Algebra.GroupWithZero.Nat
import Mathlib.Data.Finset.Card
import Mathlib.Data.List.Dedup
import ScriptBridge.Proofs.Memory

namespace ScriptBridge

/-!
# What searches are made for

A resolver counts its searches. An inquiry that is recalled costs none, and every other costs one;
so what a run has cost can be told from how its inquiries came out.

* `Receipt` is an inquiry as it came out, `receipts` the list of them in a run;
* `Tallies` is the invariant that ties the receipts to the resolver: what is remembered are the keys
  of what was settled, and each search was made for one of these keys or for what was not settled;
* `Tallies.lookup` is the step lemma, `Tallies.after` the run lemma;
* `searches_accounted`: the account of a run in which nothing is forgotten.
-/

/-! ### Receipts -/

/-- An inquiry as it came out. -/
structure Receipt where
  inquiry : Inquiry
  /-- Whether memory was on. -/
  remembers : Bool
  succeeds : Bool
  /-- How many searches it cost. -/
  searches : Nat

namespace Receipt

/-- Whether something was found that is now remembered. -/
def settles (e : Receipt) : Bool := e.remembers && e.succeeds

/-- How many searches were made for what was settled under a key. -/
def searchesFor (log : List Receipt) (key : LookupKey) : Nat :=
  ((log.filter fun e => e.settles && e.inquiry.key == key).map searches).sum

/-- The keys of what was settled, one for each inquiry. -/
def settledKeys (log : List Receipt) : List LookupKey :=
  (log.filter settles).map (·.inquiry.key)

/-- The searches in two parts of a log add up. -/
theorem searchesFor_append (log log' : List Receipt) (key : LookupKey) :
    searchesFor (log ++ log') key = searchesFor log key + searchesFor log' key := by
  simp [searchesFor]

/-- A key is settled if some answer in the log settles it. -/
theorem mem_settledKeys {log : List Receipt} {key : LookupKey} :
    key ∈ settledKeys log ↔ ∃ e ∈ log, e.settles = true ∧ e.inquiry.key = key := by
  simp [settledKeys, and_assoc]

/-- No search was made for a key under which nothing was settled. -/
theorem searchesFor_of_not_mem {log : List Receipt} {key : LookupKey} (h : key ∉ settledKeys log) :
    searchesFor log key = 0 := by
  have hnone : (log.filter fun e => e.settles && e.inquiry.key == key) = [] := by
    refine List.filter_eq_nil_iff.2 fun e he hkey => h ?_
    obtain ⟨hsettles, hkey⟩ := Bool.and_eq_true_iff.1 hkey
    exact mem_settledKeys.2 ⟨e, he, hsettles, eq_of_beq hkey⟩
  rw [searchesFor, hnone]
  rfl

end Receipt

/-- What a lookup came to, as a receipt. -/
def Resolver.receipt (r : Resolver) (q : Inquiry) (found : Except Fault Finding) (r' : Resolver) :
    Receipt :=
  { inquiry := q, remembers := r.enabled, succeeds := found.toBool,
    searches := r'.discoveries - r.discoveries }

/-- The receipt of a step, if it asks. -/
def ResolverStep.receipt? (svc : ServiceId) (w : World) : ResolverStep → Option Receipt
  | .ask q => some ((w.resolver svc).receipt q (q.ask svc w).1 ((q.ask svc w).2.resolver svc))
  | .clear | .enable _ => none

/-- The receipts of the inquiries among some steps. -/
def receipts (svc : ServiceId) : World → List ResolverStep → List Receipt
  | _, [] => []
  | w, step :: rest => (step.receipt? svc w).toList ++ receipts svc (step.run svc w).2 rest

/-- There is one receipt for each inquiry, in order. -/
theorem inquiry_receipts (svc : ServiceId) (w : World) (steps : List ResolverStep) :
    (receipts svc w steps).map (·.inquiry) = asked steps := by
  induction steps generalizing w with
  | nil => rfl
  | cons step rest ih =>
    rw [receipts, List.map_append, ih]
    cases step <;> rfl

/-! ### The account of a resolver -/

open Receipt in
/-- **The invariant of a run in which nothing is forgotten.** The keys of what is remembered are
    those of what was settled, and every search was the only one for such a key or the only one for
    an inquiry that was not settled. -/
structure Tallies (log : List Receipt) (r : Resolver) : Prop where
  distinct : r.cache.records.keys.Nodup
  remembered : ∀ key, key ∈ r.cache.records.keys ↔ key ∈ settledKeys log
  counted : r.discoveries = r.cache.size + log.countP fun e => !e.settles
  once : ∀ key ∈ r.cache.records.keys, searchesFor log key = 1
  again : ∀ e ∈ log, e.settles = false → e.searches = 1

namespace Tallies

open Receipt

variable {log : List Receipt} {r : Resolver} {q : Inquiry} {e : Receipt}

/-- A new resolver has an empty account. -/
theorem new (on : Bool) : Tallies [] { enabled := on } where
  distinct := List.nodup_nil
  remembered key := by simp [settledKeys, OrderedMap.keys]
  counted := rfl
  once := by simp [OrderedMap.keys]
  again := by simp

/-- Switching memory off and on leaves the account as it is. -/
theorem withEnabled (h : Tallies log r) (on : Bool) : Tallies log { r with enabled := on } :=
  ⟨h.distinct, h.remembered, h.counted, h.once, h.again⟩

/-- An inquiry that is not settled is searched for, and nothing else changes. -/
theorem unsettled (h : Tallies log r) (he : e.settles = false) (hsearches : e.searches = 1) :
    Tallies (log ++ [e]) { r with discoveries := r.discoveries + 1 } where
  distinct := h.distinct
  remembered key := by simp [h.remembered key, settledKeys, he]
  counted := by
    show r.discoveries + 1 = _
    rw [h.counted, List.countP_append]
    simp [he, Nat.add_assoc]
  once key hkey := by
    rw [searchesFor_append, h.once key hkey]
    simp [searchesFor, he]
  again e' he' := by
    rcases List.mem_append.1 he' with hlog | hnew
    · exact h.again e' hlog
    · rw [List.mem_singleton.1 hnew]
      exact fun _ => hsearches

/-- What is recalled costs nothing. -/
theorem recalled (h : Tallies log r) (hkey : e.inquiry.key ∈ r.cache.records.keys)
    (he : e.settles = true) (hsearches : e.searches = 0) : Tallies (log ++ [e]) r where
  distinct := h.distinct
  remembered key := by
    rw [h.remembered, settledKeys, settledKeys, List.filter_append, List.map_append,
      List.mem_append]
    refine ⟨.inl, ?_⟩
    -- The receipt is for a key that is settled already, so no key is added.
    rintro (hlog | hnew)
    · exact hlog
    · obtain rfl : key = e.inquiry.key := by simpa [he] using hnew
      exact (h.remembered _).1 hkey
  counted := by
    rw [h.counted, List.countP_append]
    simp [he]
  once key hin := by
    rw [searchesFor_append, h.once key hin, searchesFor]
    by_cases hk : e.inquiry.key = key <;> simp [he, hk, hsearches]
  again e' he' hsettles := by
    rcases List.mem_append.1 he' with hlog | hnew
    · exact h.again e' hlog hsettles
    · rw [List.mem_singleton.1 hnew, he] at hsettles
      cases hsettles

/-- A key under which nothing was remembered is a new key, and comes last. -/
theorem keys_insert_of_get?_eq_none {c : Cache LookupKey Finding} {key : LookupKey}
    (h : c.get? key = none) (f : Finding) :
    key ∉ c.records.keys ∧ (c.insert key f).records.keys = c.records.keys ++ [key] := by
  have hnot : ¬ c.records.contains key := by
    rw [OrderedMap.contains, Bool.not_eq_true, Option.isSome_eq_false_iff,
      Option.isNone_iff_eq_none]
    exact h
  exact ⟨fun hin => hnot (OrderedMap.get?_isSome_iff.2 ⟨_, hin, rfl⟩),
    (OrderedMap.keys_insert _ _ f).trans (if_neg hnot)⟩

/-- What is found for the first time under a key is searched for once, and remembered. -/
theorem created (h : Tallies log r) (hkey : r.cache.get? e.inquiry.key = none)
    (he : e.settles = true) (hsearches : e.searches = 1) (f : Finding) :
    Tallies (log ++ [e]) { r with
      discoveries := r.discoveries + 1, cache := r.cache.insert e.inquiry.key f } := by
  obtain ⟨hfresh, hkeys⟩ := keys_insert_of_get?_eq_none hkey f
  have hsize : (r.cache.insert e.inquiry.key f).size = r.cache.size + 1 := by
    have hlength := congrArg List.length hkeys
    simpa [OrderedMap.keys, Cache.size, OrderedMap.size] using hlength
  constructor
  case distinct =>
    rw [hkeys]
    exact List.nodup_append.2 ⟨h.distinct, List.nodup_singleton _, by
      rintro a ha b hb rfl
      exact hfresh (List.mem_singleton.1 hb ▸ ha)⟩
  case remembered =>
    intro key
    rw [hkeys, List.mem_append, h.remembered, settledKeys, settledKeys, List.filter_append,
      List.map_append, List.mem_append]
    simp [he]
  case counted =>
    -- There is one search more and one record more, and the inquiry was settled.
    show r.discoveries + 1 = _
    rw [h.counted, hsize, List.countP_append]
    simp [he]
    omega
  case once =>
    intro key hin
    rw [searchesFor_append, searchesFor.eq_def [e]]
    by_cases hk : e.inquiry.key = key
    · -- Nothing was settled under the new key before.
      subst hk
      rw [searchesFor_of_not_mem fun hlog => hfresh ((h.remembered _).2 hlog)]
      simp [he, hsearches]
    · have hold : key ∈ r.cache.records.keys := by
        rw [hkeys] at hin
        rcases List.mem_append.1 hin with hold | hnew
        · exact hold
        · exact absurd (List.mem_singleton.1 hnew).symm hk
      rw [h.once key hold]
      simp [he, hk]
  case again =>
    intro e' he' hsettles
    rcases List.mem_append.1 he' with hlog | hnew
    · exact h.again e' hlog hsettles
    · rw [List.mem_singleton.1 hnew, he] at hsettles
      cases hsettles

/-- **Step lemma.** A lookup keeps the account, whatever is searched and however it ends. -/
theorem lookup (h : Tallies log r) (q : Inquiry) (search : Unit → Except Fault Finding) :
    let found := r.lookup q.key search
    Tallies (log ++ [r.receipt q (found.1.map Prod.fst) found.2]) found.2 := by
  -- A lookup is searched without memory, recalled, or searched and then remembered if it succeeds.
  cases hon : r.enabled with
  | false =>
    rw [Resolver.lookup_of_disabled hon]
    exact h.unsettled (by simp [settles, Resolver.receipt, hon]) (by simp [Resolver.receipt])
  | true =>
    cases hc : r.cache.get? q.key with
    | some f =>
      rw [Resolver.lookup_of_some hon hc]
      refine h.recalled ?_ ?_ (by simp [Resolver.receipt])
      · obtain ⟨key, hkey, hform⟩ :=
          OrderedMap.get?_isSome_iff.1 (Option.isSome_iff_exists.2 ⟨f, hc⟩)
        exact (show key = q.key from hform) ▸ hkey
      · simp [settles, Resolver.receipt, hon, Except.map, Except.toBool]
    | none =>
      cases hs : search () with
      | error e =>
        rw [Resolver.lookup_of_error hon hc hs]
        exact h.unsettled (by simp [settles, Resolver.receipt, Except.map, Except.toBool])
          (by simp [Resolver.receipt])
      | ok f =>
        rw [Resolver.lookup_of_ok hon hc hs]
        refine h.created hc ?_ (by simp [Resolver.receipt]) f
        simp [settles, Resolver.receipt, hon, Except.map, Except.toBool]

/-- Every step but forgetting keeps the account. -/
theorem step {svc : ServiceId} {origin w : World} {n : Notes} (hn : n.Kept svc origin w)
    (h : Tallies log (w.resolver svc)) {step : ResolverStep} (hstep : step ≠ .clear) :
    Tallies (log ++ (step.receipt? svc w).toList) ((step.run svc w).2.resolver svc) := by
  cases step with
  | ask q =>
    obtain ⟨lines, hq⟩ := q.ask_eq svc hn.describes.2.sorted
    simpa [ResolverStep.receipt?, ResolverStep.run, hq, World.lookup] using
      h.lookup q fun _ => w.search svc q
  | clear => exact absurd rfl hstep
  | enable on => simpa [ResolverStep.receipt?, ResolverStep.run] using h.withEnabled on

/-- **Run lemma.** Every run in which nothing is forgotten keeps the account. -/
theorem after {svc : ServiceId} {origin w : World} {n : Notes} (hn : n.Kept svc origin w)
    (h : Tallies log (w.resolver svc)) {steps : List ResolverStep}
    (hsteps : ∀ step ∈ steps, step ≠ .clear) :
    Tallies (log ++ receipts svc w steps) ((ScriptBridge.after svc w steps).resolver svc) := by
  induction steps generalizing log n w with
  | nil => simpa [receipts, ScriptBridge.after] using h
  | cons step rest ih =>
    have hfirst := h.step hn (hsteps step List.mem_cons_self)
    have hrest := ih (hn.step step) hfirst fun s hs => hsteps s (List.mem_cons_of_mem _ hs)
    rwa [List.append_assoc] at hrest

/-- As many findings are remembered as there are keys of what was settled. -/
theorem size_eq_card (h : Tallies log r) : r.cache.size = (settledKeys log).toFinset.card := by
  have hset : (settledKeys log).toFinset = r.cache.records.keys.toFinset := by
    ext key
    rw [List.mem_toFinset, List.mem_toFinset, h.remembered]
  rw [hset, List.toFinset_card_of_nodup h.distinct]
  simp [OrderedMap.keys, Cache.size, OrderedMap.size]

end Tallies

/-! ### The account of a run -/

/-- While all that is done is asking, memory stays on. -/
theorem remembers_of_mem_receipts {svc : ServiceId} {origin w : World} {n : Notes}
    (hn : n.Kept svc origin w) (hon : n.enabled = true) {qs : List Inquiry} {e : Receipt}
    (he : e ∈ receipts svc w (qs.map .ask)) : e.remembers = true := by
  induction qs generalizing n w with
  | nil => cases he
  | cons q rest ih =>
    have henabled : (n.step origin.store (origin.listingLimit svc) (.ask q)).enabled = true := by
      show (if _ then _ else _ : Notes).enabled = true
      split <;> exact hon
    rcases List.mem_append.1 he with hfirst | hrest
    · obtain rfl :
          (w.resolver svc).receipt q (q.ask svc w).1 ((q.ask svc w).2.resolver svc) = e := by
        simpa [ResolverStep.receipt?, eq_comm] using hfirst
      exact hn.describes.2.enabled.trans hon
    · exact ih (hn.step (.ask q)) henabled hrest

/-- A lookup without memory counts one search, and leaves what is remembered as it was. -/
theorem resolver_ask_of_disabled {svc : ServiceId} {w : World} {r : Resolver}
    (hw : w.resolver svc = r) (hr : r.Sorted) (hoff : r.enabled = false) (q : Inquiry) :
    (q.ask svc w).2.resolver svc = { r with discoveries := r.discoveries + 1 } := by
  obtain ⟨lines, hq⟩ := q.ask_eq svc (hw ▸ hr)
  rw [hq, World.resolver_withTrace, World.resolver_withResolver, World.lookup, hw,
    Resolver.lookup_of_disabled hoff]

/-- **The account of a run.** A new resolver is asked for members, constructors and fields, and
    switched off and on, but never told to forget. Then what it remembers are the distinct keys of
    what was found with memory on. Its searches are one for each such key, and one for each inquiry
    that failed or was made with memory off; a memory that stays on from the beginning leaves none
    of the latter. An inquiry with memory off leaves what is remembered as it was. -/
theorem searches_accounted (svc : ServiceId) (w : World) (on : Bool) (steps : List ResolverStep)
    (h : ∀ step ∈ steps, step ≠ .clear) :
    let w₀ := w.withResolver svc { enabled := on }
    let log := receipts svc w₀ steps
    let keys := (Receipt.settledKeys log).toFinset
    let r := (after svc w₀ steps).resolver svc
    log.map (·.inquiry) = asked steps ∧
      r.cache.size = keys.card ∧ (∀ key, r.cache.contains key ↔ key ∈ keys) ∧
      r.discoveries = keys.card + (log.countP fun e => e.remembers && !e.succeeds) +
        (log.countP fun e => !e.remembers) ∧
      (∀ key ∈ keys, Receipt.searchesFor log key = 1) ∧
      (∀ e ∈ log, e.succeeds = false ∨ e.remembers = false → e.searches = 1) ∧
      (on = true → ∀ qs : List Inquiry, steps = qs.map .ask → ∀ e ∈ log, e.remembers = true) ∧
      (r.enabled = false → ∀ q : Inquiry, (q.ask svc (after svc w₀ steps)).2.resolver svc =
        { r with discoveries := r.discoveries + 1 }) := by
  intro w₀ log keys r
  -- A new resolver remembers nothing, so all it is asked for is tallied from the start.
  have hkept := Notes.kept_new svc w on
  have htally : Tallies log r := by
    have hnew : Tallies [] (w₀.resolver svc) := by simpa [w₀] using Tallies.new on
    simpa using hnew.after hkept h
  have hkey (key : LookupKey) : key ∈ keys ↔ key ∈ r.cache.records.keys := by
    rw [List.mem_toFinset, htally.remembered]
  refine ⟨inquiry_receipts svc w₀ steps, htally.size_eq_card, fun key => ?_, ?_, fun key hin => ?_,
    fun e he hopen => ?_, ?_, fun hoff q => ?_⟩
  -- Keys are compared by their forms, and the form of a lookup key is the key itself.
  · rw [hkey, Cache.contains, OrderedMap.contains, OrderedMap.get?_isSome_iff]
    constructor
    · rintro ⟨k, hk, hform⟩
      exact (show k = key from hform) ▸ hk
    · intro hk
      exact ⟨key, hk, rfl⟩
  · -- What is not settled failed with memory on, or was asked with memory off.
    have hsplit (es : List Receipt) : (es.countP fun e => !e.settles) =
        (es.countP fun e => e.remembers && !e.succeeds) + es.countP fun e => !e.remembers := by
      induction es with
      | nil => rfl
      | cons e rest ih =>
        simp only [List.countP_cons, ih]
        cases hon : e.remembers <;> cases hfound : e.succeeds <;>
          simp [Receipt.settles, hon, hfound] <;> omega
    rw [htally.counted, htally.size_eq_card, hsplit, Nat.add_assoc]
  · exact htally.once key ((hkey key).1 hin)
  · refine htally.again e he ?_
    rcases hopen with hfails | hoff <;> simp [Receipt.settles, *]
  · rintro rfl qs rfl e he
    exact remembers_of_mem_receipts hkept rfl he
  · exact resolver_ask_of_disabled rfl (hkept.after steps).describes.2.sorted hoff q

/-- A run that finds a member of tuples under two spellings, misses another one twice, finds the
    constructor and goes on without memory: two findings are remembered, after five searches. -/
theorem searches_accounted_tuple :
    let tally (name : String) := Inquiry.method (.library .tuple) (.ofText name) [.library .int]
    let steps : List ResolverStep :=
      [.ask (tally "count"), .ask (tally "COUNT"), .ask (tally "sum"), .ask (tally "sum"),
       .ask (.constructor (.library .tuple) [.library .list]), .enable false, .ask (tally "Count")]
    let w₀ := ({} : World).withResolver .main { enabled := true }
    let r := (after .main w₀ steps).resolver .main
    (∀ step ∈ steps, step ≠ .clear) ∧ r.cache.size = 2 ∧ r.discoveries = 2 + 2 + 1 := by
  intro tally steps w₀ r
  have hsteps : ∀ step ∈ steps, step ≠ .clear := by simp [steps]
  obtain ⟨-, hsize, -, hsearches, -⟩ := searches_accounted .main {} true steps hsteps
  -- What came of each inquiry is worked out, and the account follows from it.
  have hlog :
      (Receipt.settledKeys (receipts .main w₀ steps)).toFinset.card = 2 ∧
        ((receipts .main w₀ steps).countP fun e => e.remembers && !e.succeeds) = 2 ∧
        ((receipts .main w₀ steps).countP fun e => !e.remembers) = 1 := by
    decide +kernel
  obtain ⟨hkeys, hfailed, hoff⟩ := hlog
  exact ⟨hsteps, hsize.trans hkeys, hsearches.trans (by rw [hkeys, hfailed, hoff])⟩

end ScriptBridge
