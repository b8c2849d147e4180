import Mathlib.Control.Monad.Basic
import ScriptBridge.Eval
import ScriptBridge.Proofs.Construction
import ScriptBridge.Proofs.Overload

namespace ScriptBridge

/-!
# Arguments by name

Members of the host are called by position. Arguments that are given by name come as a map. A
request to call a member refuses them, but calls by name and constructions take the names themselves
for arguments.

* `Host.namesOf` are the names, `Service.positions_of_mapping` tells that they take the positions;
* `Service.dereferenceAndInvoke_of_mapping`: a request to call a member is refused;
* `NamedCall.CallsWith` is what a call by name comes to if some values take the positions, and
  `NamedCall.found_iff` tells whether it finds a member for them;
* `Construction.prepare_of_mapping` is how a construction is prepared;
* `named_arguments_take_positions` puts these together.
-/

open Run

/-! ### Names -/

namespace Host

variable {call : Call} {w u : World}

/-- The names of arguments that are given by name, in their order. The arguments are taken out of
    their wrappers on the way. -/
def namesOf (call : Call) (args : Value) : Run (List Value) := do
  let pairs ← (← mapPairs call args).mapM fun (k, v) => do return (k, ← unwrap call v)
  return (← hostMapOf call pairs).keys.map (·.value)

/-- A key that is set is the value it was made of. -/
theorem mem_keys_of_insertKey {m m' : HostMap} {k x : Value}
    (h : insertKey call m k x w = (.ok m', u)) :
    ∀ key ∈ m'.keys, key ∈ m.keys ∨ key.value = k := by
  obtain ⟨new, v, hnew, h⟩ := bind_eq_ok_iff.1 h
  cases h
  have hvalue : new.value = k := by
    obtain ⟨given, v', hgiven, hin⟩ := bind_eq_ok_iff.1 hnew
    obtain ⟨form, v'', -, hform⟩ := bind_eq_ok_iff.1 hgiven
    cases hform
    -- A key that the map has already lends its form, and not its value.
    unfold keyIn at hin
    split at hin
    · obtain ⟨found, z, -, hfound⟩ := bind_eq_ok_iff.1 hin
      cases found <;> cases hfound <;> rfl
    · cases hin
      rfl
  intro key hkey
  rw [OrderedMap.keys_insert] at hkey
  split at hkey
  · exact .inl hkey
  · rw [List.mem_append, List.mem_singleton] at hkey
    obtain hold | rfl := hkey
    · exact .inl hold
    · exact .inr hvalue

/-- A map has no other keys than those that were set. -/
theorem mem_keys_of_foldlM {pairs : List (Value × Value)} {m m' : HostMap}
    (h : (pairs.foldlM (fun m (k, x) => insertKey call m k x) m) w = (.ok m', u)) :
    ∀ key ∈ m'.keys, key ∈ m.keys ∨ key.value ∈ pairs.map Prod.fst := by
  induction pairs generalizing m w with
  | nil =>
    cases h
    exact fun key hkey => .inl hkey
  | cons pair rest ih =>
    obtain ⟨k, x⟩ := pair
    rw [List.foldlM_cons] at h
    obtain ⟨m₁, u₁, hinsert, hrest⟩ := bind_eq_ok_iff.1 h
    intro key hkey
    rw [List.map_cons, List.mem_cons]
    rcases ih hrest key hkey with hmem | hmem
    · exact (mem_keys_of_insertKey hinsert key hmem).imp_right .inl
    · exact .inr (.inr hmem)

/-- Taking arguments out of their wrappers keeps their names. -/
theorem map_fst_of_mapM {f : Value → Run Value} {pairs pairs' : List (Value × Value)}
    (h : ((pairs.mapM fun (k, v) => do return (k, ← f v)) : Run (List (Value × Value))) w =
      (.ok pairs', u)) :
    pairs'.map Prod.fst = pairs.map Prod.fst := by
  induction pairs generalizing w pairs' with
  | nil => cases h; rfl
  | cons pair rest ih =>
    obtain ⟨k, v⟩ := pair
    rw [List.mapM_cons] at h
    obtain ⟨first, u₁, hfirst, h⟩ := bind_eq_ok_iff.1 h
    obtain ⟨others, u₂, hothers, h⟩ := bind_eq_ok_iff.1 h
    obtain ⟨x, u₃, -, hx⟩ := bind_eq_ok_iff.1 hfirst
    cases hx
    cases h
    rw [List.map_cons, List.map_cons, ih hothers]

/-- The names are keys that the map lists. -/
theorem exists_mem_of_namesOf {args : Value} {names : List Value}
    (h : namesOf call args w = (.ok names, u)) :
    ∃ pairs v, mapPairs call args w = (.ok pairs, v) ∧ ∀ x ∈ names, x ∈ pairs.map Prod.fst := by
  obtain ⟨pairs, v, hpairs, h⟩ := bind_eq_ok_iff.1 h
  obtain ⟨unwrapped, v', hunwrapped, h⟩ := bind_eq_ok_iff.1 h
  obtain ⟨m, v'', hm, h⟩ := bind_eq_ok_iff.1 h
  cases h
  refine ⟨pairs, v, hpairs, fun x hx => ?_⟩
  obtain ⟨key, hkey, rfl⟩ := List.mem_map.1 hx
  rw [← map_fst_of_mapM hunwrapped]
  exact (mem_keys_of_foldlM hm key hkey).resolve_left (by simp [OrderedMap.keys])

/-- Arguments that are given by name become a plain map of their names. -/
theorem exists_unwrapArguments_eq {args : Value} {names : List Value}
    (hmap : w.store.isInstance args .mapping = true)
    (h : namesOf call args w = (.ok names, u)) :
    ∃ i v m, unwrapArguments call args w = (.ok (.object i), v) ∧ u.Grows v ∧
      v.store.deref? (.object i) = some { kind := .library .dict, body := .dict m } ∧
      m.keys.map (·.value) = names := by
  obtain ⟨pairs, w₁, hpairs, h⟩ := bind_eq_ok_iff.1 h
  obtain ⟨unwrapped, w₂, hunwrapped, h⟩ := bind_eq_ok_iff.1 h
  obtain ⟨m, w₃, hm, h⟩ := bind_eq_ok_iff.1 h
  cases h
  obtain ⟨i, v, hnew, hgrows, ho⟩ := exists_alloc_eq u { kind := .library .dict, body := .dict m }
  refine ⟨i, v, m, ?_, hgrows, ho, rfl⟩
  rw [unwrapArguments, bind_of_ok (store_apply w), if_pos hmap, bind_of_ok hpairs,
    bind_of_ok hunwrapped, bind_of_ok hm]
  exact hnew

end Host

namespace Service

open Host

variable {call : Call} {svc : ServiceId} {w u : World} {args : Value}

/-- **Names take positions.** Of arguments that are given by name, the names are what takes the
    positions of a call. -/
theorem positions_of_mapping {names : List Value} (hmap : w.store.isInstance args .mapping = true)
    (h : namesOf call args w = (.ok names, u)) :
    ∃ v, positions call args w = (.ok names, v) ∧ u.Grows v := by
  obtain ⟨i, v, m, hargs, hgrows, ho, rfl⟩ := exists_unwrapArguments_eq hmap h
  refine ⟨v, ?_, hgrows⟩
  rw [positions, bind_of_ok hargs]
  exact itemsOf_dict ho

/-! ### Requests to call a member -/

/-- **Requests are refused.** Where nothing is registered for a target that does not answer for
    itself, and no map has an entry of the name, a member is not called with arguments by name. -/
theorem dereferenceAndInvoke_of_mapping {target key scope : Value} {safe : Bool} {k : Key}
    (hkey : keyOf call key w = (.ok k, u)) (hscope : scope.IsScope) {t : Target}
    (ht : u.store.asTarget target = t) (hsort : u.store.targetKind t ≠ .referenceable)
    (hfunction : (registeredFor? svc t k u).1 = .ok none) :
    ∃ lines, ∀ v, mapValue? call (u.store.targetKind t) t.inst k (u.withTrace lines) =
        (.ok none, v) → v.store.isInstance args .mapping = true →
      dereferenceAndInvoke call svc target key args safe scope w =
        (.error (.engine .namedArguments), v) := by
  obtain ⟨lines, hreceive⟩ := exists_receive_eq call svc (.call args safe) t k u
  have hreceived := hreceive scope hscope
  refine ⟨lines, fun v hentry hmap => ?_⟩
  have hfree : registeredFor? svc t k (u.withTrace lines) = (.ok none, u.withTrace lines) := by
    rw [registeredFor?_withTrace, hfunction]
  rw [dereferenceAndInvoke, bind_of_ok hkey, bind_of_ok (store_apply u), ht, request,
    bind_of_ok (x := wrapperDepth) rfl, serve, bind_of_ok hreceived]
  -- A target that answers for itself is excluded, and the host is asked in every other case.
  split
  next h => exact absurd (congrArg Prod.fst h) hsort
  next kind settled _ h =>
    cases h
    rw [answerHost, invokeHost, bind_of_ok hfree]
    dsimp only
    rw [bind_of_ok hentry]
    dsimp only
    rw [bind_of_ok (store_apply v), if_pos hmap]
    rfl

end Service

/-! ### Calls by name -/

namespace NamedCall

open Host

/-- The arguments of a call by name. -/
def args : NamedCall → Value
  | .onValue _ _ args _ | .onClass _ _ args => args

/-- Whether a call by name that finds no member comes to nothing. -/
def isSafe : NamedCall → Bool
  | .onValue _ _ _ safe => safe
  | .onClass .. => false

/-- What a call by name is about: its target, and the name as a key. -/
def aim (call : Call) : NamedCall → Run (Target × Key)
  | .onValue target name _ _ => do
    let key ← keyOf call name
    return ((← store).asTarget target, key)
  | .onClass target name _ => do
    let s ← store
    let t : Target := match target with
      | .kind k => ⟨k, .none⟩
      | v => s.asTarget v
    return (t, ← keyOf call name)

/-- Whether a member that was found can be called: only a member of the class needs no instance. -/
def canCall (t : Target) (callee : Callee) : NamedCall → Bool
  | .onValue .. => callee.isStatic || t.hasInstance
  | .onClass .. => callee.isStatic

/-- What a member that was found is bound to. -/
def receiver (t : Target) : NamedCall → Value
  | .onValue .. => t.inst
  | .onClass .. => .none

/-- The lookup of a call by name. -/
def found (svc : ServiceId) (t : Target) (key : Key) (values : List Value) (v : World) :
    Except Fault Callee × World :=
  Service.calleeOf svc (.method t.kind key (values.map v.store.kindOf)) v

/-- What a call by name comes to if some values take the positions: it is refused where the lookup
    for their kinds is, or where there is no receiver for the member; else the member is called with
    them. -/
structure CallsWith (call : Call) (svc : ServiceId) (c : NamedCall) (t : Target) (key : Key)
    (values : List Value) (w v : World) : Prop where
  refused : ∀ r, (found svc t key values v).1 = .error (.engine r) → c.isSafe = false →
    c.run call svc w = (.error (.engine r), (found svc t key values v).2)
  unbound : ∀ callee, (found svc t key values v).1 = .ok callee → c.canCall t callee = false →
    ∃ r, c.run call svc w = (.error (.engine r), (found svc t key values v).2)
  called : ∀ callee f v', (found svc t key values v).1 = .ok callee → c.canCall t callee = true →
    Service.bindCallee callee (c.receiver t) t.kind (found svc t key values v).2 = (.ok f, v') →
    c.run call svc w = Service.execute call f values callee.name t.kind v'

variable {call : Call} {svc : ServiceId} {c : NamedCall} {w u v : World} {t : Target} {key : Key}
  {values : List Value}

/-- How a call by name is prepared if some values take the positions: in whatever follows from the
    lookup for their kinds. -/
structure PreparesWith (call : Call) (svc : ServiceId) (c : NamedCall) (t : Target) (key : Key)
    (values : List Value) (w v : World) : Prop where
  refused : ∀ r, (found svc t key values v).1 = .error (.engine r) → c.prepare call svc w =
    (if c.isSafe then .ok none else .error (.engine r), (found svc t key values v).2)
  unbound : ∀ callee, (found svc t key values v).1 = .ok callee → c.canCall t callee = false →
    ∃ r, c.prepare call svc w = (.error (.engine r), (found svc t key values v).2)
  called : ∀ callee, (found svc t key values v).1 = .ok callee → c.canCall t callee = true →
    c.prepare call svc w =
      (Service.bindCallee callee (c.receiver t) t.kind >>= fun f =>
        pure (some ⟨f, values, callee.name, t.kind⟩)) (found svc t key values v).2

/-- A call of a value needs a receiver only for a member that is not static. -/
theorem preparesWith_onValue {target name args : Value} {safe : Bool} (svc : ServiceId)
    (hkey : keyOf call name w = (.ok key, u)) (hname : key.name ≠ "")
    (hvalues : Service.positions call args u = (.ok values, v)) :
    (onValue target name args safe).PreparesWith call svc (u.store.asTarget target) key values
      w v := by
  have hempty : key.name.isEmpty = false := String.isEmpty_eq_false_iff.2 hname
  rcases hfound : found svc (u.store.asTarget target) key values v with ⟨answer, v'⟩
  have hprepare : (onValue target name args safe).prepare call svc w = _ :=
    (bind_of_ok hkey).trans (bind_of_ok (store_apply u))
  simp only [hempty, Bool.false_eq_true, if_false] at hprepare
  rw [bind_of_ok hvalues, bind_of_ok (store_apply v),
    bind_of_ok (outcome_of (show Service.calleeOf svc _ v = _ from hfound))] at hprepare
  -- The search has one of three outcomes, and the preparation branches on them.
  refine ⟨?refused, ?unbound, ?called⟩ <;> rw [hfound]
  case refused =>
    rintro r rfl
    rw [hprepare]
    cases safe <;> rfl
  case unbound =>
    rintro callee rfl hcan
    have hno : (!callee.isStatic && !(u.store.asTarget target).hasInstance) = true := by
      simpa [canCall] using hcan
    simp only [hno, if_true] at hprepare
    exact ⟨_, hprepare⟩
  case called =>
    rintro callee rfl hcan
    have hyes : (!callee.isStatic && !(u.store.asTarget target).hasInstance) = false := by
      revert hcan
      simp only [canCall]
      cases callee.isStatic <;> simp
    simp only [hyes, Bool.false_eq_true, if_false] at hprepare
    exact hprepare

/-- A call of a class takes static members only. It is never safe, so a refusal is passed on. -/
theorem preparesWith_onClass {target name args : Value} (svc : ServiceId)
    (haim : (onClass target name args).aim call w = (.ok (t, key), u)) (hname : key.name ≠ "")
    (hvalues : Service.positions call args u = (.ok values, v)) :
    (onClass target name args).PreparesWith call svc t key values w v := by
  obtain ⟨s, w', hs, haim⟩ := bind_eq_ok_iff.1 haim
  cases hs
  obtain ⟨k, u', hkey, haim⟩ := bind_eq_ok_iff.1 haim
  cases haim
  have hempty : key.name.isEmpty = false := String.isEmpty_eq_false_iff.2 hname
  rcases hfound : found svc _ key values v with ⟨answer, v'⟩
  replace hfound : Service.calleeOf svc _ v = (answer, v') := hfound
  have hprepare : (onClass target name args).prepare call svc w = _ :=
    (bind_of_ok (store_apply w)).trans (bind_of_ok hkey)
  simp only [hempty, Bool.false_eq_true, if_false] at hprepare
  rw [bind_of_ok hvalues, bind_of_ok (store_apply v)] at hprepare
  refine ⟨?refused, ?unbound, ?called⟩ <;> rw [found, hfound]
  case refused =>
    rintro r rfl
    exact hprepare.trans (bind_of_error hfound)
  case unbound =>
    rintro callee rfl hcan
    replace hprepare := hprepare.trans (bind_of_ok hfound)
    have hno : callee.isStatic = false := hcan
    simp only [hno, Bool.not_false, if_true] at hprepare
    exact ⟨_, hprepare⟩
  case called =>
    rintro callee rfl hcan
    replace hprepare := hprepare.trans (bind_of_ok hfound)
    have hyes : callee.isStatic = true := hcan
    simp only [hyes, Bool.not_true, Bool.false_eq_true, if_false] at hprepare
    exact hprepare

/-- How a call by name is prepared once it is known which values take the positions. -/
theorem preparesWith_of_positions (svc : ServiceId) (haim : c.aim call w = (.ok (t, key), u))
    (hname : key.name ≠ "") (hvalues : Service.positions call c.args u = (.ok values, v)) :
    c.PreparesWith call svc t key values w v := by
  cases c with
  | onValue target name args safe =>
    obtain ⟨k, u', hkey, haim⟩ := bind_eq_ok_iff.1 haim
    cases haim
    exact preparesWith_onValue svc hkey hname hvalues
  | onClass target name args => exact preparesWith_onClass svc haim hname hvalues

/-- A call by name calls what it finds with the values that take the positions. -/
theorem callsWith_of_positions (haim : c.aim call w = (.ok (t, key), u)) (hname : key.name ≠ "")
    (hvalues : Service.positions call c.args u = (.ok values, v)) :
    c.CallsWith call svc t key values w v := by
  obtain ⟨hrefused, hunbound, hcalled⟩ := preparesWith_of_positions svc haim hname hvalues
  refine ⟨fun r hr hsafe => ?_, fun callee hc hcan => ?_, fun callee f v' hc hcan hbind => ?_⟩
  · have hprepare := hrefused r hr
    rw [hsafe] at hprepare
    rw [run_eq]
    exact bind_of_error hprepare
  · obtain ⟨r, hprepare⟩ := hunbound callee hc hcan
    refine ⟨r, ?_⟩
    rw [run_eq]
    exact bind_of_error hprepare
  · have hprepare := hcalled callee hc hcan
    rw [bind_of_ok hbind] at hprepare
    rw [run_eq, bind_of_ok hprepare]
    rfl

end NamedCall

/-! ### Members for names -/

/-- What a resolver does not recall, it searches for. -/
theorem Resolver.lookup_of_unrecalled {r : Resolver} {key : LookupKey}
    {search : Unit → Except Fault Finding} (h : r.enabled = false ∨ r.cache.get? key = none) :
    (r.lookup key search).1.map Prod.fst = search () := by
  cases hon : r.enabled with
  | false =>
    rw [lookup_of_disabled hon]
    cases search () <;> rfl
  | true =>
    have hnone : r.cache.get? key = none := h.resolve_left (by simp [hon])
    cases hs : search () with
    | ok f => rw [lookup_of_ok hon hnone hs]; rfl
    | error e => rw [lookup_of_error hon hnone hs]; rfl

/-- Whether a lookup has to search: its answer is not remembered, or memory is off. -/
def World.Searches (w : World) (svc : ServiceId) (q : Inquiry) : Prop :=
  (w.resolver svc).enabled = false ∨ (w.resolver svc).cache.get? q.key = none

/-- A lookup that has to search ends in the error of a hint, or finds what is chosen. -/
theorem Service.calleeOf_of_searches {svc : ServiceId} {w : World} {k : Kind} {name : Key}
    {kinds : List Kind} (h : w.Searches svc (.method k name kinds)) :
    (calleeOf svc (.method k name kinds) w).1 =
      match w.store.methodsFailure? k, (w.store.discover? k name kinds).map Member.record with
      | some e, _ => .error (.host e "")
      | none, some r => .ok r.callee
      | none, none =>
        .error (.engine (w.store.noMethod (w.listingLimit svc) k name kinds)) := by
  have hanswer : (w.lookup svc (.method k name kinds)).1.map Prod.fst =
      w.search svc (.method k name kinds) := Resolver.lookup_of_unrecalled h
  simp only [World.search, Inquiry.search, Inquiry.failure?, Inquiry.found?, Inquiry.missing]
    at hanswer
  obtain ⟨lines, hconsult⟩ := consult_apply w svc (.method k name kinds)
    fun f => f.method?.map MethodRecord.callee
  unfold calleeOf inquire
  -- The lookup ends as the search does; what is found for a member is a member.
  cases hlookup : (w.lookup svc (.method k name kinds)).1 with
  | error e =>
    rw [hlookup] at hanswer hconsult
    rw [bind_of_error hconsult]
    cases hfail : w.store.methodsFailure? k <;> cases hfound : w.store.discover? k name kinds <;>
      simp_all [Except.map]
  | ok f =>
    rw [hlookup] at hanswer hconsult
    rw [bind_of_ok hconsult]
    cases hfail : w.store.methodsFailure? k <;> cases hfound : w.store.discover? k name kinds <;>
      simp_all [Except.map, Finding.method?]

/-- Where the hints can be read, a member is found for some values exactly if an entry of the class
    answers to their kinds, and the lookup is refused exactly if none does. -/
theorem NamedCall.found_iff {svc : ServiceId} {t : Target} {key : Key} {values : List Value}
    {v : World} (h : v.Searches svc (.method t.kind key (values.map v.store.kindOf)))
    (hreadable : v.store.Readable t.kind) :
    ((∃ callee, (found svc t key values v).1 = .ok callee) ↔
      ∃ r, v.store.AnswersFirst t.kind key (values.map v.store.kindOf) r) ∧
    ((∃ r, (found svc t key values v).1 = .error (.engine r)) ↔
      ∀ d ∈ v.store.declarations t.kind, ∀ r,
        ¬ v.store.Answers key (values.map v.store.kindOf) d r) := by
  rw [found, Service.calleeOf_of_searches h, Store.methodsFailure?_eq_none_iff.2 hreadable,
    ← Store.discover?_eq_none_iff]
  simp only [← Store.discover?_record_iff]
  cases v.store.discover? t.kind key (values.map v.store.kindOf) <;> simp

/-! ### Constructions -/

namespace Construction

open Host

variable {call : Call} {svc : ServiceId} {c : Construction} {w u v : World} {names : List Value}

/-- **Names are what a constructor takes**, too, if its class is not a scripted one. -/
theorem prepare_of_mapping (hmap : w.store.isInstance c.args .mapping = true)
    (hnames : namesOf call c.args w = (.ok names, u))
    (hlabel : ∀ t, c.kind ≠ .label t) :
    ∃ args v, unwrapArguments call c.args w = (.ok args, v) ∧ u.Grows v ∧
      ∀ v', Service.isInterface call c.kind v = (.ok false, v') → v.Grows v' →
        v'.store.descends c.kind .scripted = false →
        c.prepare call w =
          (.ok ⟨v.store.typeName c.kind, args, names, names.map v'.store.kindOf⟩, v') := by
  obtain ⟨i, v, m, hargs, hgrows, ho, rfl⟩ := exists_unwrapArguments_eq hmap hnames
  refine ⟨.object i, v, hargs, hgrows, fun v' hinterface hkept hhost => ?_⟩
  have hitems : itemsOf call (.object i) v' = (.ok (m.keys.map (·.value)), v') :=
    itemsOf_dict (hkept.deref? ho)
  rw [prepare, bind_of_ok hargs, bind_of_ok (x := typeName c.kind) rfl, bind_of_ok hinterface]
  simp only [Bool.false_eq_true, if_false]
  rw [bind_of_ok (store_apply v'), hhost]
  simp only [Bool.false_eq_true, if_false]
  rw [bind_of_ok hitems]
  rfl

end Construction

/-! ### What becomes of arguments by name -/

/-- Every refusal of the engine is an error of its own. -/
theorem Host.isA_engineRuntimeError (s : Store) (r : Reason) :
    faultIsA s (.engine r) .engineRuntimeError = true := by
  cases r <;> rfl

open Host Service in
/-- **Arguments by name.** A request to call a member of a value that does not answer for itself
    refuses them. A call by name and a construction do not ask: the names, which are keys of the
    map, are taken for arguments, and what is found for their kinds is called with them. Such a call
    is refused only where nothing is found for the names, or where what is found has no receiver;
    and if nothing is remembered of the lookup, a member is found exactly if an entry of the class
    answers to the kinds of the names. -/
theorem named_arguments_take_positions (call : Call) (svc : ServiceId) :
    (∀ (target key args scope : Value) (safe : Bool) (k : Key) (w u : World),
      keyOf call key w = (.ok k, u) → scope.IsScope →
      let t := u.store.asTarget target
      let kind := u.store.targetKind t
      kind ≠ .referenceable → (registeredFor? svc t k u).1 = .ok none →
      ∃ lines, ∀ v, mapValue? call kind t.inst k (u.withTrace lines) = (.ok none, v) →
        v.store.isInstance args .mapping = true →
        dereferenceAndInvoke call svc target key args safe scope w =
          (.error (.engine .namedArguments), v)) ∧
    (∀ (c : NamedCall) (t : Target) (key : Key) (names : List Value) (w u u' : World),
      c.aim call w = (.ok (t, key), u) → key.name ≠ "" →
      u.store.isInstance c.args .mapping = true → namesOf call c.args u = (.ok names, u') →
      (∃ pairs v, mapPairs call c.args u = (.ok pairs, v) ∧ ∀ x ∈ names, x ∈ pairs.map Prod.fst) ∧
      ∃ v, positions call c.args u = (.ok names, v) ∧ u'.Grows v ∧
        c.CallsWith call svc t key names w v ∧
        let s := v.store
        let kinds := names.map s.kindOf
        v.Searches svc (.method t.kind key kinds) → s.Readable t.kind →
          ((∃ callee, (NamedCall.found svc t key names v).1 = .ok callee) ↔
            ∃ r, s.AnswersFirst t.kind key kinds r) ∧
          ((∃ r, (NamedCall.found svc t key names v).1 = .error (.engine r)) ↔
            ∀ d ∈ s.declarations t.kind, ∀ r, ¬ s.Answers key kinds d r)) ∧
    (∀ (c : Construction) (names : List Value) (w u : World),
      w.store.isInstance c.args .mapping = true → namesOf call c.args w = (.ok names, u) →
      (∀ t, c.kind ≠ .label t) →
      ∃ args v, unwrapArguments call c.args w = (.ok args, v) ∧ u.Grows v ∧
        ∀ v', isInterface call c.kind v = (.ok false, v') → v.Grows v' →
          v'.store.descends c.kind .scripted = false →
          let b : Blueprint := ⟨v.store.typeName c.kind, args, names, names.map v'.store.kindOf⟩
          c.prepare call w = (.ok b, v') ∧
            (∀ r u', c.find svc b v' = (.error (.engine r), u') → c.run call svc w =
              (.error (.wrapped (.constructorLookupFailed b.type) (.engine r)), u')) ∧
            ∀ f u', c.Ready call svc w b f u' → c.run call svc w =
              (reporting call (call f { positional := names }) (.constructorFailed b.type) >>=
                c.complete call svc b) u') ∧
    ∀ (s : Store) (r : Reason), faultIsA s (.engine r) .engineRuntimeError = true := by
  -- The three entry points take the arguments apart at different places, so each has its own lemma.
  refine ⟨?_, fun c t key names w u u' haim hname hmap hnames => ?_,
    fun c names w u hmap hnames hlabel => ?_, isA_engineRuntimeError⟩
  · intro target key args scope safe k w u hkey hscope t kind hsort hfunction
    exact dereferenceAndInvoke_of_mapping hkey hscope rfl hsort hfunction
  · obtain ⟨v, hpositions, hgrows⟩ := positions_of_mapping hmap hnames
    refine ⟨exists_mem_of_namesOf hnames, v, hpositions, hgrows,
      NamedCall.callsWith_of_positions haim hname hpositions, fun hsearches hreadable => ?_⟩
    exact NamedCall.found_iff hsearches hreadable
  · obtain ⟨args, v, hargs, hgrows, hprepare⟩ := Construction.prepare_of_mapping hmap hnames hlabel
    refine ⟨args, v, hargs, hgrows, fun v' hinterface hkept hhost => ?_⟩
    replace hprepare := hprepare v' hinterface hkept hhost
    refine ⟨hprepare, fun r u' hfind => ?_, fun f u' hready => ?_⟩
    · rw [Construction.run_eq, bind_of_ok hprepare, bind_of_ok (outcome_of hfind)]
      rfl
    · obtain ⟨hprepared, hfind, hbind⟩ := hready
      -- A construction is prepared once, so what it was ready with is what was found here.
      obtain rfl := (Prod.mk.inj (hprepare.symm.trans hprepared)).2
      rw [Construction.run_eq, bind_of_ok hprepare, bind_of_ok (outcome_of hfind),
        Construction.finish, bind_of_ok hbind]
      rfl

/-! ### A greeting that is given a name -/

/-- A class with a static member that takes one argument and gives it back, an instance, and an
    argument by name. -/
def greeter : World where
  store :=
    { objects := #[
        { kind := .library .function,
          body := .function ⟨"hello", [⟨"name", .normal, none, none⟩], .param "name", false, {}⟩ },
        { kind := .library .staticMethod, body := .staticMethod (.object 0) },
        { kind := .declared 0 },
        { kind := .library .dict,
          body := .dict ⟨[(⟨.text "name", .text "name"⟩, .text "World")]⟩ }]
      classes := #[
        { name := "Greeter", qualifiedName := "Greeter", home := some "host",
          bases := [.library .object], lineage := [.declared 0, .library .object],
          metaclass := .type, attrs := ⟨[("hello", .object 1)]⟩ }] }

/-- The greeting, called by name. -/
def greeting : NamedCall := .onValue (.object 2) (.text "hello") (.object 3) false

/-- A request to greet is refused; a greeting by name is the call with the word `name`; and a
    construction, which takes no argument, is refused. -/
theorem named_arguments_take_positions_greeter :
    (∃ v, Service.dereferenceAndInvoke Host.callValue .main (.object 2) (.text "hello") (.object 3)
      false .none greeter = (.error (.engine .namedArguments), v)) ∧
    (∃ v, greeting.run Host.callValue .main greeter =
      Service.execute Host.callValue (.object 0) [.text "name"] "hello" (.declared 0) v) ∧
    ∃ v, (Construction.mk (.declared 0) (.object 3) .none).run Host.callValue .main greeter =
      (.error (.wrapped (.constructorLookupFailed "host.Greeter")
        (.engine (.noConstructor "host.Greeter" ["str"]))), v) := by
  obtain ⟨hrequest, hcall, hconstruction, -⟩ :=
    named_arguments_take_positions Host.callValue .main
  refine ⟨?_, ?_, ?_⟩
  · obtain ⟨lines, hrefused⟩ := hrequest (.object 2) (.text "hello") (.object 3) .none false
      (.ofText "hello") greeter greeter rfl (.inl rfl) (by decide) (by decide +kernel)
    exact ⟨_, hrefused _ rfl rfl⟩
  · obtain ⟨-, v, hpositions, -, hcalls, -⟩ := hcall greeting ⟨.declared 0, .object 2⟩
      (.ofText "hello") [.text "name"] greeter greeter _ rfl (by decide) (by decide +kernel)
      (Run.eq_of_fst (by decide +kernel))
    obtain rfl : (Service.positions Host.callValue greeting.args greeter).2 = v := by
      rw [hpositions]
    exact ⟨_, hcalls.called ⟨"hello", .object 1, true⟩ (.object 0) _ (by decide +kernel) rfl
      (Run.eq_of_fst (by decide +kernel))⟩
  · obtain ⟨args, v, hargs, -, hprepared⟩ := hconstruction ⟨.declared 0, .object 3, .none⟩
      [.text "name"] greeter _ (by decide +kernel) (Run.eq_of_fst (by decide +kernel)) nofun
    have hmade : (Host.unwrapArguments Host.callValue (.object 3) greeter).1 =
      .ok (.object 4) := by decide +kernel
    obtain rfl : (Host.unwrapArguments Host.callValue (.object 3) greeter).2 = v := by rw [hargs]
    rw [hargs] at hmade
    cases hmade
    have hinterface : Service.isInterface Host.callValue (.declared 0)
        (Host.unwrapArguments Host.callValue (.object 3) greeter).2 =
      (.ok false, (Host.unwrapArguments Host.callValue (.object 3) greeter).2) := rfl
    exact ⟨_, (hprepared _ hinterface (.refl _) (by decide +kernel)).2.1 _ _
      (Run.eq_of_fst (by decide +kernel))⟩

/-- No member is to be called with the names of arguments, but this one is. -/
theorem name_greeted_greeter :
    greeter.store.isInstance greeting.args .mapping = true ∧
      (greeting.run Host.callValue .main greeter).1 = .ok (.text "name") := by
  decide +kernel

end ScriptBridge
