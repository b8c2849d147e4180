import ScriptBridge.Proofs.FieldNames
import ScriptBridge.Proofs.Received
import ScriptBridge.Proofs.Safe

namespace ScriptBridge

/-!
# Keys that were missed

An error about a missing key says which keys there are. Whether a key is missing and which keys
there are is decided apart: a struct looks a key up and then lists its keys, a host map is asked
whether it has the key and then for its keys, and an instance is searched for a field and then for
its fields. The error is right about the key if the two agree, so that the key is none of those it
lists.

* `RefusedOnly` tells that a strict operation is refused only as the safe one is, or in a way of
  some sort: the refusals of that sort are those for a miss;
* `Container.readStruct_refusedOnly`, `Container.readScripted_refusedOnly`,
  `Service.readMap_refusedOnly` and `Service.readField_refusedOnly` say it where a key is looked up;
* `Service.serve_refusedOnly` is the invariant along the wrappers of a target;
* `Service.refused_key_is_missed`: a key that a read is refused for is none of the keys that the
  error carries, unless a scripted instance has the absent value under it;
* `Service.absent_key_is_carried`: there, the error does carry the key.
-/

/-! ### What an error carries -/

/-- The form by which a host map compares a text or a number. -/
def Value.mapForm? : Value → Option KeyForm
  | .text t => some (.text t)
  | v => Store.numberForm? v

/-- Whether an error carries a key among those that it says there are. Host maps tell spellings
    apart, and have a key under the value that it stands for or under its name; elsewhere the case
    does not matter. -/
def Reason.Carries (r : Reason) (k : Key) : Prop :=
  match r with
  | .mapKeyMissing _ _ values _ =>
    ∃ x ∈ values, x.mapForm? = some k.mapForm ∨ x.mapForm? = some (.text k.name)
  | r => ∃ t, .text t ∈ r.keys ∧ foldCase t = k.folded

namespace Store

variable {s : Store} {v : Value} {k : Key} {m : OrderedMap Key Value}

/-- Whether a value is a struct with some entries, which lists and reads its keys as the library
    does. -/
structure ShowsKeys (s : Store) (v : Value) (m : OrderedMap Key Value) : Prop where
  body : ∃ card, s.body? v = some (.struct m card)
  reader : s.libraryMethod? v "dereference" = some .struct
  names : ∃ l, s.libraryMethod? v "key_names" = some l

/-- Whether a scripted instance has the absent value under a key. -/
def HoldsAbsent (s : Store) (v : Value) (k : Key) : Prop :=
  ∃ members m card, s.ShowsPublic v members ∧ s.body? members = some (.struct m card) ∧
    m.get? k = some .absent

end Store

/-! ### Refusals of strict operations -/

/-- Whether a strict operation is refused at a world only as the safe one is, or in a way of some
    sort. -/
def RefusedOnly (P : Reason → World → Prop) (strict safe : Run Value) (w : World) : Prop :=
  ∀ r w', strict w = (.error (.engine r), w') → (∃ u, safe w = (.error (.engine r), u)) ∨ P r w'

namespace RefusedOnly

open Run

variable {α : Type} {w : World} {strict safe : Run Value} {P : Reason → World → Prop}

/-- A request is refused as it is itself. -/
theorem refl (x : Run Value) : RefusedOnly P x x w := fun _ w' h => .inl ⟨w', h⟩

/-- Requests can be replaced by others that come to the same in this world. -/
theorem congr (h : RefusedOnly P strict safe w) {strict' safe' : Run Value}
    (hstrict : strict' w = strict w) (hsafe : safe' w = safe w) :
    RefusedOnly P strict' safe' w := by
  intro r w' hr
  rw [hsafe]
  exact h r w' (hstrict ▸ hr)

/-- Two requests that begin alike are compared by what follows. -/
theorem bind {x : Run α} {f g : α → Run Value}
    (h : ∀ a w', x w = (.ok a, w') → RefusedOnly P (f a) (g a) w') :
    RefusedOnly P (x >>= f) (x >>= g) w := by
  intro r w' hr
  obtain hx | ⟨a, u, hx, hf⟩ := bind_eq_error_iff.1 hr
  · exact .inl ⟨w', bind_of_error hx⟩
  · rw [bind_of_ok hx]
    exact h a u hx r w' hf

/-- Two requests that branch alike are compared branch by branch. -/
theorem ite {p : Prop} [Decidable p] {a b c d : Run Value} (ht : p → RefusedOnly P a c w)
    (he : ¬ p → RefusedOnly P b d w) :
    RefusedOnly P (if p then a else b) (if p then c else d) w := by
  by_cases h : p
  · rw [if_pos h, if_pos h]
    exact ht h
  · rw [if_neg h, if_neg h]
    exact he h

/-- An operation that is refused in a way of the sort alone. -/
theorem of_eq {r : Reason} {u : World} (h : strict w = (.error (.engine r), u)) (hr : P r u) :
    RefusedOnly P strict safe w := by
  intro r' w' hr'
  rw [h] at hr'
  cases hr'
  exact .inr hr

end RefusedOnly

/-- Whether an error about a key carries the key only where a scripted instance has the absent value
    under it. -/
def Missed (k : Key) (r : Reason) (w : World) : Prop := r.Carries k → w.store.HoldsAbsent r.target k

namespace Missed

variable {k : Key} {r : Reason} {w : World}

/-- Where a reason does not carry the key, there is nothing to say. -/
theorem of_not_carries (h : ¬ r.Carries k) : Missed k r w := fun hr => absurd hr h

/-- An error that carries no keys does not carry the key. -/
theorem of_keys_eq_nil (h : r.keys = []) : Missed k r w := by
  refine of_not_carries fun hr => ?_
  cases r with
  | mapKeyMissing name shown values v =>
    obtain ⟨x, hx, -⟩ := hr
    have hvalues : values = [] := h
    rw [hvalues] at hx
    cases hx
  | _ =>
    obtain ⟨t, ht, -⟩ := hr
    rw [h] at ht
    cases ht

end Missed

/-! ### Values that answer for themselves -/

namespace Container

open Run Host

variable {call : Call} {w : World} {v members scope : Value} {k : Key} {m : OrderedMap Key Value}
  {l : LibraryKind}

/-- An index that is no index of a sequence is refused without any keys. -/
theorem readIndex_refusedOnly (k : Key) (n : Int) (f : Option Int → Run Value) :
    RefusedOnly (Missed k) (orFail (k.readIndex n false) >>= f)
      (orFail (k.readIndex n true) >>= f) w := by
  -- Only a word and a place outside are treated otherwise by a safe read.
  cases hk : k.reading with
  | tooLong =>
    have hsame : k.readIndex n false = k.readIndex n true := by simp [Key.readIndex, hk]
    rw [hsame]
    exact .refl _
  | word =>
    have hfalse : k.readIndex n false = .error (.engine (.indexNotNumeric k.name)) := by
      simp [Key.readIndex, hk]
    rw [hfalse]
    exact .of_eq rfl (.of_keys_eq_nil rfl)
  | index i =>
    by_cases hi : i < 1 ∨ n < i
    · have hfalse : k.readIndex n false = .error (.engine (.indexOutOfBounds i n)) := by
        simp [Key.readIndex, hk, hi]
      rw [hfalse]
      exact .of_eq rfl (.of_keys_eq_nil rfl)
    · have hsame : k.readIndex n false = k.readIndex n true := by simp [Key.readIndex, hk, hi]
      rw [hsame]
      exact .refl _

/-- The names of the keys of a struct have the form of a key exactly if the struct has the key. -/
theorem exists_mem_names_iff : (∃ t, .text t ∈ m.keys.map (fun k => Value.text k.name) ∧
    foldCase t = k.folded) ↔ (m.get? k).isSome := by
  rw [OrderedMap.get?_isSome_iff]
  constructor
  · rintro ⟨t, ht, hfold⟩
    obtain ⟨key, hkey, hname⟩ := List.mem_map.1 ht
    cases hname
    exact ⟨key, hkey, hfold⟩
  · rintro ⟨key, hkey, hform⟩
    exact ⟨key.name, List.mem_map.2 ⟨key, hkey, rfl⟩, hform⟩

/-- A struct refuses a strict read as it does a safe one, or for a key that is not among those it
    lists. -/
theorem readStruct_refusedOnly (h : w.store.ShowsKeys v m) (k : Key) :
    RefusedOnly (Missed k) (readStruct call v m k false) (readStruct call v m k true) w := by
  unfold readStruct
  refine .ite (fun _ => .refl _) fun _ => ?_
  cases hget : m.get? k with
  | some x => exact .refl _
  | none =>
    obtain ⟨card, hbody⟩ := h.body
    obtain ⟨l, hnames⟩ := h.names
    obtain ⟨shown, w', hlist, -⟩ := exists_listKeys_eq call hnames hbody
    refine .of_eq (bind_of_ok hlist) (.of_not_carries fun hcarries => ?_)
    have hsome := exists_mem_names_iff.1 hcarries
    rw [hget] at hsome
    cases hsome

/-- A scripted instance is read in the struct of its public members. What that lacks counts as
    missing, and so does what is absent in it. -/
theorem readScripted_eq {name : String} (hm : w.store.libraryMethod? v name = some l)
    (hpublic : w.store.ShowsPublic v members) (hkeys : w.store.ShowsKeys members m)
    (hmeta : ¬ k.same .metadata) (scope : Value) (safe : Bool) :
    readScripted call v scope k safe w =
      (let found := (m.get? k).getD .absent
      if found ≠ .absent || safe then pure found
      else keyRefused call members fun shown keys => .classKeyMissing k.name
        (w.store.typeName (w.store.kindOf v)) shown keys v : Run Value) w := by
  have hscope := publicScope_of_showsPublic call hpublic hm
  obtain ⟨card, hbody⟩ := hkeys.body
  rw [readScripted, if_neg hmeta, bind_of_ok hscope]
  refine (@bind_of_ok Value Value _ _ w w ((m.get? k).getD .absent) ?found).trans ?_
  case found =>
    rw [viaKeyed_apply hkeys.reader, bind_of_ok (body?_apply w members), hbody]
    simp only [readStruct, if_neg hmeta]
    cases m.get? k <;> rfl
  dsimp only
  split
  · rfl
  · refine (bind_of_ok (x := typeNameOf v) rfl).trans ?_
    rw [bind_of_ok hscope]

/-- What a scripted instance shows stays the same where objects are added. -/
theorem showsPublic_of_grows {w' : World} (hgrows : w.Grows w')
    (h : w.store.ShowsPublic v members) : w'.store.ShowsPublic v members := by
  have hheld := h.held
  cases ho : w.store.deref? v with
  | none =>
    rw [ho] at hheld
    cases hheld
  | some o =>
    have ho' : w'.store.deref? v = some o := hgrows.deref? ho
    have hkind : w'.store.kindOf v = w.store.kindOf v := by
      rw [Store.kindOf_of_deref? ho, Store.kindOf_of_deref? ho']
    have hclasses : ∀ k name, w'.store.inherited? k name = w.store.inherited? k name := by
      obtain ⟨os, n, rfl⟩ := hgrows
      exact fun _ _ => rfl
    refine ⟨by rw [ho', ← ho, h.held], by rw [hkind, hclasses, h.free], ?_⟩
    rw [Store.body?, ho', ← ho]
    exact h.unbound

/-- A public member that is missing or absent is refused with the names of all public members. -/
theorem exists_readScripted_eq (call : Call) {name : String}
    (hm : w.store.libraryMethod? v name = some l)
    (hpublic : w.store.ShowsPublic v members) (hkeys : w.store.ShowsKeys members m)
    (hmeta : ¬ k.same .metadata) (habsent : (m.get? k).getD .absent = .absent) (scope : Value) :
    ∃ shown w', readScripted call v scope k false w =
        (.error (.engine (.classKeyMissing k.name (w.store.typeName (w.store.kindOf v)) shown
          (m.keys.map fun k => .text k.name) v)), w') ∧ w.Grows w' := by
  obtain ⟨card, hbody⟩ := hkeys.body
  obtain ⟨l', hnames⟩ := hkeys.names
  obtain ⟨shown, w', hlist, hgrows⟩ := exists_listKeys_eq call hnames hbody
  refine ⟨⟨shown, Listing.defaultLimit⟩, w', ?_, hgrows⟩
  rw [readScripted_eq hm hpublic hkeys hmeta]
  simp only [habsent, ne_eq, not_true_eq_false, decide_false, Bool.or_false, Bool.false_eq_true,
    if_false]
  exact (bind_of_ok hlist).trans rfl

/-- An instance of a class of a script refuses a strict read as it does a safe one, or for a name
    that is not among those it lists or that stands for what is absent. -/
theorem readScripted_refusedOnly {name : String} (hm : w.store.libraryMethod? v name = some l)
    (hpublic : w.store.ShowsPublic v members) (hkeys : w.store.ShowsKeys members m) (k : Key) :
    RefusedOnly (Missed k) (readScripted call v scope k false)
      (readScripted call v scope k true) w := by
  by_cases hmeta : k.same .metadata
  · have hsame (safe : Bool) : readScripted call v scope k safe = description call v := by
      rw [readScripted, if_pos hmeta]
    rw [hsame, hsame]
    exact .refl _
  · by_cases habsent : (m.get? k).getD .absent = .absent
    · obtain ⟨shown, w', hread, hgrows⟩ :=
        exists_readScripted_eq call hm hpublic hkeys hmeta habsent scope
      refine .of_eq hread fun hcarries => ?_
      obtain ⟨card, hbody⟩ := hkeys.body
      -- The name is listed though it is missed: what is stored there is the absent value.
      obtain ⟨x, hx⟩ := Option.isSome_iff_exists.1 (exists_mem_names_iff.1 hcarries)
      rw [hx] at habsent
      obtain rfl : x = .absent := habsent
      exact ⟨members, m, card, showsPublic_of_grows hgrows hpublic, hgrows.body? hbody, hx⟩
    · -- What is found is given back, whether the read is safe or not.
      have hread (safe : Bool) : readScripted call v scope k safe w =
          (.ok ((m.get? k).getD .absent), w) := by
        rw [readScripted_eq hm hpublic hkeys hmeta]
        simp [habsent]
      intro r w' hr
      rw [hread] at hr
      cases hr

end Container

/-! ### Host maps -/

/-- Whether a value is a plain host map that finds a key by its form, and whose keys can be shown
    without a change to it. -/
structure World.HoldsPairs (call : Call) (w : World) (v : Value) (m : HostMap) (k : Key) :
    Prop where
  there : w.store.deref? v = some { kind := .library .dict, body := .dict m }
  forms : ∀ key ∈ m.keys, ∀ f, key.value.mapForm? = some f → key.form = f
  value : (Holding.pairs m).Places k
  name : (Holding.pairs m).Places (.ofText k.name)
  shown : ∀ u, w.Grows u → match ((m.keys.map (·.value)).mapM (Host.textOf call)) u with
    | (.ok _, u') => u'.store.deref? v = some { kind := .library .dict, body := .dict m }
    | (.error e, _) => ∀ r, e ≠ .engine r

namespace Service

open Run Host

variable {w : World} {v scope : Value} {k : Key} {m : HostMap} {n : Nat}

/-- The keys of a plain host map are listed, unless host code fails to show one of them. -/
theorem listMapKeys_cases (h : w.HoldsPairs (callAt (n + 2)) v m k) (svc : ServiceId) :
    (∃ shown w', listMapKeys (callAt (n + 2)) svc v w = (.ok (shown, m.keys.map (·.value)), w')) ∨
      ∃ e w', listMapKeys (callAt (n + 2)) svc v w = (.error e, w') ∧ ∀ r, e ≠ .engine r := by
  have hthere := h.there
  cases v with
  | object i =>
    obtain ⟨j, w₁, hkeys, hgrows, hitems⟩ := exists_callMethod_keys_eq n hthere
    have hshown := h.shown w₁ hgrows
    unfold listMapKeys
    simp only [bind_assoc]
    rw [bind_of_ok hkeys, bind_of_ok hitems]
    -- Showing a key calls host code. The keys are then asked for once more.
    rcases hshow : ((m.keys.map (·.value)).mapM (textOf (callAt (n + 2)))) w₁ with ⟨e | texts, w₂⟩
    · rw [hshow] at hshown
      exact .inr ⟨e, w₂, bind_of_error hshow, hshown⟩
    · rw [hshow] at hshown
      obtain ⟨j', w₃, hkeys', -, hitems'⟩ := exists_callMethod_keys_eq n hshown
      refine .inl ⟨⟨texts, (w₂.service svc).config.listingLimit⟩, w₃, ?_⟩
      rw [bind_of_ok hshow, bind_of_ok (service_apply w₂ svc), bind_of_ok hkeys',
        bind_of_ok hitems']
      rfl
  | _ => cases hthere

/-- A key that a host map holds neither under its value nor under its name is none of its keys. -/
theorem not_carries_of_not_contains (h : w.HoldsPairs (callAt (n + 2)) v m k)
    (hvalue : m.contains k.mapKey = false) (hname : m.contains (Key.ofText k.name).mapKey = false)
    (shown : Listing) :
    ¬ (Reason.mapKeyMissing k.name shown (m.keys.map (·.value)) v).Carries k := by
  rintro ⟨x, hx, hform⟩
  obtain ⟨key, hkey, rfl⟩ := List.mem_map.1 hx
  obtain hform | hform := hform
  · have hfound : m.contains k.mapKey = true :=
      OrderedMap.get?_isSome_iff.2 ⟨key, hkey, h.forms key hkey _ hform⟩
    rw [hvalue] at hfound
    cases hfound
  · have hfound : m.contains (Key.ofText k.name).mapKey = true :=
      OrderedMap.get?_isSome_iff.2 ⟨key, hkey, h.forms key hkey _ hform⟩
    rw [hname] at hfound
    cases hfound

/-- A map of the host refuses a strict read as it does a safe one, or for a key that is not among
    those it lists. -/
theorem readMap_refusedOnly (h : w.HoldsPairs (callAt (n + 2)) v m k) (svc : ServiceId) :
    RefusedOnly (Missed k) (readMap (callAt (n + 2)) svc v k false)
      (readMap (callAt (n + 2)) svc v k true) w := by
  have hkind : w.store.kindOf v = .library .dict := Store.kindOf_of_deref? h.there
  have hbody : w.store.body? v = some (.dict m) := by rw [Store.body?, h.there, Option.map_some]
  have hfirst := contains_of_dict hkind hbody (mapKeyIn_of_places (callAt (n + 2)) w h.value)
  have hnamed : mapKeyIn (callAt (n + 2)) m (.text k.name) w = (.ok (.ofText k.name), w) :=
    mapKeyIn_of_places (callAt (n + 2)) w h.name
  -- The map is looked through for the value of the key first, and for its text then.
  cases hvalue : m.contains k.mapKey with
  | true =>
    have hread (safe : Bool) : readMap (callAt (n + 2)) svc v k safe w =
        getItem (callAt (n + 2)) v k.toValue w := by
      rw [readMap, bind_of_ok hfirst, hvalue, if_pos rfl]
    exact (RefusedOnly.refl _).congr (hread false) (hread true)
  | false =>
    have hnext := containsName_of_dict hkind hbody hnamed hvalue
    have hread (safe : Bool) : readMap (callAt (n + 2)) svc v k safe w =
        (if m.contains (.ofText k.name) then getItem (callAt (n + 2)) v (.text k.name)
        else if safe then pure .absent
        else listMapKeys (callAt (n + 2)) svc v >>= fun r =>
          refuse (.mapKeyMissing k.name r.1 r.2 v) : Run Value) w := by
      rw [readMap, bind_of_ok hfirst, hvalue, if_neg Bool.false_ne_true, bind_of_ok hnext]
    refine RefusedOnly.congr (.ite (fun _ => .refl _) fun hname => ?_) (hread false) (hread true)
    have hmissed := not_carries_of_not_contains h hvalue (Bool.eq_false_iff.2 hname)
    rw [if_neg Bool.false_ne_true]
    -- Listing the keys may fail by itself, and such a failure is none of the engine.
    obtain ⟨shown, w', hlist⟩ | ⟨e, w', hlist, he⟩ := listMapKeys_cases h svc
    · exact .of_eq (bind_of_ok hlist) (.of_not_carries (hmissed shown))
    · intro r u hr
      rw [bind_of_error hlist] at hr
      cases hr
      exact absurd rfl (he r)

/-! ### Fields -/

/-- A lookup of a declared field that is refused found none, if memory holds fields for fields. -/
theorem findField?_eq_none_of_inquire {svc : ServiceId} {t : Target} {r : Reason} {w' : World}
    (hsorted : (w.resolver svc).Sorted)
    (h : inquire svc (.field t.kind k) (fun f => f.field?.map Field.place) w =
      (.error (.engine r), w')) :
    w'.store = w.store ∧ w.store.findField? t.kind k = none := by
  obtain ⟨lines, hconsult⟩ :=
    consult_apply w svc (.field t.kind k) fun f => f.field?.map Field.place
  cases hanswer : (w.lookup svc (.field t.kind k)).1 with
  | error e =>
    rw [hanswer] at hconsult
    rw [inquire, bind_of_error hconsult] at h
    cases h
    have hsearch := Resolver.error_of_lookup hanswer
    refine ⟨by simp, ?_⟩
    cases hf : w.store.findField? t.kind k with
    | none => rfl
    | some f =>
      simp [World.search, Inquiry.search, Inquiry.failure?, Inquiry.found?, hf] at hsearch
  | ok found =>
    -- An answer for a field is a field, and that is no refusal.
    have hsuits : found.1.Suits (Inquiry.field t.kind k).key :=
      Resolver.suits_of_lookup hsorted (fun _ => Inquiry.suits_of_search)
        (congrArg (Except.map Prod.fst) hanswer)
    rw [hanswer] at hconsult
    rw [inquire, bind_of_ok hconsult] at h
    obtain ⟨f, source⟩ := found
    cases f with
    | method c => cases hsuits
    | field f => cases h

/-- A field that is not found is not listed. -/
theorem not_lists_of_findField?_eq_none {svc : ServiceId} {t : Target} {w' : World}
    (hsorted : (w.resolver svc).Sorted) (h : findField? svc t k w = (.ok none, w')) :
    ¬ w'.store.Lists t k := by
  unfold findField? at h
  rcases hinquire : inquire svc (.field t.kind k) (fun f => f.field?.map Field.place) w with
    ⟨e | f, u⟩
  · rw [bind_of_ok (outcome_of hinquire)] at h
    cases e with
    | engine r =>
      obtain ⟨hstore, hdeclared⟩ := findField?_eq_none_of_inquire hsorted hinquire
      -- The instance is asked in the store in which the classes were searched.
      have howned : w' = u ∧ ¬ u.store.Owns t k := by
        cases hinst : t.hasInstance with
        | false =>
          simp only [hinst, Bool.false_eq_true, if_false] at h
          cases h
          refine ⟨rfl, fun howns => ?_⟩
          rw [Store.hasInstance_of_owns howns] at hinst
          cases hinst
        | true =>
          simp only [hinst, if_true] at h
          rw [bind_of_ok (store_apply u), pure_apply] at h
          injection h with hnone hworld
          injection hnone with hnone
          refine ⟨hworld.symm, fun howns => ?_⟩
          have hsome := Store.ownAttribute?_isSome_iff.2 howns
          rw [Option.map_eq_none_iff.1 hnone] at hsome
          cases hsome
      obtain ⟨rfl, howns⟩ := howned
      rw [Store.lists_iff, hstore, hdeclared, ← hstore]
      rintro (hsome | ⟨-, howned⟩)
      · cases hsome
      · exact howns howned
    | _ => cases h
  · rw [bind_of_ok (outcome_of hinquire)] at h
    cases h

/-- Of fields, a strict read is refused as a safe one is, or for a name that is not among those that
    are listed. -/
theorem readField_refusedOnly {call : Call} {svc : ServiceId} (hsorted : (w.resolver svc).Sorted)
    (t : Target) :
    RefusedOnly (Missed k) (readField call svc t k false none)
      (readField call svc t k true none) w := by
  refine .bind fun found u hfound => ?_
  cases found with
  | some f => exact .refl _
  | none =>
    refine .of_eq rfl (.of_not_carries ?_)
    rintro ⟨t, ht, hfold⟩
    obtain ⟨name, hname, heq⟩ := List.mem_map.1 ht
    cases heq
    exact not_lists_of_findField?_eq_none hsorted hfound ⟨_, hname, hfold⟩

/-! ### Requests -/

/-- Whether a value that answers reads by the method of a library class also lists its keys by the
    library's own. -/
inductive ListsOwn (s : Store) (v : Value) : LibraryKind → Prop where
  | struct {m : OrderedMap Key Value} (h : s.ShowsKeys v m) : ListsOwn s v .struct
  | scripted {members : Value} {m : OrderedMap Key Value} (hpublic : s.ShowsPublic v members)
    (hkeys : s.ShowsKeys members m) : ListsOwn s v .scripted
  | array : ListsOwn s v .array
  | referenceable : ListsOwn s v .referenceable
  | wrapper : ListsOwn s v .wrapper

/-- Whether a target is read and its keys are listed by the library's own methods, and without a
    change in between. -/
def ListsItself (call : Call) (k : Key) (kind : TargetKind) (t : Target) (_scope : Value)
    (w : World) : Prop :=
  match kind with
  | .referenceable => ∃ l, w.store.libraryMethod? t.inst "dereference" = some l ∧
    ListsOwn w.store t.inst l
  | .orderedMap => ∃ m, w.HoldsPairs call t.inst m k
  | _ => ∀ svc, (w.resolver svc).Sorted

/-- Whichever container of the scripts is read, a strict read is refused as a safe one is, or for a
    missed key. Wrappers pass the read on, so they are left out. -/
theorem readNative_refusedOnly (call : Call) (k : Key) (scope : Value) {l : LibraryKind}
    (hmethod : w.store.libraryMethod? v "dereference" = some l) (hl : ListsOwn w.store v l)
    (hwrapper : l ≠ .wrapper) :
    RefusedOnly (Missed k) (Container.readNative call l v scope k false)
      (Container.readNative call l v scope k true) w := by
  unfold Container.readNative
  refine .bind fun b u hb => ?_
  obtain ⟨rfl, rfl⟩ : w.store.body? v = b ∧ w = u := by
    rw [body?_apply] at hb
    cases hb
    exact ⟨rfl, rfl⟩
  -- Only structs, scripted instances and arrays look at whether a read is safe.
  cases hl with
  | @struct m h =>
    obtain ⟨card, hbody⟩ := h.body
    rw [hbody]
    exact Container.readStruct_refusedOnly h k
  | scripted hpublic hkeys =>
    exact Container.readScripted_refusedOnly hmethod hpublic hkeys k
  | array =>
    rcases w.store.body? v with _ | b
    · exact .refl _
    · cases b with
      | array items card =>
        refine .ite (fun _ => .refl _) fun _ => .ite (fun _ => .refl _) fun _ => ?_
        exact Container.readIndex_refusedOnly k _ _
      | _ => exact .refl _
  | referenceable => exact .refl _
  | wrapper => exact absurd rfl hwrapper

/-- Of whatever sort a value of the host is, a strict read is refused as a safe one is, or for a
    missed key. -/
theorem readHost_refusedOnly {kind : TargetKind} {t : Target} (svc : ServiceId)
    (hkind : kind ≠ .referenceable) (h : ListsItself (callAt (n + 2)) k kind t scope w) :
    RefusedOnly (Missed k) (readHost (callAt (n + 2)) svc t kind k false)
      (readHost (callAt (n + 2)) svc t kind k true) w := by
  have helement (v : Value) : RefusedOnly (Missed k) (readElement (callAt (n + 2)) v k false)
      (readElement (callAt (n + 2)) v k true) w :=
    .bind fun size u _ => Container.readIndex_refusedOnly k size _
  have hsequence (v : Value) : RefusedOnly (Missed k) (readSequence (callAt (n + 2)) v k false)
      (readSequence (callAt (n + 2)) v k true) w :=
    .ite (fun _ => .refl _) fun _ => helement v
  unfold readHost
  refine .ite (fun _ => .refl _) fun _ => ?_
  cases kind with
  | referenceable => exact absurd rfl hkind
  | orderedMap =>
    obtain ⟨m, hm⟩ := h
    exact readMap_refusedOnly hm svc
  | sequence | array => exact hsequence t.inst
  | errorLike =>
    refine .ite (fun _ => .refl _) fun _ => .ite (fun _ => .refl _) fun _ => ?_
    exact readField_refusedOnly (h svc) t
  | text => exact .ite (fun _ => readField_refusedOnly (h svc) t) fun _ => helement t.inst
  | _ => exact readField_refusedOnly (h svc) t

/-- Where the targets list their keys themselves, a strict read is refused only as the safe one, or
    with an error that misses the key. -/
theorem serve_refusedOnly (fuel : Nat) (svc : ServiceId) (t : Target) (scope : Value) (w : World)
    (h : Along (callAt (n + 2)) (.read false) k (ListsItself (callAt (n + 2)) k)
      fuel svc t scope w) :
    RefusedOnly (Missed k) (serve (callAt (n + 2)) (.read false) k fuel svc t scope)
      (serve (callAt (n + 2)) (.read true) k fuel svc t scope) w := by
  induction fuel generalizing svc t scope w with
  | zero => exact .refl _
  | succ fuel ih =>
    rw [serve, serve]
    refine .bind fun received w hreceived => ?_
    obtain ⟨kind, scope⟩ := received
    obtain ⟨hlists, hpasses⟩ := h (kind, scope) w hreceived
    cases kind with
    | referenceable =>
      obtain ⟨l, hmethod, hl⟩ := hlists
      refine RefusedOnly.congr ?_ (viaKeyed_apply hmethod ..) (viaKeyed_apply hmethod ..)
      have hread := readNative_refusedOnly (callAt (n + 2)) k scope hmethod hl
      cases hl with
      | wrapper =>
        -- A wrapper passes the request on to what it wraps, with one step less to go.
        refine .bind fun x w hx => ?_
        obtain ⟨svc, rfl, htarget⟩ := hpasses rfl hmethod x w hx
        exact .bind fun t w ht => ih svc t scope w (htarget t w ht)
      | _ => exact hread (by simp)
    | _ =>
      dsimp only [answerHost]
      exact readHost_refusedOnly svc (by simp) hlists

/-- Whether all that a read of a key of a value comes to lists its keys itself. -/
def ListsAlong (call : Call) (svc : ServiceId) (target key scope : Value) (w : World) : Prop :=
  (keyOf call key).After w fun k w =>
    Along call (.read false) k (ListsItself call k) (w.store.objects.size + 2) svc
      (w.store.asTarget target) scope w

/-- **Missed keys.** A strict read that is refused for a key, while a safe read is not refused so,
    ends in an error that does not carry the key, unless the error is about a scripted instance that
    has the absent value under the key. -/
theorem refused_key_is_missed (n : Nat) (svc : ServiceId) (target key scope : Value) (w : World)
    (h : ListsAlong (callAt (n + 2)) svc target key scope w) {r : Reason} {w' : World}
    (hrefused : dereference (callAt (n + 2)) svc target key false scope w =
      (.error (.engine r), w'))
    (hown : ∀ u, dereference (callAt (n + 2)) svc target key true scope w ≠
      (.error (.engine r), u)) :
    ∃ k u, keyOf (callAt (n + 2)) key w = (.ok k, u) ∧ Missed k r w' := by
  rcases hkey : keyOf (callAt (n + 2)) key w with ⟨e | k, u⟩
  · -- A key that cannot be made is none in a safe read either.
    rw [dereference, bind_of_error hkey] at hrefused
    cases hrefused
    exact absurd (bind_of_error hkey) (hown w')
  · refine ⟨k, u, rfl, ?_⟩
    have honly : RefusedOnly (Missed k) (dereference (callAt (n + 2)) svc target key false scope)
        (dereference (callAt (n + 2)) svc target key true scope) w := by
      unfold dereference
      refine .bind fun k' u' hk => ?_
      rw [hkey] at hk
      cases hk
      refine .ite (fun _ => .of_eq rfl (.of_keys_eq_nil rfl)) fun _ => ?_
      exact (serve_refusedOnly _ svc _ scope u (h k u hkey)).congr rfl rfl
    exact (honly r w' hrefused).resolve_left (not_exists.2 hown)

/-- A strict read of a key under which a scripted instance has the absent value is refused with an
    error that carries the key. -/
theorem absent_key_is_carried (call : Call) (svc : ServiceId) {target key : Value} {k : Key}
    {members : Value} {m : OrderedMap Key Value} (hkey : keyOf call key w = (.ok k, w))
    (hscope : scope.IsScope) (hanswers : w.store.AnswersAs target .scripted)
    (hpublic : w.store.ShowsPublic target members) (hkeys : w.store.ShowsKeys members m)
    (hmeta : ¬ k.same .metadata) (habsent : m.get? k = some .absent) :
    ∃ r w', dereference call svc target key false scope w = (.error (.engine r), w') ∧
      r.target = target ∧ r.Carries k := by
  obtain ⟨sc, lines, hrequest⟩ :=
    request_own call svc (.read false) k hscope hanswers hanswers.read nofun
  -- The line in the trace changes nothing of what the instance shows.
  have hkeys' : (w.withTrace lines).store.ShowsKeys members m := hkeys
  have hpublic' : (w.withTrace lines).store.ShowsPublic target members := hpublic
  have hmethod : (w.withTrace lines).store.libraryMethod? target "dereference" = some .scripted :=
    hanswers.read
  obtain ⟨shown, w', hread, -⟩ := Container.exists_readScripted_eq call hmethod hpublic'
    hkeys' hmeta (by rw [habsent, Option.getD_some]) sc
  have hcarries := Container.exists_mem_names_iff.2 (show (m.get? k).isSome by rw [habsent]; rfl)
  have hread' : dereference call svc target key false scope w =
      Container.readScripted call target sc k false (w.withTrace lines) := by
    rw [dereference, bind_of_ok hkey, if_neg hanswers.ne_none, bind_of_ok (store_apply w), hrequest]
    rfl
  exact ⟨_, w', hread'.trans hread, rfl, hcarries⟩

end Service

/-- A wrapper around a scripted instance, which has the absent value under one of its keys. -/
def keepsake : World where
  store :=
    { objects := #[
        { kind := .declared 0, attrs := ⟨[("this_scope", .object 1)]⟩ },
        { kind := .library .struct,
          body := .struct ⟨[(.ofText "Ring", .absent), (.ofText "Locket", .int 1)]⟩ none },
        { kind := .library .wrapper,
          body := .wrapper (.kind (.declared 0)) (.object 0) (.service .main) }]
      classes := #[
        { name := "P", qualifiedName := "P", home := some "host", bases := [.library .scripted],
          lineage := .declared 0 :: LibraryKind.scripted.lineage.map .library,
          metaclass := .type }] }

/-- The error for a key that the instance lacks. -/
def keepsakeMiss : Reason :=
  .classKeyMissing "brooch" "host.P" ⟨["Ring", "Locket"], Listing.defaultLimit⟩
    [.text "Ring", .text "Locket"] (.object 0)

theorem refused_key_is_missed_keepsake :
    let call := Host.callValue
    let strict :=
      Service.dereference call .main (.object 2) (.text "brooch") false (.scope 0) keepsake
    Service.ListsAlong call .main (.object 2) (.text "brooch") (.scope 0) keepsake ∧
      strict = (.error (.engine keepsakeMiss), strict.2) ∧
      (∀ u, Service.dereference call .main (.object 2) (.text "brooch") true (.scope 0) keepsake ≠
        (.error (.engine keepsakeMiss), u)) ∧
      ∃ k u, Host.keyOf call (.text "brooch") keepsake = (.ok k, u) ∧
        Missed k keepsakeMiss strict.2 := by
  have hpublic : keepsake.store.ShowsPublic (.object 0) (.object 1) :=
    ⟨rfl, rfl, fun _ _ h => nomatch h⟩
  have hkeys : keepsake.store.ShowsKeys (.object 1)
      ⟨[(.ofText "Ring", .absent), (.ofText "Locket", .int 1)]⟩ := ⟨⟨none, rfl⟩, rfl, .struct, rfl⟩
  have hlists : Service.ListsAlong (Host.callAt (998 + 2)) .main (.object 2) (.text "brooch")
      (.scope 0) keepsake := by
    rintro k w ⟨⟩ ⟨kind, scope⟩ w ⟨⟩
    refine ⟨⟨.wrapper, rfl, .wrapper⟩, fun _ _ => ?_⟩
    rintro x w ⟨⟩
    refine ⟨.main, rfl, ?_⟩
    rintro t w ⟨⟩ ⟨kind, scope⟩ w ⟨⟩
    exact ⟨⟨.scripted, rfl, .scripted hpublic hkeys⟩, fun _ h => nomatch h⟩
  have hstrict : (Service.dereference (Host.callAt (998 + 2)) .main (.object 2) (.text "brooch")
      false (.scope 0) keepsake).1 = .error (.engine keepsakeMiss) := rfl
  have hsafe : (Service.dereference (Host.callAt (998 + 2)) .main (.object 2) (.text "brooch")
      true (.scope 0) keepsake).1 = .ok .absent := rfl
  have hown : ∀ u, Service.dereference (Host.callAt (998 + 2)) .main (.object 2) (.text "brooch")
      true (.scope 0) keepsake ≠ (.error (.engine keepsakeMiss), u) := by
    intro u hu
    rw [hu] at hsafe
    cases hsafe
  exact ⟨hlists, Run.eq_of_fst hstrict, hown,
    Service.refused_key_is_missed 998 .main (.object 2) (.text "brooch") (.scope 0) keepsake hlists
      (Run.eq_of_fst hstrict) hown⟩

/-- The other key is listed by the very error that says it is missing. -/
theorem missing_key_listed_keepsake :
    (Service.dereference Host.callValue .main (.object 0) (.text "ring") true .none keepsake).1 =
        .ok .absent ∧
      ∃ r, (Service.dereference Host.callValue .main (.object 0) (.text "ring") false .none
          keepsake).1 = .error (.engine r) ∧
        r.kind = .keyNotFoundError ∧ r.Carries (.ofText "ring") := by
  refine ⟨rfl, .classKeyMissing "ring" "host.P" ⟨["Ring", "Locket"], Listing.defaultLimit⟩
    [.text "Ring", .text "Locket"] (.object 0), rfl, rfl, "Ring", .head _, ?_⟩
  decide +kernel

end ScriptBridge
