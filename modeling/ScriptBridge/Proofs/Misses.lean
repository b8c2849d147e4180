import ScriptBridge.Proofs.Inquiry
import ScriptBridge.Proofs.Serving

namespace ScriptBridge

/-!
# Requests that find nothing

A request misses if the place that it comes to has nothing under its key. Here that is told of the
request from its start: which steps lead it to the place, and what the place lacks. Each of these
steps succeeds, so an error that host code ends in is never part of a miss.

* `Miss` is what there is to say about a request that finds nothing, and `Miss.answer` what such a
  request comes to;
* `Key.MissesPlace`, `Container.Lacks`, `Container.LacksCallee` and `Service.LacksHost`,
  `Service.LacksMember` tell of each place what it lacks;
* `Service.Lacks` follows a request through the wrappers, and `Service.Misses` from its key on;
* `Service.dereference_of_misses`, `Service.dereferenceAndInvoke_of_misses`: what a request that
  misses comes to.
-/

/-- Whether a reason says that something was looked for and not found. -/
def Reason.isMiss : Reason → Bool
  | .noMethod .. | .fieldNotFound .. | .mapKeyMissing .. | .structKeyMissing ..
  | .classKeyMissing .. | .nullDereference _ | .indexNotNumeric _ | .indexOutOfBounds .. => true
  | _ => false

/-- Whose keys the refusal of a missing key lists. -/
inductive Shelf where
  | nothing
  | map (svc : ServiceId) (v : Value)
  | struct (v : Value)
  | scripted (v : Value)

namespace Shelf

/-- Lists the keys. -/
def list (call : Call) : Shelf → Run (Listing × List Value)
  | nothing => pure (⟨[], 0⟩, [])
  | map svc v => Service.listMapKeys call svc v
  | struct v => Container.listKeys call v
  | scripted v => do Container.listKeys call (← Container.publicScope call v)

end Shelf

/-- What there is to say of a lookup that found nothing: whose keys its refusal lists, and the
    reason it gives with them. -/
structure Miss where
  shelf : Shelf
  reason : Listing → List Value → Reason
  isMiss : ∀ shown keys, (reason shown keys).isMiss = true

namespace Miss

open Run

variable {call : Call} {w : World}

/-- Refuses a lookup that found nothing. -/
def refusal (call : Call) (m : Miss) : Run Value := do
  let (shown, keys) ← m.shelf.list call
  refuse (m.reason shown keys)

/-- What a request comes to that finds nothing. -/
def answer (call : Call) (m : Miss) (safe : Bool) : Run Value :=
  if safe then pure .absent else m.refusal call

/-- A refusal is an error, whatever listing the keys comes to. -/
theorem exists_refusal_eq (call : Call) (m : Miss) (w : World) :
    ∃ e w', m.refusal call w = (.error e, w') := by
  unfold refusal
  rcases h : m.shelf.list call w with ⟨e | ⟨shown, keys⟩, w'⟩
  · exact ⟨e, w', bind_of_error h⟩
  · exact ⟨_, w', bind_of_ok h⟩

/-- What follows is not reached by a refusal, and must leave the absent value as it is. -/
theorem answer_bind {f : Value → Run Value} (hf : ∀ w, f .absent w = (.ok .absent, w)) (m : Miss)
    (safe : Bool) (w : World) : (m.answer call safe >>= f) w = m.answer call safe w := by
  cases safe with
  | true => exact hf w
  | false =>
    obtain ⟨e, w', he⟩ := m.exists_refusal_eq call w
    exact (bind_of_error he).trans he.symm

/-! ### What is said of each place -/

/-- A lookup whose refusal lists no keys. -/
def plain (r : Reason) (h : r.isMiss = true) : Miss := ⟨.nothing, fun _ _ => r, fun _ _ => h⟩

/-- A key that a struct lacks. -/
def ofStruct (v : Value) (k : Key) : Miss :=
  ⟨.struct v, fun shown keys => .structKeyMissing k.name shown keys v, fun _ _ => rfl⟩

/-- A public member that a scripted instance of a class lacks. -/
def ofScripted (v : Value) (k : Key) (type : String) : Miss :=
  ⟨.scripted v, fun shown keys => .classKeyMissing k.name type shown keys v, fun _ _ => rfl⟩

/-- A key that a map of the host lacks. -/
def ofMap (svc : ServiceId) (v : Value) (k : Key) : Miss :=
  ⟨.map svc v, fun shown keys => .mapKeyMissing k.name shown keys v, fun _ _ => rfl⟩

/-- A field that a target lacks. -/
def ofField (svc : ServiceId) (t : Target) (k : Key) (w : World) : Miss :=
  plain (.fieldNotFound (Service.searchOf t) k.name (w.store.typeName t.kind)
    ⟨w.store.fieldNames t.kind t.inst, w.listingLimit svc⟩ t.inst) rfl

/-- A member that a class lacks for arguments of some kinds. -/
def ofMember (svc : ServiceId) (c : Kind) (k : Key) (kinds : List Kind) (w : World) : Miss :=
  plain (w.store.noMethod (w.listingLimit svc) c k kinds) rfl

end Miss

/-! ### Places of a sequence -/

/-- Whether a key is no place of a sequence: it is no number, or it lies outside. -/
inductive Key.MissesPlace (k : Key) (size : Int) : Miss → Prop where
  | word (h : k.reading = .word) : MissesPlace k size (.plain (.indexNotNumeric k.name) rfl)
  | outside {i : Int} (h : k.reading = .index i) (hi : i < 1 ∨ size < i) :
      MissesPlace k size (.plain (.indexOutOfBounds i size) rfl)

/-- A key that is no place is none where a safe read asks for it, and refused where a strict one
    does. -/
theorem Key.exists_readIndex_eq_of_missesPlace {k : Key} {size : Int} {m : Miss}
    (h : k.MissesPlace size m) (safe : Bool) :
    ∃ r hr, m = .plain r hr ∧
      k.readIndex size safe = if safe then .ok none else .error (.engine r) := by
  cases h with
  | word h => exact ⟨_, rfl, rfl, by rw [readIndex, h]⟩
  | outside h hi =>
    refine ⟨_, rfl, rfl, ?_⟩
    rw [readIndex, h]
    exact if_pos hi

/-- What an operation comes to that goes on from the place, if it gives the absent value where there
    is none. -/
theorem Key.readIndex_of_missesPlace {call : Call} {k : Key} {size : Int} {m : Miss}
    (h : k.MissesPlace size m) {f : Option Int → Run Value} (hf : f none = pure .absent)
    (safe : Bool) (w : World) :
    (Run.orFail (k.readIndex size safe) >>= f) w = m.answer call safe w := by
  obtain ⟨r, hr, rfl, hread⟩ := exists_readIndex_eq_of_missesPlace h safe
  rw [hread]
  -- A safe read goes on with no place, and a strict one ends here.
  cases safe with
  | true =>
    refine (Run.bind_of_ok (x := Run.orFail (.ok none)) rfl).trans ?_
    rw [hf]
    rfl
  | false => rfl

/-! ### Values that answer for themselves -/

namespace Container

open Run Host

variable {call : Call} {w w' : World} {v scope args : Value} {key : Key} {l : LibraryKind}
  {m : Miss}

/-- Looks a key up among the public members of a scripted instance, safely. -/
def lookUp (call : Call) (members scope : Value) (key : Key) : Run Value := do
  let args (key : Value) : List Value := [scope, key, .bool true]
  viaKeyed call members "dereference" key args fun l => do
    match l, ← body? members with
    | .struct, some (.struct m _) => readStruct call members m key true
    | _, _ => do callMethod call members "dereference" (args (← keyArgument key))

/-- A scripted instance is read by looking the key up among its public members; to list their keys,
    they are asked for once more. -/
theorem readScripted_apply (hmeta : ¬ key.same .metadata) {members found : Value} {u u' : World}
    (hmembers : publicScope call v w = (.ok members, u))
    (hfound : lookUp call members scope key u = (.ok found, u')) (safe : Bool) :
    readScripted call v scope key safe w =
      if found ≠ .absent then (.ok found, u')
      else (Miss.ofScripted v key (u'.store.typeName (u'.store.kindOf v))).answer call safe u' := by
  unfold readScripted
  rw [if_neg hmeta, bind_of_ok hmembers]
  refine (bind_of_ok (x := lookUp call members scope key) hfound).trans ?_
  by_cases h : found = .absent
  · subst h
    cases safe
    · simp [Miss.answer, Miss.refusal, Miss.ofScripted, Shelf.list, bind_assoc]
      rfl
    · rfl
  · simp [h]

/-- Whether a value lacks a key that is read by the rules of a library class: a struct has no such
    key, an array no such place, or a scripted instance no such public member. -/
inductive Lacks (call : Call) (v scope : Value) (key : Key) (w : World) :
    LibraryKind → Miss → World → Prop where
  | struct {items : OrderedMap Key Value} {card : Option Value}
      (hbody : w.store.body? v = some (.struct items card)) (hmeta : ¬ key.same .metadata)
      (hkey : items.get? key = none) : Lacks call v scope key w .struct (.ofStruct v key) w
  | array {items : List Value} {card : Option Value} {m : Miss}
      (hbody : w.store.body? v = some (.array items card)) (hmeta : ¬ key.same .metadata)
      (hlength : ¬ key.same .length) (hplace : key.MissesPlace items.length m) :
      Lacks call v scope key w .array m w
  | scripted {members : Value} {u u' : World} (hmeta : ¬ key.same .metadata)
      (hmembers : publicScope call v w = (.ok members, u))
      (hfound : lookUp call members scope key u = (.ok .absent, u')) :
      Lacks call v scope key w .scripted
        (.ofScripted v key (u'.store.typeName (u'.store.kindOf v))) u'

/-- What the read of a key comes to that a value lacks. -/
theorem readNative_of_lacks (h : Lacks call v scope key w l m w') (safe : Bool) :
    readNative call l v scope key safe w = m.answer call safe w' := by
  unfold readNative
  rw [bind_of_ok (body?_apply w v)]
  cases h with
  | struct hbody hmeta hkey =>
    simp only [hbody, readStruct, if_neg hmeta, hkey]
    cases safe <;> rfl
  | array hbody hmeta hlength hplace =>
    simp only [hbody, readArray, if_neg hmeta, if_neg hlength]
    exact Key.readIndex_of_missesPlace hplace rfl safe w
  | scripted hmeta hmembers hfound =>
    exact readScripted_apply hmeta hmembers hfound safe

/-- Whether there is nothing to call under a key of a value, by the rules of a library class: no
    function is registered for it, where the class asks for those, and the value lacks the key. -/
inductive LacksCallee (call : Call) (v scope : Value) (key : Key) (w : World) :
    LibraryKind → Miss → World → Prop where
  | struct {u u' : World} {l : LibraryKind} {m : Miss}
      (hregistered : scopedFunction? call scope key v w = (.ok none, u))
      (hnames : ¬ key.same .keyArray)
      (hmethod : u.store.libraryMethod? v "dereference" = some l)
      (hkey : Lacks call v scope key u l m u') : LacksCallee call v scope key w .struct m u'
  | array {u u' : World} {l : LibraryKind} {m : Miss}
      (hregistered : scopedFunction? call scope key v w = (.ok none, u))
      (hmethod : u.store.libraryMethod? v "dereference" = some l)
      (hkey : Lacks call v scope key u l m u') : LacksCallee call v scope key w .array m u'
  | scripted {u' : World} {l : LibraryKind} {m : Miss}
      (hmethod : w.store.libraryMethod? v "dereference" = some l)
      (hkey : Lacks call v scope key w l m u') : LacksCallee call v scope key w .scripted m u'

/-- What is absent is not called. -/
theorem invokeStored_of_lacks (hmethod : w.store.libraryMethod? v "dereference" = some l)
    (h : Lacks call v scope key w l m w') (args : Value) (safe : Bool) :
    invokeStored call v scope key args safe w = m.answer call safe w' := by
  have hread : read call v scope key safe w = m.answer call safe w' :=
    (viaKeyed_apply hmethod ..).trans (readNative_of_lacks h safe)
  unfold invokeStored
  rw [bind_apply, hread, ← bind_apply]
  exact m.answer_bind (fun _ => rfl) safe w'

/-- What a call comes to under a key where there is nothing to call. -/
theorem invokeNative_of_lacks (h : LacksCallee call v scope key w l m w') (args : Value)
    (safe : Bool) : invokeNative call l v scope key args safe w = m.answer call safe w' := by
  cases h with
  | struct hregistered hnames hmethod hkey =>
    unfold invokeNative
    dsimp only
    rw [bind_of_ok hregistered]
    dsimp only
    rw [if_neg hnames]
    exact invokeStored_of_lacks hmethod hkey args safe
  | array hregistered hmethod hkey =>
    unfold invokeNative
    dsimp only
    rw [bind_of_ok hregistered]
    exact invokeStored_of_lacks hmethod hkey args safe
  | scripted hmethod hkey => exact invokeStored_of_lacks hmethod hkey args safe

end Container

/-! ### Targets of the host -/

namespace Service

open Run Host

variable {call : Call} {svc : ServiceId} {t : Target} {v scope : Value} {key : Key}
  {kind : TargetKind} {w w' : World} {m : Miss}

/-- Whether a sequence of the host has no place that a key means. -/
inductive LacksElement (call : Call) (v : Value) (key : Key) (w : World) : Miss → World → Prop where
  | intro {size : Nat} {u : World} {m : Miss} (hsize : length call v w = (.ok size, u))
      (hplace : key.MissesPlace size m) : LacksElement call v key w m u

/-- Whether a map of the host contains neither the value of a key nor its name. -/
inductive LacksEntry (call : Call) (svc : ServiceId) (v : Value) (key : Key) (w : World) :
    Miss → World → Prop where
  | value {u : World} (hvalue : contains call v key.toValue w = (.ok false, u))
      (hsame : key.toValue = .text key.name) : LacksEntry call svc v key w (.ofMap svc v key) u
  | both {u u' : World} (hvalue : contains call v key.toValue w = (.ok false, u))
      (hsame : key.toValue ≠ .text key.name)
      (hname : contains call v (.text key.name) u = (.ok false, u')) :
      LacksEntry call svc v key w (.ofMap svc v key) u'

/-- Whether a target has no field of a name. -/
inductive LacksField (svc : ServiceId) (t : Target) (key : Key) (w : World) :
    Miss → World → Prop where
  | intro {u : World} (h : findField? svc t key w = (.ok none, u)) :
      LacksField svc t key w (.ofField svc t key u) u

/-- Whether a target lacks a key, by the rules for its sort. -/
inductive LacksHost (call : Call) (svc : ServiceId) (t : Target) (key : Key) (w : World) :
    TargetKind → Miss → World → Prop where
  | map {m : Miss} {u : World} (hmeta : ¬ key.same .metadata)
      (h : LacksEntry call svc t.inst key w m u) : LacksHost call svc t key w .orderedMap m u
  | sequence {kind : TargetKind} {m : Miss} {u : World} (hmeta : ¬ key.same .metadata)
      (hkind : kind = .sequence ∨ kind = .array) (hlength : ¬ key.same .length)
      (h : LacksElement call t.inst key w m u) : LacksHost call svc t key w kind m u
  | letter {m : Miss} {u : World} (hmeta : ¬ key.same .metadata) (hword : key.reading ≠ .word)
      (h : LacksElement call t.inst key w m u) : LacksHost call svc t key w .text m u
  | word {m : Miss} {u : World} (hmeta : ¬ key.same .metadata) (hword : key.reading = .word)
      (h : LacksField svc t key w m u) : LacksHost call svc t key w .text m u
  | detail {m : Miss} {u : World} (hmeta : ¬ key.same .metadata)
      (hkey : ∀ k ∈ Key.errorKeys, ¬ key.same k) (h : LacksField svc t key w m u) :
      LacksHost call svc t key w .errorLike m u
  | field {m : Miss} {u : World} (hmeta : ¬ key.same .metadata) (h : LacksField svc t key w m u) :
      LacksHost call svc t key w .nativeObject m u

/-- What the read of an element comes to that a sequence lacks. -/
theorem readElement_of_lacks (h : LacksElement call v key w m w') (safe : Bool) :
    readElement call v key safe w = m.answer call safe w' := by
  obtain ⟨hsize, hplace⟩ := h
  unfold readElement
  rw [bind_of_ok hsize]
  exact Key.readIndex_of_missesPlace hplace rfl safe w'

/-- What the read of a key comes to that a map lacks. -/
theorem readMap_of_lacks (h : LacksEntry call svc v key w m w') (safe : Bool) :
    readMap call svc v key safe w = m.answer call safe w' := by
  unfold readMap
  cases h with
  | value hvalue hsame =>
    rw [bind_of_ok hvalue, if_neg Bool.false_ne_true, if_pos hsame,
      bind_of_ok (pure_apply w' false)]
    cases safe <;> rfl
  | both hvalue hsame hname =>
    rw [bind_of_ok hvalue, if_neg Bool.false_ne_true, if_neg hsame, bind_of_ok hname]
    cases safe <;> rfl

/-- What the read of a field comes to that a target lacks. -/
theorem readField_of_lacks (h : LacksField svc t key w m w') (safe : Bool) :
    readField call svc t key safe none w = m.answer call safe w' := by
  obtain ⟨hfield⟩ := h
  unfold readField
  rw [bind_of_ok hfield]
  cases safe <;> rfl

/-- What the read of a key comes to that a target of the host lacks. -/
theorem readHost_of_lacks (h : LacksHost call svc t key w kind m w') (safe : Bool) :
    readHost call svc t kind key safe w = m.answer call safe w' := by
  unfold readHost
  cases h with
  | map hmeta h =>
    rw [if_neg hmeta]
    exact readMap_of_lacks h safe
  | sequence hmeta hkind hlength h =>
    have hsequence : readSequence call t.inst key safe w = m.answer call safe w' := by
      rw [readSequence, if_neg hlength]
      exact readElement_of_lacks h safe
    rw [if_neg hmeta]
    obtain rfl | rfl := hkind
    · exact hsequence
    · exact hsequence
  -- A text has elements and fields: the key tells which of them is asked for.
  | letter hmeta hword h =>
    rw [if_neg hmeta]
    dsimp only
    rw [if_neg hword]
    exact readElement_of_lacks h safe
  | word hmeta hword h =>
    rw [if_neg hmeta]
    dsimp only
    rw [if_pos hword]
    exact readField_of_lacks h safe
  | detail hmeta hkey h =>
    have hother : ¬ Key.errorKeys.any key.same = true := by
      simpa [List.any_eq_true] using hkey
    rw [if_neg hmeta]
    dsimp only
    rw [if_neg (hkey .message List.mem_cons_self), if_neg hother]
    exact readField_of_lacks h safe
  | field hmeta h =>
    rw [if_neg hmeta]
    exact readField_of_lacks h safe

/-- Whether there is nothing to call under a key of a target: no function is registered for it, the
    target is no map with such an entry, and its class has no member of that name for the arguments,
    which are not named. -/
inductive LacksMember (call : Call) (svc : ServiceId) (t : Target) (key : Key) (args : Value)
    (w : World) : TargetKind → Miss → World → Prop where
  | intro {kind : TargetKind} {values : List Value} {u₁ u₂ u₃ u₄ : World}
      (hregistered : registeredFor? svc t key w = (.ok none, u₁))
      (hentry : mapValue? call kind t.inst key u₁ = (.ok none, u₂))
      (hnamed : ¬ u₂.store.isInstance args .mapping) (hname : ¬ key.name.isEmpty)
      (hvalues : positions call args u₂ = (.ok values, u₃))
      (hmember : calleeOf svc (.method t.kind key (values.map u₃.store.kindOf)) u₃ =
        (.error (.engine (u₃.store.noMethod (u₃.listingLimit svc) t.kind key
          (values.map u₃.store.kindOf))), u₄)) :
      LacksMember call svc t key args w kind
        (.ofMember svc t.kind key (values.map u₃.store.kindOf) u₃) u₄

/-- What a call comes to where there is nothing to call. -/
theorem invokeHost_of_lacks {args : Value} (h : LacksMember call svc t key args w kind m w')
    (safe : Bool) (scope : Value) :
    invokeHost call svc t kind key args safe scope w = m.answer call safe w' := by
  obtain ⟨hregistered, hentry, hnamed, hname, hvalues, hmember⟩ := h
  unfold invokeHost
  rw [bind_of_ok hregistered]
  dsimp only
  rw [bind_of_ok hentry]
  dsimp only
  rw [bind_of_ok (store_apply _), if_neg hnamed]
  unfold invokeTarget
  rw [if_neg hname, bind_of_ok hvalues, bind_of_ok (store_apply _), bind_of_ok (outcome_of hmember)]
  cases safe <;> rfl

/-! ### Requests -/

/-- Whether a value that answers for itself has nothing for a request. Every value that is written
    takes what is written. -/
def LacksOwn (call : Call) (v scope : Value) (key : Key) (w : World) (l : LibraryKind) (m : Miss)
    (w' : World) : KeyUse → Prop
  | .read _ => Container.Lacks call v scope key w l m w'
  | .write _ => False
  | .call .. => Container.LacksCallee call v scope key w l m w'

/-- Whether a target that does not answer for itself has nothing for a request. -/
def LacksOther (call : Call) (svc : ServiceId) (t : Target) (key : Key) (w : World)
    (kind : TargetKind) (m : Miss) (w' : World) : KeyUse → Prop
  | .read _ => LacksHost call svc t key w kind m w'
  | .write _ => False
  | .call args _ => LacksMember call svc t key args w kind m w'

/-- Whether a request for a key of a target finds nothing, through as many wrappers as are left: the
    target lacks what is asked for, or it is a wrapper and so it is with the target that it passes
    the request on to. -/
inductive Lacks (call : Call) (r : KeyUse) (key : Key) :
    Nat → ServiceId → Target → Value → World → Miss → World → Prop where
  | other {fuel : Nat} {svc : ServiceId} {t : Target} {scope scope' : Value} {kind : TargetKind}
      {w u w' : World} {m : Miss}
      (hreceive : receive call svc r t key scope w = (.ok (kind, scope'), u))
      (hkind : kind ≠ .referenceable) (h : LacksOther call svc t key u kind m w' r) :
      Lacks call r key (fuel + 1) svc t scope w m w'
  | own {fuel : Nat} {svc : ServiceId} {t : Target} {scope scope' : Value} {l : LibraryKind}
      {w u w' : World} {m : Miss}
      (hreceive : receive call svc r t key scope w = (.ok (.referenceable, scope'), u))
      (hmethod : u.store.libraryMethod? t.inst r.method = some l)
      (h : LacksOwn call t.inst scope' key u l m w' r) :
      Lacks call r key (fuel + 1) svc t scope w m w'
  | wrapped {fuel : Nat} {svc svc' : ServiceId} {t t' : Target} {scope scope' : Value}
      {w u₁ u₂ u₃ w' : World} {m : Miss}
      (hreceive : receive call svc r t key scope w = (.ok (.referenceable, scope'), u₁))
      (hmethod : u₁.store.libraryMethod? t.inst r.method = some .wrapper)
      (hservice : getAttr call t.inst "interop" u₁ = (.ok (.service svc'), u₂))
      (htarget : wrapperTarget call t.inst u₂ = (.ok t', u₃))
      (h : Lacks call r key fuel svc' t' scope' u₃ m w') :
      Lacks call r key (fuel + 1) svc t scope w m w'

/-- Whether a request for a key of a value finds nothing: the value is nothing, and nothing has no
    keys to read, or the target that the value stands for has nothing for the request. -/
inductive Misses (call : Call) (r : KeyUse) (svc : ServiceId) (target key scope : Value)
    (w : World) : Miss → World → Prop where
  | nothing {k : Key} {u : World} {safe : Bool} (hkey : keyOf call key w = (.ok k, u))
      (hr : r = .read safe) (htarget : target = .none) :
      Misses call r svc target key scope w (.plain (.nullDereference k.name) rfl) u
  | request {k : Key} {u w' : World} {m : Miss} (hkey : keyOf call key w = (.ok k, u))
      (htarget : ∀ safe, r = .read safe → target ≠ .none)
      (h : Lacks call r k (u.store.objects.size + 2) svc (u.store.asTarget target) scope u m w') :
      Misses call r svc target key scope w m w'

end Service

/-- A use of a key, made safe or strict. -/
def KeyUse.withSafe (safe : Bool) : KeyUse → KeyUse
  | .read _ => .read safe
  | .write x => .write x
  | .call args _ => .call args safe

/-- The flag does not change which method is called. -/
@[simp] theorem KeyUse.method_withSafe (safe : Bool) (r : KeyUse) :
    (r.withSafe safe).method = r.method := by
  cases r <;> rfl

namespace Service

open Run Host

variable {call : Call} {r : KeyUse} {key : Key} {w w' : World} {m : Miss}

/-- A target is sorted without a look at the flag. -/
@[simp] theorem receive_withSafe (safe : Bool) (svc : ServiceId) (r : KeyUse) (t : Target)
    (key : Key) (scope : Value) :
    receive call svc (r.withSafe safe) t key scope = receive call svc r t key scope := by
  cases r <;> rfl

/-- What a request comes to for which a value that answers for itself has nothing. -/
theorem answerOwn_of_lacks {l : LibraryKind} {v scope : Value}
    (h : LacksOwn call v scope key w l m w' r) (safe : Bool) :
    answerOwn call l v scope key (r.withSafe safe) w = m.answer call safe w' := by
  cases r with
  | read => exact Container.readNative_of_lacks h safe
  | write x => exact h.elim
  | call args => exact Container.invokeNative_of_lacks h args safe

/-- What a request comes to for which a target of the host has nothing. -/
theorem answerHost_of_lacks {svc : ServiceId} {t : Target} {kind : TargetKind}
    (h : LacksOther call svc t key w kind m w' r) (scope : Value) (safe : Bool) :
    answerHost call svc t kind key scope (r.withSafe safe) w = m.answer call safe w' := by
  cases r with
  | read => exact readHost_of_lacks h safe
  | write x => exact h.elim
  | call args => exact invokeHost_of_lacks h safe scope

/-- What a request comes to that finds nothing behind the wrappers. -/
theorem serve_of_lacks {fuel : Nat} {svc : ServiceId} {t : Target} {scope : Value}
    (h : Lacks call r key fuel svc t scope w m w') (safe : Bool) :
    serve call (r.withSafe safe) key fuel svc t scope w = m.answer call safe w' := by
  -- The induction is on the wrappers that the request goes through.
  induction h with
  | @other _ _ _ _ _ kind _ _ _ _ hreceive hkind h =>
    rw [serve, receive_withSafe, bind_of_ok hreceive]
    cases kind with
    | referenceable => exact absurd rfl hkind
    | _ => exact answerHost_of_lacks h _ safe
  | @own _ _ _ _ _ l _ _ _ _ hreceive hmethod h =>
    rw [serve, receive_withSafe, bind_of_ok hreceive]
    dsimp only
    rw [viaKeyed_apply (by rw [KeyUse.method_withSafe, hmethod])]
    cases l with
    -- A wrapper lacks nothing by itself: it passes the request on.
    | wrapper => cases r <;> cases h
    | _ => exact answerOwn_of_lacks h safe
  | wrapped hreceive hmethod hservice htarget h ih =>
    rw [serve, receive_withSafe, bind_of_ok hreceive]
    dsimp only
    rw [viaKeyed_apply (by rw [KeyUse.method_withSafe, hmethod])]
    dsimp only
    rw [passOn, viaService, bind_of_ok hservice]
    dsimp only
    rw [bind_of_ok htarget]
    exact ih

/-- What a read comes to that finds nothing. -/
theorem dereference_of_misses {svc : ServiceId} {target key scope : Value} {b : Bool}
    (h : Misses call (.read b) svc target key scope w m w') (safe : Bool) :
    dereference call svc target key safe scope w = m.answer call safe w' := by
  cases h with
  | nothing hkey hr htarget =>
    rw [dereference, bind_of_ok hkey, if_pos htarget]
    cases safe <;> rfl
  | request hkey htarget h =>
    rw [dereference, bind_of_ok hkey, if_neg (htarget b rfl)]
    exact serve_of_lacks h safe

/-- What a call comes to that finds nothing to call. -/
theorem dereferenceAndInvoke_of_misses {svc : ServiceId} {target key args scope : Value} {b : Bool}
    (h : Misses call (.call args b) svc target key scope w m w') (safe : Bool) :
    dereferenceAndInvoke call svc target key args safe scope w = m.answer call safe w' := by
  cases h with
  | nothing hkey hr htarget => cases hr
  | request hkey htarget h =>
    rw [dereferenceAndInvoke, bind_of_ok hkey]
    exact serve_of_lacks h safe

end Service

end ScriptBridge
