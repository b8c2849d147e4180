import Mathlib.Control.Monad.Basic
import Mathlib.Data.String.Basic
import ScriptBridge.Eval
import ScriptBridge.Proofs.Asked
import ScriptBridge.Proofs.Discreet.Container
import ScriptBridge.Proofs.Growth
import ScriptBridge.Proofs.Inquiry
import ScriptBridge.Proofs.Reporting

namespace ScriptBridge

/-!
# What refusals list

A refusal for a key, a field or a member that is not there lists those that are, up to a number. The
number is handed on apart at each place that makes such a refusal: from the service that looks, from
its resolver, or not at all.

* `Reason.Caps` says of a reason that it lists as many names as some limit at most, or as many as by
  default if a key was missed in one of the scripts' own containers;
* `Listing.text_eq` and `Reason.exists_message_eq` tell what a message shows of a listing;
* `Container.discreet_keyRefused`, `Service.discreet_inquire`, `Service.discreet_fieldListing` and
  `Service.discreet_readMap` are the places that list names;
* `Host.shielded` calls values as another way does, but marks refusals that come out of a call: what
  is refused with it is refused by the engine itself;
* `Service.discreet_serve` is the invariant along the wrappers of a target;
* `Errand.lists_first`: whatever the engine refuses, its message ends in the first of the names that
  it lists, as many as the limit says, and dots for the others.
-/

/-! ### What a refusal lists -/

namespace Reason

/-- The names that the message of a reason lists. -/
def listing? : Reason → Option Listing
  | .noMethod _ _ _ l | .fieldMissing _ _ _ l | .fieldNotFound _ _ _ l _ | .mapKeyMissing _ l _ _
  | .structKeyMissing _ l _ _ | .classKeyMissing _ _ l _ _ => some l
  | _ => none

/-- The words before the names that the message of a reason ends in. -/
def opening : Reason → String
  | .noMethod .. => "The available methods are ["
  | .fieldMissing .. | .fieldNotFound .. => "The allowed fields are ["
  | _ => "Valid keys are ("

/-- What closes the names that the message of a reason ends in. -/
def closing : Reason → String
  | .noMethod .. | .fieldMissing .. | .fieldNotFound .. => "]"
  | _ => ")"

/-- Whether a key was missed in one of the scripts' own containers. -/
def isOfScripts : Reason → Bool
  | .structKeyMissing .. | .classKeyMissing .. => true
  | _ => false

/-- Whether a reason lists as many names at most as a service lists. The scripts' own containers
    list as many as by default, whatever service they are asked by. -/
def Caps (limit : Int) (r : Reason) : Prop :=
  ∀ l, r.listing? = some l → l.limit = if r.isOfScripts then Listing.defaultLimit else limit

variable {limit : Int} {r : Reason}

/-- A reason that lists no names keeps to any limit. -/
theorem caps_of_listing?_eq_none (h : r.listing? = none) : r.Caps limit := by
  intro l hl
  rw [h] at hl
  cases hl

/-- What an inquiry reports when it finds nothing lists as many names as it was told to. -/
theorem caps_missing (q : Inquiry) (s : Store) : (q.missing s limit).Caps limit := by
  cases q with
  | method k name kinds =>
    rintro l ⟨⟩
    rfl
  | _ => exact caps_of_listing?_eq_none rfl

end Reason

/-! ### What a message lists -/

/-- The first of some names with commas between; dots stand for the others. -/
def firstNames (n : Nat) (names : List String) : String :=
  ", ".intercalate (names.take n) ++ if n < names.length then ", ..." else ""

/-- A listing shows as many names as its limit says. -/
theorem Listing.text_eq (l : Listing) (h : 0 ≤ l.limit) :
    l.text = firstNames l.limit.toNat l.names := by
  unfold Listing.text Listing.isCut firstNames
  by_cases hcut : l.limit.toNat < l.names.length
  · have hlimit : l.limit < l.names.length := by omega
    simp [h, hlimit, hcut]
  · have hlimit : ¬ l.limit < l.names.length := by omega
    have hall : l.names.take l.limit.toNat = l.names := List.take_of_length_le (by omega)
    simp [hlimit, hcut, hall]

/-- What fills the last hole of a template stands between the words around it. -/
theorem Template.exists_render_eq {t : Template} {values : List (String × String)} {v : String}
    (name words opening closing : String)
    (hend : [.words (words ++ opening), .hole name, .words closing] <:+ t.pieces)
    (hv : values.lookup name = some v) :
    ∃ before, t.render values = before ++ opening ++ v ++ closing := by
  obtain ⟨start, hpieces⟩ := hend
  refine ⟨String.join (start.map (fill values)) ++ words, ?_⟩
  rw [render, ← hpieces]
  simp [String.join_eq, fill, hv, String.append_assoc]

/-- A message ends in what its reason lists. -/
theorem Reason.exists_message_eq {r : Reason} {l : Listing} (h : r.listing? = some l) :
    ∃ before, r.message = before ++ r.opening ++ l.text ++ r.closing := by
  -- Only these reasons list names, and each of their templates ends in its list.
  cases r with
  | noMethod =>
    cases h
    exact Template.exists_render_eq "methods" "]. " "The available methods are [" "]"
      (by decide +kernel) rfl
  | mapKeyMissing =>
    cases h
    exact Template.exists_render_eq "keys" "] was not found in the map. " "Valid keys are (" ")"
      (by decide +kernel) rfl
  | structKeyMissing =>
    cases h
    exact Template.exists_render_eq "keys" " was not found in the struct. " "Valid keys are (" ")"
      (by decide +kernel) rfl
  | classKeyMissing =>
    cases h
    exact Template.exists_render_eq "keys" "]. " "Valid keys are (" ")" (by decide +kernel) rfl
  | fieldMissing search | fieldNotFound search =>
    cases h
    cases search <;> exact Template.exists_render_eq "fields" "]. " "The allowed fields are [" "]"
      (by decide +kernel) rfl
  | _ => cases h

/-! ### Containers of the scripts -/

open Run Host

variable {call : Call} [DiscreetCall call] {n : ServiceId → Int} {P : Reason → Prop} {limit : Int}

/-- A refusal that lists nothing. -/
@[grind ←] theorem discreet_refuse {α : Type} {r : Reason} (h : r.listing? = none) :
    (refuse r : Run α).Discreet n (Reason.Caps limit) :=
  .refuse (Reason.caps_of_listing?_eq_none h)

attribute [grind =] Reason.listing?

/-- An index that is none is refused without a listing. -/
@[grind ←] theorem discreet_readIndex (k : Key) (size : Int) (safe : Bool) :
    (orFail (k.readIndex size safe)).Discreet n (Reason.Caps limit) := by
  unfold Key.readIndex
  split
  next => exact .fail Fault.within_valueError
  next =>
    split
    next => exact .pure _
    next => exact discreet_refuse rfl
  next =>
    split
    next =>
      split
      next => exact .pure _
      next => exact discreet_refuse rfl
    next => exact .pure _

/-- An index that nothing can be written at is refused without a listing. -/
@[grind ←] theorem discreet_writeIndex (k : Key) (size : Int) (fixed : Bool) :
    (orFail (k.writeIndex size fixed)).Discreet n (Reason.Caps limit) := by
  unfold Key.writeIndex
  split
  next => exact .fail Fault.within_valueError
  next => exact discreet_refuse rfl
  next =>
    split
    next => exact discreet_refuse rfl
    next =>
      split
      next => exact discreet_refuse rfl
      next => exact .pure _

namespace Container

/-- The description of a container is read from the container, or from a method of its class. -/
@[grind ←] theorem discreet_description (v : Value) : (description call v).Discreet n P := by
  unfold description
  grind

/-- The names of the keys of a container come from the container, or from a method of its class. -/
@[grind ←] theorem discreet_keyNames (v : Value) : (keyNames call v).Discreet n P := by
  unfold keyNames
  exact discreet_viaMethod _ _ _ fun l => .bind (discreet_body? v) fun b => by grind

@[grind ←] theorem discreet_listedKeys (keys : Value) : (listedKeys call keys).Discreet n P := by
  unfold listedKeys
  grind

/-- The scripts' own containers list as many keys as by default. -/
@[grind ←] theorem discreet_keyRefused (members : Value) {reason : Listing → List Value → Reason}
    (h : ∀ shown keys, (reason ⟨shown, Listing.defaultLimit⟩ keys).Caps limit) :
    (keyRefused call members reason).Discreet n (Reason.Caps limit) := by
  unfold keyRefused listKeys
  simp only [bind_assoc, pure_bind]
  refine .bind (discreet_keyNames members) fun names => ?_
  refine .bind (discreet_itemsOf names) fun items => ?_
  refine .bind (discreet_mapM discreet_textOf items) fun shown => ?_
  refine .bind (discreet_keyNames members) fun names => ?_
  exact .bind (discreet_listedKeys names) fun keys => .refuse (h shown keys)

/-- A key that a struct lacks is reported with as many keys as by default. -/
theorem caps_structKeyMissing (name : String) (shown : List String) (keys : List Value)
    (v : Value) :
    (Reason.structKeyMissing name ⟨shown, Listing.defaultLimit⟩ keys v).Caps limit := by
  rintro l ⟨⟩
  rfl

/-- A name that a class of a script lacks is reported with as many names as by default. -/
theorem caps_classKeyMissing (name type : String) (shown : List String) (keys : List Value)
    (v : Value) :
    (Reason.classKeyMissing name type ⟨shown, Listing.defaultLimit⟩ keys v).Caps limit := by
  rintro l ⟨⟩
  rfl

/-- A struct refuses a read with as many keys as by default, and a read that is safe not at all. -/
@[grind ←] theorem discreet_readStruct (v : Value) (m : OrderedMap Key Value) (k : Key)
    (safe : Bool) : (readStruct call v m k safe).Discreet n (Reason.Caps limit) := by
  unfold readStruct
  grind [caps_structKeyMissing]

/-- An array refuses a read for the index only, with no listing. -/
@[grind ←] theorem discreet_readArray (v : Value) (items : List Value) (k : Key) (safe : Bool) :
    (readArray call v items k safe).Discreet n (Reason.Caps limit) := by
  unfold readArray
  grind

@[grind ←] theorem discreet_publicScope (v : Value) : (publicScope call v).Discreet n P :=
  discreet_getAttr ..

/-- An instance of a class of a script is read through its public scope, and refuses with as many of
    the names there as by default. -/
@[grind ←] theorem discreet_readScripted (v scope : Value) (k : Key) (safe : Bool) :
    (readScripted call v scope k safe).Discreet n (Reason.Caps limit) := by
  unfold readScripted
  split
  next => exact discreet_description v
  next =>
    refine .bind (discreet_publicScope v) fun members => ?_
    dsimp only
    refine .bind (discreet_viaKeyed _ _ _ _ fun l => ?_) fun found => ?_
    · refine .bind (discreet_body? members) fun b => ?_
      grind
    · grind [caps_classKeyMissing]

/-- Whichever container of the scripts is read, its refusals list as many names as by default. -/
@[grind ←] theorem discreet_readNative (l : LibraryKind) (v scope : Value) (k : Key) (safe : Bool) :
    (readNative call l v scope k safe).Discreet n (Reason.Caps limit) := by
  unfold readNative
  refine .bind (discreet_body? v) fun b => ?_
  split <;> grind [notImplemented]

/-- A container is read by its own method, or by one that a class declares in its place. -/
@[grind ←] theorem discreet_read (v scope : Value) (k : Key) (safe : Bool) :
    (read call v scope k safe).Discreet n (Reason.Caps limit) := by
  unfold read
  exact discreet_viaKeyed _ _ _ _ fun l => discreet_readNative l v scope k safe

/-- No container of the scripts lists names when it refuses a write. -/
@[grind ←] theorem discreet_writeNative (l : LibraryKind) (v scope : Value) (k : Key) (x : Value) :
    (writeNative call l v scope k x).Discreet n (Reason.Caps limit) := by
  unfold writeNative
  refine .bind (discreet_body? v) fun b => ?_
  split <;> grind [notImplemented]

/-- What a container holds at a key is read first, and then called: only the read lists names. -/
@[grind ←] theorem discreet_invokeStored (v scope : Value) (k : Key) (args : Value) (safe : Bool) :
    (invokeStored call v scope k args safe).Discreet n (Reason.Caps limit) := by
  unfold invokeStored invokeValue
  grind

/-- Whichever container of the scripts is asked for a call, its refusals list as many names as by
    default. -/
@[grind ←] theorem discreet_invokeNative (l : LibraryKind) (v scope : Value) (k : Key)
    (args : Value) (safe : Bool) :
    (invokeNative call l v scope k args safe).Discreet n (Reason.Caps limit) := by
  unfold invokeNative
  split <;> grind [notImplemented]

end Container

namespace Service

variable {svc : ServiceId}

/-! ### Fields and members -/

/-- An inquiry is refused with as many names at most as the service lists. -/
@[grind ←] theorem discreet_inquire {α : Type} (q : Inquiry) (view : Finding → Option α) :
    (inquire svc q view).Discreet n (Reason.Caps (n svc)) where
  limits w hw := by
    have hlimits : (consult svc q view w).2.Limits n := by
      obtain ⟨lines, hconsult⟩ := consult_apply w svc q view
      rw [hconsult]
      intro id
      simp [hw id]
    rcases hconsult : consult svc q view w with ⟨e | found, u⟩
    · rw [inquire, bind_of_error hconsult]
      rwa [hconsult] at hlimits
    · rw [inquire, bind_of_ok hconsult]
      rw [hconsult] at hlimits
      cases found with
      | some a => exact hlimits
      | none => exact hlimits
  fault w hw e he r hr := by
    cases hr
    rw [missing_of_inquire he, hw svc]
    exact Reason.caps_missing q w.store

/-- Whether a field is found is not refused. -/
@[grind ←] theorem discreet_findField? (t : Target) (k : Key) :
    (findField? svc t k).Discreet n P := by
  unfold findField?
  refine .rescue (discreet_inquire _ _) (fun f => .pure _) fun e he => ?_
  cases e with
  | engine r => grind
  | _ => grind

/-- Reading a field that was found runs host code, and refuses nothing by itself. -/
@[grind ←] theorem discreet_readFound (t : Target) (f : FieldPlace) :
    (readFound call t f).Discreet n P := by
  unfold readFound
  grind

/-- A field that does not exist is refused with as many names as the service lists. -/
theorem discreet_fieldListing {α : Type} (t : Target) {f : Listing → Run α}
    (hf : ∀ names, (f ⟨names, n svc⟩).Discreet n P) :
    (fieldListing svc t >>= f).Discreet n P := by
  unfold fieldListing
  simp only [bind_assoc, pure_bind]
  refine .bind discreet_store fun s => .bind_service fun service hlimit => ?_
  rw [hlimit]
  exact hf _

/-- A field that was found is read. One that was not is refused with as many names as the service
    lists, unless there is something to give in its place. -/
@[grind ←] theorem discreet_readField (t : Target) (k : Key) (safe : Bool)
    (fallback : Option Value) :
    (readField call svc t k safe fallback).Discreet n (Reason.Caps (n svc)) := by
  unfold readField
  refine .bind (discreet_findField? t k) fun found => ?_
  split
  next =>
    split
    next => exact .pure _
    next =>
      split
      next => exact .pure _
      next =>
        refine .bind (discreet_typeName t.kind) fun type => ?_
        refine discreet_fieldListing t fun names => .refuse ?_
        rintro l ⟨⟩
        rfl
  next => grind

/-- A field that is not there to be written is refused with as many names as the service lists. -/
@[grind ←] theorem discreet_writeField (t : Target) (k : Key) (x : Value) :
    (writeField call svc t k x).Discreet n (Reason.Caps (n svc)) := by
  unfold writeField
  refine .bind (discreet_findField? t k) fun found => ?_
  split
  next =>
    refine .bind (discreet_typeName t.kind) fun type => ?_
    refine discreet_fieldListing t fun names => .refuse ?_
    rintro l ⟨⟩
    rfl
  next => grind

/-! ### Reading -/

@[grind ←] theorem discreet_readElement (v : Value) (k : Key) (safe : Bool) :
    (readElement call v k safe).Discreet n (Reason.Caps limit) := by
  unfold readElement
  grind

/-- A sequence of the host has no keys that a refusal could list. -/
@[grind ←] theorem discreet_readSequence (v : Value) (k : Key) (safe : Bool) :
    (readSequence call v k safe).Discreet n (Reason.Caps limit) := by
  unfold readSequence
  grind

/-- A key that a host map lacks is refused with as many keys as the service lists. -/
@[grind ←] theorem discreet_readMap (v : Value) (k : Key) (safe : Bool) :
    (readMap call svc v k safe).Discreet n (Reason.Caps (n svc)) := by
  have hkeys : (do itemsOf call (← callMethod call v "keys" [])).Discreet n
      (Reason.Caps (n svc)) := by
    grind
  have hrefused : (listMapKeys call svc v >>= fun r =>
      refuse (.mapKeyMissing k.name r.1 r.2 v) : Run Value).Discreet n
        (Reason.Caps (n svc)) := by
    unfold listMapKeys
    simp only [bind_assoc, pure_bind]
    refine .bind (discreet_callMethod ..) fun names => ?_
    refine .bind (discreet_itemsOf names) fun items => ?_
    refine .bind (discreet_mapM discreet_textOf items) fun shown => ?_
    refine .bind_service fun service hlimit => ?_
    refine .bind (discreet_callMethod ..) fun names => .bind (discreet_itemsOf names) fun keys => ?_
    refine .refuse ?_
    rintro l ⟨⟩
    exact hlimit
  unfold readMap
  grind

@[grind ←] theorem discreet_errorMessage (v : Value) : (errorMessage call v).Discreet n P := by
  unfold errorMessage
  grind

/-- Whatever sort of host value is read, the refusal lists as many names as the service does:
    fields, members or keys of a map. -/
@[grind ←] theorem discreet_readHost (t : Target) (kind : TargetKind) (k : Key) (safe : Bool) :
    (readHost call svc t kind k safe).Discreet n (Reason.Caps (n svc)) := by
  unfold readHost
  grind

/-! ### Writing -/

@[grind ←] theorem discreet_writeMap (v : Value) (k : Key) (x : Value) :
    (writeMap call v k x).Discreet n (Reason.Caps limit) := by
  unfold writeMap
  grind

/-- Filling a list up runs host code alone. The induction is on the entries that are left to
    append. -/
@[grind ←] theorem discreet_padTo (v : Value) (size : Int) (fuel : Nat) :
    (padTo call v size fuel).Discreet n P := by
  induction fuel with
  | zero =>
    unfold padTo
    grind
  | succ fuel ih =>
    unfold padTo
    grind

/-- A list refuses a write for the index only, with no listing. -/
@[grind ←] theorem discreet_writeSequence (v : Value) (k : Key) (x : Value) :
    (writeSequence call v k x).Discreet n (Reason.Caps limit) := by
  unfold writeSequence
  refine .bind (discreet_length v) fun size => .bind (discreet_writeIndex k size false) fun i => ?_
  grind

/-- An array refuses a write for the index, with no listing. A value that the array does not take is
    reported with the error of the host as its cause. -/
@[grind ←] theorem discreet_writeArray (v : Value) (k : Key) (x : Value) :
    (writeArray call v k x).Discreet n (Reason.Caps limit) := by
  unfold writeArray
  refine .bind (discreet_length v) fun size => .bind (discreet_writeIndex k size true) fun i => ?_
  refine .rescue (Q := Reason.Caps limit) (discreet_setItem ..) (fun _ => .pure _) fun e he => ?_
  grind

/-- A write to an error object drops the refusal for a field that is missing, and passes on the
    others. -/
@[grind ←] theorem discreet_writeError (t : Target) (k : Key) (x : Value) :
    (writeError call svc t k x).Discreet n (Reason.Caps (n svc)) := by
  unfold writeError
  refine .rescue (discreet_writeField t k x) (fun _ => .pure _) fun e he => ?_
  grind

/-- Whatever sort of host value is written to, the refusal lists as many names as the service
    does. -/
@[grind ←] theorem discreet_writeHost (t : Target) (kind : TargetKind) (k : Key) (x : Value) :
    (writeHost call svc t kind k x).Discreet n (Reason.Caps (n svc)) := by
  unfold writeHost
  grind

/-! ### Calling -/

/-- A function that is registered for a target is looked for without refusals. -/
@[grind ←] theorem discreet_registeredFor? (t : Target) (k : Key) :
    (registeredFor? svc t k).Discreet n P := by
  unfold registeredFor?
  grind

@[grind ←] theorem discreet_mapValue (kind : TargetKind) (v : Value) (k : Key) :
    (mapValue? call kind v k).Discreet n P := by
  unfold mapValue?
  grind

/-- Arguments are put in positions by the host alone. -/
@[grind ←] theorem discreet_positions (args : Value) : (positions call args).Discreet n P := by
  unfold positions
  grind

@[grind ←] theorem discreet_bindCallee (c : Callee) (inst : Value) (k : Kind) :
    (bindCallee c inst k).Discreet n P := by
  unfold bindCallee
  grind

/-- What a call reports is a fault with a cause. -/
@[grind ←] theorem discreet_execute (f : Value) (args : List Value) (name : String) (k : Kind) :
    (execute call f args name k).Discreet n P := by
  unfold execute reporting
  refine .bind (discreet_typeName k) fun type => ?_
  refine .rescue (Q := P) (discreet_call ..) (fun v => .pure v) fun e he => ?_
  grind

/-- A member that was found is bound and run: what comes out of it is a fault with a cause. -/
@[grind ←] theorem discreet_runCallee (c : Callee) (t : Target) (args : List Value) :
    (runCallee call c t args).Discreet n (Reason.Caps limit) := by
  unfold runCallee
  grind

/-- A member that is not there is refused with as many names as the service lists, and a call that
    is safe gives nothing instead. -/
@[grind ←] theorem discreet_invokeTarget (t : Target) (k : Key) (args : Value) (safe : Bool) :
    (invokeTarget call svc t k args safe).Discreet n (Reason.Caps (n svc)) := by
  unfold invokeTarget
  split
  next => exact discreet_refuse rfl
  next =>
    refine .bind (discreet_positions args) fun args => .bind discreet_store fun s => ?_
    refine .rescue (discreet_inquire _ _) (fun c => discreet_runCallee c t args) fun e he => ?_
    cases e with
    | engine r =>
      dsimp only
      split
      next => exact .pure _
      next => exact .refuse (he r rfl)
    | _ => exact .fail he

/-- A call goes to what was registered first, then to what a map holds, and to a member of the
    target at last. -/
@[grind ←] theorem discreet_invokeHost (t : Target) (kind : TargetKind) (k : Key) (args : Value)
    (safe : Bool) (scope : Value) :
    (invokeHost call svc t kind k args safe scope).Discreet n (Reason.Caps (n svc)) := by
  unfold invokeHost
  refine .bind (discreet_registeredFor? t k) fun f => ?_
  split
  next => exact discreet_invokeMember ..
  next =>
    refine .bind (discreet_mapValue kind t.inst k) fun f => ?_
    split <;> grind

/-! ### Requests -/

/-- What a container of the scripts answers itself is refused with as many names as by default. -/
@[grind ←] theorem discreet_answerOwn (l : LibraryKind) (v scope : Value) (k : Key) (r : KeyUse) :
    (answerOwn call l v scope k r).Discreet n (Reason.Caps limit) := by
  unfold answerOwn
  grind

/-- What is answered for a host value is refused with as many names as the service lists. -/
@[grind ←] theorem discreet_answerHost (t : Target) (kind : TargetKind) (k : Key) (scope : Value)
    (r : KeyUse) : (answerHost call svc t kind k scope r).Discreet n (Reason.Caps (n svc)) := by
  unfold answerHost
  grind

@[grind ←] theorem discreet_scopeOrRoot (scope : Value) :
    (scopeOrRoot call svc scope).Discreet n P := by
  unfold scopeOrRoot
  grind

/-- Telling what sort of target a request comes to refuses nothing. -/
@[grind ←] theorem discreet_receive (r : KeyUse) (t : Target) (k : Key) (scope : Value) :
    (receive call svc r t k scope).Discreet n P := by
  unfold receive sortTarget
  grind

@[grind ←] theorem discreet_wrapperTarget (v : Value) : (wrapperTarget call v).Discreet n P := by
  unfold wrapperTarget
  grind

/-- A wrapper asks its own service if that is one of the engine's, and host code if it is not. Which
    service it is does not matter here. -/
@[grind ←] theorem discreet_passOn (r : KeyUse) (v scope : Value) (k : Key)
    {native : ServiceId → Target → Run Value} (h : ∀ svc t, (native svc t).Discreet n P) :
    (passOn call r v scope k native).Discreet n P := by
  have hcall := discreet_call call n P
  unfold passOn viaService
  refine .bind (discreet_getAttr ..) fun service => ?_
  split
  next id => exact .bind (discreet_wrapperTarget v) (h id)
  next =>
    refine .bind (discreet_getAttr ..) fun f => .bind (discreet_wrapperTarget v) fun t => ?_
    grind

end Service

/-! ### Host code that passes on no refusal -/

/-- A fault with a refusal of the engine marked as one that was passed on. -/
def Fault.marked : Fault → Fault
  | .engine r => .wrapped r (.engine r)
  | e => e

/-- A fault that is marked is no refusal of the engine, so it keeps to any limit. -/
theorem Fault.within_marked {P : Reason → Prop} (e : Fault) : e.marked.Within P := by
  cases e with
  | engine r => exact Fault.within_wrapped _ _
  | wrapped r e => exact Fault.within_wrapped _ _
  | host k s => exact Fault.within_host _ _
  | raised v => exact Fault.within_raised _

namespace Host

/-- Calls values as another way does, except that a refusal of the engine that comes out of a call
    is marked, and that the services stay configured as they are. -/
def shielded (call : Call) : Call := fun f args => do
  let main ← service .main
  let fallback ← service .fallback
  let result ← outcome (call f args)
  modifyService .main fun s => { s with config := main.config }
  modifyService .fallback fun s => { s with config := fallback.config }
  match result with
  | .ok v => return v
  | .error e => fail e.marked

/-- What a shielded call comes to. -/
theorem shielded_apply (call : Call) (f : Value) (args : Args) (w : World) :
    ∃ u, shielded call f args w = ((call f args w).1.mapError Fault.marked, u) ∧
      ∀ svc, u.listingLimit svc = w.listingLimit svc := by
  rcases hcall : call f args w with ⟨result, u⟩
  have hresult : outcome (call f args) w = (.ok result, u) := Run.outcome_of hcall
  unfold shielded
  rw [bind_of_ok (service_apply w .main), bind_of_ok (service_apply w .fallback),
    bind_of_ok hresult]
  cases result with
  | error e => exact ⟨_, rfl, fun svc => by cases svc <;> rfl⟩
  | ok v => exact ⟨_, rfl, fun svc => by cases svc <;> rfl⟩

instance discreetCall_shielded (call : Call) : DiscreetCall (shielded call) where
  discreet n f args := by
    constructor
    · intro w hw svc
      obtain ⟨u, hrun, hlimits⟩ := shielded_apply call f args w
      rw [hrun, hlimits svc, hw svc]
    · intro w hw e he
      obtain ⟨u, hrun, hlimits⟩ := shielded_apply call f args w
      rw [hrun] at he
      rcases hcall : (call f args w).1 with e' | v
      · rw [hcall] at he
        cases he
        exact Fault.within_marked e'
      · rw [hcall] at he
        cases he

end Host

/-! ### Requests -/

namespace Run.Discreet

variable {α β : Type} {n : ServiceId → Int} {P : Reason → Prop}

/-- What a refused operation consists of was refused itself, or the rest was. -/
theorem refused_of_bind {x : Run α} {f : α → Run β} (hx : x.Discreet n P) {w w' : World}
    (hw : w.Limits n) {r : Reason} (h : (x >>= f) w = (.error (.engine r), w')) :
    P r ∨ ∃ a u, x w = (.ok a, u) ∧ u.Limits n ∧ f a u = (.error (.engine r), w') := by
  obtain hx' | ⟨a, u, hx', hf⟩ := bind_eq_error_iff.1 h
  · exact .inl (hx.fault w hw _ (by rw [hx']) r rfl)
  · have hu := hx.limits w hw
    rw [hx'] at hu
    exact .inr ⟨a, u, hx', hu, hf⟩

/-- An operation is refused for such reasons only as it is known to be refused for. -/
theorem refused {x : Run α} (hx : x.Discreet n P) {w w' : World} (hw : w.Limits n) {r : Reason}
    (h : x w = (.error (.engine r), w')) : P r :=
  hx.fault w hw _ (by rw [h]) r rfl

end Run.Discreet

namespace Service

variable {svc : ServiceId} {r : KeyUse} {k : Key}

/-- A request that wrappers pass on is refused with as many names as the service lists that it comes
    to. -/
theorem discreet_serve (fuel : Nat) (svc : ServiceId) (t : Target) (scope : Value) :
    (serve call r k fuel svc t scope).Discreet n fun reason => ∃ id, reason.Caps (n id) := by
  have hsome (id : ServiceId) (reason : Reason) (h : reason.Caps (n id)) :
      ∃ id, reason.Caps (n id) := ⟨id, h⟩
  -- The induction is on the wrappers that are left. Each has a service of its own, so a limit of
  -- one service would not carry it.
  induction fuel generalizing svc t scope with
  | zero => exact .fail (Fault.within_host _ _)
  | succ fuel ih =>
    unfold serve
    refine .bind (discreet_receive r t k scope) fun received => ?_
    split
    next scope =>
      refine discreet_viaKeyed _ _ _ _ fun l => ?_
      split
      next => exact discreet_passOn _ _ _ _ fun svc t => ih svc t scope
      next => exact (discreet_answerOwn _ _ _ _ _).mono (hsome svc)
    next => exact (discreet_answerHost _ _ _ _ _).mono (hsome svc)

/-- A request is answered with as many steps as there are wrappers, so it is refused as those
    are. -/
theorem discreet_request (t : Target) (scope : Value) :
    (request call r svc t k scope).Discreet n fun reason => ∃ id, reason.Caps (n id) := by
  unfold request wrapperDepth
  exact .bind (.bind discreet_store fun s => .pure _) fun fuel => discreet_serve fuel svc t scope

/-- Whether a request comes to a wrapper, which passes it on to a service of its own. -/
def PassesOn (call : Call) (r : KeyUse) (svc : ServiceId) (t : Target) (k : Key) (scope : Value)
    (w : World) : Prop :=
  ∃ scope' u, receive call svc r t k scope w = (.ok (.referenceable, scope'), u) ∧
    u.store.libraryMethod? t.inst r.method = some .wrapper

/-- A request that no wrapper passes on is refused with as many names as the service lists. -/
theorem caps_of_request {t : Target} {scope : Value} {w w' : World} (hw : w.Limits n)
    {reason : Reason} (h : request call r svc t k scope w = (.error (.engine reason), w')) :
    ∃ id, (id = svc ∨ PassesOn call r svc t k scope w) ∧ reason.Caps (n id) := by
  by_cases hpasses : PassesOn call r svc t k scope w
  · obtain ⟨id, hcaps⟩ := (discreet_request t scope).refused hw h
    exact ⟨id, .inr hpasses, hcaps⟩
  · refine ⟨svc, .inl rfl, ?_⟩
    rw [request, bind_of_ok (x := wrapperDepth) rfl, serve] at h
    obtain hcaps | ⟨⟨kind, scope'⟩, u, hreceive, hu, h⟩ :=
      (discreet_receive r t k scope).refused_of_bind hw h
    · exact hcaps
    · cases kind with
      | referenceable =>
        cases hmethod : u.store.libraryMethod? t.inst r.method with
        | none =>
          -- A class of its own answers the request by a method that it defines.
          have hfound : libraryMethod? t.inst r.method u = (.ok none, u) := by
            rw [← hmethod]
            rfl
          dsimp only at h
          rw [viaKeyed, bind_of_ok hfound] at h
          have hcalled : (do
              let key ← keyArgument k
              callMethod call t.inst r.method (scope' :: key :: r.arguments)).Discreet n
                (Reason.Caps (n svc)) :=
            .bind (discreet_keyArgument k) fun key => discreet_callMethod ..
          exact hcalled.refused hu h
        | some l =>
          dsimp only at h
          rw [viaKeyed_apply hmethod] at h
          have hanswered : (answerOwn call l t.inst scope' k r).Discreet n (Reason.Caps (n svc)) :=
            discreet_answerOwn ..
          cases l with
          | wrapper => exact absurd ⟨scope', u, hreceive, hmethod⟩ hpasses
          | _ => exact hanswered.refused hu h
      | _ => exact (discreet_answerHost t _ k scope' r).refused hu h

end Service

/-- What a service is asked to do: a request for a key, a call by name, or a read or a write of a
    field by name. -/
inductive Errand where
  | ask (a : Ask) (target : Value)
  | call (c : NamedCall)
  | getField (target name : Value) (fallback : Option Value)
  | setField (target name x : Value)

namespace Errand

/-- Does what a service is asked to do. -/
def run (call : Call) (svc : ServiceId) : Errand → Run Value
  | .ask a target => a.put call svc target
  | .call c => c.run call svc
  | .getField target name fallback => Service.getField call svc target name fallback
  | .setField target name x => do
    Service.setField call svc target name x
    return .none

/-- Whether an errand is a request that comes to a wrapper, which passes it on. -/
def PassesOn (call : Call) (svc : ServiceId) (w : World) : Errand → Prop
  | .ask a target => ∃ k u, keyOf call a.key w = (.ok k, u) ∧
    Service.PassesOn call a.use svc (u.store.asTarget target) k a.scope u
  | _ => False

/-- Whether the engine itself refuses an errand for a reason: the errand is refused for it, and
    would be if no host code passed on a refusal. -/
structure Refused (call : Call) (svc : ServiceId) (e : Errand) (w : World) (r : Reason) : Prop where
  refused : (e.run call svc w).1 = .error (.engine r)
  itself : (e.run (shielded call) svc w).1 = .error (.engine r)

variable {svc : ServiceId} {w w' : World} {r : Reason}

/-- A call by name is refused for the name, for the arguments, or by the search for the member. -/
theorem discreet_call (c : NamedCall) : (c.run call svc).Discreet n (Reason.Caps (n svc)) := by
  cases c with
  | onValue target name args safe =>
    unfold NamedCall.run Service.invoke
    grind
  | onClass target name args =>
    rw [NamedCall.run_eq]
    unfold NamedCall.prepare NamedCall.finish Service.calleeOf
    refine .bind (.bind discreet_store fun s => ?_) fun m => by grind
    refine .bind (discreet_keyOf name) fun k => .ite (discreet_refuse rfl) ?_
    refine .bind (Service.discreet_positions args) fun args => .bind discreet_store fun s => ?_
    exact .bind (Service.discreet_inquire _ _) fun c => by grind

theorem discreet_getField (target name : Value) (fallback : Option Value) :
    (Service.getField call svc target name fallback).Discreet n (Reason.Caps (n svc)) := by
  unfold Service.getField
  grind

theorem discreet_setField (target name x : Value) :
    (Service.setField call svc target name x).Discreet n (Reason.Caps (n svc)) := by
  unfold Service.setField
  grind

/-- A request is refused with as many names as the service lists that it comes to. -/
theorem caps_of_put (hw : w.Limits n) {a : Ask} {target : Value}
    (h : a.put call svc target w = (.error (.engine r), w')) :
    ∃ id, (id = svc ∨ (ask a target).PassesOn call svc w) ∧ r.Caps (n id) := by
  rcases hkey : keyOf call a.key w with ⟨e | k, u⟩
  · rw [Ask.put_of_error hkey] at h
    cases h
    exact ⟨svc, .inl rfl, (discreet_keyOf a.key).refused hw hkey⟩
  · have hu : u.Limits n := by
      have hkeys : (keyOf call a.key).Discreet n (Reason.Caps (n svc)) := discreet_keyOf a.key
      have hlimits := hkeys.limits w hw
      rwa [hkey] at hlimits
    have hrequest (hput : a.put call svc target w =
        Service.request call a.use svc (u.store.asTarget target) k a.scope u) :
        ∃ id, (id = svc ∨ (ask a target).PassesOn call svc w) ∧ r.Caps (n id) := by
      obtain ⟨id, hid, hcaps⟩ := Service.caps_of_request hu (hput.symm.trans h)
      exact ⟨id, hid.imp_right fun hpasses => ⟨k, u, hkey, hpasses⟩, hcaps⟩
    by_cases htarget : target = .none
    · subst htarget
      obtain ⟨use, key, scope⟩ := a
      cases use with
      | read safe =>
        -- Nothing has no keys, and none are listed.
        have hnone : (if safe then pure .absent else refuse (.nullDereference k.name) :
            Run Value).Discreet n (Reason.Caps (n svc)) := .ite (.pure _) (discreet_refuse rfl)
        have hput : Service.dereference call svc .none key safe scope w =
            (.error (.engine r), w') := h
        rw [Service.dereference, bind_of_ok hkey, if_pos rfl] at hput
        exact ⟨svc, .inl rfl, hnone.refused hu hput⟩
      | write x => exact hrequest ((bind_of_ok hkey).trans (bind_of_ok (store_apply u)))
      | call args safe => exact hrequest ((bind_of_ok hkey).trans (bind_of_ok (store_apply u)))
    · exact hrequest (Ask.put_of_ok htarget hkey)

/-- The engine refuses an errand with as many names as the service lists that it comes to. -/
theorem caps_of_run (hw : w.Limits n) (e : Errand)
    (h : e.run call svc w = (.error (.engine r), w')) :
    ∃ id, (id = svc ∨ e.PassesOn call svc w) ∧ r.Caps (n id) := by
  cases e with
  | ask a target => exact caps_of_put hw h
  | call c => exact ⟨svc, .inl rfl, (discreet_call c).refused hw h⟩
  | getField target name fallback =>
    exact ⟨svc, .inl rfl, (discreet_getField target name fallback).refused hw h⟩
  | setField target name x =>
    have hset : (run call svc (.setField target name x)).Discreet n (Reason.Caps (n svc)) :=
      .bind (discreet_setField target name x) fun _ => .pure _
    exact ⟨svc, .inl rfl, hset.refused hw h⟩

/-- **Capped listings.** Whatever the engine itself refuses, the message ends in the first of the
    names that the refusal lists, with dots exactly if there are others. It shows as many as the
    service is configured to list that the errand comes to, which is the one that was asked unless a
    wrapper passes the errand on; or as many as by default, if a key was missed in one of the
    scripts' own containers. -/
theorem lists_first (call : Call) (svc : ServiceId) (e : Errand) (w : World) {r : Reason}
    (h : e.Refused call svc w r) {l : Listing} (hl : r.listing? = some l) :
    ∃ id, (id = svc ∨ e.PassesOn (shielded call) svc w) ∧
      let limit := if r.isOfScripts then Listing.defaultLimit else w.listingLimit id
      0 ≤ limit → ∃ before,
        r.message = before ++ r.opening ++ firstNames limit.toNat l.names ++ r.closing := by
  have hw : w.Limits w.listingLimit := fun _ => rfl
  -- Where no call passes on a refusal, the refusal has the limit of a service.
  obtain ⟨id, hid, hcaps⟩ := caps_of_run hw e (Run.eq_of_fst h.itself)
  refine ⟨id, hid, fun hlimit => ?_⟩
  obtain ⟨before, hmessage⟩ := Reason.exists_message_eq hl
  rw [← hcaps l hl] at hlimit ⊢
  rw [l.text_eq hlimit] at hmessage
  exact ⟨before, hmessage⟩

end Errand

/-- A host map and a struct with the same keys, of which the service lists one. -/
def glossary : World where
  store :=
    { objects := #[
        { kind := .library .dict, body := .dict ⟨[(.ofText "a", .int 1), (.ofText "b", .int 2)]⟩ },
        { kind := .library .struct,
          body := .struct ⟨[(.ofText "a", .int 1), (.ofText "b", .int 2)]⟩ none }] }
  main := { config := { listingLimit := 1 } }

/-- A read of a key that neither of them has. -/
def lookUp (target : Value) : Errand := .ask ⟨.read false, .text "x", .none⟩ target

/-- The error for the key in the map, which lists both keys and shows one. -/
def glossaryMiss : Reason :=
  .mapKeyMissing "x" ⟨["a", "b"], 1⟩ [.text "a", .text "b"] (.object 0)

/-- The map is missed with both of its keys, of which the message shows the one that the service
    lists. -/
theorem lists_first_glossary :
    (lookUp (.object 0)).Refused Host.callValue .main glossary glossaryMiss ∧
      glossaryMiss.listing? = some ⟨["a", "b"], 1⟩ ∧
      ∃ id, (id = .main ∨ (lookUp (.object 0)).PassesOn (shielded Host.callValue) .main glossary) ∧
        let limit := if glossaryMiss.isOfScripts then Listing.defaultLimit
          else glossary.listingLimit id
        0 ≤ limit → ∃ before, glossaryMiss.message =
          before ++ "Valid keys are (" ++ firstNames limit.toNat ["a", "b"] ++ ")" := by
  have hrefused : (lookUp (.object 0)).Refused Host.callValue .main glossary glossaryMiss :=
    ⟨rfl, rfl⟩
  have hlisting : glossaryMiss.listing? = some ⟨["a", "b"], 1⟩ := rfl
  have hfirst := Errand.lists_first Host.callValue .main (lookUp (.object 0)) glossary hrefused
    hlisting
  exact ⟨hrefused, hlisting, hfirst⟩

/-- The struct lists both keys, and shows both. -/
theorem struct_lists_all_glossary :
    glossary.listingLimit .main = 1 ∧ firstNames 1 ["a", "b"] = "a, ..." ∧
      ∃ r, (lookUp (.object 1)).Refused Host.callValue .main glossary r ∧
        r.listing? = some ⟨["a", "b"], Listing.defaultLimit⟩ ∧
        r.message = "The key x was not found in the struct. Valid keys are (a, b)" := by
  have hrefused : (lookUp (.object 1)).Refused Host.callValue .main glossary
      (.structKeyMissing "x" ⟨["a", "b"], Listing.defaultLimit⟩ [.text "a", .text "b"]
        (.object 1)) :=
    ⟨by decide +kernel, by decide +kernel⟩
  refine ⟨rfl, by decide +kernel, _, hrefused, rfl, ?_⟩
  decide +kernel

end ScriptBridge
