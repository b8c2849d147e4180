import ScriptBridge.Host.Attribute
import ScriptBridge.Proofs.Discreet

namespace ScriptBridge

/-!
# Discreet attributes

New objects, special methods and attributes: to make, to look up, to read or to write them is
refused by the host alone.

* `Host.discreet_callSpecial?` calls a special method that a class declares;
* `Host.discreet_getAttr` and `Host.discreet_setAttr` follow all that the host does about an
  attribute;
* `Host.discreet_catching` and `Host.discreet_viaMethod` are ways to put operations together.
-/

open Run

namespace Host

variable {call : Call} {n : ServiceId → Int} {P : Reason → Prop} [DiscreetCall call]

/-! ### New objects and special methods -/

@[grind ←] theorem discreet_newTuple (items : List Value) : (newTuple items).Discreet n P :=
  discreet_alloc _

@[grind ←] theorem discreet_newList (items : List Value) : (newList items).Discreet n P :=
  discreet_alloc _

@[grind ←] theorem discreet_newDict (m : HostMap) : (newDict m).Discreet n P := discreet_alloc _

@[grind ←] theorem discreet_newStruct (m : OrderedMap Key Value) : (newStruct m).Discreet n P :=
  discreet_alloc _

@[grind ←] theorem discreet_newArray (items : List Value) : (newArray items).Discreet n P :=
  discreet_alloc _

@[grind ←] theorem discreet_newTarget (k : Kind) (v : Value) : (newTarget k v).Discreet n P :=
  discreet_alloc _

@[grind ←] theorem discreet_attach (f v : Value) : (attach f v).Discreet n P := discreet_alloc _

/-- A key is stamped when it is made, and the stamps are the store's. -/
@[grind ←] theorem discreet_newKey (k : Key) : (newKey k).Discreet n P := by
  unfold newKey
  exact .bind discreet_store fun _ => .bind (discreet_modifyStore _) fun _ => .pure _

@[grind ←] theorem discreet_operate (name : String) (args : List Value) :
    (operate call name args).Discreet n P := discreet_call ..

/-- What is not a number is an object of its own. Any other scalar is its value. -/
@[grind ←] theorem discreet_newScalar (v : Value) : (newScalar v).Discreet n P := by
  unfold newScalar
  split
  next => exact discreet_alloc _
  next => exact discreet_alloc _
  next => exact .ite (discreet_alloc _) (.pure _)
  next => exact .pure _

/-- What is caught is discreet, and so is what comes instead. -/
@[grind ←] theorem discreet_catching {α : Type} {x y : Run α} (hx : x.Discreet n P)
    (hy : y.Discreet n P) (k : LibraryKind) : (catching k x y).Discreet n P := by
  refine .rescue hx (fun a => .pure a) fun e he => ?_
  exact .bind discreet_store fun s => .ite hy (.fail he)

/-- Binding makes at most an object for the method that is bound. -/
@[grind ←] theorem discreet_bindPlainly (v : Value) (k : Kind) (x : Value) :
    (bindPlainly v k x).Discreet n P := by
  unfold bindPlainly
  split
  next => exact discreet_attach ..
  next =>
    refine .bind (discreet_body? x) fun b => ?_
    split
    next => exact discreet_attach ..
    next => exact .pure _
    next => exact discreet_attach ..
    next => exact .pure _

/-- An entry of a class is bound and called, and it is the call that runs code. -/
@[grind ←] theorem discreet_callEntry (v entry : Value) (args : List Value) :
    (callEntry call v entry args).Discreet n P := by
  unfold callEntry
  refine .bind (discreet_kindOf v) fun k => ?_
  exact .bind (discreet_bindPlainly v k entry) fun f => discreet_call call n P f _

/-- A special method that a class declares is called, or there is none. -/
@[grind ←] theorem discreet_callSpecial? (v : Value) (name : String) (args : List Value) :
    (callSpecial? call v name args).Discreet n P := by
  unfold callSpecial?
  refine .bind discreet_store fun s => .bind (discreet_kindOf v) fun k => ?_
  split
  next => exact .bind (discreet_callEntry ..) fun _ => .pure _
  next => exact .pure _

/-- Whether a special method is the library's is told by the class. -/
@[grind ←] theorem discreet_librarySpecial? (v : Value) (name : String) :
    (librarySpecial? v name).Discreet n P := by
  unfold librarySpecial?
  refine .bind discreet_store fun s => .bind (discreet_kindOf v) fun k => ?_
  split
  next => exact .pure _
  next => exact .pure _

/-- A value counts as a number by itself or by a method of its class. -/
@[grind ←] theorem discreet_indexOf (v : Value) : (indexOf call v).Discreet n P := by
  unfold indexOf
  refine .bind discreet_store fun s => ?_
  split
  next => exact .pure _
  next => exact .pure _
  next =>
    refine .bind (discreet_callSpecial? v "__index__" []) fun r => ?_
    split
    next =>
      refine .bind discreet_store fun s => ?_
      split
      next => exact .pure _
      next => exact .pure _
      next => exact .fail Fault.within_typeError
    next => exact .fail Fault.within_typeError

/-- A count is a number that is not negative. -/
@[grind ←] theorem discreet_countOf (v : Value) : (countOf call v).Discreet n P := by
  unfold countOf
  exact .bind (discreet_indexOf v) fun i => .ite (.fail Fault.within_valueError) (.pure _)

/-- What is to be a text is one, or the host says that it is not. -/
@[grind ←] theorem discreet_textResult (v : Value) : (textResult v).Discreet n P := by
  unfold textResult
  refine .bind discreet_store fun s => ?_
  split
  next => exact .pure _
  next => exact .fail Fault.within_typeError

/-! ### Attributes -/

@[grind ←] theorem discreet_slotValue? (v : Value) (owner : LibraryKind) (name : String) :
    (slotValue? v owner name).Discreet n P := by
  unfold slotValue?
  exact .bind discreet_store fun s => .pure _

/-- The parts of a number are numbers, and numbers are made. -/
@[grind ←] theorem discreet_readNumberField (v : Value) (name : String) :
    (readNumberField v name).Discreet n P := by
  unfold readNumberField
  split <;> first
    | exact .pure _
    | exact discreet_newScalar _
    | exact .fail Fault.within_attributeError

/-- A key is read for its name and for what it spells. -/
@[grind ←] theorem discreet_readKeyField (k : Key) (name : String) :
    (readKeyField k name).Discreet n P := by
  unfold readKeyField
  split
  case h_4 =>
    split
    next => exact .pure _
    next => exact .pure _
    next => exact .fail Fault.within_valueError
  case h_5 => exact .fail Fault.within_attributeError
  all_goals exact .pure _

/-- A field of the library is read by what the class that owns it keeps there. -/
@[grind ←] theorem discreet_readLibraryField (v : Value) (owner : LibraryKind) (name : String) :
    (readLibraryField v owner name).Discreet n P := by
  unfold readLibraryField
  refine .bind discreet_store fun s => ?_
  split
  next => exact discreet_readKeyField _ _
  next =>
    split
    next => exact discreet_readNumberField _ _
    next =>
      split
      case h_6 =>
        split
        next => exact .pure _
        next => exact .fail Fault.within_attributeError
      case h_7 =>
        split
        next => exact discreet_newTuple _
        next => exact .pure _
        next => exact .fail Fault.within_attributeError
      case h_9 =>
        refine .bind (discreet_slotValue? ..) fun r => ?_
        split
        next => exact .fail Fault.within_attributeError
        next => exact .pure _
      case h_10 => exact .bind (discreet_slotValue? ..) fun r => .pure _
      all_goals first
        | exact .pure _
        | exact .fail (Fault.within_host _ _)
        | exact discreet_readNumberField _ _
        | exact discreet_alloc _

/-- An entry is bound by its own code if it is a property or has a method for that, and plainly
    otherwise. -/
@[grind ←] theorem discreet_bindValue (v : Value) (k : Kind) (x : Value) :
    (bindValue call v k x).Discreet n P := by
  unfold bindValue
  refine .bind discreet_store fun s => ?_
  split
  next => exact discreet_call call n P _ _
  next =>
    split
    next => exact .pure _
    next => exact .fail Fault.within_attributeError
  next =>
    refine .bind (discreet_callSpecial? x "__get__" _) fun r => ?_
    split
    next => exact .pure _
    next => exact discreet_bindPlainly ..

/-- What an instance finds in its class is read or bound there. -/
@[grind ←] theorem discreet_bindEntry (v : Value) (k owner : Kind) (e : ClassEntry) :
    (bindEntry call v k owner e).Discreet n P := by
  unfold bindEntry
  split
  case h_3 | h_4 =>
    split
    next => exact discreet_readLibraryField ..
    next => exact .fail Fault.within_attributeError
  case h_5 => exact .fail Fault.within_attributeError
  case h_6 => exact discreet_bindValue ..
  all_goals exact discreet_attach ..

/-- What a class finds in itself is bound with no instance. -/
@[grind ←] theorem discreet_bindEntryToClass (k owner : Kind) (e : ClassEntry) :
    (bindEntryToClass call k owner e).Discreet n P := by
  unfold bindEntryToClass
  split
  case h_5 => exact discreet_attach ..
  case h_6 x =>
    refine .bind (discreet_body? x) fun b => ?_
    split
    next => exact .pure _
    next => exact discreet_attach ..
    next =>
      refine .bind (discreet_callSpecial? x "__get__" _) fun r => ?_
      split
      next => exact .pure _
      next => exact .pure _
  all_goals exact .pure _

/-- A class is asked along its own line first, and along that of its metaclass then. -/
@[grind ←] theorem discreet_getClassAttr? (k : Kind) (name : String) :
    (getClassAttr? call k name).Discreet n P := by
  unfold getClassAttr?
  refine .bind discreet_store fun s => ?_
  split
  next => exact .pure _
  next =>
    split
    next => exact .bind (discreet_bindEntryToClass ..) fun _ => .pure _
    next =>
      dsimp only
      split
      next => exact .bind (discreet_bindEntry ..) fun _ => .pure _
      next => exact .pure _

/-- The inner content of a container is made when it is asked for, and kept. -/
@[grind ←] theorem discreet_innerContent (v : Value) (o : Object) (name : String)
    (kind : LibraryKind) (b : Body) : (innerContent v o name kind b).Discreet n P := by
  unfold innerContent
  split
  next => exact .pure _
  next => exact .bind (discreet_alloc _) fun _ => .bind (discreet_modifyStore _) fun _ => .pure _

/-- What an object holds itself is there, or made when it is asked for. -/
@[grind ←] theorem discreet_ownValue? (v : Value) (name : String) :
    (ownValue? v name).Discreet n P := by
  unfold ownValue?
  refine .bind discreet_store fun s => ?_
  split
  next => exact .pure _
  next =>
    split
    next => exact .pure _
    next =>
      split
      case h_1 | h_2 => exact .bind (discreet_innerContent ..) fun x => .pure _
      all_goals exact .pure _

/-- An entry of the class that governs comes first, then what the instance holds, then any other
    entry. -/
@[grind ←] theorem discreet_getInstanceAttr? (v : Value) (name : String) :
    (getInstanceAttr? call v name).Discreet n P := by
  unfold getInstanceAttr?
  refine .bind discreet_store fun s => ?_
  dsimp only
  split
  next =>
    refine .bind (discreet_ownValue? v name) fun x => ?_
    split
    next => exact .pure _
    next => exact .pure _
  next =>
    refine .ite (.bind (discreet_bindEntry ..) fun _ => .pure _) ?_
    refine .bind (discreet_ownValue? v name) fun x => ?_
    split
    next => exact .pure _
    next => exact .bind (discreet_bindEntry ..) fun _ => .pure _

/-- An attribute is found by the regular way, unless the class declares another. -/
@[grind ←] theorem discreet_getAttr? (v : Value) (name : String) :
    (getAttr? call v name).Discreet n P := by
  unfold getAttr?
  split
  next k => exact discreet_getClassAttr? k name
  next =>
    -- The regular way is the whole one, or is tried before the method for missing attributes.
    refine .bind discreet_store fun s => ?_
    dsimp only
    split
    next => grind
    next entry _ =>
      have hother : (do
          return some (← callEntry call v entry [.text name]) :
          Run (Option Value)).Discreet n P := .bind (discreet_callEntry ..) fun _ => .pure _
      refine .bind (discreet_catching (by grind) hother _) fun r => ?_
      split
      next => exact .pure _
      next => exact hother

/-- An attribute that is missing is an error of the host. -/
@[grind ←] theorem discreet_getAttr (v : Value) (name : String) :
    (getAttr call v name).Discreet n P := by
  unfold getAttr
  refine .bind (discreet_getAttr? v name) fun r => ?_
  split
  next => exact .pure _
  next => grind [missingWords]

/-- An attribute that is missing is given in its place what the caller says. -/
@[grind ←] theorem discreet_getAttrD (v : Value) (name : String) (fallback : Value) :
    (getAttrD call v name fallback).Discreet n P := by
  unfold getAttrD
  exact discreet_catching (discreet_getAttr v name) (.pure _) _

/-- A method is an attribute that is called. -/
@[grind ←] theorem discreet_callMethod (v : Value) (name : String) (args : List Value) :
    (callMethod call v name args).Discreet n P := by
  unfold callMethod
  exact .bind (discreet_getAttr v name) fun f => discreet_call call n P f _

@[grind ←] theorem discreet_libraryMethod? (v : Value) (name : String) :
    (libraryMethod? v name).Discreet n P := by
  unfold libraryMethod?
  grind

/-- The library's method is run as it is, and one that a class declares is called. -/
@[grind ←] theorem discreet_viaMethod (v : Value) (name : String) (args : List Value)
    {native : LibraryKind → Run Value} (h : ∀ l, (native l).Discreet n P) :
    (viaMethod call v name args native).Discreet n P := by
  unfold viaMethod
  grind

/-- A field of the library is written where its class lets it be. -/
@[grind ←] theorem discreet_writeLibraryField (v : Value) (owner : LibraryKind) (name : String)
    (x : Value) : (writeLibraryField call v owner name x).Discreet n P := by
  unfold writeLibraryField
  refine .bind discreet_store fun s => ?_
  split
  next =>
    refine .ite ?_ ?_
    · refine .bind (discreet_operate ..) fun listed => .bind (discreet_body? listed) fun b => ?_
      split
      next => exact discreet_setBody _ _
      next => exact .fail Fault.within_typeError
    · dsimp only
      refine .ite ?_ (.bind (.pure _) fun _ => discreet_modifyStore _)
      exact .bind (discreet_countOf _) fun _ => .bind (.pure _) fun _ => discreet_modifyStore _
  next =>
    split
    next => exact discreet_setBody _ _
    next => exact discreet_setBody _ _
    next => exact .fail Fault.within_attributeError
  next => exact .fail Fault.within_attributeError

/-- An object keeps what it is given, if it takes attributes at all. -/
@[grind ←] theorem discreet_setOwn (v : Value) (name : String) (x : Value) :
    (setOwn v name x).Discreet n P := by
  have hkeep : (modifyStore (·.modify v fun o =>
      { o with attrs := o.attrs.insert name x })).Discreet n P := discreet_modifyStore _
  unfold setOwn
  refine .bind discreet_store fun s => ?_
  dsimp only
  refine .ite ?_ ?_
  · rw [fail_bind]
    exact .fail Fault.within_attributeError
  · split
    next => exact discreet_modifyStore _
    next =>
      split
      case h_6 | h_7 =>
        split
        next => exact .bind (discreet_setBody _ _) fun _ => hkeep
        next => exact hkeep
      case h_8 => exact hkeep
      all_goals exact discreet_setBody _ _

/-- An entry of the class may take a write over. Otherwise the instance keeps what is written. -/
@[grind ←] theorem discreet_setInstanceAttr (v : Value) (name : String) (x : Value) :
    (setInstanceAttr call v name x).Discreet n P := by
  unfold setInstanceAttr
  refine .bind discreet_store fun s => ?_
  split
  case h_1 | h_2 =>
    split
    next => exact discreet_writeLibraryField ..
    next => exact .fail Fault.within_attributeError
  case h_3 =>
    split
    next => exact .bind (discreet_call call n P _ _) fun _ => .pure _
    next => exact .fail Fault.within_attributeError
    next => exact discreet_modifyStore _
    next =>
      refine .bind (discreet_callSpecial? _ "__set__" _) fun r => ?_
      split
      next => exact .pure _
      next => exact .ite (.fail Fault.within_attributeError) (discreet_setOwn ..)
  case h_4 => exact discreet_setOwn ..

/-- A class that takes writes over comes first. Otherwise an attribute is written the regular
    way. -/
@[grind ←] theorem discreet_setAttr (v : Value) (name : String) (x : Value) :
    (setAttr call v name x).Discreet n P := by
  unfold setAttr
  split
  next => exact .ite (discreet_modifyStore _) (.fail Fault.within_typeError)
  next =>
    refine .bind (discreet_callSpecial? v "__setattr__" _) fun r => ?_
    split
    next => exact .pure _
    next => exact discreet_setInstanceAttr ..

end Host

end ScriptBridge
