import ScriptBridge.Host.Item
import ScriptBridge.Proofs.Discreet.Equality

namespace ScriptBridge

/-!
# Discreet elements

Elements are counted, walked through, read, written and looked for, by the methods of a class or by
the rules for what a value consists of.

* `Host.discreet_itemsOf` walks through a value;
* `Host.discreet_getItem`, `Host.discreet_setItem` and `Host.discreet_contains` read an element,
  write one and look for one.
-/

open Run

namespace Host

variable {call : Call} {n : ServiceId → Int} {P : Reason → Prop} [DiscreetCall call]

@[grind ←] theorem within_keyMissing : keyMissing.Within P := Fault.within_host _ _

@[grind ←] theorem within_outOfRange : outOfRange.Within P := Fault.within_host _ _

@[grind ←] theorem within_overflow : overflow.Within P := Fault.within_host _ _

@[grind ←] theorem discreet_wholeContent? (v : Value) : (wholeContent? v).Discreet n P := by
  unfold wholeContent?
  grind

@[grind ←] theorem discreet_requireContent (v : Value) : (requireContent v).Discreet n P := by
  unfold requireContent
  grind

/-- A length must be a number that is not negative nor too large. -/
@[grind ←] theorem discreet_lengthResult (v : Value) : (lengthResult call v).Discreet n P := by
  unfold lengthResult
  grind

/-- A value is counted by a method of its class, or by what it consists of. -/
@[grind ←] theorem discreet_length (v : Value) : (length call v).Discreet n P := by
  unfold length
  refine .bind (discreet_callSpecial? v "__len__" []) fun r => ?_
  split
  next => exact discreet_lengthResult _
  next =>
    refine .bind (discreet_librarySpecial? v "__len__") fun l => ?_
    split <;> grind

/-- A value that has no walker is read at one index after another, until the host says that there is
    none. -/
@[grind ←] theorem discreet_walkByIndex (v : Value) (fuel i : Nat) :
    (walkByIndex call v fuel i).Discreet n P := by
  induction fuel generalizing i with
  | zero =>
    unfold walkByIndex
    grind
  | succ fuel ih =>
    unfold walkByIndex
    refine .rescue (Q := P) (discreet_operate ..) ?_ fun e he => ?_
    · exact fun x => .bind (ih _) fun _ => .pure _
    · grind

/-- A walker is asked for the next element until it has no more. -/
@[grind ←] theorem discreet_walkOn (walker : Value) (fuel : Nat) :
    (walkOn call walker fuel).Discreet n P := by
  induction fuel with
  | zero =>
    unfold walkOn
    grind
  | succ fuel ih =>
    unfold walkOn
    grind

/-- A map is walked through by what it holds, or by what it lists as its keys. -/
@[grind ←] theorem discreet_walkSide (side : MapSide) (of : Value) :
    (walkSide call side of).Discreet n P := by
  unfold walkSide
  dsimp only
  refine .bind (discreet_content? of) fun b => ?_
  split
  next => grind
  next => grind
  next =>
    refine .bind (discreet_operate ..) fun keys => .bind (discreet_body? keys) fun b => ?_
    grind

/-- A value is walked through by a method of its class, by the library's, or by index. -/
@[grind ←] theorem discreet_itemsOf (v : Value) : (itemsOf call v).Discreet n P := by
  unfold itemsOf
  refine .bind (discreet_callSpecial? v "__iter__" []) fun walker => ?_
  split
  -- What a class declares for walking comes first, then what the library has.
  next => exact discreet_walkOn ..
  next =>
    refine .bind (discreet_librarySpecial? v "__iter__") fun l => ?_
    split
    case h_1 | h_2 => exact .pure _
    case h_3 =>
      refine .bind (discreet_content? v) fun b => ?_
      split
      next =>
        refine .bind discreet_store fun s => .bind (discreet_kindOf v) fun k => ?_
        exact .ite (discreet_walkByIndex ..) (.pure _)
      next => exact discreet_walkByIndex ..
    case h_4 =>
      refine .bind (discreet_requireContent v) fun b => ?_
      split
      next => exact discreet_walkSide ..
      next => exact .pure _
      next =>
        split
        next => exact .pure _
        next => exact .fail Fault.within_typeError
    case h_5 =>
      refine .bind discreet_store fun s => ?_
      refine .ite (.fail Fault.within_typeError) ?_
      split
      next => exact .pure _
      next =>
        split
        next => exact discreet_walkByIndex ..
        next => exact .fail Fault.within_typeError
        next => exact discreet_walkByIndex ..

/-- A value is true by a method of its class, by its length, or by what it is. -/
@[grind ←] theorem discreet_truth (v : Value) : (truth call v).Discreet n P := by
  unfold truth
  refine .bind (discreet_callSpecial? v "__bool__" []) fun r => ?_
  split
  next => exact .pure _
  next => exact .fail Fault.within_typeError
  next =>
    refine .bind discreet_store fun s => ?_
    dsimp only
    split
    next => exact .pure _
    next =>
      refine .ite ?_ ?_
      · split
        next => exact .pure _
        next =>
          split
          next => exact .pure _
          next => exact .bind (discreet_length _) fun _ => .pure _
      · split <;> exact .pure _

@[grind ←] theorem discreet_bindingsHave (bindings : Value) (key : Key) :
    (bindingsHave call bindings key).Discreet n P := by
  unfold bindingsHave
  grind

/-- The way to the root of a scope is only looked along. -/
@[grind ←] theorem discreet_ownerFrom (key : Key) (fuel : Nat) (v : Value) :
    (ownerFrom call key fuel v).Discreet n P := by
  fun_induction ownerFrom call key fuel v with grind

@[grind ←] theorem discreet_findOwner (i : Nat) (key : Value) :
    (findOwner call i key).Discreet n P := by
  unfold findOwner
  grind

/-- A key that a map lacks may be made up by a method of its class. -/
@[grind ←] theorem discreet_getMapItem (v : Value) (m : HostMap) (key : Value) :
    (getMapItem call v m key).Discreet n P := by
  unfold getMapItem
  refine .bind (discreet_mapKeyIn m key) fun k => ?_
  split <;> grind

@[grind ←] theorem discreet_structNow (v : Value) (m : OrderedMap Key Value)
    (card : Option Value) : (structNow v m card).Discreet n P := by
  unfold structNow
  refine .bind (discreet_body? v) fun b => ?_
  split <;> exact .pure _

/-- An element is read by the rule of what it stands in. -/
@[grind ←] theorem discreet_getContentItem (v : Value) (b : Body) (key : Value) :
    (getContentItem call v b key).Discreet n P := by
  unfold getContentItem
  split <;> grind

/-- An element is read by a method of the class, or by the library's. -/
@[grind ←] theorem discreet_getItem (v key : Value) : (getItem call v key).Discreet n P := by
  unfold getItem
  refine .bind (discreet_callSpecial? v "__getitem__" [key]) fun r => ?_
  split
  next => exact .pure _
  next =>
    refine .bind (discreet_librarySpecial? v "__getitem__") fun l => ?_
    split <;> grind

/-- A byte is a number that is small enough. -/
@[grind ←] theorem discreet_byteOf (x : Value) : (byteOf call x).Discreet n P := by
  unfold byteOf
  grind

@[grind ←] theorem discreet_wordOf (x : Value) : (wordOf x).Discreet n P := by
  unfold wordOf
  grind

/-- An index must be within the size. -/
@[grind ←] theorem discreet_requirePlace (size : Nat) (key : Value) :
    (requirePlace call size key).Discreet n P := by
  unfold requirePlace
  grind

/-- An element is written by the rule of what it is put into, once its place is known. -/
@[grind ←] theorem discreet_setContentItem (v : Value) (b : Body) (key x : Value) :
    (setContentItem call v b key x).Discreet n P := by
  unfold setContentItem
  split
  case h_1 => exact .bind (discreet_insertKey ..) fun _ => discreet_setContent _ _
  case h_2 =>
    exact .bind (discreet_keyOf _) fun _ => .bind (discreet_structNow ..) fun _ =>
      discreet_setBody _ _
  case h_3 => exact .bind (discreet_requirePlace ..) fun _ => discreet_setContent _ _
  case h_4 | h_5 => exact .bind (discreet_requirePlace ..) fun _ => discreet_setBody _ _
  case h_6 =>
    exact .bind (discreet_requirePlace ..) fun _ => .bind (discreet_byteOf _) fun _ =>
      discreet_setBody _ _
  case h_7 =>
    exact .bind (discreet_requirePlace ..) fun _ => .bind (discreet_byteOf _) fun _ =>
      discreet_setContent _ _
  case h_8 =>
    exact .bind (discreet_requirePlace ..) fun _ => .bind (discreet_wordOf _) fun _ =>
      discreet_setBody _ _
  case h_9 => exact .fail Fault.within_typeError

/-- An element is written by a method of the class, or by the library's. -/
@[grind ←] theorem discreet_setItem (v key x : Value) : (setItem call v key x).Discreet n P := by
  unfold setItem
  refine .bind (discreet_callSpecial? v "__setitem__" [key, x]) fun r => ?_
  split
  next => exact .pure _
  next =>
    refine .bind (discreet_librarySpecial? v "__setitem__") fun l => ?_
    split <;> grind

/-- Elements are compared one by one until one is equal. -/
@[grind ←] theorem discreet_isAmong (x : Value) (items : List Value) :
    (isAmong call x items).Discreet n P := by
  induction items with
  | nil => exact .pure _
  | cons y rest ih =>
    unfold isAmong
    grind

/-- An element is looked for by the rule of what it may stand in. -/
@[grind ←] theorem discreet_contentHas (v : Value) (b : Body) (x : Value) :
    (contentHas call v b x).Discreet n P := by
  unfold contentHas
  split
  case h_1 | h_2 => exact .bind (discreet_mapKeyIn _ _) fun _ => .pure _
  case h_3 =>
    refine discreet_catching (.bind (discreet_keyOf _) fun k => ?_) (.pure _) _
    exact .bind (discreet_structNow ..) fun _ => .pure _
  case h_4 =>
    refine .bind discreet_store fun s => ?_
    split
    next => exact .pure _
    next => exact .fail Fault.within_typeError
  case h_5 | h_6 =>
    refine .bind discreet_store fun s => .bind (discreet_content? x) fun b => ?_
    split
    next => exact .pure _
    next => exact .bind (discreet_byteOf _) fun _ => .pure _
  case h_7 => exact .bind (discreet_operate ..) fun _ => .pure _
  case h_8 => exact .bind (discreet_itemsOf _) fun _ => discreet_isAmong ..

/-- An element is looked for by a method of the class, by the library's, or by walking through. -/
@[grind ←] theorem discreet_contains (v x : Value) : (contains call v x).Discreet n P := by
  unfold contains
  refine .bind (discreet_callSpecial? v "__contains__" [x]) fun r => ?_
  split
  next => exact discreet_truth _
  next =>
    refine .bind (discreet_librarySpecial? v "__contains__") fun l => ?_
    split <;> grind

end Host

end ScriptBridge
