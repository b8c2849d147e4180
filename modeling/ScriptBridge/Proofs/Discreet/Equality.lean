import ScriptBridge.Host.Equality
import ScriptBridge.Proofs.Discreet.Text

namespace ScriptBridge

/-!
# Discreet equality

Values are looked up in a map by their forms, and where forms do not tell by being compared.

* `Host.discreet_mapKeyIn` finds the key of a host map that is equal to a value;
* `Host.discreet_compareBy` is one step of a comparison, as long as what is below is compared
  discreetly; `Host.discreet_equal` is the whole of it.
-/

open Run

namespace Host

variable {call : Call} {n : ServiceId → Int} {P : Reason → Prop} [DiscreetCall call]

/-! ### Keys of host maps -/

/-- What a class gives as a hash must be a number. -/
@[grind ←] theorem discreet_hashResult (v : Value) : (hashResult v).Discreet n P := by
  unfold hashResult
  refine .bind discreet_store fun s => ?_
  split
  next => exact .pure _
  next => exact .pure _
  next => exact .fail Fault.within_typeError

/-- A number that signals cannot be a key. -/
@[grind ←] theorem discreet_refuseSignal (v : Value) : (refuseSignal v).Discreet n P := by
  unfold refuseSignal
  split
  next => exact .ite (.fail Fault.within_typeError) (.pure _)
  next => exact .pure _

@[grind ←] theorem discreet_scalarForm (v : Value) : (scalarForm v).Discreet n P := by
  unfold scalarForm
  exact .bind (discreet_refuseSignal v) fun _ => .pure _

/-- The form of a key is found as deep as tuples are nested. The induction is on that depth. -/
@[grind ←] theorem discreet_keyFormWith (fuel : Nat) (v : Value) :
    (keyFormWith call fuel v).Discreet n P := by
  induction fuel generalizing v with
  | zero =>
    unfold keyFormWith
    exact .fail (Fault.within_host _ _)
  | succ fuel ih =>
    unfold keyFormWith
    refine .bind (discreet_callSpecial? v "__hash__" []) fun r => ?_
    split
    next => exact .bind (discreet_hashResult _) fun _ => .pure _
    next =>
      refine .bind discreet_store fun s => ?_
      split
      next => exact discreet_scalarForm _
      next =>
        split
        -- These contents take a step more. The others have a form at once, or none.
        case h_9 => exact .ite (.pure _) (.fail Fault.within_typeError)
        case h_10 => exact .bind (discreet_mapM ih _) fun _ => .pure _
        case h_15 => exact .bind (discreet_refuseSignal _) fun _ => .pure _
        case h_18 =>
          refine .bind (discreet_librarySpecial? v "__hash__") fun l => ?_
          split
          case h_4 => exact .pure _
          all_goals exact .fail Fault.within_typeError
        all_goals first
          | exact .pure _
          | exact .fail (Fault.within_host _ _)

@[grind ←] theorem discreet_keyForm (v : Value) : (keyForm call v).Discreet n P :=
  discreet_keyFormWith nestingLimit v

@[grind ←] theorem discreet_mapKey (v : Value) : (mapKey call v).Discreet n P := by
  unfold mapKey
  exact .bind (discreet_keyForm v) fun _ => .pure _

/-- Two keys of one hash are compared where one of them computes its own. -/
@[grind ←] theorem discreet_sameKey (there given : MapKey) :
    (sameKey call there given).Discreet n P := by
  unfold sameKey
  exact .ite (.pure _) (.ite (.bind (discreet_operate ..) fun _ => .pure _) (.pure _))

/-- The keys of a map are compared one by one until one is equal. -/
@[grind ←] theorem discreet_equalKey? (given : MapKey) (keys : List MapKey) :
    (equalKey? call given keys).Discreet n P := by
  induction keys with
  | nil => exact .pure _
  | cons key rest ih =>
    unfold equalKey?
    grind

/-- A key is compared with those in the map only where hashes are computed by classes. -/
@[grind ←] theorem discreet_keyIn (m : HostMap) (key : MapKey) :
    (keyIn call m key).Discreet n P := by
  unfold keyIn
  refine .ite ?_ (.pure _)
  refine .bind (discreet_equalKey? key m.keys) fun k => ?_
  split
  next => exact .pure _
  next => exact .pure _

@[grind ←] theorem discreet_mapKeyIn (m : HostMap) (v : Value) :
    (mapKeyIn call m v).Discreet n P := by
  unfold mapKeyIn
  exact .bind (discreet_mapKey v) fun key => discreet_keyIn m key

@[grind ←] theorem discreet_insertKey (m : HostMap) (k x : Value) :
    (insertKey call m k x).Discreet n P := by
  unfold insertKey
  exact .bind (discreet_mapKeyIn m k) fun _ => .pure _

/-- A map is made of pairs one by one. -/
@[grind ←] theorem discreet_hostMapOf (pairs : List (Value × Value)) :
    (hostMapOf call pairs).Discreet n P := by
  unfold hostMapOf
  -- The pairs are put into a map that already has some.
  generalize ({} : HostMap) = m
  induction pairs generalizing m with
  | nil => exact .pure _
  | cons pair rest ih => exact .bind (discreet_insertKey m _ _) ih

/-! ### Equality -/

/-- The pairs of a map are those that it holds, or that its own method lists. -/
@[grind ←] theorem discreet_mapPairs (v : Value) : (mapPairs call v).Discreet n P := by
  unfold mapPairs
  refine .bind (discreet_libraryMethod? v "items") fun l => .bind (discreet_content? v) fun b => ?_
  split
  case h_3 =>
    refine .bind (discreet_operate ..) fun listed => .bind discreet_store fun s => ?_
    split
    next => exact .pure _
    next => exact .fail Fault.within_typeError
  all_goals exact .pure _

@[grind ←] theorem within_refusal (r : Decimal.Refusal) : (refusal r).Within P := by
  cases r with
  | invalid => exact Fault.within_host _ _
  | overflow => exact Fault.within_host _ _

/-- Comparing a decimal may signal, which is an error of the host. -/
@[grind ←] theorem discreet_decimalEqual (d : Decimal) (v : Value) :
    (decimalEqual d v).Discreet n P := by
  unfold decimalEqual
  dsimp only
  split
  next => exact .pure _
  next => exact .ite (.fail (within_refusal _)) (.pure _)

/-- Numbers are compared by what they are worth. -/
@[grind ←] theorem discreet_numbersEqual? (a b : Value) : (numbersEqual? a b).Discreet n P := by
  unfold numbersEqual?
  dsimp only
  refine .ite (.pure _) ?_
  split
  case h_1 | h_2 => exact .bind (discreet_decimalEqual ..) fun _ => .pure _
  all_goals exact .pure _

section Equality

variable {equal : Value → Value → Run Bool} (hequal : ∀ a b, (equal a b).Discreet n P)
include hequal

/-- Lists are compared element by element, up to the first that differs. -/
@[grind ←] theorem discreet_equalLists (xs ys : List Value) :
    (equalLists equal xs ys).Discreet n P := by
  fun_induction equalLists equal xs ys with grind

/-- Entries are compared one by one with what the other map has there. -/
@[grind ←] theorem discreet_equalEntries (entries : List (Value × Option Value)) :
    (equalEntries equal entries).Discreet n P := by
  fun_induction equalEntries equal entries with grind

@[grind ←] theorem discreet_equalMaps {κ φ : Type} [Keyed κ φ] [DecidableEq φ]
    (a b : OrderedMap κ Value) : (equalMaps equal a b).Discreet n P := by
  unfold equalMaps
  grind

/-- Each key is looked for in the other map before its value is compared. -/
@[grind ←] theorem discreet_equalHostEntries (b : HostMap) (entries : List (MapKey × Value)) :
    (equalHostEntries call equal b entries).Discreet n P := by
  fun_induction equalHostEntries call equal b entries with grind

@[grind ←] theorem discreet_equalSized (xs ys : List Value) :
    (equalSized equal xs ys).Discreet n P := by
  unfold equalSized
  grind

@[grind ←] theorem discreet_equalHostMaps (a b : HostMap) :
    (equalHostMaps call equal a b).Discreet n P := by
  unfold equalHostMaps
  grind

/-- A struct is compared with another, or with a map whose keys are made into names. -/
@[grind ←] theorem discreet_structEqual? (m : OrderedMap Key Value) (b : Value) :
    (structEqual? call equal m b).Discreet n P := by
  unfold structEqual?
  refine .bind discreet_store fun s => .ite ?_ (.ite ?_ (.pure _))
  · split
    next => exact .bind (discreet_equalMaps hequal _ _) fun _ => .pure _
    next => exact .fail Fault.within_attributeError
  · refine .bind (discreet_mapPairs b) fun pairs => .bind (discreet_mapM ?_ _) fun _ => ?_
    · exact fun _ => .bind (discreet_keyOf _) fun _ => .pure _
    · exact .bind (discreet_equalMaps hequal _ _) fun _ => .pure _

/-- What two values consist of is compared by the rule of the class that compares. -/
@[grind ←] theorem discreet_contentEqual? (l : LibraryKind) (a b : Value) :
    (contentEqual? call equal l a b).Discreet n P := by
  have hmaps (m m' : HostMap) :
      (do return some (← equalHostMaps call equal m m') : Run (Option Bool)).Discreet n P :=
    .bind (discreet_equalHostMaps hequal _ _) fun _ => .pure _
  -- The cases are those of what is compared; the last ones, which ask nobody, are closed
  -- together.
  unfold contentEqual?
  refine .bind discreet_store fun s => ?_
  dsimp only
  split
  case h_1 | h_2 | h_3 | h_4 =>
    split
    next => exact .bind (discreet_equalLists hequal _ _) fun _ => .pure _
    next => exact .bind (discreet_equalSized hequal _ _) fun _ => .pure _
    next => exact .bind (discreet_equalSized hequal _ _) fun _ => .pure _
    next => exact hmaps _ _
    next => exact .pure _
  case h_5 =>
    split
    next => exact hmaps _ _
    next => exact hmaps _ _
    next =>
      refine .bind (discreet_mapM ?_ _) fun _ =>
        .bind (discreet_equalMaps hequal _ _) fun _ => .pure _
      exact fun _ => .bind (discreet_keyOf _) fun _ => .pure _
    next => exact .pure _
  case h_6 =>
    split
    next => exact discreet_structEqual? hequal _ _
    next => exact .fail Fault.within_attributeError
  case h_7 =>
    split
    next => exact .bind (discreet_equalSized hequal _ _) fun _ => .pure _
    next => exact .bind (discreet_equalSized hequal _ _) fun _ => .pure _
    next => exact .pure _
    next => exact .fail Fault.within_attributeError
  case h_8 =>
    refine .ite ?_ (.pure _)
    refine .bind (discreet_mapPairs a) fun _ => .bind (discreet_hostMapOf _) fun _ => ?_
    exact .bind (discreet_mapPairs b) fun _ => .bind (discreet_hostMapOf _) fun _ => hmaps _ _
  case h_15 =>
    split
    next => exact .pure _
    next =>
      refine .bind (discreet_numbersEqual? ..) fun r => ?_
      split
      next => exact .pure _
      next => exact .pure _
  case h_14 => exact .pure _
  all_goals split <;> exact .pure _

/-- A class may compare in its own way. Otherwise contents are compared. -/
@[grind ←] theorem discreet_compareOneWay (a b : Value) :
    (compareOneWay call equal a b).Discreet n P := by
  unfold compareOneWay
  refine .bind (discreet_callSpecial? a "__eq__" [b]) fun r => ?_
  split
  next => exact .pure _
  next => grind

/-- The other value is asked if the first one does not know. -/
@[grind ←] theorem discreet_compareBy (a b : Value) :
    (compareBy call equal a b).Discreet n P := by
  unfold compareBy
  refine .bind discreet_store fun s => ?_
  dsimp only
  refine .bind (discreet_compareOneWay hequal _ _) fun r => ?_
  split
  next => exact .pure _
  next =>
    refine .bind (discreet_compareOneWay hequal _ _) fun r => ?_
    split
    next => exact .pure _
    next => exact .pure _

end Equality

/-- Values are compared as deep as they are nested, where each step is discreet if the one below
    is. -/
@[grind ←] theorem discreet_equalWith (fuel : Nat) (a b : Value) :
    (equalWith call fuel a b).Discreet n P := by
  induction fuel generalizing a b with
  | zero =>
    unfold equalWith
    grind
  | succ fuel ih =>
    unfold equalWith
    grind

@[grind ←] theorem discreet_equal (a b : Value) : (equal call a b).Discreet n P :=
  discreet_equalWith nestingLimit a b

end Host

end ScriptBridge
