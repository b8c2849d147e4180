import Mathlib
import ScriptBridge.Dispatch
import ScriptBridge.Proofs.Run

set_option mvcgen.warning false

namespace ScriptBridge

open Std.Do

/-!
# Operations that only look

Most of what an operation does is to look at values: it leaves all there is as it is, and adds at
most objects of its own. Host code may do anything, so that is said of operations in which no call
of a value changes anything either.

* `World.Keeps` relates a world to those in which all objects, classes, scopes and services are as
  they were;
* `Run.kept` says of a world that it is one of those, `Run.still` that this is so after an
  operation, however that ends. The instances here are what triples of operations rest on;
* `Harmless` is a way to call values that keeps every world;
* `Host.still_keyOf`, `Host.still_equal`, `Host.still_getItem` and their like are one triple for
  each operation. They are tagged, so a proof opens its own operation only.
-/

/-! ### Worlds that are kept -/

/-- Whether one world is another with new objects, apart from what resolvers remember and what was
    traced. -/
def World.Keeps (w w' : World) : Prop :=
  ∃ os n r r' lines, w' = { w with
    store := { w.store with objects := w.store.objects ++ os, stamps := n }
    mainResolver := r
    fallbackResolver := r'
    trace := lines }

namespace World.Keeps

variable {w w' w'' : World}

/-- A world is kept by doing nothing. -/
@[refl] theorem refl (w : World) : w.Keeps w :=
  ⟨#[], w.store.stamps, w.mainResolver, w.fallbackResolver, w.trace, by simp⟩

/-- What keeps a world twice keeps it. -/
theorem trans (h : w.Keeps w') (h' : w'.Keeps w'') : w.Keeps w'' := by
  obtain ⟨os, n, r, s, t, rfl⟩ := h
  obtain ⟨os', n', r', s', t', rfl⟩ := h'
  exact ⟨os ++ os', n', r', s', t', by simp⟩

/-- A trace keeps a world. -/
theorem withTrace (w : World) (lines : List String) : w.Keeps (w.withTrace lines) :=
  ⟨#[], w.store.stamps, w.mainResolver, w.fallbackResolver, lines, by simp [World.withTrace]⟩

/-- What a resolver remembers does not count. -/
theorem withResolver (w : World) (svc : ServiceId) (r : Resolver) :
    w.Keeps (w.withResolver svc r) := by
  cases svc with
  | main =>
    exact ⟨#[], w.store.stamps, r, w.fallbackResolver, w.trace, by simp [World.withResolver]⟩
  | fallback =>
    exact ⟨#[], w.store.stamps, w.mainResolver, r, w.trace, by simp [World.withResolver]⟩

end World.Keeps

/-! ### Triples -/

namespace Run

variable {α β : Type} {w : World}

/-- What can be said of operations: something of the world before, and after it of the world and the
    value or the fault. -/
abbrev Shape : PostShape.{0} := .except Fault (.arg World .pure)

instance : WP Run Shape where
  wp x :=
    { trans := fun Q w =>
        match x w with
        | (.ok a, w') => Q.1 a w'
        | (.error e, w') => Q.2.1 e w'
      conjunctiveRaw := by
        intro Q Q'
        refine SPred.bientails.of_eq (funext fun w => ?_)
        rcases h : x w with ⟨_ | _, _⟩ <;> simp [h] }

/-- What has to hold before an operation is told by running it. -/
theorem wp_apply (x : Run α) (Q : PostCond α Shape) (w : World) :
    wp⟦x⟧ Q w = match x w with
      | (.ok a, w') => Q.1 a w'
      | (.error e, w') => Q.2.1 e w' := rfl

instance : WPMonad Run Shape where
  toLawfulMonad := inferInstance
  wp_pure a := rfl
  wp_bind x f := by
    ext Q w
    simp only [wp_apply, bind_apply, PredTrans.apply_Bind_bind]
    rcases x w with ⟨_ | _, _⟩ <;> rfl

/-- All there was in a world is as it was. -/
def kept (w : World) : Assertion Shape := fun u => ⌜w.Keeps u⌝

/-- All there was in a world is as it was, whether the operation succeeds or fails. -/
abbrev still (w : World) : PostCond α Shape := post⟨fun _ => kept w, fun _ => kept w⟩

/-- An operation that keeps every world leaves all as it is, after others that do so as well. -/
theorem still_of_keeps {x : Run α} (h : ∀ u : World, u.Keeps (x u).2) :
    ⦃kept w⦄ x ⦃still w⦄ := by
  intro u hu
  have hx := World.Keeps.trans hu (h u)
  rw [wp_apply]
  rcases hr : x u with ⟨_ | _, _⟩ <;> rw [hr] at hx <;> exact hx

/-- Failing changes nothing. -/
@[spec] theorem still_fail (e : Fault) : ⦃kept w⦄ (fail e : Run α) ⦃still w⦄ :=
  still_of_keeps fun u => .refl u

@[spec] theorem still_refuse (r : Reason) : ⦃kept w⦄ (refuse r : Run α) ⦃still w⦄ :=
  still_fail (.engine r)

@[spec] theorem still_orFail (r : Except Fault α) : ⦃kept w⦄ orFail r ⦃still w⦄ := by
  mvcgen [orFail]

@[spec] theorem still_store : ⦃kept w⦄ store ⦃still w⦄ := still_of_keeps fun u => .refl u

@[spec] theorem still_service (svc : ServiceId) : ⦃kept w⦄ service svc ⦃still w⦄ :=
  still_of_keeps fun u => .refl u

@[spec] theorem still_body? (v : Value) : ⦃kept w⦄ body? v ⦃still w⦄ := by
  mvcgen [body?]

@[spec] theorem still_content? (v : Value) : ⦃kept w⦄ content? v ⦃still w⦄ := by
  mvcgen [content?]

@[spec] theorem still_kindOf (v : Value) : ⦃kept w⦄ kindOf v ⦃still w⦄ := by
  mvcgen [kindOf]

@[spec] theorem still_typeName (k : Kind) : ⦃kept w⦄ typeName k ⦃still w⦄ := by
  mvcgen [typeName]

@[spec] theorem still_typeNameOf (v : Value) : ⦃kept w⦄ typeNameOf v ⦃still w⦄ := by
  mvcgen [typeNameOf]

/-- A trace is added, and nothing else happens. -/
@[spec] theorem still_trace (svc : ServiceId) (parts : List String) :
    ⦃kept w⦄ trace svc parts ⦃still w⦄ := by
  refine still_of_keeps fun u => ?_
  obtain ⟨lines, h⟩ := exists_trace_eq svc parts u
  rw [h]
  exact .withTrace u lines

/-- A resolver that is asked may remember the answer and leave a trace. -/
@[spec] theorem still_consult (svc : ServiceId) (q : Inquiry) (view : Finding → α) :
    ⦃kept w⦄ consult svc q view ⦃still w⦄ := by
  refine still_of_keeps fun u => ?_
  obtain ⟨lines, h⟩ := consult_apply u svc q view
  rw [h]
  exact (World.Keeps.withResolver u svc _).trans (.withTrace _ lines)

/-- An object that is made comes after all others. -/
@[spec] theorem still_alloc (o : Object) : ⦃kept w⦄ alloc o ⦃still w⦄ := by
  refine still_of_keeps fun u => ?_
  refine ⟨#[o], u.store.stamps, u.mainResolver, u.fallbackResolver, u.trace, ?_⟩
  show { u with store := (u.store.alloc o).2 } = _
  simp [Store.alloc]

/-- Looking at how an operation ends is still if the operation is. -/
@[spec] theorem still_outcome {x : Run α} (hx : ⦃kept w⦄ x ⦃still w⦄) :
    ⦃kept w⦄ outcome x ⦃still w⦄ := by
  intro u hu
  have h := hx u hu
  rw [wp_apply] at h ⊢
  rw [outcome_apply]
  rcases hr : x u with ⟨_ | _, _⟩ <;> rw [hr] at h <;> exact h

/-- What is still for each element of a list is still for all of them in a row. -/
@[spec] theorem still_mapM {f : α → Run β} (hf : ∀ a, ⦃kept w⦄ f a ⦃still w⦄) (l : List α) :
    ⦃kept w⦄ l.mapM f ⦃still w⦄ := by
  induction l with
  | nil => mvcgen
  | cons a rest ih =>
    rw [List.mapM_cons]
    mvcgen [hf, ih]

end Run

open Run

/-- A way to call values in which no call changes anything. -/
class Harmless (call : Call) : Prop where
  still : ∀ w f args, ⦃kept w⦄ call f args ⦃still w⦄

namespace Host

variable {call : Call} [Harmless call] {w : World}

/-- No call of a value changes anything, which is what makes the way to call values harmless. -/
@[spec] theorem still_call (f : Value) (args : Args) : ⦃kept w⦄ call f args ⦃still w⦄ :=
  Harmless.still w f args

/-! ### New objects and special methods -/

@[spec] theorem still_newTuple (items : List Value) :
    ⦃kept w⦄ newTuple items ⦃still w⦄ := still_alloc _

@[spec] theorem still_newList (items : List Value) :
    ⦃kept w⦄ newList items ⦃still w⦄ := still_alloc _

@[spec] theorem still_newDict (m : HostMap) : ⦃kept w⦄ newDict m ⦃still w⦄ := still_alloc _

@[spec] theorem still_newTarget (k : Kind) (v : Value) :
    ⦃kept w⦄ newTarget k v ⦃still w⦄ := still_alloc _

@[spec] theorem still_attach (f v : Value) : ⦃kept w⦄ attach f v ⦃still w⦄ := still_alloc _

/-- A key that is made takes the next stamp. -/
@[spec] theorem still_newKey (k : Key) : ⦃kept w⦄ newKey k ⦃still w⦄ := by
  refine still_of_keeps fun u => ?_
  refine ⟨#[], u.store.stamps + 1, u.mainResolver, u.fallbackResolver, u.trace, ?_⟩
  show { u with store := { u.store with stamps := u.store.stamps + 1 } } = _
  simp

@[spec] theorem still_operate (name : String) (args : List Value) :
    ⦃kept w⦄ operate call name args ⦃still w⦄ := Harmless.still _ _ _

@[spec] theorem still_newScalar (v : Value) : ⦃kept w⦄ newScalar v ⦃still w⦄ := by
  mvcgen [newScalar]

/-- What is caught is still, and so is what comes instead. -/
@[spec] theorem still_catching {α : Type} {x y : Run α} (hx : ⦃kept w⦄ x ⦃still w⦄)
    (hy : ⦃kept w⦄ y ⦃still w⦄) (k : LibraryKind) : ⦃kept w⦄ catching k x y ⦃still w⦄ := by
  mvcgen [catching, hx, hy]

@[spec] theorem still_bindPlainly (v : Value) (k : Kind) (x : Value) :
    ⦃kept w⦄ bindPlainly v k x ⦃still w⦄ := by
  mvcgen [bindPlainly]

/-- Binding makes at most an object for the method that is bound. -/
@[spec] theorem still_callEntry (v entry : Value) (args : List Value) :
    ⦃kept w⦄ callEntry call v entry args ⦃still w⦄ := by
  mvcgen [callEntry]

@[spec] theorem still_callSpecial? (v : Value) (name : String) (args : List Value) :
    ⦃kept w⦄ callSpecial? call v name args ⦃still w⦄ := by
  mvcgen [callSpecial?]

@[spec] theorem still_librarySpecial? (v : Value) (name : String) :
    ⦃kept w⦄ librarySpecial? v name ⦃still w⦄ := by
  mvcgen [librarySpecial?]

@[spec] theorem still_indexOf (v : Value) : ⦃kept w⦄ indexOf call v ⦃still w⦄ := by
  mvcgen [indexOf]

@[spec] theorem still_countOf (v : Value) : ⦃kept w⦄ countOf call v ⦃still w⦄ := by
  mvcgen [countOf]

@[spec] theorem still_textResult (v : Value) : ⦃kept w⦄ textResult v ⦃still w⦄ := by
  mvcgen [textResult]

/-! ### Attributes -/

@[spec] theorem still_slotValue? (v : Value) (owner : LibraryKind) (name : String) :
    ⦃kept w⦄ slotValue? v owner name ⦃still w⦄ := by
  mvcgen [slotValue?]

@[spec] theorem still_readNumberField (v : Value) (name : String) :
    ⦃kept w⦄ readNumberField v name ⦃still w⦄ := by
  mvcgen [readNumberField]

@[spec] theorem still_readKeyField (k : Key) (name : String) :
    ⦃kept w⦄ readKeyField k name ⦃still w⦄ := by
  mvcgen [readKeyField]

@[spec] theorem still_readLibraryField (v : Value) (owner : LibraryKind) (name : String) :
    ⦃kept w⦄ readLibraryField v owner name ⦃still w⦄ := by
  mvcgen [readLibraryField]

/-- What stands in a class is bound by calls alone. -/
@[spec] theorem still_bindValue (v : Value) (k : Kind) (x : Value) :
    ⦃kept w⦄ bindValue call v k x ⦃still w⦄ := by
  mvcgen [bindValue]

@[spec] theorem still_bindEntry (v : Value) (k owner : Kind) (e : ClassEntry) :
    ⦃kept w⦄ bindEntry call v k owner e ⦃still w⦄ := by
  mvcgen [bindEntry]

@[spec] theorem still_bindEntryToClass (k owner : Kind) (e : ClassEntry) :
    ⦃kept w⦄ bindEntryToClass call k owner e ⦃still w⦄ := by
  mvcgen [bindEntryToClass]

@[spec] theorem still_getClassAttr? (k : Kind) (name : String) :
    ⦃kept w⦄ getClassAttr? call k name ⦃still w⦄ := by
  mvcgen [getClassAttr?]

/-- Only the inner content of a struct or an array is made when it is asked for. -/
@[spec] theorem still_ownValue? (v : Value) {name : String} (hdata : name ≠ "_data")
    (hitems : name ≠ "_items") : ⦃kept w⦄ ownValue? v name ⦃still w⦄ := by
  mvcgen [ownValue?]

section Named

variable (v : Value) {name : String} (hdata : name ≠ "_data") (hitems : name ≠ "_items")
include hdata hitems

/-- An attribute of an instance is looked for in its class and in itself. -/
@[spec] theorem still_getInstanceAttr? : ⦃kept w⦄ getInstanceAttr? call v name ⦃still w⦄ := by
  mvcgen [getInstanceAttr?]

/-- An attribute is looked for the regular way, and by the methods that a class declares for
    that. -/
@[spec] theorem still_getAttr? : ⦃kept w⦄ getAttr? call v name ⦃still w⦄ := by
  mvcgen [getAttr?] <;> exact fun _ _ => ‹_›

/-- An attribute that is missing is an error, and changes nothing. -/
@[spec] theorem still_getAttr : ⦃kept w⦄ getAttr call v name ⦃still w⦄ := by
  mvcgen [getAttr, missingWords]

/-- A method is looked for and called. -/
@[spec] theorem still_callMethod (args : List Value) :
    ⦃kept w⦄ callMethod call v name args ⦃still w⦄ := by
  mvcgen [callMethod]

end Named

@[spec] theorem still_libraryMethod? (v : Value) (name : String) :
    ⦃kept w⦄ libraryMethod? v name ⦃still w⦄ := by
  mvcgen [libraryMethod?]

/-! ### Texts and keys -/

@[spec] theorem still_qualifiedNameOf (v : Value) : ⦃kept w⦄ qualifiedNameOf call v ⦃still w⦄ := by
  mvcgen [qualifiedNameOf]

@[spec] theorem still_variableNames (bindings : Value) :
    ⦃kept w⦄ variableNames call bindings ⦃still w⦄ := by
  mvcgen [variableNames]

/-- Showing a value looks at it as deep as it is shown. -/
@[spec] theorem still_showWith (fuel : Nat) (within : List Value) (v : Value) :
    ⦃kept w⦄ showWith call fuel within v ⦃still w⦄ := by
  induction fuel generalizing within v with
  | zero => mvcgen [showWith]
  | succ fuel ih => mvcgen [showWith, ih]

@[spec] theorem still_display (v : Value) : ⦃kept w⦄ display call v ⦃still w⦄ :=
  still_showWith nestingLimit [] v

/-- The text of an error is read off its arguments and its slots. -/
@[spec] theorem still_errorText (v : Value) (args : List Value) :
    ⦃kept w⦄ errorText call v args ⦃still w⦄ := by
  mvcgen [errorText]

/-- Turning a value into a text changes nothing. -/
@[spec] theorem still_textOf (v : Value) : ⦃kept w⦄ textOf call v ⦃still w⦄ := by
  mvcgen [textOf]

/-- Making a key of a value changes nothing. -/
@[spec] theorem still_keyOf (v : Value) : ⦃kept w⦄ keyOf call v ⦃still w⦄ := by
  mvcgen [keyOf]

/-! ### Keys of host maps -/

@[spec] theorem still_hashResult (v : Value) : ⦃kept w⦄ hashResult v ⦃still w⦄ := by
  mvcgen [hashResult]

@[spec] theorem still_refuseSignal (v : Value) : ⦃kept w⦄ refuseSignal v ⦃still w⦄ := by
  mvcgen [refuseSignal]

@[spec] theorem still_scalarForm (v : Value) : ⦃kept w⦄ scalarForm v ⦃still w⦄ := by
  mvcgen [scalarForm]

/-- The form of a key is found as deep as tuples are nested. -/
@[spec] theorem still_keyFormWith (fuel : Nat) (v : Value) :
    ⦃kept w⦄ keyFormWith call fuel v ⦃still w⦄ := by
  induction fuel generalizing v with
  | zero => mvcgen [keyFormWith]
  | succ fuel ih => mvcgen [keyFormWith, ih]

@[spec] theorem still_keyForm (v : Value) : ⦃kept w⦄ keyForm call v ⦃still w⦄ :=
  still_keyFormWith nestingLimit v

@[spec] theorem still_mapKey (v : Value) : ⦃kept w⦄ mapKey call v ⦃still w⦄ := by
  mvcgen [mapKey]

@[spec] theorem still_sameKey (there given : MapKey) :
    ⦃kept w⦄ sameKey call there given ⦃still w⦄ := by
  mvcgen [sameKey]

/-- The keys of a map are compared one by one. -/
@[spec] theorem still_equalKey? (given : MapKey) (keys : List MapKey) :
    ⦃kept w⦄ equalKey? call given keys ⦃still w⦄ := by
  induction keys with
  | nil => mvcgen [equalKey?]
  | cons key rest ih => mvcgen [equalKey?, ih]

@[spec] theorem still_keyIn (m : HostMap) (key : MapKey) : ⦃kept w⦄ keyIn call m key ⦃still w⦄ := by
  mvcgen [keyIn]

/-- Looking for a key in a map changes nothing. -/
@[spec] theorem still_mapKeyIn (m : HostMap) (v : Value) :
    ⦃kept w⦄ mapKeyIn call m v ⦃still w⦄ := by
  mvcgen [mapKeyIn]

/-- A map with another key is another map: the one there was is not touched. -/
@[spec] theorem still_insertKey (m : HostMap) (k x : Value) :
    ⦃kept w⦄ insertKey call m k x ⦃still w⦄ := by
  mvcgen [insertKey]

/-- Each pair is put into a map of its own, so the invariant is that the world is kept. -/
@[spec] theorem still_hostMapOf (pairs : List (Value × Value)) :
    ⦃kept w⦄ hostMapOf call pairs ⦃still w⦄ := by
  mvcgen [hostMapOf] invariants
  · post⟨fun _ => kept w, fun _ => kept w⟩

/-! ### Equality -/

/-- Listing the pairs of a map changes nothing. -/
@[spec] theorem still_mapPairs (v : Value) : ⦃kept w⦄ mapPairs call v ⦃still w⦄ := by
  mvcgen [mapPairs]

@[spec] theorem still_numbersEqual? (a b : Value) : ⦃kept w⦄ numbersEqual? a b ⦃still w⦄ := by
  mvcgen [numbersEqual?, decimalEqual]

section Equality

variable {equal : Value → Value → Run Bool} (hequal : ∀ a b, ⦃kept w⦄ equal a b ⦃still w⦄)
include hequal

/-- Lists are compared element by element. -/
@[spec] theorem still_equalLists (xs ys : List Value) :
    ⦃kept w⦄ equalLists equal xs ys ⦃still w⦄ := by
  fun_induction equalLists equal xs ys with
  | case1 | case3 => mvcgen
  | case2 x xs y ys ih => mvcgen [hequal, ih]

/-- Entries are compared one by one. -/
@[spec] theorem still_equalEntries (entries : List (Value × Option Value)) :
    ⦃kept w⦄ equalEntries equal entries ⦃still w⦄ := by
  fun_induction equalEntries equal entries with
  | case1 | case2 => mvcgen
  | case3 x y rest ih => mvcgen [hequal, ih]

@[spec] theorem still_equalMaps {κ φ : Type} [Keyed κ φ] [DecidableEq φ]
    (a b : OrderedMap κ Value) : ⦃kept w⦄ equalMaps equal a b ⦃still w⦄ := by
  mvcgen [equalMaps, hequal]

/-- Each key is looked for before its value is compared. -/
@[spec] theorem still_equalHostEntries (b : HostMap) (entries : List (MapKey × Value)) :
    ⦃kept w⦄ equalHostEntries call equal b entries ⦃still w⦄ := by
  fun_induction equalHostEntries call equal b entries with
  | case1 => mvcgen
  | case2 k x rest ih => mvcgen [hequal, ih]

@[spec] theorem still_equalSized (xs ys : List Value) :
    ⦃kept w⦄ equalSized equal xs ys ⦃still w⦄ := by
  mvcgen [equalSized, hequal]

@[spec] theorem still_equalHostMaps (a b : HostMap) :
    ⦃kept w⦄ equalHostMaps call equal a b ⦃still w⦄ := by
  mvcgen [equalHostMaps, hequal]

@[spec] theorem still_structEqual? (m : OrderedMap Key Value) (b : Value) :
    ⦃kept w⦄ structEqual? call equal m b ⦃still w⦄ := by
  mvcgen [structEqual?, hequal]

/-- Comparing what two values consist of changes nothing, whatever the rule is. -/
@[spec] theorem still_contentEqual? (l : LibraryKind) (a b : Value) :
    ⦃kept w⦄ contentEqual? call equal l a b ⦃still w⦄ := by
  mvcgen [contentEqual?, hequal]

@[spec] theorem still_compareOneWay (a b : Value) :
    ⦃kept w⦄ compareOneWay call equal a b ⦃still w⦄ := by
  mvcgen [compareOneWay, hequal]

/-- Asking one value and then the other changes nothing. -/
@[spec] theorem still_compareBy (a b : Value) :
    ⦃kept w⦄ compareBy call equal a b ⦃still w⦄ := by
  mvcgen [compareBy, hequal]

end Equality

/-- Values are compared as deep as they are nested, where each step is still if the one below is. -/
@[spec] theorem still_equalWith (fuel : Nat) (a b : Value) :
    ⦃kept w⦄ equalWith call fuel a b ⦃still w⦄ := by
  induction fuel generalizing a b with
  | zero => mvcgen [equalWith]
  | succ fuel ih => mvcgen [equalWith, ih]

@[spec] theorem still_equal (a b : Value) : ⦃kept w⦄ equal call a b ⦃still w⦄ :=
  still_equalWith nestingLimit a b

/-! ### Elements -/

@[spec] theorem still_wholeContent? (v : Value) : ⦃kept w⦄ wholeContent? v ⦃still w⦄ := by
  mvcgen [wholeContent?]

@[spec] theorem still_requireContent (v : Value) : ⦃kept w⦄ requireContent v ⦃still w⦄ := by
  mvcgen [requireContent]

@[spec] theorem still_lengthResult (v : Value) : ⦃kept w⦄ lengthResult call v ⦃still w⦄ := by
  mvcgen [lengthResult]

/-- Counting a value changes nothing. -/
@[spec] theorem still_length (v : Value) : ⦃kept w⦄ length call v ⦃still w⦄ := by
  mvcgen [length]

/-- Reading at one index after another changes nothing. -/
@[spec] theorem still_walkByIndex (v : Value) (fuel i : Nat) :
    ⦃kept w⦄ walkByIndex call v fuel i ⦃still w⦄ := by
  induction fuel generalizing i with
  | zero => mvcgen [walkByIndex]
  | succ fuel ih => mvcgen [walkByIndex, ih]

/-- Asking a walker for the next element changes nothing here: it is a call. -/
@[spec] theorem still_walkOn (walker : Value) (fuel : Nat) :
    ⦃kept w⦄ walkOn call walker fuel ⦃still w⦄ := by
  induction fuel with
  | zero => mvcgen [walkOn]
  | succ fuel ih => mvcgen [walkOn, ih]

@[spec] theorem still_walkSide (side : MapSide) (of : Value) :
    ⦃kept w⦄ walkSide call side of ⦃still w⦄ := by
  mvcgen [walkSide]

/-- Walking through a value changes nothing. -/
@[spec] theorem still_itemsOf (v : Value) : ⦃kept w⦄ itemsOf call v ⦃still w⦄ := by
  mvcgen [itemsOf]

@[spec] theorem still_truth (v : Value) : ⦃kept w⦄ truth call v ⦃still w⦄ := by
  mvcgen [truth]

@[spec] theorem still_bindingsHave (bindings : Value) (key : Key) :
    ⦃kept w⦄ bindingsHave call bindings key ⦃still w⦄ := by
  mvcgen [bindingsHave]

/-- The way to the root of a scope is only looked along. -/
@[spec] theorem still_ownerFrom (key : Key) (fuel : Nat) (v : Value) :
    ⦃kept w⦄ ownerFrom call key fuel v ⦃still w⦄ := by
  fun_induction ownerFrom call key fuel v with
  | case1 | case2 => mvcgen
  | case3 fuel i ih => mvcgen [ih]
  | case4 fuel v _ _ ih => mvcgen [ih]

@[spec] theorem still_findOwner (i : Nat) (key : Value) :
    ⦃kept w⦄ findOwner call i key ⦃still w⦄ := by
  mvcgen [findOwner]

@[spec] theorem still_getMapItem (v : Value) (m : HostMap) (key : Value) :
    ⦃kept w⦄ getMapItem call v m key ⦃still w⦄ := by
  mvcgen [getMapItem]

@[spec] theorem still_structNow (v : Value) (m : OrderedMap Key Value) (card : Option Value) :
    ⦃kept w⦄ structNow v m card ⦃still w⦄ := by
  mvcgen [structNow]

@[spec] theorem still_getContentItem (v : Value) (b : Body) (key : Value) :
    ⦃kept w⦄ getContentItem call v b key ⦃still w⦄ := by
  mvcgen [getContentItem]

/-- Reading an element changes nothing. -/
@[spec] theorem still_getItem (v key : Value) : ⦃kept w⦄ getItem call v key ⦃still w⦄ := by
  mvcgen [getItem]

@[spec] theorem still_byteOf (x : Value) : ⦃kept w⦄ byteOf call x ⦃still w⦄ := by
  mvcgen [byteOf]

@[spec] theorem still_wordOf (x : Value) : ⦃kept w⦄ wordOf x ⦃still w⦄ := by
  mvcgen [wordOf]

@[spec] theorem still_requirePlace (n : Nat) (key : Value) :
    ⦃kept w⦄ requirePlace call n key ⦃still w⦄ := by
  mvcgen [requirePlace]

/-! ### Finding -/

/-- Elements are compared one by one. -/
@[spec] theorem still_isAmong (x : Value) (items : List Value) :
    ⦃kept w⦄ isAmong call x items ⦃still w⦄ := by
  induction items with
  | nil => mvcgen [isAmong]
  | cons y rest ih => mvcgen [isAmong, ih]

@[spec] theorem still_contentHas (v : Value) (b : Body) (x : Value) :
    ⦃kept w⦄ contentHas call v b x ⦃still w⦄ := by
  mvcgen [contentHas]

/-- Looking for an element changes nothing. -/
@[spec] theorem still_contains (v x : Value) : ⦃kept w⦄ contains call v x ⦃still w⦄ := by
  mvcgen [contains]

/-! ### Lookups -/

@[spec] theorem still_keyArgument (k : Key) : ⦃kept w⦄ keyArgument k ⦃still w⦄ := by
  mvcgen [keyArgument]

end Host

namespace Service

open Host

variable {call : Call} [Harmless call] {w : World}

/-- An inquiry that finds nothing is refused, which changes nothing more. -/
@[spec] theorem still_inquire {α : Type} (svc : ServiceId) (q : Inquiry)
    (view : Finding → Option α) : ⦃kept w⦄ inquire svc q view ⦃still w⦄ := by
  mvcgen [inquire]

/-- Looking for a field changes nothing, whether there is one or not. -/
@[spec] theorem still_findField? (svc : ServiceId) (t : Target) (name : Key) :
    ⦃kept w⦄ findField? svc t name ⦃still w⦄ := by
  mvcgen [findField?]

@[spec] theorem still_wrapperTarget (v : Value) : ⦃kept w⦄ wrapperTarget call v ⦃still w⦄ := by
  mvcgen [wrapperTarget]

@[spec] theorem still_wrapperDepth : ⦃kept w⦄ wrapperDepth ⦃still w⦄ := by
  mvcgen [wrapperDepth]

@[spec] theorem still_scopeOrRoot (svc : ServiceId) (scope : Value) :
    ⦃kept w⦄ scopeOrRoot call svc scope ⦃still w⦄ := by
  mvcgen [scopeOrRoot]

/-- Telling what sort of target a request comes to leaves a trace at most. -/
@[spec] theorem still_sortTarget (svc : ServiceId) (r : KeyUse) (t : Target) (key : Key) :
    ⦃kept w⦄ sortTarget svc r t key ⦃still w⦄ := by
  mvcgen [sortTarget]

/-- Receiving a request changes nothing. -/
@[spec] theorem still_receive (svc : ServiceId) (r : KeyUse) (t : Target) (key : Key)
    (scope : Value) : ⦃kept w⦄ receive call svc r t key scope ⦃still w⦄ := by
  mvcgen [receive]

/-- The entries that a list is filled up with are appended by calls of its own method. -/
@[spec] theorem still_padTo (v : Value) (n : Int) (fuel : Nat) :
    ⦃kept w⦄ padTo call v n fuel ⦃still w⦄ := by
  induction fuel with
  | zero => mvcgen [padTo]
  | succ fuel ih => mvcgen [padTo, ih]

end Service

end ScriptBridge
