import Mathlib.Control.Monad.Basic
import ScriptBridge.Eval
import ScriptBridge.Proofs.Asked
import ScriptBridge.Proofs.Items

namespace ScriptBridge

/-!
# One sequence in several forms

To a script an array of its own, and a list or a queue of the host, are the same sequence: what is
asked of one in a row comes out as it does for the other.

* `World.HoldSame` tells that two values hold the same items;
* `World.MeansSame` tells that two worlds make the same key of a value, and that this leaves two
  sequences alone; `World.meansSame_of_plain`: so it is of texts and keys;
* `Ask.put_eq` is one request to two sequences, `sequences_agree` a row of them.
-/

/-! ### Two sequences side by side -/

namespace World

/-- Whether two values of two worlds hold the same items. -/
def HoldSame (c c' : Value) (w w' : World) : Prop :=
  ∃ xs, w.store.Contains c (.items xs) ∧ w'.store.Contains c' (.items xs)

/-- Whether two worlds make the same key of a value, not that of the description, and whether that
    leaves alone what two values hold. -/
structure MeansSame (call : Call) (key c c' : Value) (w w' : World) : Prop where
  same : (Host.keyOf call key w).1 = (Host.keyOf call key w').1
  other : ∀ k, (Host.keyOf call key w).1 = .ok k → k.same .metadata = false
  kept : ∀ xs, w.store.Contains c (.items xs) →
    (Host.keyOf call key w).2.store.Contains c (.items xs)
  kept' : ∀ xs, w'.store.Contains c' (.items xs) →
    (Host.keyOf call key w').2.store.Contains c' (.items xs)

variable {call : Call} {key c c' : Value} {w w' : World}

/-- A value of which the same key is made in all worlds. -/
theorem meansSame_of_plain {r : Except Fault Key} (h : ∀ u, Host.keyOf call key u = (r, u))
    (hmeta : ∀ k, r = .ok k → k.same .metadata = false) : MeansSame call key c c' w w' where
  same := by rw [h w, h w']
  other k hk := hmeta k (by rw [← hk, h w])
  kept xs hxs := by rw [h w]; exact hxs
  kept' xs hxs := by rw [h w']; exact hxs

/-- A text means the same key to both containers. -/
theorem meansSame_text {t : String} (hmeta : (Key.ofText t).same .metadata = false) :
    MeansSame call (.text t) c c' w w' :=
  meansSame_of_plain (r := .ok (.ofText t)) (fun _ => rfl) fun k hk => by
    cases hk
    exact hmeta

/-- A key means itself to both containers. -/
theorem meansSame_key {k : Key} (hmeta : k.same .metadata = false) :
    MeansSame call (.key k) c c' w w' :=
  meansSame_of_plain (r := .ok k) (fun _ => rfl) fun k' hk' => by
    cases hk'
    exact hmeta

end World

namespace Ask

open World Run

variable {call : Call} {svc : ServiceId} {a : Ask} {c c' : Value} {w w' : World}

/-- A read or a write comes out the same of two values that hold the same items, and both hold the
    same items after it. -/
theorem put_eq (huse : a.use.IsAccess) (hscope : a.scope.IsScope) (hheld : HoldSame c c' w w')
    (hkey : MeansSame call a.key c c' w w') :
    (a.put call svc c w).1 = (a.put call svc c' w').1 ∧
      HoldSame c c' (a.put call svc c w).2 (a.put call svc c' w').2 := by
  obtain ⟨xs, hc, hc'⟩ := hheld
  rcases hk : Host.keyOf call a.key w with ⟨r, u⟩
  obtain ⟨u', hk'⟩ : ∃ u', Host.keyOf call a.key w' = (r, u') :=
    ⟨_, Prod.ext (by rw [← hkey.same, hk]) rfl⟩
  have hu : u.store.Contains c (.items xs) := by
    have hkept := hkey.kept xs hc
    rwa [hk] at hkept
  have hu' : u'.store.Contains c' (.items xs) := by
    have hkept' := hkey.kept' xs hc'
    rwa [hk'] at hkept'
  cases r with
  | error e =>
    rw [put_of_error hk, put_of_error hk']
    exact ⟨rfl, xs, hu, hu'⟩
  | ok k =>
    have hmeta : k.same .metadata = false := hkey.other k (by rw [hk])
    rw [put_of_ok hu.ne_none hk, put_of_ok hu'.ne_none hk']
    -- Both sides come to what is said of the items alone.
    cases hmode : a.use with
    | read safe =>
      obtain ⟨t, ht⟩ := Service.exists_read_items_eq call svc safe hu hmeta hscope
      obtain ⟨t', ht'⟩ := Service.exists_read_items_eq call svc safe hu' hmeta hscope
      rw [ht, ht']
      exact ⟨rfl, xs, hu, hu'⟩
    | write x =>
      obtain ⟨v, hv, -, hheld⟩ := Service.exists_write_items_eq (k := k) call svc x hu hscope
      obtain ⟨v', hv', -, hheld'⟩ := Service.exists_write_items_eq (k := k) call svc x hu' hscope
      rw [hv, hv']
      exact ⟨rfl, _, hheld, hheld'⟩
    | call args safe =>
      rw [hmode] at huse
      cases huse

end Ask

/-- **One sequence.** Reads and writes in a row come out the same of two values that hold the same
    items, be they arrays of the scripts or lists or queues of the host, in every value and every
    error; and after each of them the two hold the same items again. The keys must mean the same in
    both rows, and making them must leave the two values alone. -/
theorem sequences_agree (call : Call) (svc : ServiceId) (c c' : Value) (w w' : World)
    (xs : List Value) (asks : List Ask) (hc : w.store.Contains c (.items xs))
    (hc' : w'.store.Contains c' (.items xs))
    (hasks : ∀ a ∈ asks, a.use.IsAccess ∧ a.scope.IsScope)
    (hkeys : Run.Along (Ask.put call svc · c) (Ask.put call svc · c')
      (fun a => World.MeansSame call a.key c c') w w' asks) :
    Run.inTurn w (asks.map (Ask.put call svc · c)) =
        Run.inTurn w' (asks.map (Ask.put call svc · c')) ∧
      ∀ n, World.HoldSame c c' (Run.afterAll w ((asks.take n).map (Ask.put call svc · c)))
        (Run.afterAll w' ((asks.take n).map (Ask.put call svc · c'))) := by
  let P (a : Ask) (u u' : World) : Prop :=
    (a.use.IsAccess ∧ a.scope.IsScope) ∧ World.MeansSame call a.key c c' u u'
  have hstep (a : Ask) (u u' : World) (hheld : World.HoldSame c c' u u') (ha : P a u u') :
      (a.put call svc c u).1 = (a.put call svc c' u').1 ∧
        World.HoldSame c c' (a.put call svc c u).2 (a.put call svc c' u').2 :=
    Ask.put_eq ha.1.1 ha.1.2 hheld ha.2
  have halong : Run.Along (Ask.put call svc · c) (Ask.put call svc · c') P w w' asks :=
    hkeys.imp fun a ha u u' hkey => ⟨hasks a ha, hkey⟩
  have hbegin : World.HoldSame c c' w w' := ⟨xs, hc, hc'⟩
  exact ⟨(Run.inTurn_eq hstep hbegin halong).1,
    fun n => (Run.inTurn_eq hstep hbegin (halong.take n)).2⟩

/-- An array of the scripts and a list of the host, with the same item. -/
def larder : World where
  store :=
    { objects := #[
        { kind := .library .array, body := .array [.int 1] none },
        { kind := .library .list, body := .list [.int 1] }] }

/-- Both are filled up to a place, and read at it, at one between, at one that is none, and as a
    length. -/
theorem sequences_agree_larder :
    let asks : List Ask := [⟨.write (.text "x"), .text "3", .none⟩,
      ⟨.read false, .key { name := "2", number := some 2 }, .none⟩,
      ⟨.read false, .text "4", .none⟩, ⟨.read true, .text "LENGTH", .none⟩]
    Run.inTurn larder (asks.map (Ask.put Host.callValue .main · (.object 0))) =
        Run.inTurn larder (asks.map (Ask.put Host.callValue .main · (.object 1))) ∧
      World.HoldSame (.object 0) (.object 1)
        (Run.afterAll larder (asks.map (Ask.put Host.callValue .main · (.object 0))))
        (Run.afterAll larder (asks.map (Ask.put Host.callValue .main · (.object 1)))) := by
  obtain ⟨hanswers, hheld⟩ := sequences_agree Host.callValue .main (.object 0) (.object 1) larder
    larder [.int 1]
    [⟨.write (.text "x"), .text "3", .none⟩,
      ⟨.read false, .key { name := "2", number := some 2 }, .none⟩,
      ⟨.read false, .text "4", .none⟩, ⟨.read true, .text "LENGTH", .none⟩]
    (.array ⟨rfl, rfl, rfl, rfl⟩ rfl) (.sequence (.list rfl rfl))
    (by simp [KeyUse.IsAccess, Value.IsScope])
    ⟨World.meansSame_text (by decide +kernel), World.meansSame_key (by decide +kernel),
      World.meansSame_text (by decide +kernel), World.meansSame_text (by decide +kernel), trivial⟩
  exact ⟨hanswers, hheld 4⟩

/-- The array itself as a key: after a write to the array it is shown with the new item, and after a
    write to the list with the old one. -/
theorem sequences_differ_larder :
    let asks : List Ask :=
      [⟨.write (.int 9), .text "1", .none⟩, ⟨.read false, .object 0, .none⟩]
    larder.HoldSame (.object 0) (.object 1) larder ∧
      Run.inTurn larder (asks.map (Ask.put Host.callValue .main · (.object 0))) ≠
        Run.inTurn larder (asks.map (Ask.put Host.callValue .main · (.object 1))) :=
  ⟨⟨[.int 1], .array ⟨rfl, rfl, rfl, rfl⟩ rfl, .sequence (.list rfl rfl)⟩, by decide +kernel⟩

end ScriptBridge
