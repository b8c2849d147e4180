import ScriptBridge.Run

namespace ScriptBridge

/-!
# How operations run

The equations here evaluate the basic operations at a world, so that later proofs never open the
monad.

* `Run.bind_apply` runs one operation after another;
* `Run.consult_apply`: of the world, a consulted resolver changes itself and the trace only;
* `Run.After` is what holds where an operation succeeds.
-/

namespace Run

variable {α β : Type} (w : World)

/-- A value that is given changes nothing. -/
@[simp] theorem pure_apply (a : α) : (pure a : Run α) w = (.ok a, w) := rfl

/-- The second operation runs where the first one ended, unless that failed. -/
theorem bind_apply (x : Run α) (f : α → Run β) :
    (x >>= f) w =
      match x w with
      | (.ok a, w') => f a w'
      | (.error e, w') => (.error e, w') := rfl

/-- An operation leaves the world that it leaves. -/
theorem eq_of_fst {x : Run α} {w : World} {r : Except Fault α} (h : (x w).1 = r) :
    x w = (r, (x w).2) := by
  rw [← h]

/-- After an operation that succeeds, the next one runs. -/
theorem bind_of_ok {x : Run α} {f : α → Run β} {w w' : World} {a : α} (h : x w = (.ok a, w')) :
    (x >>= f) w = f a w' := by
  rw [bind_apply, h]

/-- After an operation that fails, nothing runs. -/
theorem bind_of_error {x : Run α} {f : α → Run β} {w w' : World} {e : Fault}
    (h : x w = (.error e, w')) : (x >>= f) w = (.error e, w') := by
  rw [bind_apply, h]

/-- Two operations in a row succeed where both do. -/
theorem bind_eq_ok_iff {x : Run α} {f : α → Run β} {w w' : World} {b : β} :
    (x >>= f) w = (.ok b, w') ↔ ∃ a u, x w = (.ok a, u) ∧ f a u = (.ok b, w') := by
  rcases hx : x w with ⟨e | a, u⟩
  · rw [bind_of_error hx]
    constructor
    · rintro ⟨⟩
    · rintro ⟨_, _, ⟨⟩, _⟩
  · rw [bind_of_ok hx]
    refine ⟨fun h => ⟨a, u, rfl, h⟩, ?_⟩
    rintro ⟨_, _, ⟨⟩, h⟩
    exact h

/-- Two operations in a row fail where the first one does, or else the second. -/
theorem bind_eq_error_iff {x : Run α} {f : α → Run β} {w w' : World} {e : Fault} :
    (x >>= f) w = (.error e, w') ↔
      x w = (.error e, w') ∨ ∃ a u, x w = (.ok a, u) ∧ f a u = (.error e, w') := by
  rcases hx : x w with ⟨e' | a, u⟩
  · rw [bind_of_error hx]
    constructor
    · rintro ⟨⟩
      exact .inl rfl
    · rintro (⟨⟨⟩⟩ | ⟨_, _, ha, _⟩)
      · rfl
      · cases ha
  · rw [bind_of_ok hx]
    refine ⟨fun h => .inr ⟨a, u, rfl, h⟩, ?_⟩
    rintro (h | ⟨_, _, ⟨⟩, h⟩)
    · cases h
    · exact h

/-- What is made of a result leaves the world as it is, and an error too. -/
@[simp] theorem map_apply (g : α → β) (x : Run α) :
    (g <$> x) w = ((x w).1.map g, (x w).2) := by
  show (x >>= fun a => pure (g a)) w = _
  rw [bind_apply]
  rcases x w with ⟨_ | _, _⟩ <;> rfl

/-- What an operation gives can be told from what is made of it, if that keeps it apart. -/
theorem map_eq_ok_iff {g : α → β} (hg : Function.Injective g) {x : Run α} {a : α} :
    ((g <$> x) w).1 = .ok (g a) ↔ (x w).1 = .ok a := by
  rw [map_apply]
  cases (x w).1 with
  | error e => simp [Except.map]
  | ok b => simp [Except.map, hg.eq_iff]

/-- A failure changes nothing. -/
@[simp] theorem fail_apply (e : Fault) : (fail e : Run α) w = (.error e, w) := rfl

@[simp] theorem refuse_apply (r : Reason) : (refuse r : Run α) w = (.error (.engine r), w) := rfl

@[simp] theorem store_apply : store w = (.ok w.store, w) := rfl

@[simp] theorem service_apply (svc : ServiceId) : service svc w = (.ok (w.service svc), w) := rfl

@[simp] theorem body?_apply (v : Value) : body? v w = (.ok (w.store.body? v), w) := rfl

@[simp] theorem content?_apply (v : Value) : content? v w = (.ok (w.store.content? v), w) := rfl

@[simp] theorem kindOf_apply (v : Value) : kindOf v w = (.ok (w.store.kindOf v), w) := rfl

/-- To set what an object consists of changes the store alone. -/
@[simp] theorem setBody_apply (v : Value) (b : Body) :
    setBody v b w = (.ok (), { w with store := w.store.setBody v b }) := rfl

@[simp] theorem setContent_apply (v : Value) (b : Body) :
    setContent v b w = (.ok (), { w with store := w.store.setContent v b }) := rfl

/-- To look at an outcome is to succeed, whatever it is. -/
@[simp] theorem outcome_apply (x : Run α) : outcome x w = (.ok (x w).1, (x w).2) := rfl

/-- The outcome of an operation is what it comes to. -/
theorem outcome_of {x : Run α} {w w' : World} {r : Except Fault α} (h : x w = (r, w')) :
    outcome x w = (.ok r, w') := by
  rw [outcome_apply, h]

/-- A trace changes nothing else. -/
theorem exists_trace_eq (svc : ServiceId) (parts : List String) (w : World) :
    ∃ lines, trace svc parts w = (.ok (), w.withTrace lines) := by
  obtain ⟨lines, h⟩ := w.exists_report_eq svc fun _ => [parts]
  exact ⟨lines, Prod.ext rfl h⟩

/-- What comes of consulting a resolver: its answer, and its new memory. -/
theorem consult_apply (svc : ServiceId) (q : Inquiry) (view : Finding → α) :
    ∃ lines, consult svc q view w =
      ((w.lookup svc q).1.map fun f => view f.1,
        (w.withResolver svc (w.lookup svc q).2).withTrace lines) := by
  obtain ⟨t, ht⟩ := (w.withResolver svc (w.lookup svc q).2).exists_report_eq svc fun _ =>
    lookupLines w.store q (w.lookup svc q).1
  exact ⟨t, Prod.ext rfl ht⟩

/-- Whether something holds of what an operation gives and of the world it leaves, if it
    succeeds. -/
def After (x : Run α) (P : α → World → Prop) : Prop :=
  ∀ a w', x w = (.ok a, w') → P a w'

/-! ### What operations learn -/

variable {w} {svc : ServiceId}

@[simp] theorem fresh_pure (a : α) : (pure a : Run α).Fresh svc w := trivial

@[simp] theorem fresh_fail (e : Fault) : (fail e : Run α).Fresh svc w := trivial

@[simp] theorem fresh_refuse (r : Reason) : (refuse r : Run α).Fresh svc w := trivial

@[simp] theorem fresh_store : store.Fresh svc w := trivial

/-- The store may be changed in any way without a resolver being asked. -/
@[simp] theorem fresh_modifyStore (f : Store → Store) : (modifyStore f).Fresh svc w := trivial

@[simp] theorem fresh_service (id : ServiceId) : (service id).Fresh svc w := trivial

/-- An operation learns the same whether or not its error is caught. -/
@[simp] theorem fresh_outcome (x : Run α) : (outcome x).Fresh svc w ↔ x.Fresh svc w := Iff.rfl

/-- What is made of a result learns nothing more. -/
@[simp] theorem fresh_map (g : α → β) (x : Run α) : (g <$> x).Fresh svc w ↔ x.Fresh svc w :=
  and_iff_left fun _ _ => trivial

/-- Two operations in a row learn what each learns. -/
theorem fresh_bind {x : Run α} {f : α → Run β} :
    (x >>= f).Fresh svc w ↔
      x.Fresh svc w ∧ ∀ a, (x w).1 = .ok a → (f a).Fresh svc (x w).2 := Iff.rfl

/-- What follows an operation that learns nothing out of date is all that counts. -/
theorem fresh_bind_of_forall {x : Run α} {f : α → Run β} (hf : ∀ a u, (f a).Fresh svc u) :
    (x >>= f).Fresh svc w ↔ x.Fresh svc w :=
  ⟨fun h => h.1, fun h => ⟨h, fun a _ => hf a _⟩⟩

/-! ### The laws of operations in a row -/

/-- Operations that run alike and learn alike are the same. -/
theorem ext {x y : Run α} (hrun : ∀ w, x w = y w)
    (hfresh : ∀ svc w, x.Fresh svc w ↔ y.Fresh svc w) : x = y := by
  obtain ⟨x, f, _, _⟩ := x
  obtain ⟨y, g, _, _⟩ := y
  obtain rfl : x = y := funext hrun
  obtain rfl : f = g := funext fun svc => funext fun w => propext (hfresh svc w)
  rfl

instance : LawfulMonad Run := by
  refine LawfulMonad.mk' Run (fun x => ?_) (fun a f => ?_) fun x f g => ?_
  · refine ext (fun w => ?_) fun svc w => and_iff_left fun _ _ => trivial
    rw [map_apply]
    rcases x w with ⟨_ | _, _⟩ <;> rfl
  · refine ext (fun w => rfl) fun svc w => ?_
    exact ⟨fun h => h.2 a rfl, fun h => ⟨trivial, fun _ ha => by cases ha; exact h⟩⟩
  · refine ext (fun w => ?_) fun svc w => ?_
    · simp only [bind_apply]
      rcases x w with ⟨_ | _, _⟩ <;> rfl
    · simp only [fresh_bind, bind_apply]
      rcases hx : x w with ⟨_ | _, _⟩ <;> simp [and_assoc]

/-- Nothing follows a failure. -/
theorem fail_bind (e : Fault) (f : α → Run β) : (fail e >>= f) = fail e :=
  ext (fun _ => rfl) fun _ _ => and_iff_left fun _ h => by cases h

/-- Nothing follows a refusal. -/
theorem refuse_bind (r : Reason) (f : α → Run β) : (refuse r >>= f) = refuse r :=
  fail_bind (.engine r) f

end Run

end ScriptBridge
