import ScriptBridge.World

namespace ScriptBridge

/-!
# Operations

The monad that operations run in. An operation that fails keeps the changes it made before it
failed. What resolvers remember is out of its reach: it can only consult them, and so every
operation comes with a proof that memory shows in nothing but what is recalled. What was traced is
out of its reach altogether.

* `Run` is the type of operations, `Run.Fresh` tells when all that one recalls is up to date;
* `Run.consult` puts an inquiry to the resolver of a service;
* `Call` is the type of the one operation that all others are open in: calling a value;
* `Act` is the type of whatever else a session does to its world.
-/

/-- An operation on a world, which may fail. -/
structure Run (α : Type) where
  /-- The outcome, and the world that is left. -/
  run : World → Except Fault α × World
  /-- Whether everything that the operation learns from the resolver of a service is what a search
      would have told it. -/
  Fresh : ServiceId → World → Prop
  /-- As long as that is so, the operation comes out as where the service remembers nothing. -/
  steady : ∀ svc w w', w.Forgetful svc w' → Fresh svc w →
    (run w).1 = (run w').1 ∧ (run w).2.Forgetful svc (run w').2
  /-- What was traced before shows in nothing but the trace. -/
  blind : ∀ w lines, ∃ lines', run (w.withTrace lines) = ((run w).1, (run w).2.withTrace lines')

instance {α : Type} : CoeFun (Run α) fun _ => World → Except Fault α × World := ⟨Run.run⟩

namespace Run

/-! ### One after the other -/

/-- Does nothing. -/
@[always_inline, inline] protected def pure {α : Type} (a : α) : Run α where
  run w := (.ok a, w)
  Fresh _ _ := True
  steady _ _ _ h _ := ⟨rfl, h⟩
  blind _ lines := ⟨lines, rfl⟩

/-- Runs an operation on what another leaves, unless that fails. -/
@[always_inline, inline] protected def bind {α β : Type} (x : Run α) (f : α → Run β) : Run β where
  run w := match x w with
    | (.ok a, w) => f a w
    | (.error e, w) => (.error e, w)
  Fresh svc w := x.Fresh svc w ∧ ∀ a, (x w).1 = .ok a → (f a).Fresh svc (x w).2
  steady svc w w' h hfresh := by
    obtain ⟨hx, hw⟩ := x.steady svc w w' h hfresh.1
    have hf := hfresh.2
    -- Both fail alike, or both go on from worlds that differ in what is remembered only.
    revert hx hw hf
    rcases x w with ⟨_ | a, u⟩ <;> rcases x w' with ⟨_ | a', u'⟩ <;> intro hx hw hf
    · exact ⟨by cases hx; rfl, hw⟩
    · cases hx
    · cases hx
    · cases hx
      exact (f a).steady svc u u' hw (hf a rfl)
  blind w lines := by
    obtain ⟨t, ht⟩ := x.blind w lines
    rcases hx : x w with ⟨e | a, u⟩ <;> simp only [hx] at ht <;> simp only [ht]
    · exact ⟨t, rfl⟩
    · exact (f a).blind u t

instance : Monad Run where
  pure := Run.pure
  bind := Run.bind

/-- Fails. -/
def fail {α : Type} (f : Fault) : Run α where
  run w := (.error f, w)
  Fresh _ _ := True
  steady _ _ _ h _ := ⟨rfl, h⟩
  blind _ lines := ⟨lines, rfl⟩

/-- Fails for a reason of the engine's own. -/
def refuse {α : Type} (r : Reason) : Run α := fail (.engine r)

/-- The outcome of an operation, which itself does not fail. -/
def outcome {α : Type} (x : Run α) : Run (Except Fault α) where
  run w := match x w with
    | (r, w) => (.ok r, w)
  Fresh := x.Fresh
  steady svc w w' h hfresh := by
    obtain ⟨hx, hw⟩ := x.steady svc w w' h hfresh
    exact ⟨congrArg Except.ok hx, hw⟩
  blind w lines := by
    obtain ⟨t, ht⟩ := x.blind w lines
    exact ⟨t, by rw [ht]⟩

/-! ### The world but for resolvers and trace -/

/-- Reads a part of a world that no resolver and no trace is in. -/
def read {α : Type} (part : World → α)
    (h : ∀ w svc r lines, part ((w.withResolver svc r).withTrace lines) = part w) : Run α where
  run w := (.ok (part w), w)
  Fresh _ _ := True
  steady svc w w' hw _ := by
    obtain ⟨r, lines, hr, rfl⟩ := hw
    exact ⟨congrArg Except.ok (h w svc r lines).symm, r, lines, hr, rfl⟩
  blind w lines := ⟨lines, Prod.ext (congrArg Except.ok (h w .main w.mainResolver lines)) rfl⟩

/-- Changes a part of a world that no resolver and no trace is in. -/
def change (f : World → World)
    (h : ∀ w svc r lines,
      f ((w.withResolver svc r).withTrace lines) = ((f w).withResolver svc r).withTrace lines) :
    Run Unit where
  run w := (.ok (), f w)
  Fresh _ _ := True
  steady svc w w' hw _ := by
    obtain ⟨r, lines, hr, rfl⟩ := hw
    exact ⟨rfl, r, lines, hr, h w svc r lines⟩
  blind w lines := by
    -- With its own resolver and trace put back, the world is the one it was.
    have hsame : f w = ((f w).withResolver .main w.mainResolver).withTrace w.trace :=
      h w .main w.mainResolver w.trace
    refine ⟨lines, Prod.ext rfl ?_⟩
    show f (w.withTrace lines) = (f w).withTrace lines
    rw [hsame]
    exact h w .main w.mainResolver lines

/-- The store. -/
def store : Run Store := read World.store (by simp)

/-- Changes the store. -/
def modifyStore (f : Store → Store) : Run Unit :=
  change (fun w => { w with store := f w.store }) fun _ svc _ _ => by cases svc <;> rfl

/-- A service. -/
def service (svc : ServiceId) : Run Service := read (·.service svc) (by simp)

/-- Changes a service. -/
def modifyService (svc : ServiceId) (f : Service → Service) : Run Unit :=
  change (·.modifyService svc f) fun _ id _ _ => by cases svc <;> cases id <;> rfl

/-- The variables of the session. -/
def bindings : Run (OrderedMap String Value) :=
  read World.bindings fun _ svc _ _ => by cases svc <;> rfl

/-- Traces a line for a service that is to be traced. -/
def trace (svc : ServiceId) (parts : List String) : Run Unit where
  run w := (.ok (), w.report svc fun _ => [parts])
  Fresh _ _ := True
  steady _ _ _ h _ := ⟨rfl, h.report svc (fun _ => [parts]) fun _ => [parts]⟩
  blind w lines := by
    obtain ⟨t, ht⟩ := w.exists_report_withTrace_eq lines svc (fun _ => [parts]) fun _ => [parts]
    exact ⟨t, Prod.ext rfl ht⟩

/-! ### Resolvers -/

/-- What is traced of a search of the classes. -/
def searchLines (s : Store) : Inquiry → List (List String)
  | .method k name kinds => match s.discover? k name kinds with
    | some m =>
      [["DISCOVER", s.typeName k, name.name, "->", s.qualifiedName m.owner ++ "." ++ m.attr]]
    | none =>
      [["DISCOVER", "no match", s.typeName k, name.name, ", ".intercalate (s.kindNames kinds)]]
  | .constructor .. | .field .. => []

/-- What is traced of a lookup. -/
def lookupLines (s : Store) (q : Inquiry) :
    Except Fault (Finding × Resolver.Source) → List (List String)
  | .error (.engine _) | .ok (_, .searched) => searchLines s q
  | .error _ => []
  | .ok (_, .created) => searchLines s q ++ [cacheLine "miss"]
  | .ok (_, .recalled) => [cacheLine "hit"]
where
  cacheLine (word : String) : List String :=
    ["CACHE", word, s.qualifiedName q.key.kind, Quoted.text q.key.name]

/-- Puts an inquiry to the resolver of a service; `view` is all that the operation is told of what
    is found. -/
def consult {α : Type} (svc : ServiceId) (q : Inquiry) (view : Finding → α) : Run α where
  run w :=
    let found := w.lookup svc q
    (found.1.map fun f => view f.1,
      (w.withResolver svc found.2).report svc fun _ => lookupLines w.store q found.1)
  -- What the resolver of another service says does not depend on this one.
  Fresh id w := id = svc →
    ((w.lookup svc q).1.map fun f => view f.1) = (w.search svc q).map view
  steady id w w' h hfresh := by
    have hlines (r r' : Resolver)
      (h : (w.withResolver svc r).Forgetful id (w'.withResolver svc r')) :=
      h.report svc (fun _ => lookupLines w.store q (w.lookup svc q).1) fun _ =>
        lookupLines w'.store q (w'.lookup svc q).1
    by_cases hid : id = svc
    · -- The service that remembers nothing searches, and the other answers as if it did.
      subst hid
      obtain ⟨hanswer, hoff⟩ := h.lookup q
      refine ⟨?_, hlines _ _ (h.withResolver hoff)⟩
      refine (hfresh rfl).trans ?_
      show _ = (w'.lookup id q).1.map _
      rw [hanswer]
      cases w.search id q <;> rfl
    · have hsame := h.lookup_of_ne (Ne.symm hid) q
      refine ⟨?_, hlines _ _ ?_⟩
      · show (w.lookup svc q).1.map _ = (w'.lookup svc q).1.map _
        rw [hsame]
      · rw [hsame]
        exact h.withResolver_of_ne (Ne.symm hid) _
  blind w lines := by
    let told : Unit → List (List String) := fun _ => lookupLines w.store q (w.lookup svc q).1
    obtain ⟨t, ht⟩ := (w.withResolver svc (w.lookup svc q).2).exists_report_withTrace_eq lines svc
      told told
    refine ⟨t, ?_⟩
    simp only [World.lookup_withTrace, World.store_withTrace, World.withResolver_withTrace]
    rw [ht]

/-! ### Objects and kinds -/

/-- Adds an object. -/
def alloc (o : Object) : Run Value := do
  let (v, s) := (← store).alloc o
  modifyStore fun _ => s
  return v

/-- The content of the object behind a value. -/
def body? (v : Value) : Run (Option Body) := do
  return (← store).body? v

/-- Replaces the content of an object. -/
def setBody (v : Value) (b : Body) : Run Unit :=
  modifyStore (·.setBody v b)

/-- The content of the object behind a value, seen through what shows another's. -/
def content? (v : Value) : Run (Option Body) := do
  return (← store).content? v

/-- Replaces the content of an object, or that of the one it shows. -/
def setContent (v : Value) (b : Body) : Run Unit :=
  modifyStore (·.setContent v b)

/-- The kind of a value. -/
def kindOf (v : Value) : Run Kind := do
  return (← store).kindOf v

/-- The full name of a kind. -/
def typeName (k : Kind) : Run String := do
  return (← store).typeName k

/-- The full name of a value's kind. -/
def typeNameOf (v : Value) : Run String := do
  let s ← store
  return s.typeName (s.kindOf v)

/-- A result that may be refused for a reason of the engine's own. -/
def ofReason {α : Type} : Except Reason α → Run α
  | .ok a => pure a
  | .error r => refuse r

/-- A result that may fail. -/
def orFail {α : Type} : Except Fault α → Run α
  | .ok a => pure a
  | .error f => fail f

end Run

/-- The arguments of a call. -/
structure Args where
  positional : List Value := []
  named : List (String × Value) := []
deriving Inhabited

/-- Whether there are no arguments. -/
def Args.isEmpty (args : Args) : Bool := args.positional.isEmpty && args.named.isEmpty

/-- Calling a value with arguments. -/
abbrev Call := Value → Args → Run Value

/-! ### Beyond operations -/

/-- What a session does to its world. Unlike an operation it may see and change what resolvers
    remember, and what was traced. -/
abbrev Act := ExceptT Fault (StateM World)

instance : MonadLift Run Act := ⟨Run.run⟩

namespace Act

/-- The outcome of what is done, which itself does not fail. -/
def outcome {α : Type} (x : Act α) : Act (Except Fault α) := fun w =>
  match x w with
  | (r, w) => (.ok r, w)

end Act

end ScriptBridge
