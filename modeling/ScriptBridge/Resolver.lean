import ScriptBridge.Cache
import ScriptBridge.Error
import ScriptBridge.Members
import ScriptBridge.Text.Quoted

namespace ScriptBridge

/-!
# The resolver

Finds the member, the constructor or the field that a name stands for on a kind. Members are
filtered by name, by the number of arguments and by the kinds of arguments, and the first that is
left is taken. Results are remembered by kind, folded name and kinds of arguments.

* `Store.discover?`, `Store.discoverConstructor?`, `Store.findField?` search the classes;
* `Inquiry` is any of the three lookups, `Inquiry.search` what the classes answer to it and
  `Inquiry.key` what the answer is remembered by;
* `Resolver.lookup` answers from the cache or by a search, and counts the searches.
-/

/-- A callable member that was found. -/
structure MethodRecord where
  name : String
  handle : Value
  owner : Kind
  isStatic : Bool
  arity : Int
deriving DecidableEq, Repr

/-- What a call of a member goes by. -/
structure Callee where
  name : String
  handle : Value
  isStatic : Bool
deriving DecidableEq, Repr

/-- What is called for a member that was found. -/
def MethodRecord.callee (r : MethodRecord) : Callee := ⟨r.name, r.handle, r.isStatic⟩

namespace Member

/-- The record of a member. -/
def record (m : Member) : MethodRecord :=
  { name := m.name, handle := m.handle, owner := m.owner, isStatic := m.isStatic, arity := m.arity }

end Member

/-- What a search finds. -/
inductive Finding where
  | method (r : MethodRecord)
  | field (f : Field)
deriving DecidableEq, Repr

namespace Finding

/-- The callable that was found, if it is one. -/
def method? : Finding → Option MethodRecord
  | .method r => some r
  | .field _ => none

/-- The field that was found, if it is one. -/
def field? : Finding → Option Field
  | .method _ => none
  | .field f => some f

end Finding

namespace Store

/-- Whether a member can be called with arguments of some kinds. -/
def applies (s : Store) (kinds : List Kind) (m : Member) : Bool :=
  m.acceptsArity kinds.length && m.params.all (s.acceptsKinds kinds)

/-- The first of some members that can be called with arguments of some kinds. -/
def select? (s : Store) (kinds : List Kind) (members : List Member) : Option Member :=
  members.find? (s.applies kinds)

/-- The names of kinds as messages list them. A text in the place of a kind is quoted. -/
def kindNames (s : Store) (kinds : List Kind) : List String :=
  kinds.map fun
    | .label t => Quoted.text t
    | k => s.qualifiedName k

/-- Searches a kind for a member of a name that takes arguments of some kinds. -/
def discover? (s : Store) (k : Kind) (name : Key) (kinds : List Kind) : Option Member :=
  s.select? kinds ((s.methods k).filter fun m => foldCase m.name == name.folded)

/-- The error for a member that does not exist. -/
def noMethod (s : Store) (limit : Int) (k : Kind) (name : Key) (kinds : List Kind) : Reason :=
  .noMethod name.name (s.typeName k) (s.kindNames kinds) ⟨s.methodNames k, limit⟩

/-- Searches a kind for its constructor. -/
def discoverConstructor? (s : Store) (k : Kind) (kinds : List Kind) : Option Member :=
  s.select? kinds (s.constructors k)

end Store

/-- What a finding is remembered by. A field has no kinds of arguments, not even none. -/
structure LookupKey where
  kind : Kind
  name : String
  kinds : Option (List Kind)
deriving DecidableEq, Repr

instance : Keyed LookupKey LookupKey := ⟨id⟩

/-- A question to a resolver: for the member of a name that takes arguments of some kinds, for the
    constructor that does, or for the declared field of a name. -/
inductive Inquiry where
  | method (kind : Kind) (name : Key) (kinds : List Kind)
  | constructor (kind : Kind) (kinds : List Kind)
  | field (kind : Kind) (name : Key)
deriving DecidableEq, Repr

namespace Inquiry

/-- What the answer to an inquiry is remembered by. A constructor goes by the name of a new
    instance. -/
def key : Inquiry → LookupKey
  | .method k name kinds => ⟨k, name.folded, some kinds⟩
  | .constructor k kinds => ⟨k, Key.newInstance.folded, some kinds⟩
  | .field k name => ⟨k, name.folded, none⟩

/-- What the classes hold for an inquiry. -/
def found? (s : Store) : Inquiry → Option Finding
  | .method k name kinds => (s.discover? k name kinds).map fun m => .method m.record
  | .constructor k kinds => (s.discoverConstructor? k kinds).map fun m => .method m.record
  | .field k name => (s.findField? k name).map .field

/-- The host's error that a search ends in, if it does. -/
def failure? (s : Store) : Inquiry → Option LibraryKind
  | .method k _ _ => s.methodsFailure? k
  | .constructor k _ => s.constructorFailure? k
  | .field .. => none

/-- The refusal of an inquiry for something that does not exist; `limit` is how many names it
    lists. -/
def missing (s : Store) (limit : Int) : Inquiry → Reason
  | .method k name kinds => s.noMethod limit k name kinds
  | .constructor k kinds => .noConstructor (s.typeName k) (s.kindNames kinds)
  | .field k name => .noField name.name (s.typeName k)

/-- What a search of the classes answers. -/
def search (s : Store) (limit : Int) (q : Inquiry) : Except Fault Finding :=
  -- All members are read before one is chosen, so a failure wins over a finding.
  match q.failure? s, q.found? s with
  | some e, _ => .error (.host e "")
  | none, some f => .ok f
  | none, none => .error (.engine (q.missing s limit))

end Inquiry

/-- The findings of a resolver, and how many searches it made. -/
structure Resolver where
  cache : Cache LookupKey Finding := {}
  discoveries : Nat := 0
  /-- Whether findings are remembered and recalled. -/
  enabled : Bool := true

namespace Resolver

/-- How a lookup was answered. -/
inductive Source where
  /-- By a search whose finding was not remembered. -/
  | searched
  /-- By a search whose finding was remembered. -/
  | created
  /-- From memory. -/
  | recalled
deriving DecidableEq, Repr

/-- Answers a lookup from memory, or by a search, which is counted. -/
def lookup (r : Resolver) (key : LookupKey) (search : Unit → Except Fault Finding) :
    Except Fault (Finding × Source) × Resolver :=
  let searched := { r with discoveries := r.discoveries + 1 }
  -- A resolver that is turned off keeps its findings, and still counts its searches.
  if !r.enabled then ((search ()).map (·, .searched), searched)
  else match r.cache.get? key with
    | some f => (.ok (f, .recalled), r)
    | none =>
      match search () with
      | .ok f => (.ok (f, .created), { searched with cache := r.cache.insert key f })
      -- What was not found is not remembered: it is searched for each time.
      | .error e => (.error e, searched)

/-- Forgets all findings. -/
def clear (r : Resolver) : Resolver := { r with cache := {} }

/-! ### How a lookup ends -/

variable {r : Resolver} {key : LookupKey} {search : Unit → Except Fault Finding}

theorem lookup_of_disabled (h : r.enabled = false) :
    r.lookup key search =
      ((search ()).map (·, .searched), { r with discoveries := r.discoveries + 1 }) := by
  simp [lookup, h]

theorem lookup_of_some {f : Finding} (hon : r.enabled = true) (h : r.cache.get? key = some f) :
    r.lookup key search = (.ok (f, .recalled), r) := by
  simp [lookup, hon, h]

theorem lookup_of_ok {f : Finding} (hon : r.enabled = true) (h : r.cache.get? key = none)
    (hs : search () = .ok f) :
    r.lookup key search =
      (.ok (f, .created),
        { r with discoveries := r.discoveries + 1, cache := r.cache.insert key f }) := by
  simp [lookup, hon, h, hs]

theorem lookup_of_error {e : Fault} (hon : r.enabled = true) (h : r.cache.get? key = none)
    (hs : search () = .error e) :
    r.lookup key search = (.error e, { r with discoveries := r.discoveries + 1 }) := by
  simp [lookup, hon, h, hs]

/-- What a lookup answers was remembered, or is what the search gives. -/
theorem get?_or_search_of_lookup {f : Finding} {source : Source}
    (h : (r.lookup key search).1 = .ok (f, source)) :
    r.enabled = true ∧ r.cache.get? key = some f ∨ search () = .ok f := by
  cases hon : r.enabled with
  | false =>
    rw [lookup_of_disabled hon] at h
    cases hs : search () with
    | error e =>
      rw [hs] at h
      cases h
    | ok g =>
      rw [hs] at h
      cases h
      exact .inr rfl
  | true =>
    cases hc : r.cache.get? key with
    | some g =>
      rw [lookup_of_some hon hc] at h
      cases h
      exact .inl ⟨rfl, rfl⟩
    | none =>
      cases hs : search () with
      | error e =>
        rw [lookup_of_error hon hc hs] at h
        cases h
      | ok g =>
        rw [lookup_of_ok hon hc hs] at h
        cases h
        exact .inr rfl

end Resolver

end ScriptBridge
