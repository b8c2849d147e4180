import ScriptBridge.Config
import ScriptBridge.Resolver

namespace ScriptBridge

/-!
# The world of a session

Everything an operation can read and change.

* `World` is the store, the two services with their resolvers, the session's variables and the
  trace;
* `World.lookup` is the answer of a service's resolver to an inquiry;
* `World.Forgetful` relates a world to those in which a service remembers nothing.
-/

/-- The categories under which functions are registered for values. -/
inductive Category where
  | struct | array | string | numeric | boolean | any
deriving DecidableEq, Repr

namespace Category

/-- The name of a category. -/
def name : Category → String
  | struct => "struct"
  | array => "array"
  | string => "string"
  | numeric => "numeric"
  | boolean => "boolean"
  | any => "any"

/-- All categories. -/
def all : List Category := [struct, array, string, numeric, boolean, any]

/-- The category of a name. -/
def ofName? (s : String) : Option Category := all.find? (·.name == s)

end Category

/-- What a registered function is found by: a category and a name, compared by its folded form. -/
structure RegistryKey where
  category : Category
  name : Key
deriving DecidableEq, Repr

instance : Keyed RegistryKey (Category × String) := ⟨fun k => (k.category, k.name.folded)⟩

/-- A function registered under a name for a category of values. -/
structure MemberFunction where
  name : Key
  category : Category
  function : Value
deriving DecidableEq, Repr

/-- The registered functions, in the order in which their names were first registered. -/
abbrev Registry := OrderedMap RegistryKey MemberFunction

/-- How a service describes the type of a value. -/
inductive MetadataStyle where
  /-- By an object with the names of the type. -/
  | card
  /-- By a pair of a word and the short name of the type. -/
  | pair
deriving DecidableEq, Repr

/-- A service: what it is configured to, and what it knows. Its resolver is kept apart. -/
structure Service where
  config : Config := {}
  registry : Registry := {}
  style : MetadataStyle := .card
  /-- The descriptions given out so far for values that can be tracked. -/
  described : List (Value × Value) := []
  /-- The scope that stands in where none is given. -/
  root : Nat := 0

/-- The state of a session. -/
structure World where
  store : Store := {}
  main : Service := {}
  fallback : Service := {}
  /-- What the main service remembers. -/
  mainResolver : Resolver := {}
  /-- What the other service remembers. -/
  fallbackResolver : Resolver := {}
  bindings : OrderedMap String Value := {}
  /-- The lines traced by the current operation, latest first. -/
  trace : List String := []
  /-- Whether tracing is on for all services. -/
  traceAll : Bool := false

namespace World

/-! ### Services and their resolvers -/

/-- A service. -/
def service (w : World) : ServiceId → Service
  | .main => w.main
  | .fallback => w.fallback

/-- Changes a service. -/
def modifyService (w : World) (svc : ServiceId) (f : Service → Service) : World :=
  match svc with
  | .main => { w with main := f w.main }
  | .fallback => { w with fallback := f w.fallback }

/-- The resolver of a service. -/
def resolver (w : World) : ServiceId → Resolver
  | .main => w.mainResolver
  | .fallback => w.fallbackResolver

/-- Gives a service another resolver. -/
def withResolver (w : World) (svc : ServiceId) (r : Resolver) : World :=
  match svc with
  | .main => { w with mainResolver := r }
  | .fallback => { w with fallbackResolver := r }

/-- Replaces the trace. -/
def withTrace (w : World) (lines : List String) : World := { w with trace := lines }

/-- Whether a service is traced. -/
def isTraced (w : World) (svc : ServiceId) : Bool := (w.service svc).config.debug || w.traceAll

/-- Traces lines for a service that is to be traced. -/
def report (w : World) (svc : ServiceId) (lines : Unit → List (List String)) : World :=
  if w.isTraced svc then
    w.withTrace ((lines ()).foldl (fun t parts => " ".intercalate ("[DBG]" :: parts) :: t) w.trace)
  else w

/-- How many names a service lists at most. -/
def listingLimit (w : World) (svc : ServiceId) : Int := (w.service svc).config.listingLimit

@[simp] theorem store_withResolver (w : World) (svc : ServiceId) (r : Resolver) :
    (w.withResolver svc r).store = w.store := by
  cases svc <;> rfl

@[simp] theorem service_withResolver (w : World) (svc id : ServiceId) (r : Resolver) :
    (w.withResolver svc r).service id = w.service id := by
  cases svc <;> cases id <;> rfl

@[simp] theorem resolver_withResolver (w : World) (svc : ServiceId) (r : Resolver) :
    (w.withResolver svc r).resolver svc = r := by
  cases svc <;> rfl

theorem resolver_withResolver_of_ne (w : World) {svc id : ServiceId} (h : id ≠ svc)
    (r : Resolver) : (w.withResolver svc r).resolver id = w.resolver id := by
  cases svc with
  | main => cases id with
    | main => exact absurd rfl h
    | fallback => rfl
  | fallback => cases id with
    | main => rfl
    | fallback => exact absurd rfl h

@[simp] theorem withResolver_withResolver (w : World) (svc : ServiceId) (r r' : Resolver) :
    (w.withResolver svc r).withResolver svc r' = w.withResolver svc r' := by
  cases svc <;> rfl

theorem withResolver_comm (w : World) {svc id : ServiceId} (h : id ≠ svc) (r r' : Resolver) :
    (w.withResolver svc r).withResolver id r' = (w.withResolver id r').withResolver svc r := by
  cases svc with
  | main => cases id with
    | main => exact absurd rfl h
    | fallback => rfl
  | fallback => cases id with
    | main => rfl
    | fallback => exact absurd rfl h

/-- Tracing changes the trace only. -/
theorem exists_report_eq (w : World) (svc : ServiceId) (lines : Unit → List (List String)) :
    ∃ t, w.report svc lines = w.withTrace t := by
  unfold report
  split
  · exact ⟨_, rfl⟩
  · exact ⟨w.trace, rfl⟩

@[simp] theorem store_withTrace (w : World) (lines : List String) :
    (w.withTrace lines).store = w.store := rfl

@[simp] theorem service_withTrace (w : World) (lines : List String) (svc : ServiceId) :
    (w.withTrace lines).service svc = w.service svc := by
  cases svc <;> rfl

@[simp] theorem resolver_withTrace (w : World) (lines : List String) (svc : ServiceId) :
    (w.withTrace lines).resolver svc = w.resolver svc := by
  cases svc <;> rfl

@[simp] theorem withTrace_withTrace (w : World) (a b : List String) :
    (w.withTrace a).withTrace b = w.withTrace b := rfl

@[simp] theorem withResolver_withTrace (w : World) (lines : List String) (svc : ServiceId)
    (r : Resolver) :
    (w.withTrace lines).withResolver svc r = (w.withResolver svc r).withTrace lines := by
  cases svc <;> rfl

/-- Whatever is traced, and whatever was traced before, only the trace differs. -/
theorem exists_report_withTrace_eq (w : World) (t : List String) (svc : ServiceId)
    (lines lines' : Unit → List (List String)) :
    ∃ t', (w.withTrace t).report svc lines = (w.report svc lines').withTrace t' := by
  obtain ⟨a, ha⟩ := (w.withTrace t).exists_report_eq svc lines
  obtain ⟨b, hb⟩ := w.exists_report_eq svc lines'
  exact ⟨a, by rw [ha, hb, withTrace_withTrace, withTrace_withTrace]⟩

@[simp] theorem listingLimit_withResolver (w : World) (svc id : ServiceId) (r : Resolver) :
    (w.withResolver svc r).listingLimit id = w.listingLimit id := by
  simp [listingLimit]

@[simp] theorem listingLimit_withTrace (w : World) (lines : List String) (svc : ServiceId) :
    (w.withTrace lines).listingLimit svc = w.listingLimit svc := by
  simp [listingLimit]

/-! ### Lookups -/

/-- What a search of the classes answers to an inquiry of a service. -/
def search (w : World) (svc : ServiceId) (q : Inquiry) : Except Fault Finding :=
  q.search w.store (w.listingLimit svc)

/-- The answer of a service's resolver to an inquiry, and the resolver afterwards. -/
def lookup (w : World) (svc : ServiceId) (q : Inquiry) :
    Except Fault (Finding × Resolver.Source) × Resolver :=
  (w.resolver svc).lookup q.key fun _ => w.search svc q

@[simp] theorem search_withResolver (w : World) (svc id : ServiceId) (r : Resolver) (q : Inquiry) :
    (w.withResolver svc r).search id q = w.search id q := by
  simp [search]

@[simp] theorem search_withTrace (w : World) (lines : List String) (svc : ServiceId)
    (q : Inquiry) : (w.withTrace lines).search svc q = w.search svc q := by
  simp [search]

@[simp] theorem lookup_withTrace (w : World) (lines : List String) (svc : ServiceId)
    (q : Inquiry) : (w.withTrace lines).lookup svc q = w.lookup svc q := by
  simp [lookup]

/-- What one service remembers is nothing to another. -/
theorem lookup_withResolver_of_ne (w : World) {svc id : ServiceId} (h : id ≠ svc) (r : Resolver)
    (q : Inquiry) : (w.withResolver svc r).lookup id q = w.lookup id q := by
  simp [lookup, resolver_withResolver_of_ne w h]

/-- A resolver that is switched off answers by a search. -/
theorem lookup_withResolver_of_off (w : World) (svc : ServiceId) {r : Resolver}
    (h : r.enabled = false) (q : Inquiry) :
    (w.withResolver svc r).lookup svc q =
      ((w.search svc q).map (·, .searched), { r with discoveries := r.discoveries + 1 }) := by
  rw [lookup, resolver_withResolver, Resolver.lookup_of_disabled h, search_withResolver]

/-! ### Worlds in which a service remembers nothing -/

/-- Whether a world is like another, except that the resolver of a service is switched off, and that
    the trace may differ. -/
def Forgetful (svc : ServiceId) (w w' : World) : Prop :=
  ∃ r lines, r.enabled = false ∧ w' = (w.withResolver svc r).withTrace lines

namespace Forgetful

variable {svc : ServiceId} {w w' : World}

/-- Whatever is traced. -/
theorem withTrace (h : w.Forgetful svc w') (t t' : List String) :
    (w.withTrace t).Forgetful svc (w'.withTrace t') := by
  obtain ⟨r, lines, hr, rfl⟩ := h
  exact ⟨r, t', hr, by simp⟩

theorem report (h : w.Forgetful svc w') (id : ServiceId) (l l' : Unit → List (List String)) :
    (w.report id l).Forgetful svc (w'.report id l') := by
  obtain ⟨t, ht⟩ := w.exists_report_eq id l
  obtain ⟨t', ht'⟩ := w'.exists_report_eq id l'
  rw [ht, ht']
  exact h.withTrace t t'

/-- Whatever the service remembers. -/
theorem withResolver (h : w.Forgetful svc w') {r r' : Resolver} (hr' : r'.enabled = false) :
    (w.withResolver svc r).Forgetful svc (w'.withResolver svc r') := by
  obtain ⟨_, lines, -, rfl⟩ := h
  exact ⟨r', lines, hr', by simp⟩

/-- As long as the other service remembers the same. -/
theorem withResolver_of_ne (h : w.Forgetful svc w') {id : ServiceId} (hid : id ≠ svc)
    (r : Resolver) : (w.withResolver id r).Forgetful svc (w'.withResolver id r) := by
  obtain ⟨r', lines, hr', rfl⟩ := h
  exact ⟨r', lines, hr', by simp [withResolver_comm w hid]⟩

/-- The service that remembers nothing searches. -/
theorem lookup (h : w.Forgetful svc w') (q : Inquiry) :
    (w'.lookup svc q).1 = (w.search svc q).map (·, .searched) ∧
      (w'.lookup svc q).2.enabled = false := by
  obtain ⟨r, lines, hr, rfl⟩ := h
  rw [lookup_withTrace, lookup_withResolver_of_off w svc hr]
  exact ⟨rfl, hr⟩

/-- The other service answers from the same memory. -/
theorem lookup_of_ne (h : w.Forgetful svc w') {id : ServiceId} (hid : id ≠ svc) (q : Inquiry) :
    w'.lookup id q = w.lookup id q := by
  obtain ⟨r, lines, -, rfl⟩ := h
  rw [lookup_withTrace, lookup_withResolver_of_ne w hid]

end Forgetful

end World

end ScriptBridge
