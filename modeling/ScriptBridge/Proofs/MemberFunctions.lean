import ScriptBridge.Proofs.NearestScope
import ScriptBridge.Proofs.Received
import ScriptBridge.Proofs.ScopedCall
import ScriptBridge.Session.Access

namespace ScriptBridge

/-!
# Registered functions come first

A function may be registered under a name for a category of values. Whatever a value holds under
that name itself, a call by the name comes to the function, with the value as the first argument.

* `latest?` is the function that was registered last for a category, `Enrolled` relates a moment to
  the registrations before it;
* `Registry.find?_eq_latest?`: the registry gives the latest function for the value's category, and
  else the latest for all values;
* `Store.serviceOn` is the service in charge of a scope, told by the way to its root;
* `ScopedCall.ComesTo` is what a call of a registered function comes to;
* `World.Receives` tells that a request looks for a registered function first, and
  `Service.registered_comes_first` what a call by name comes to.
-/

/-! ### Registrations -/

/-- The function that was registered last under a name for a category. -/
def latest? (ms : List MemberFunction) (c : Category) (name : Key) : Option MemberFunction :=
  ms.reverse.find? fun m => m.category = c ∧ m.name.folded = name.folded

/-- A registration that is added hides those for the same sort of target and the same name. -/
theorem latest?_concat (ms : List MemberFunction) (m : MemberFunction) (c : Category) (name : Key) :
    latest? (ms ++ [m]) c name =
      if m.category = c ∧ m.name.folded = name.folded then some m else latest? ms c name := by
  simp only [latest?, find?_reverse_concat, decide_eq_true_eq]

namespace Registry

/-- The registry after some registrations. -/
def after (ms : List MemberFunction) : Registry := ms.foldl register {}

/-- Each entry is the latest for its category and name. -/
theorem get?_after (ms : List MemberFunction) (c : Category) (name : Key) :
    (after ms).get? ⟨c, name⟩ = latest? ms c name := by
  induction ms using List.reverseRecOn with
  | nil => rfl
  | append_singleton ms m ih =>
    rw [latest?_concat, after, List.foldl_concat, register]
    by_cases hm : m.category = c ∧ m.name.folded = name.folded
    · rw [if_pos hm]
      obtain ⟨rfl, hname⟩ := hm
      have hform : Keyed.form (⟨m.category, name⟩ : RegistryKey) =
          Keyed.form (⟨m.category, m.name⟩ : RegistryKey) := by
        exact congrArg (Prod.mk m.category) hname.symm
      rw [OrderedMap.get?, hform]
      exact OrderedMap.get?_insert_self _ _ m
    · rw [if_neg hm, ← ih]
      refine OrderedMap.get?_insert_of_ne _ (fun hform => hm ?_) m
      exact Prod.mk.inj hform

/-- A value's own category comes before all values. -/
theorem find?_eq_latest? (ms : List MemberFunction) (c : Category) (name : Key) :
    find? (after ms) c name = (latest? ms c name <|> latest? ms .any name) := by
  rw [find?, get?_after, get?_after]

end Registry

/-- Whether some functions were registered with the main service, in this order, up to a moment. A
    function is registered after whatever happens while the key of its name is made, and between
    registrations anything may happen that leaves the registry alone. -/
inductive Enrolled : List MemberFunction → World → Prop where
  | start {w : World} (hempty : (w.service .main).registry = {}) : Enrolled [] w
  | registered {ms : List MemberFunction} {w u w' : World} {name function : Value}
    {category : String} {k : Key} {c : Category} {r : Except Fault MemberFunction}
    (hkey : Host.keyOf Session.call name w = (.ok k, u)) (h : Enrolled ms u)
    (hcategory : Category.ofName? category = some c)
    (hrun : Session.register name category function w = (r, w')) :
    Enrolled (ms ++ [⟨k, c, function⟩]) w'
  | aside {ms : List MemberFunction} {w w' : World} (h : Enrolled ms w)
    (hsame : (w'.service .main).registry = (w.service .main).registry) : Enrolled ms w'

/-- A registration adds a function to the registry, and that is all. -/
theorem Session.register_eq {w u : World} {name function : Value} {category : String} {k : Key}
    {c : Category} (hkey : Host.keyOf Session.call name w = (.ok k, u))
    (hcategory : Category.ofName? category = some c) :
    Session.register name category function w = (.ok ⟨k, c, function⟩,
      u.modifyService .main fun x =>
        { x with registry := Registry.register x.registry ⟨k, c, function⟩ }) := by
  rw [Session.register, Run.bind_of_ok hkey]
  have hnamed : categoryNamed category u = (.ok c, u) := by
    rw [categoryNamed, hcategory]
    rfl
  rw [Run.bind_of_ok hnamed]
  rfl

/-- The registry is what the registrations make of an empty one. -/
theorem Enrolled.registry_eq {ms : List MemberFunction} {w : World} (h : Enrolled ms w) :
    (w.service .main).registry = Registry.after ms := by
  -- What goes on besides the registrations leaves the registry, which carries the induction.
  induction h with
  | start hempty => exact hempty
  | registered hkey _ hcategory hrun ih =>
    rw [Session.register_eq hkey hcategory] at hrun
    cases hrun
    rw [Registry.after, List.foldl_concat]
    exact congrArg (Registry.register · _) ih
  | aside _ hsame ih => exact hsame.trans ih

/-! ### The service in charge of a scope -/

/-- The service in charge of a scope: the first that a scope on the way to its root owns. -/
def Store.serviceOn (s : Store) (way : List Nat) : Option ServiceId :=
  way.findSome? fun j => s.scopes[j]?.bind (·.service)

namespace Host

open Run

variable {w : World} {i : Nat} {way : List Nat}

/-- A scope gives its own service, and else that of its parent. -/
theorem serviceFrom_succ (call : Call) {c : Scope} (hc : w.store.scopes[i]? = some c) (fuel : Nat) :
    serviceFrom call (fuel + 1) (.scope i) w =
      match c.service with
      | some svc => (.ok (.service svc), w)
      | none => serviceFrom call fuel c.parent w := by
  rw [serviceFrom, bind_of_ok (store_apply w), hc]
  dsimp only
  cases c.service <;> rfl

/-- The scopes on the way are asked one after the other. -/
theorem serviceFrom_eq (call : Call) (hway : w.store.Way i way) {fuel : Nat}
    (hfuel : way.length ≤ fuel) : serviceFrom call fuel (.scope i) w =
      (.ok ((w.store.serviceOn way).elim .none .service), w) := by
  -- The induction is on the way to the root, with one step of fuel for each scope on it.
  induction hway generalizing fuel with
  | @root i c hc hparent =>
    obtain ⟨fuel, rfl⟩ := Nat.exists_eq_add_of_le' (show 1 ≤ fuel from hfuel)
    rw [serviceFrom_succ call hc, Store.serviceOn, List.findSome?_cons, hc, Option.bind_some,
      hparent]
    cases c.service with
    | some svc => rfl
    | none => cases fuel <;> rfl
  | @inner i j c way hc hparent _ ih =>
    obtain ⟨fuel, rfl⟩ := Nat.exists_eq_add_of_le' (Nat.one_le_of_lt hfuel)
    rw [serviceFrom_succ call hc, Store.serviceOn, List.findSome?_cons, hc, Option.bind_some,
      hparent]
    cases c.service with
    | some svc => rfl
    | none => exact ih (Nat.le_of_succ_le_succ hfuel)

/-- The service of a scope is the one that is found on the way out from it. -/
theorem serviceOfScope_eq (call : Call) (hway : w.store.Way i way) :
    serviceOfScope call i w = (.ok ((w.store.serviceOn way).elim .none .service), w) := by
  have hlimit : way.length ≤ scopeLimit w.store := by
    have := hway.length_le
    unfold scopeLimit
    omega
  rw [serviceOfScope, bind_of_ok (store_apply w)]
  exact serviceFrom_eq call hway hlimit

/-- In a scope that a service is in charge of, the functions that it registered are found. -/
theorem scopedFunction?_eq (call : Call) {svc : ServiceId} (hway : w.store.Way i way)
    (hservice : w.store.serviceOn way = some svc) (name : Key) (v : Value) :
    scopedFunction? call (.scope i) name v w =
      (.ok ((Registry.find? (w.service svc).registry (w.store.category v) name).map .registered),
        w) := by
  have hregistry : registryFor call (.scope i) w = (.ok (.service svc), w) := by
    have hcharge := serviceOfScope_eq call hway
    rw [hservice] at hcharge
    exact bind_of_ok hcharge
  rw [scopedFunction?, bind_of_ok hregistry]
  rfl

end Host

/-! ### What a call comes to -/

/-- What a call comes to. The callable is asked whether the scope is to be passed, the arguments are
    taken, and it is called with the values before them first. Either of the first two may fail, and
    nothing else comes before the call. -/
inductive ScopedCall.ComesTo (call : Call) (c : ScopedCall) (w : World) :
    Except Fault Value × World → Prop where
  | unasked {e : Fault} {u : World}
    (hask : (Host.acceptsScope call c.function >>= Host.truth call) w = (.error e, u)) :
    ComesTo call c w (.error e, u)
  | untaken {passes : Bool} {e : Fault} {u v : World}
    (hask : (Host.acceptsScope call c.function >>= Host.truth call) w = (.ok passes, u))
    (hgiven : c.given call u = (.error e, v)) : ComesTo call c w (.error e, v)
  | called {passes : Bool} {g : Given} {u v : World}
    (hask : (Host.acceptsScope call c.function >>= Host.truth call) w = (.ok passes, u))
    (hgiven : c.given call u = (.ok g, v)) (hfirst : c.before <+: g.positional) :
    ComesTo call c w (call c.function (g.toArgs c.scope passes) v)

/-- Whether a value is a list or a tuple of some items. -/
structure Store.ListsItems (s : Store) (v : Value) (xs : List Value) : Prop where
  kind : s.kindOf v = .library .list ∨ s.kindOf v = .library .tuple
  body : s.body? v = some (.list xs) ∨ s.body? v = some (.tuple xs)

/-- The items of a list or a tuple are walked through. -/
theorem Store.ListsItems.itemsOf_eq {w : World} {v : Value} {xs : List Value} (call : Call)
    (h : w.store.ListsItems v xs) : Host.itemsOf call v w = (.ok xs, w) := by
  obtain ⟨b, hcontent, hitems⟩ :
      ∃ b, Host.requireContent v w = (.ok b, w) ∧ b.elements? = some xs := by
    obtain hb | hb := h.body
    · exact ⟨_, Host.requireContent_of_body? hb trivial, rfl⟩
    · exact ⟨_, Host.requireContent_of_body? hb trivial, rfl⟩
  obtain hk | hk := h.kind
  · exact Host.itemsOf_of_elements .list hk (by decide) (by decide) hcontent hitems
  · exact Host.itemsOf_of_elements .tuple hk (by decide) (by decide) hcontent hitems

/-- What lists its elements is no mapping. -/
theorem Store.ListsItems.isInstance_mapping {s : Store} {v : Value} {xs : List Value}
    (h : s.ListsItems v xs) : s.isInstance v .mapping = false := by
  rw [Store.isInstance]
  obtain hk | hk := h.kind <;> rw [hk] <;> rfl

namespace ScopedCall

open Run Host

variable {call : Call} {c : ScopedCall} {w u : World}

/-- What is given begins with the values before the arguments. -/
theorem before_prefix_of_given {g : Given} (h : c.given call w = (.ok g, u)) :
    c.before <+: g.positional := by
  rw [given, bind_of_ok (store_apply w)] at h
  split at h
  · obtain ⟨pairs, w₁, -, h⟩ := bind_eq_ok_iff.1 h
    obtain ⟨named, w₂, -, h⟩ := bind_eq_ok_iff.1 h
    cases h
    exact List.prefix_rfl
  · obtain ⟨items, w₁, -, h⟩ := bind_eq_ok_iff.1 h
    cases h
    exact List.prefix_append ..

/-- A call is made as soon as the callable has answered and the arguments are taken. -/
theorem comesTo_run (call : Call) (c : ScopedCall) (w : World) :
    c.ComesTo call w (c.run call w) := by
  rw [run_eq]
  rcases hask : (acceptsScope call c.function >>= truth call) w with ⟨e | passes, u⟩
  · rw [bind_of_error hask]
    exact .unasked hask
  · rw [bind_of_ok hask, passing]
    rcases hgiven : c.given call u with ⟨e | g, v⟩
    · rw [bind_of_error hgiven]
      exact .untaken hask hgiven
    · rw [bind_of_ok hgiven]
      exact .called hask hgiven (before_prefix_of_given hgiven)

/-- A callable that is asked plainly is called with the items of a list or a tuple, after the values
    before them. -/
theorem run_of_lists {xs : List Value} (h : w.store.AsksPlainly c.function)
    (hargs : w.store.ListsItems c.args xs) :
    c.run call w = call c.function
      (Given.toArgs ⟨c.before ++ xs, []⟩ c.scope (w.store.answer c.function)) (c.asked w) := by
  -- To remember the answer changes marks alone, so the arguments are still the list they were.
  have hargs' : (c.asked w).store.ListsItems c.args xs := by
    rw [asked, Store.afterAsking]
    cases w.store.seenMark c.function with
    | some _ => exact hargs
    | none =>
      have hkeep := w.store.alikeButMarks_keepMark c.function (w.store.asksScope c.function)
      exact ⟨by rw [hkeep.kindOf]; exact hargs.kind, by rw [hkeep.body]; exact hargs.body⟩
  have hgiven : c.given call (c.asked w) = (.ok ⟨c.before ++ xs, []⟩, c.asked w) := by
    rw [given, bind_of_ok (store_apply _), hargs'.isInstance_mapping]
    exact bind_of_ok (hargs'.itemsOf_eq call)
  rw [run_of_asksPlainly h, passing, bind_of_ok hgiven]

end ScopedCall

/-! ### Requests that come to a registered function -/

/-- Whether a request to call a member of a value looks for a registered function before anything
    else: a value that does not answer for itself does so, and so does a struct or an array that is
    called as the library does, in a scope that the service is in charge of. -/
inductive World.Receives (w : World) (svc : ServiceId) (v scope : Value) : Prop where
  | own {l : LibraryKind} {i : Nat} {way : List Nat} (hl : l = .struct ∨ l = .array)
    (hsort : w.store.classify v = .referenceable)
    (hmethod : w.store.libraryMethod? v "dereference_and_invoke" = some l)
    (hsettled : Service.settledScope w svc scope = .scope i) (hway : w.store.Way i way)
    (hservice : w.store.serviceOn way = some svc) : Receives w svc v scope
  | host (hsome : v ≠ .none) (hsort : w.store.classify v ≠ .referenceable) : Receives w svc v scope

namespace Service

open Run Host

variable {call : Call} {svc : ServiceId} {w u : World} {v scope : Value} {key : Key}
  {m : MemberFunction}

/-- A request to call a name for which a function is registered calls that function. -/
theorem request_registered (call : Call) (args : Value) (safe : Bool) (hscope : scope.IsScope)
    (hv : u.Receives svc v scope)
    (htarget : u.store.asTarget v = ⟨u.store.kindOf v, v⟩)
    (hfound : Registry.find? (u.service svc).registry (u.store.category v) key = some m) :
    ∃ lines, request call (.call args safe) svc (u.store.asTarget v) key scope u =
      ScopedCall.run call ⟨m.function, [v], settledScope u svc scope, args⟩
        (u.withTrace lines) := by
  cases hv with
  | @own l i way hl hsort hmethod hsettled hway hservice =>
    -- A target that answers for itself looks the function up through its scope.
    have hwrapper : l ≠ .wrapper := by
      obtain rfl | rfl := hl <;> decide
    obtain ⟨lines, hrequest⟩ := request_settled call svc (.call args safe) key hscope htarget
      hsort hmethod hwrapper
    have hscoped : scopedFunction? call (settledScope u svc scope) key v (u.withTrace lines) =
        (.ok (some (.registered m)), u.withTrace lines) := by
      have hfunction := scopedFunction?_eq call (w := u.withTrace lines) hway hservice key v
      rw [World.service_withTrace, World.store_withTrace, hfound] at hfunction
      rw [hsettled]
      exact hfunction
    refine ⟨lines, hrequest.trans ?_⟩
    obtain rfl | rfl := hl
    · exact bind_of_ok hscoped
    · exact bind_of_ok hscoped
  | host hsome hsort =>
    obtain ⟨lines, hrequest⟩ := request_sorted call svc (.call args safe) key hscope hsome htarget
      hsort
    -- Any other is served by the service, which looks it up itself.
    have hregistered : registeredFor? svc ⟨u.store.kindOf v, v⟩ key (u.withTrace lines) =
        (.ok (some m), u.withTrace lines) := by
      have hinst : (⟨u.store.kindOf v, v⟩ : Target).hasInstance := by
        simp [Target.hasInstance, hsome]
      rw [registeredFor?_withTrace, registeredFor?, if_pos hinst]
      show (Except.ok (Registry.find? (u.service svc).registry (u.store.category v) key), _) = _
      rw [hfound]
    exact ⟨lines, hrequest.trans (bind_of_ok hregistered)⟩

/-- **Registered functions come first.** Whatever was registered before, the function that is found
    for a value by a name is the one that was registered last for the category of the value under a
    name that is the same but for case, else the one that was registered last for all values. A call
    by the name comes to it with the value as its first argument, whatever the value holds
    itself. -/
theorem registered_comes_first {ms : List MemberFunction} {name : Value}
    (hkey : keyOf call name w = (.ok key, u)) (henrolled : Enrolled ms u) :
    let found := latest? ms (u.store.category v) key <|> latest? ms .any key
    (keyOf call name >>= fun k => memberFunction? .main k v) w = (.ok found, u) ∧
      ∀ m ∈ found, ∀ scope, scope.IsScope → u.Receives .main v scope →
        u.store.asTarget v = ⟨u.store.kindOf v, v⟩ → ∀ args safe, ∃ lines,
          let c : ScopedCall := ⟨m.function, [v], settledScope u .main scope, args⟩
          let result := dereferenceAndInvoke call .main v name args safe scope w
          c.ComesTo call (u.withTrace lines) result ∧
            ∀ xs, u.store.AsksPlainly m.function → u.store.ListsItems args xs →
              result = call m.function
                (Given.toArgs ⟨v :: xs, []⟩ c.scope (u.store.answer m.function))
                (c.asked (u.withTrace lines)) := by
  intro found
  -- The registry is a map, and what was registered last for a key is what it holds.
  have hfound : Registry.find? (u.service .main).registry (u.store.category v) key = found := by
    rw [henrolled.registry_eq, Registry.find?_eq_latest?]
  refine ⟨?_, fun m hm scope hscope hv htarget args safe => ?_⟩
  · rw [bind_of_ok hkey, ← hfound]
    rfl
  · obtain ⟨lines, hrequest⟩ := request_registered call args safe hscope hv htarget
      (hfound.trans hm)
    have hresult : dereferenceAndInvoke call .main v name args safe scope w =
        ScopedCall.run call ⟨m.function, [v], settledScope u .main scope, args⟩
          (u.withTrace lines) :=
      (bind_of_ok hkey).trans hrequest
    refine ⟨lines, ?_⟩
    rw [hresult]
    exact ⟨ScopedCall.comesTo_run .., fun xs hplain hargs => ScopedCall.run_of_lists hplain hargs⟩

end Service

/-! ### A struct that holds a function of its own -/

/-- A struct in whose entry `total` a function is kept, functions to be registered, what stands for
    a class, and an empty struct of a class that is called in its own way. The inner scope belongs
    to another service. -/
def bureau : World where
  store :=
    let function (name : String) (params : List String) (body : Expr) : Object :=
      { kind := .library .function,
        body := .function
          ⟨name, params.map fun p => ⟨p, .normal, none, none⟩, body, true, {}⟩ }
    { objects := #[
        { kind := .library .struct, body := .struct {} none },
        { kind := .library .struct, body := .struct (.ofList [(.ofText "total", .object 2)]) none },
        function "own" [] (.literal (.int 1)),
        function "first" ["value"] (.literal (.int 2)),
        function "second" ["value"] (.param "value"),
        { kind := .library .tuple, body := .tuple [] },
        { kind := .library .targetRef, body := .target (.declared 0) .none },
        function "dereference_and_invoke" ["self", "context", "key", "args", "safe"]
          (.literal (.int 3)),
        { kind := .declared 1, body := .struct {} none }]
      classes := #[
        { name := "Clerk", qualifiedName := "Clerk", home := some "host",
          bases := [.library .object],
          lineage := [.declared 0, .library .object], metaclass := .type },
        { name := "Ledger", qualifiedName := "Ledger", home := some "host",
          bases := [.library .struct],
          lineage := .declared 1 :: LibraryKind.struct.lineage.map .library, metaclass := .abcType,
          attrs := ⟨[("dereference_and_invoke", .object 7)]⟩ }]
      scopes := #[
        { parent := .none, bindings := .object 0, service := some .main, owner := none },
        { parent := .scope 0, bindings := .object 0, service := some .fallback, owner := none }] }

/-- The functions that are registered, one after the other. -/
def clerks : List MemberFunction :=
  [⟨.ofText "Total", .struct, .object 3⟩, ⟨.ofText "TOTAL", .struct, .object 4⟩]

/-- The world after the functions were registered. -/
def staffed : World :=
  let w := (Session.register (.text "Total") "struct" (.object 3) bureau).2
  (Session.register (.text "TOTAL") "struct" (.object 4) w).2

theorem enrolled_staffed : Enrolled clerks staffed := by
  have hkey (name : String) (u : World) :
      Host.keyOf Session.call (.text name) u = (.ok (.ofText name), u) := rfl
  have hstruct : Category.ofName? "struct" = some .struct := by decide
  have hfirst : Enrolled (clerks.take 1) _ :=
    .registered (hkey "Total" bureau) (.start rfl) hstruct
      (Session.register_eq (hkey "Total" bureau) hstruct)
  exact .registered (hkey "TOTAL" _) hfirst hstruct (Session.register_eq (hkey "TOTAL" _) hstruct)

/-- The function that was registered last, in another spelling, is called with the struct. -/
theorem registered_comes_first_staffed :
    (Service.dereferenceAndInvoke Host.callValue .main (.object 1) (.text "total") (.object 5) false
      .none staffed).1 = .ok (.object 1) := by
  have hkey :
      Host.keyOf Host.callValue (.text "total") staffed = (.ok (.ofText "total"), staffed) :=
    rfl
  have hstore : staffed.store = bureau.store := rfl
  have hreceives : staffed.Receives .main (.object 1) .none := by
    have hsort : bureau.store.classify (.object 1) = .referenceable := by decide +kernel
    have hmethod : bureau.store.libraryMethod? (.object 1) "dereference_and_invoke" =
        some .struct := by decide +kernel
    exact .own (.inl rfl) hsort hmethod (i := 0) rfl (.root rfl rfl) rfl
  have hplain : staffed.store.AsksPlainly (.object 4) := by
    have hmarks : ∀ p ∈ bureau.store.markLine (.object 4), bureau.store.markAt p = none := by
      decide +kernel
    rw [hstore]
    exact
      { noScope := fun i hi => by cases hi
        special := by decide +kernel
        marks := fun p hp m hm => by rw [hmarks p hp] at hm; cases hm }
  have hargs : staffed.store.ListsItems (.object 5) [] := ⟨.inr rfl, .inr rfl⟩
  have hlatest : (latest? clerks (staffed.store.category (.object 1)) (.ofText "total") <|>
      latest? clerks .any (.ofText "total")) = some ⟨.ofText "TOTAL", .struct, .object 4⟩ := by
    rw [hstore]
    decide +kernel
  obtain ⟨-, hcalls⟩ := Service.registered_comes_first (v := .object 1) hkey enrolled_staffed
  obtain ⟨lines, -, hcall⟩ := hcalls _ hlatest .none (.inl rfl) hreceives rfl (.object 5) false
  rw [hcall [] hplain hargs]
  let c : ScopedCall := ⟨.object 4, [.object 1], .scope 0, .object 5⟩
  let given : Args := Given.toArgs ⟨[.object 1], []⟩ (.scope 0) (staffed.store.answer (.object 4))
  have hcalled : (Host.callValue (.object 4) given (c.asked staffed)).1 = .ok (.object 1) := by
    decide +kernel
  -- What was traced on the way makes no difference to what the function gives.
  obtain ⟨lines', hblind⟩ := (Host.callValue (.object 4) given).blind (c.asked staffed) lines
  exact (congrArg Prod.fst hblind).trans hcalled

/-- The function that is found is not called with what stands for a class, nor with a struct of a
    class that is called in its own way, nor with a struct in a scope that belongs to another
    service. -/
theorem registered_passed_over_bureau :
    let w := (Session.register (.text "total") "any" (.object 3) bureau).2
    let m : MemberFunction := ⟨.ofText "total", .any, .object 3⟩
    let find (v : Value) := (Host.memberFunction? .main (.ofText "total") v w).1
    let given (v scope : Value) := (Host.invokeMember Host.callValue m scope v (.object 5) w).1
    let ask (v scope : Value) :=
      (Service.dereferenceAndInvoke Host.callValue .main v (.text "total")
      (.object 5) false scope w).1
    (find (.object 6) = .ok (some m) ∧ given (.object 6) (.scope 0) = .ok (.int 2) ∧
        ask (.object 6) (.scope 0) =
          .error (.engine (.noMethod "total" "host.Clerk" [] ⟨[], Listing.defaultLimit⟩))) ∧
      (find (.object 8) = .ok (some m) ∧ given (.object 8) (.scope 0) = .ok (.int 2) ∧
        ask (.object 8) (.scope 0) = .ok (.int 3)) ∧
      find (.object 1) = .ok (some m) ∧ given (.object 1) (.scope 1) = .ok (.int 2) ∧
        ask (.object 1) (.scope 1) = .ok (.int 1) := by
  decide +kernel

end ScriptBridge
