import ScriptBridge.Proofs.Covariance
import ScriptBridge.Proofs.Growth
import ScriptBridge.Proofs.Inquiry

namespace ScriptBridge

/-!
# Method names tell what can be called

The names of methods are listed without regard to arguments. Still every name that is listed can be
called with some, because each parameter of each member accepts something.

* `Hint.exists_mem_kinds`: every hint accepts some kind, and `Store.exists_passes`: something can be
  passed to every kind;
* `Signature.IsOpen` tells that each parameter accepts something, `Store.Holds.isOpen` that the
  signatures of all entries are so;
* `Store.exists_discover?_iff`: a name is found with some kinds of arguments exactly if it is
  listed;
* `Service.hasMethodNoCase_apply` is what the test for a name answers;
* `callable_iff_listed` puts these together.
-/

/-! ### Every hint accepts some kind -/

namespace Hint

/-- Adding to a list drops nothing and misses nothing. -/
theorem mem_addNew {α : Type} [DecidableEq α] {found more : List α} {a : α} :
    a ∈ addNew found more ↔ a ∈ found ∨ a ∈ more := by
  induction more generalizing found with
  | nil => simp [addNew]
  | cons b rest ih =>
    have hstep :
        addNew found (b :: rest) = addNew (if b ∈ found then found else found ++ [b]) rest :=
      rfl
    rw [hstep, ih]
    by_cases hb : b ∈ found
    · rw [if_pos hb, List.mem_cons]
      constructor
      · tauto
      · rintro (h | rfl | h)
        exacts [.inl h, .inl hb, .inr h]
    · simp [hb, or_assoc]

/-- The kinds found before stay among those of further hints. -/
theorem mem_kindsOfAll {k : Kind} {found : List Kind} (h : k ∈ found) (rest : List Hint) :
    k ∈ kindsOfAll found rest := by
  induction rest generalizing found with
  | nil => simpa only [kindsOfAll] using h
  | cons m rest ih =>
    rw [kindsOfAll]
    exact ih (mem_addNew.2 (.inl h))

/-- Every hint accepts some kind: a union what its first member accepts. -/
theorem exists_mem_kinds (h : Hint) : ∃ k, k ∈ h.kinds := by
  match h with
  | .union _ first rest =>
    obtain ⟨k, hk⟩ := exists_mem_kinds first
    exact ⟨k, by rw [kinds]; exact mem_kindsOfAll (mem_addNew.2 (.inr hk)) rest⟩
  | .any | .unspecific | .classWide _ | .forward _ | .written _ | .nothing | .kind _
  | .generic _ _ | .typed _ _ | .annotated _ =>
    exact ⟨_, by rw [kinds]; exact List.mem_singleton_self _⟩

end Hint

/-! ### Every parameter accepts some argument -/

namespace Store

/-- Something can be passed to every kind: `none`, or what is of a primitive kind itself. -/
theorem exists_passes (s : Store) (p : Kind) : ∃ a, s.Passes a p := by
  by_cases hp : p ∈ primitiveKinds
  · refine ⟨p, .descends ?_ ?_⟩
    · rintro rfl
      simp [primitiveKinds] at hp
    · rw [isSubclass_iff]
      simp only [primitiveKinds, List.mem_cons, List.not_mem_nil, or_false] at hp
      rcases hp with rfl | rfl | rfl | rfl <;> rfl
  · exact ⟨.library .noneType, .none hp⟩

end Store

/-- Whether each parameter of a function of the library is left with some kind. -/
def LibraryParams.accept (params : LibraryParams) : Bool :=
  params.all fun ps => ps.all fun accepted => !accepted.isEmpty

namespace Signature

/-- Whether each parameter accepts some kind, as far as the parameters can be read. -/
def IsOpen (signature : Signature) : Prop :=
  ∀ ps, signature.params? = some ps → ∀ accepted ∈ ps, ∃ k, k ∈ accepted

variable {signature : Signature}

/-- What is read off the parameters of a function accepts something: their hints do. -/
theorem Reads.isOpen {ps : Option (List Param)} (h : signature.Reads ps) : signature.IsOpen := by
  cases h with
  | unreadable => exact fun _ h => nomatch h
  | unreachable => exact fun _ h => nomatch h
  | takes =>
    rintro _ ⟨⟩ accepted hmem
    obtain ⟨p, -, rfl⟩ := List.mem_map.1 hmem
    exact Hint.exists_mem_kinds _

/-- The parameters of the library accept something if none is left without a kind. -/
theorem isOpen_ofLibrary {params : LibraryParams} (h : params.accept) :
    (ofLibrary params).IsOpen := by
  intro ps hps accepted hmem
  rw [params?_ofLibrary] at hps
  obtain ⟨ls, rfl, rfl⟩ := Option.map_eq_some_iff.1 hps
  obtain ⟨l, hl, rfl⟩ := List.mem_map.1 hmem
  obtain ⟨k, hk⟩ := List.exists_mem_of_ne_nil l (by simpa using List.all_eq_true.1 h l hl)
  exact ⟨.library k, List.mem_map_of_mem hk⟩

/-- Some arguments may be tried, if each parameter accepts some kind. -/
theorem IsOpen.exists_admits (h : signature.IsOpen) (hs : signature ≠ .unreachable) (s : Store) :
    ∃ kinds, signature.Admits s kinds := by
  cases signature with
  | unreadable => exact ⟨[], trivial⟩
  | unreachable => exact absurd rfl hs
  | takes ps =>
    replace h := h ps rfl
    induction ps with
    | nil => exact ⟨[], .nil⟩
    | cons accepted rest ih =>
      obtain ⟨p, hp⟩ := h accepted List.mem_cons_self
      obtain ⟨a, ha⟩ := s.exists_passes p
      obtain ⟨kinds, hkinds⟩ := ih (by simp) fun x hx => h x (List.mem_cons_of_mem _ hx)
      exact ⟨a :: kinds, .cons ⟨p, hp, Store.isAssignable_iff.2 ha⟩ hkinds⟩

end Signature

/-! ### Every entry can be called -/

namespace LibraryKind

/-- Whether the parameters of a member of the library, if it has any, accept something. -/
def memberAccepts : LibraryMember → Bool
  | .method _ ps | .static _ ps => ps.accept
  | .property _ | .slot _ | .hint _ => true

/-- The parameters of the library's methods accept something. -/
theorem memberAccepts_of_mem (l : LibraryKind) {m : LibraryMember} (h : m ∈ l.members) :
    memberAccepts m := by
  have hall : l.members.all memberAccepts = true := by cases l <;> rfl
  exact List.all_eq_true.1 hall m h

/-- The parameters of the library's initialisers accept something. -/
theorem accept_of_initialiser (l : LibraryKind) {ps : List (List LibraryKind)}
    (h : l.construction = .initialiser ps) : LibraryParams.accept (some ps) := by
  revert h
  cases l <;> intro h <;> cases h <;> rfl

end LibraryKind

namespace Store

variable {s : Store} {k owner : Kind} {attr : String} {c : Callable}

/-- The parameters of a method that is taken out of a library class accept something. -/
theorem isOpen_of_nativeParams? {l : LibraryKind} {name : String} {ps : LibraryParams}
    (h : nativeParams? l name = some ps) : (Signature.ofLibrary ps).IsOpen := by
  refine Signature.isOpen_ofLibrary ?_
  dsimp only [nativeParams?] at h
  split at h
  next hdeclared =>
    cases h
    obtain ⟨m, hm, hps⟩ := List.exists_of_findSome?_eq_some hdeclared
    have haccept := l.memberAccepts_of_mem hm
    cases m with
    | method n ps' =>
      obtain ⟨-, rfl⟩ : n = name ∧ ps' = ps := by simpa using hps
      exact haccept
    | _ => cases hps
  next hinit =>
    obtain ⟨-, rfl⟩ : name = "__init__" ∧ _ := by simpa using h
    exact l.accept_of_initialiser hinit
  next =>
    obtain ⟨-, rfl⟩ : name = "__init__" ∧ _ := by simpa using h
    rfl

/-- The members of the library among the entries of a class are those of the class. -/
theorem memberAccepts_of_mem_entries {m : LibraryMember}
    (h : (attr, ClassEntry.library m) ∈ s.entries owner) : LibraryKind.memberAccepts m := by
  cases owner with
  | library l =>
    obtain ⟨m', hm', hsame⟩ :
        ∃ m' ∈ l.members, (m'.name, ClassEntry.library m') = (attr, .library m) := by
      simpa [entries] using h
    cases hsame
    exact l.memberAccepts_of_mem hm'
  | _ => simp [entries] at h

/-- The parameters of every entry of a class accept something. -/
theorem Holds.isOpen {e : ClassEntry} (h : s.Holds owner attr e c)
    (he : (attr, e) ∈ s.entries owner) : c.signature.IsOpen := by
  cases h with
  | method => exact Signature.isOpen_ofLibrary (memberAccepts_of_mem_entries he)
  | static => exact Signature.isOpen_ofLibrary (memberAccepts_of_mem_entries he)
  | native hps => exact isOpen_of_nativeParams? hps
  | function _ hr => exact hr.isOpen
  | staticMethod _ _ hr => exact hr.isOpen
  | classMethod _ _ hr => exact hr.isOpen

/-- Every member can be called with arguments of some kinds. -/
theorem exists_applies {m : Member} (h : m ∈ s.methods k) : ∃ kinds, s.applies kinds m := by
  have hexposed := mem_of_mem_firstBy h
  rw [exposedMethods_eq] at hexposed
  obtain ⟨d, hd, hm⟩ := List.mem_filterMap.1 hexposed
  obtain ⟨c, hc, -, hs, rfl⟩ := member?_eq_some_iff.1 hm
  have he : (d.name, d.entry) ∈ s.entries d.owner := mem_entries_of_mem_declarations hd
  obtain ⟨kinds, hkinds⟩ := (hc.isOpen he).exists_admits hs s
  exact ⟨kinds, (applies_iff rfl hs).2 hkinds⟩

/-! ### A name is found exactly if it is listed -/

/-- The names that are listed are those of the members. -/
theorem mem_methodNames {name : String} :
    name ∈ s.methodNames k ↔ ∃ m ∈ s.methods k, m.name = name := by
  rw [methodNames, mem_firstBy_id, List.mem_map]

/-- A name is found with arguments of some kinds exactly if it is listed, up to case. -/
theorem exists_discover?_iff {name : Key} :
    (∃ kinds m, s.discover? k name kinds = some m) ↔
      name.folded ∈ (s.methodNames k).map foldCase := by
  rw [List.mem_map]
  constructor
  · rintro ⟨kinds, m, hm⟩
    obtain ⟨hmem, hname⟩ := List.mem_filter.1 (List.mem_of_find?_eq_some hm)
    exact ⟨m.name, mem_methodNames.2 ⟨m, hmem, rfl⟩, by simpa using hname⟩
  · rintro ⟨_, hlisted, hname⟩
    obtain ⟨m, hmem, rfl⟩ := mem_methodNames.1 hlisted
    obtain ⟨kinds, hkinds⟩ := exists_applies hmem
    refine ⟨kinds, Option.isSome_iff_exists.1 (List.find?_isSome.2 ⟨m, ?_, hkinds⟩)⟩
    exact List.mem_filter.2 ⟨hmem, by simpa using hname⟩

end Store

/-! ### The test for a name -/

namespace Host

open Run

variable {call : Call} {w : World}

/-- Two texts are equal if they are the same. -/
theorem equal_text (t u : String) : equal call (.text t) (.text u) w = (.ok (t = u), w) := by
  have hk (t : String) : w.store.kindOf (.text t) = .library .text := rfl
  have hone : compareOneWay call (equalWith call 999) (.text t) (.text u) w =
      (.ok (some (.bool (t = u))), w) := by
    rw [compareOneWay, bind_of_ok (callSpecial?_of_library (hk t) _ _)]
    dsimp only
    have heq : librarySpecial? (.text t) "__eq__" w = (.ok (some .text), w) :=
      librarySpecial?_of_library (hk t) (by decide)
    rw [bind_of_ok heq]
    rfl
  have hcompare : compareBy call (equalWith call 999) (.text t) (.text u) w =
      (.ok (.bool (t = u)), w) := by
    rw [compareBy, bind_of_ok (store_apply w)]
    simp only [hk, ne_eq, not_true, decide_false, Bool.false_and]
    exact bind_of_ok hone
  show equalWith call (999 + 1) (.text t) (.text u) w = _
  rw [equalWith]
  -- Values that are the same are equal without being compared.
  by_cases h : t = u
  · simp [h]
  · rw [if_neg (by simpa using h), bind_of_ok hcompare]
    rfl

/-- A text is among some names if it is one of them. -/
theorem isAmong_texts (t : String) (names : List String) :
    isAmong call (.text t) (names.map .text) w = (.ok (names.contains t), w) := by
  induction names with
  | nil => rfl
  | cons n rest ih =>
    rw [List.map_cons, isAmong, bind_of_ok (equal_text n t), List.contains_cons]
    by_cases h : n = t
    · simp [h]
    · rw [if_neg (by simpa using h), ih]
      simp [Ne.symm h]

end Host

namespace Service

open Run

/-- The test for a name tells whether it is listed, up to case, if the names can be listed. -/
theorem hasMethodNoCase_apply (call : Call) (t : Target) (name : String) (w : World) :
    hasMethodNoCase call t (.text name) w =
      match w.store.methodsFailure? t.kind with
      | some e => (.error (.host e ""), w)
      | none =>
        (.ok (((w.store.methodNames t.kind).map foldCase).contains (foldCase name)), w) := by
  have hm : Host.libraryMethod? (.text name) "casefold" w = (.ok (some .text), w) := rfl
  have hfold : foldedName call (.text name) w = (.ok (.text (foldCase name)), w) := by
    rw [foldedName, Host.viaMethod, bind_of_ok hm]
    rfl
  rw [hasMethodNoCase, bind_of_ok hfold]
  -- All members are listed before names are compared, so one hint that cannot be read fails all.
  cases he : w.store.methodsFailure? t.kind with
  | some e =>
    have hnames : methodNames t.kind w = (.error (.host e ""), w) := by
      rw [methodNames, bind_of_ok (store_apply w), he]
      rfl
    rw [bind_of_error hnames]
  | none =>
    have hnames : methodNames t.kind w = (.ok (w.store.methodNames t.kind), w) := by
      rw [methodNames, bind_of_ok (store_apply w), he]
      rfl
    rw [bind_of_ok hnames]
    exact Host.isAmong_texts _ _

end Service

/-- Whether a search of a kind finds a method of a name, with arguments of some kinds. -/
def World.Finds (w : World) (svc : ServiceId) (k : Kind) (name : String) : Prop :=
  ∃ kinds r, w.search svc (.method k (.ofText name) kinds) = .ok (.method r)

/-- A name is found exactly if the names can be listed and it is among them, up to case. -/
theorem World.finds_iff {w : World} {svc : ServiceId} {k : Kind} {name : String} :
    w.Finds svc k name ↔ w.store.methodsFailure? k = none ∧
      foldCase name ∈ (w.store.methodNames k).map foldCase := by
  simp only [Finds, World.search, Inquiry.search_eq_ok_iff, Inquiry.failure?, Inquiry.found?]
  rw [show foldCase name = (Key.ofText name).folded from rfl, ← Store.exists_discover?_iff]
  constructor
  · rintro ⟨kinds, r, hok, hfound⟩
    obtain ⟨m, hm, -⟩ := Option.map_eq_some_iff.1 hfound
    exact ⟨hok, kinds, m, hm⟩
  · rintro ⟨hok, kinds, m, hm⟩
    exact ⟨kinds, m.record, hok, by rw [hm]; rfl⟩

/-- **What is listed can be called.** A service has a method of a name, whatever the case, exactly
    if a search of the target's kind finds one with arguments of some kinds; and each name that it
    lists is found. -/
theorem callable_iff_listed (call : Call) (svc : ServiceId) (target : Value) (w : World) :
    let t := w.store.asTarget target
    (∀ name, (Service.hasMethodNoCase call t (.text name) w).1 = .ok true ↔
      w.Finds svc t.kind name) ∧
    ∀ names, (Service.methodNames t.kind w).1 = .ok names →
      ∀ name ∈ names, w.Finds svc t.kind name := by
  intro t
  constructor
  · intro name
    rw [World.finds_iff, Service.hasMethodNoCase_apply]
    cases w.store.methodsFailure? t.kind <;> simp
  · intro names hnames name hname
    rw [Service.methodNames, Run.bind_of_ok (Run.store_apply w)] at hnames
    cases he : w.store.methodsFailure? t.kind with
    | some e => simp [he] at hnames
    | none =>
      rw [he] at hnames
      obtain rfl : w.store.methodNames t.kind = names := by simpa using hnames
      exact World.finds_iff.2 ⟨he, List.mem_map_of_mem hname⟩

/-! ### A class with a method that takes a number or nothing -/

/-- A kiosk whose method is hinted with a union. -/
def kiosk : World where
  store :=
    { objects := #[
        { kind := .library .function,
          body := .function ⟨"sell", [⟨"self", .normal, none, none⟩,
            ⟨"coins", .normal, some (.union false (.kind (.library .int))
              [.kind (.library .noneType)]), none⟩], .self, true, {}⟩ },
        { kind := .declared 0, body := .plain }]
      classes := #[
        { name := "Kiosk", qualifiedName := "Kiosk", home := some "host",
          bases := [.library .object], lineage := [.declared 0, .library .object],
          metaclass := .type, attrs := ⟨[("sell", .object 0)]⟩ }] }

/-- The one method of the kiosk, and what it takes. -/
theorem kiosk_methods : kiosk.store.methods (.declared 0) =
    [⟨"sell", "sell", .object 0, .declared 0, false,
      some [[.library .int, .library .noneType]]⟩] := by
  have hreads : (Signature.takes [[.library .int, .library .noneType]]).Reads
      ((kiosk.store.readParams? [⟨"self", .normal, none, none⟩,
        ⟨"coins", .normal, some (.union false (.kind (.library .int))
          [.kind (.library .noneType)]), none⟩]).map withoutReceiver) := by
    rw [Store.readParams?, Store.readHints_of_unwritten _ (by simp), Signature.reads_iff]
    rfl
  have hsell : kiosk.store.member? (.declared 0) "sell" (.value (.object 0)) =
      some ⟨"sell", "sell", .object 0, .declared 0, false,
        some [[.library .int, .library .noneType]]⟩ :=
    Store.member?_eq_some_iff.2
      ⟨_, .function rfl hreads, .inr (by decide +kernel), by simp, rfl⟩
  have hdeclared : kiosk.store.declarations (.declared 0) =
      [⟨.declared 0, "sell", .value (.object 0)⟩] := rfl
  simp only [Store.methods, Store.exposedMethods_eq, hdeclared, List.filterMap_cons, hsell,
    List.filterMap_nil]
  decide +kernel

/-- The one name of the kiosk is listed, is there in any case, and is found. -/
theorem callable_iff_listed_kiosk :
    let has (name : String) := (Service.hasMethodNoCase Host.callValue
      (kiosk.store.asTarget (.object 1)) (.text name) kiosk).1
    (Service.methodNames (.declared 0) kiosk).1 = .ok ["sell"] ∧
      kiosk.Finds .main (.declared 0) "sell" ∧ has "SELL" = .ok true ∧ has "buy" ≠ .ok true := by
  intro has
  have hreadable : kiosk.store.methodsFailure? (.declared 0) = none := by
    refine kiosk.store.methodsFailure?_of_unwritten fun d hd v hv => ?_
    have hdeclared : d ∈ [(⟨.declared 0, "sell", .value (.object 0)⟩ : Store.Declaration)] := hd
    obtain rfl := List.mem_singleton.1 hdeclared
    cases hv
    simp [kiosk, Store.entryParams, Store.function?, Store.body?, Store.deref?]
  have hnames : kiosk.store.methodNames (.declared 0) = ["sell"] := by
    rw [Store.methodNames, kiosk_methods]
    rfl
  have hlisted : (Service.methodNames (.declared 0) kiosk).1 = .ok ["sell"] := by
    rw [Service.methodNames, Run.bind_of_ok (Run.store_apply kiosk), hreadable]
    exact congrArg Except.ok hnames
  have hmain := callable_iff_listed Host.callValue .main (.object 1) kiosk
  refine ⟨hlisted, hmain.2 _ hlisted "sell" List.mem_cons_self, ?_, ?_⟩
  · refine (hmain.1 "SELL").2 (World.finds_iff.2 ⟨hreadable, ?_⟩)
    rw [show (kiosk.store.asTarget (.object 1)).kind = .declared 0 from rfl, hnames]
    decide +kernel
  · intro h
    obtain ⟨-, hmem⟩ := World.finds_iff.1 ((hmain.1 "buy").1 h)
    rw [show (kiosk.store.asTarget (.object 1)).kind = .declared 0 from rfl, hnames] at hmem
    revert hmem
    decide +kernel

end ScriptBridge
