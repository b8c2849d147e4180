import ScriptBridge.Proofs.Members
import ScriptBridge.Proofs.Memory

namespace ScriptBridge

/-!
# Members without a name

A resolver remembers a constructor by the empty name, and a member can be looked for by the empty
name too. So each of the two can be recalled in place of the other.

* `Store.ListsMethod`, `Store.ListsConstructor` tell the records that a lookup should answer with;
* `answered_after`: whatever is answered after a run was found for the inquiry itself or for an
  author with its key;
* `resolve_strays_iff`: members and constructors are mixed up exactly if one is looked for and the
  other is remembered under the empty name.
-/

/-! ### The records to answer with -/

namespace Store

/-- Whether a record is that of a member that a kind lists under a name. -/
def ListsMethod (s : Store) (k : Kind) (name : Key) (r : MethodRecord) : Prop :=
  ∃ m ∈ s.methods k, foldCase m.name = name.folded ∧ m.record = r

/-- Whether a record is that of the constructor of a kind. -/
def ListsConstructor (s : Store) (k : Kind) (r : MethodRecord) : Prop :=
  ∃ m ∈ s.constructors k, m.record = r

/-- A constructor is called by calling its class. -/
theorem ListsConstructor.handle {s : Store} {k : Kind} {r : MethodRecord}
    (h : s.ListsConstructor k r) : r.handle = .kind k := by
  obtain ⟨m, hm, rfl⟩ := h
  unfold constructors memberOf? at hm
  split at hm <;> simp at hm <;> subst hm <;> rfl

/-- A member is not called by calling a class. -/
theorem ListsMethod.handle {s : Store} {k : Kind} {name : Key} {r : MethodRecord}
    (h : s.ListsMethod k name r) (k' : Kind) : r.handle ≠ .kind k' := by
  obtain ⟨m, hm, -, rfl⟩ := h
  obtain ⟨owner, -, hm⟩ := List.mem_flatMap.1 (mem_of_mem_firstBy hm)
  obtain ⟨⟨attr, e⟩, -, hm⟩ := List.mem_filterMap.1 hm
  obtain ⟨c, hc, -, -, rfl⟩ := member?_eq_some_iff.1 hm
  exact hc.handle_ne_kind k'

end Store

namespace Inquiry

variable {s : Store} {limit : Int} {k : Kind} {name : Key} {kinds : List Kind}

/-- A search for a member finds one that is listed. -/
theorem listsMethod_of_search {f : Finding} (h : (method k name kinds).search s limit = .ok f) :
    ∃ r, f = .method r ∧ s.ListsMethod k name r := by
  obtain ⟨m, hm, rfl⟩ := Option.map_eq_some_iff.1 (search_eq_ok_iff.1 h).2
  obtain ⟨hmem, hname⟩ := List.mem_filter.1 (List.mem_of_find?_eq_some hm)
  exact ⟨_, rfl, m, hmem, by simpa using hname, rfl⟩

/-- A search for a constructor finds the one that is listed. -/
theorem listsConstructor_of_search {f : Finding}
    (h : (constructor k kinds).search s limit = .ok f) :
    ∃ r, f = .method r ∧ s.ListsConstructor k r := by
  obtain ⟨m, hm, rfl⟩ := Option.map_eq_some_iff.1 (search_eq_ok_iff.1 h).2
  exact ⟨_, rfl, m, List.mem_of_find?_eq_some hm, rfl⟩

/-- A search for a field finds the declared one. -/
theorem findField?_of_search {f : Finding} (h : (field k name).search s limit = .ok f) :
    ∃ g, f = .field g ∧ s.findField? k name = some g := by
  obtain ⟨g, hg, rfl⟩ := Option.map_eq_some_iff.1 (search_eq_ok_iff.1 h).2
  exact ⟨g, rfl, hg⟩

end Inquiry

/-! ### What is answered after a run -/

section AfterRun

variable (svc : ServiceId) (w : World) (on : Bool) (steps : List ResolverStep)

/-- The findings that an inquiry can be answered with after a run: what is found for it, or for an
    author with its key. -/
theorem answered_after {q : Inquiry} {f : Finding}
    (h : (q.ask svc (after svc (w.withResolver svc { enabled := on }) steps)).1 = .ok f) :
    w.search svc q = .ok f ∨
      (notesOf svc w on steps).enabled ∧ ∃ a, (notesOf svc w on steps).author? q.key = some a ∧
        a.key = q.key ∧ w.search svc a = .ok f := by
  rw [ask_after, Notes.answerer] at h
  split at h
  next hon =>
    cases ha : (notesOf svc w on steps).author? q.key with
    | none => exact .inl (by simpa [ha] using h)
    | some a =>
      have hkey := (((Notes.kept_new svc w on).after steps).describes.2.author q.key a ha).1
      exact .inr ⟨hon, a, rfl, hkey, by simpa [ha] using h⟩
  next => exact .inl h

variable {svc w on steps} in
/-- While memory is on, an inquiry is answered with what the author under its key found. -/
theorem answered_of_author {q a : Inquiry} (hon : (notesOf svc w on steps).enabled)
    (ha : (notesOf svc w on steps).author? q.key = some a) :
    ∃ f, w.search svc a = .ok f ∧
      (q.ask svc (after svc (w.withResolver svc { enabled := on }) steps)).1 = .ok f := by
  obtain ⟨-, f, hf⟩ := ((Notes.kept_new svc w on).after steps).describes.2.author q.key a ha
  refine ⟨f, hf, ?_⟩
  rw [ask_after, Notes.answerer, if_pos hon, ha, Option.getD_some]
  exact hf

variable (k : Kind) (name : Key) (kinds : List Kind)

/-- A lookup of a member goes astray if the constructor is remembered under the empty name. -/
theorem method_strays_iff :
    (∃ r, (Service.resolveMethod svc k name kinds
          (after svc (w.withResolver svc { enabled := on }) steps)).1 = .ok r ∧
        ¬ w.store.ListsMethod k name r) ↔
      name.name = "" ∧ (notesOf svc w on steps).enabled ∧
        (notesOf svc w on steps).author? ⟨k, "", some kinds⟩ = some (.constructor k kinds) := by
  have hask {u : World} {r : MethodRecord} :
      ((Inquiry.method k name kinds).ask svc u).1 = .ok (.method r) ↔
        (Service.resolveMethod svc k name kinds u).1 = .ok r :=
    Run.map_eq_ok_iff u fun _ _ h => Finding.method.inj h
  have hkey (hname : name.name = "") :
      (Inquiry.method k name kinds).key = ⟨k, "", some kinds⟩ := by
    rw [Inquiry.key, show name.folded = "" from foldCase_eq_empty_iff.2 hname]
  constructor
  · rintro ⟨r, hr, hnot⟩
    -- A record that a search for a member of this name finds is listed.
    have hstray : w.search svc (.method k name kinds) ≠ .ok (.method r) := by
      intro hf
      obtain ⟨r', hr', hlists⟩ := Inquiry.listsMethod_of_search hf
      cases hr'
      exact hnot hlists
    rcases answered_after svc w on steps (hask.2 hr) with hf | ⟨hon, a, ha, hak, hf⟩
    · exact absurd hf hstray
    · rcases Inquiry.key_eq_method_iff.1 hak with ⟨name', hname, rfl⟩ | ⟨hname, rfl⟩
      · exact absurd (Inquiry.search_method_ok hname hf) hstray
      · exact ⟨hname, hon, hkey hname ▸ ha⟩
  · rintro ⟨hname, hon, ha⟩
    obtain ⟨f, hf, hanswer⟩ := answered_of_author hon (hkey hname ▸ ha)
    obtain ⟨r, rfl, hr⟩ := Inquiry.listsConstructor_of_search hf
    exact ⟨r, hask.1 hanswer, fun hlists => hlists.handle k hr.handle⟩

/-- A lookup of a constructor goes astray if a nameless member is remembered. -/
theorem constructor_strays_iff :
    (∃ r, (Service.resolveConstructor svc k kinds
          (after svc (w.withResolver svc { enabled := on }) steps)).1 = .ok r ∧
        ¬ w.store.ListsConstructor k r) ↔
      (notesOf svc w on steps).enabled ∧ ∃ nameless, nameless.name = "" ∧
        (notesOf svc w on steps).author? ⟨k, "", some kinds⟩ =
          some (.method k nameless kinds) := by
  have hask {u : World} {r : MethodRecord} :
      ((Inquiry.constructor k kinds).ask svc u).1 = .ok (.method r) ↔
        (Service.resolveConstructor svc k kinds u).1 = .ok r :=
    Run.map_eq_ok_iff u fun _ _ h => Finding.method.inj h
  have hkey : (Inquiry.constructor k kinds).key = ⟨k, "", some kinds⟩ := by
    rw [Inquiry.key, show Key.newInstance.folded = "" from foldCase_eq_empty_iff.2 rfl]
  constructor
  · rintro ⟨r, hr, hnot⟩
    -- The record that a search for the constructor finds is the constructor's.
    have hstray : w.search svc (.constructor k kinds) ≠ .ok (.method r) := by
      intro hf
      obtain ⟨r', hr', hlists⟩ := Inquiry.listsConstructor_of_search hf
      cases hr'
      exact hnot hlists
    rcases answered_after svc w on steps (hask.2 hr) with hf | ⟨hon, a, ha, hak, hf⟩
    · exact absurd hf hstray
    · rcases Inquiry.key_eq_constructor_iff.1 hak with ⟨nameless, hname, rfl⟩ | rfl
      · exact ⟨hon, nameless, hname, hkey ▸ ha⟩
      · exact absurd hf hstray
  · rintro ⟨hon, nameless, -, ha⟩
    obtain ⟨f, hf, hanswer⟩ := answered_of_author hon (hkey ▸ ha)
    obtain ⟨r, rfl, hr⟩ := Inquiry.listsMethod_of_search hf
    exact ⟨r, hask.1 hanswer, fun hlists => hr.handle k hlists.handle⟩

/-- A lookup of a field answers with the declared field. -/
theorem findField?_of_resolveField {f : Field}
    (h : (Service.resolveField svc k name
      (after svc (w.withResolver svc { enabled := on }) steps)).1 = .ok f) :
    w.store.findField? k name = some f := by
  have hanswer : ((Inquiry.field k name).ask svc
      (after svc (w.withResolver svc { enabled := on }) steps)).1 = .ok (.field f) :=
    (Run.map_eq_ok_iff _ fun _ _ h => Finding.field.inj h).2 h
  have hfound : w.search svc (.field k name) = .ok (.field f) := by
    rcases answered_after svc w on steps hanswer with hf | ⟨-, a, -, hak, hf⟩
    · exact hf
    · obtain ⟨name', hname, rfl⟩ := Inquiry.key_eq_field_iff.1 hak
      exact Inquiry.search_field_ok hname hf
  obtain ⟨g, hg, hfind⟩ := Inquiry.findField?_of_search hfound
  cases hg
  exact hfind

end AfterRun

/-- **Members and constructors mixed up.** After any run, a lookup of a member answers with a record
    that is not that of a listed member of the name exactly if the name is empty and the constructor
    is what is remembered under the empty name; a lookup of a constructor answers with a record that
    is not the constructor's exactly if a nameless member is. A lookup of a field is never mixed
    up. -/
theorem resolve_strays_iff (svc : ServiceId) (w : World) (on : Bool) (steps : List ResolverStep)
    (k : Kind) (name : Key) (kinds : List Kind) :
    let s := w.store
    let n := notesOf svc w on steps
    let w' := after svc (w.withResolver svc { enabled := on }) steps
    ((∃ r, (Service.resolveMethod svc k name kinds w').1 = .ok r ∧ ¬ s.ListsMethod k name r) ↔
        name.name = "" ∧ n.enabled ∧ n.author? ⟨k, "", some kinds⟩ = some (.constructor k kinds)) ∧
      ((∃ r, (Service.resolveConstructor svc k kinds w').1 = .ok r ∧ ¬ s.ListsConstructor k r) ↔
        n.enabled ∧ ∃ nameless, nameless.name = "" ∧
          n.author? ⟨k, "", some kinds⟩ = some (.method k nameless kinds)) ∧
      (∀ f, (Service.resolveField svc k name w').1 = .ok f → s.findField? k name = some f) :=
  ⟨method_strays_iff svc w on steps k name kinds, constructor_strays_iff svc w on steps k kinds,
    fun _ => findField?_of_resolveField svc w on steps k name⟩

/-- Once the constructor of texts was looked up, it is found as a nameless member of texts. -/
theorem resolveMethod_strays_text :
    let steps : List ResolverStep := [.ask (.constructor (.library .text) [])]
    let w' := after .main (({} : World).withResolver .main { enabled := true }) steps
    ∃ r, (Service.resolveMethod .main (.library .text) (.ofText "") [] w').1 = .ok r ∧
      ¬ ({} : Store).ListsMethod (.library .text) (.ofText "") r :=
  (method_strays_iff .main {} true _ (.library .text) (.ofText "") []).2
    ⟨rfl, rfl, by decide +kernel⟩

end ScriptBridge
