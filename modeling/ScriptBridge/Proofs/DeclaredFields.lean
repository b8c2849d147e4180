import ScriptBridge.Proofs.Inquiry
import ScriptBridge.Proofs.Members

namespace ScriptBridge

/-!
# Which declaration of a field counts

A class may declare a field more than once: by a hint, and by an entry that it holds; and so may
each class that it descends from. The names need not be spelled alike.

* `Leads`, `pairwise_firstBy`, `mem_firstBy_iff`: what is kept of a list when only the first of each
  sort is;
* `Store.mentions` lists the places where a kind may declare a field, and `Store.Declares` tells
  which of them do, and what field;
* `Store.DeclaresFirst` tells that a field is declared before any other whose name folds alike;
* `Service.resolveField_eq_first`: a lookup finds the first declaration that its key stands for, and
  the listing shows the first declaration of each name, in order.
-/

/-! ### The first of each sort, in order -/

section FirstBy

variable {α β : Type} {feature : α → β} {l : List α} {a b c : α}

/-- Whether an element stands in a list before all that agree with another one on a feature. -/
def Leads (feature : α → β) (l : List α) (a c : α) : Prop :=
  ∃ before rest, l = before ++ a :: rest ∧ ∀ b ∈ before ++ [a], feature b ≠ feature c

/-- A declaration of another name can be put before one that comes first of its name. -/
theorem Leads.cons (h : Leads feature l a c) (hb : feature b ≠ feature c) :
    Leads feature (b :: l) a c := by
  obtain ⟨before, rest, rfl, hbefore⟩ := h
  exact ⟨b :: before, rest, rfl, List.forall_mem_cons.2 ⟨hb, hbefore⟩⟩

variable [DecidableEq β]

/-- What is kept is of no sort that was seen before. -/
theorem not_mem_of_mem_firstBy {seen : List β} (h : a ∈ firstBy feature seen l) :
    feature a ∉ seen := by
  induction l generalizing seen with
  | nil => cases h
  | cons b rest ih =>
    rw [firstBy] at h
    split at h
    next => exact ih h
    next hb =>
      obtain rfl | h := List.mem_cons.1 h
      · exact hb
      · exact fun hseen => ih h (List.mem_cons_of_mem _ hseen)

/-- What is kept stands in the order of the first of each sort. -/
theorem pairwise_firstBy (l : List α) (seen : List β) :
    (firstBy feature seen l).Pairwise (Leads feature l) := by
  induction l generalizing seen with
  | nil => exact .nil
  | cons b rest ih =>
    rw [firstBy]
    split
    next hb =>
      refine (ih seen).imp_of_mem fun _ hc h => h.cons fun heq => ?_
      exact not_mem_of_mem_firstBy hc (heq ▸ hb)
    next =>
      -- What is kept after `b` is of another sort than `b`.
      have hother {c : α} (hc : c ∈ firstBy feature (feature b :: seen) rest) :
          feature b ≠ feature c := fun heq =>
        not_mem_of_mem_firstBy hc (heq ▸ List.mem_cons_self)
      refine .cons (fun c hc => ?_) ((ih _).imp_of_mem fun _ hc h => h.cons (hother hc))
      exact ⟨[], rest, rfl, by simpa using hother hc⟩

/-- An element is kept exactly if it stands before all others of its sort. -/
theorem mem_firstBy_iff :
    a ∈ firstBy feature [] l ↔
      ∃ before rest, l = before ++ a :: rest ∧ ∀ b ∈ before, feature b ≠ feature a := by
  -- Both sides say that `a` is what a search for its sort finds.
  have hfind : (firstBy feature [] l).find? (fun b => decide (feature b = feature a)) =
      l.find? fun b => decide (feature b = feature a) :=
    find?_firstBy (fun b c h => by rw [h]) (by simp) l
  have hfirst : (l.find? fun b => decide (feature b = feature a)) = some a ↔
      ∃ before rest, l = before ++ a :: rest ∧ ∀ b ∈ before, feature b ≠ feature a := by
    simp [List.find?_eq_some_iff_append]
  rw [← hfirst, ← hfind]
  refine ⟨fun h => ?_, List.mem_of_find?_eq_some⟩
  obtain ⟨before, rest, hsplit⟩ := List.append_of_mem h
  have hpairs : (firstBy feature [] l).Pairwise (Leads feature l) := pairwise_firstBy l []
  rw [hsplit, List.pairwise_append] at hpairs
  rw [List.find?_eq_some_iff_append]
  refine ⟨by simp, before, rest, hsplit, fun b hb => ?_⟩
  obtain ⟨_, _, -, hleads⟩ := hpairs.2.2 b hb a List.mem_cons_self
  simpa using hleads b (by simp)

end FirstBy

/-! ### Declarations -/

/-- In which way a class speaks of a name: by a hint, or by an entry that it holds. -/
inductive MentionForm where
  | hint (classWide : Bool)
  | entry (e : ClassEntry)

/-- A name that a class speaks of. -/
structure Mention where
  owner : Kind
  name : String
  form : MentionForm

namespace Store

variable {s : Store} {k : Kind} {f g : Field} {m : Mention}

/-- The hints of a class, in order, and whether each field belongs to the class. -/
def hints (s : Store) : Kind → List (String × Bool)
  | .library l => l.members.filterMap fun
    | .hint n => some (n, false)
    | _ => none
  | k => (s.class? k).elim [] (·.hints.entries)

/-- The names that a kind's classes speak of: class by class along its line of descent, and within a
    class the hints before the entries. The root class speaks for itself only. -/
def mentions (s : Store) (k : Kind) : List Mention :=
  (s.lineage k).flatMap fun owner =>
    if owner = .library .object ∧ k ≠ .library .object then []
    else (s.hints owner).map (fun h => ⟨owner, h.1, .hint h.2⟩) ++
      (s.entries owner).map fun e => ⟨owner, e.1, .entry e.2⟩

/-- Whether a mention is a declaration, and of what field. Any public hint is one. An entry is one
    if it is a fixed place of the instances, decides over what instances hold, or is a constant:
    neither a class nor a routine. -/
inductive Declares (s : Store) : Mention → Field → Prop where
  | hint {owner : Kind} {n : String} {classWide : Bool} (hn : isPublic n) :
      Declares s ⟨owner, n, .hint classWide⟩ ⟨n, owner, classWide, .attribute⟩
  | librarySlot {owner : Kind} {n t : String} (hn : isPublic n) :
      Declares s ⟨owner, n, .entry (.library (.slot t))⟩ ⟨n, owner, false, .attribute⟩
  | libraryProperty {owner : Kind} {n t : String} (hn : isPublic n) :
      Declares s ⟨owner, n, .entry (.library (.property t))⟩ ⟨n, owner, false, .property⟩
  | slot {owner : Kind} {n : String} {v : Value} (hn : isPublic n)
      (hv : s.kindOf v = .library .slotEntry) :
      Declares s ⟨owner, n, .entry (.value v)⟩ ⟨n, owner, false, .attribute⟩
  | descriptor {owner : Kind} {n : String} {v : Value} (hn : isPublic n)
      (hv : s.kindOf v ≠ .library .slotEntry) (hdata : s.isDataEntry v) :
      Declares s ⟨owner, n, .entry (.value v)⟩ ⟨n, owner, false, .property⟩
  | constant {owner : Kind} {n : String} {v : Value} (hn : isPublic n)
      (hv : s.kindOf v ≠ .library .slotEntry) (hdata : ¬ s.isDataEntry v)
      (hclass : ∀ c, v ≠ .kind c) (hroutine : ¬ s.isRoutine v) :
      Declares s ⟨owner, n, .entry (.value v)⟩ ⟨n, owner, true, .attribute⟩

/-- Whether a kind declares a field before any other whose name folds alike. -/
def DeclaresFirst (s : Store) (k : Kind) (f : Field) : Prop :=
  ∃ before m rest, s.mentions k = before ++ m :: rest ∧ s.Declares m f ∧
    ∀ m' ∈ before, ∀ g, s.Declares m' g → foldCase g.name ≠ foldCase f.name

/-- Whether a kind declares a field before any whose name folds as that of another one. -/
def DeclaresAhead (s : Store) (k : Kind) (f g : Field) : Prop :=
  ∃ before m rest, s.mentions k = before ++ m :: rest ∧ s.Declares m f ∧
    ∀ m' ∈ before ++ [m], ∀ h, s.Declares m' h → foldCase h.name ≠ foldCase g.name

/-- The field that a mention declares, if it does. -/
def declared? (s : Store) (m : Mention) : Option Field :=
  match m.form with
  | .hint classWide =>
    if isPublic m.name then some ⟨m.name, m.owner, classWide, .attribute⟩ else none
  | .entry e => s.fieldOfEntry? m.owner m.name e

/-- A field that a mention gives is declared by it. -/
theorem declares_of_declared? (h : s.declared? m = some f) : s.Declares m f := by
  obtain ⟨owner, n, form⟩ := m
  cases form with
  | hint classWide =>
    simp only [declared?, Option.ite_none_right_eq_some, Option.some.injEq] at h
    obtain ⟨hn, rfl⟩ := h
    exact .hint hn
  | entry e =>
    simp only [declared?, fieldOfEntry?] at h
    split at h
    next => cases h
    next hn =>
    replace hn : isPublic n = true := by simpa using hn
    split at h
    next => cases h; exact .libraryProperty hn
    next => cases h; exact .librarySlot hn
    next => cases h
    next v =>
    -- The sorts of values are tried in turn, and what none of them takes is a constant.
    split at h
    next hv => cases h; exact .slot hn hv
    next hv =>
    split at h
    next hdata => cases h; exact .descriptor hn hv hdata
    next hdata =>
    split at h
    next => cases h
    next hclass =>
    split at h
    next => cases h
    next hroutine => cases h; exact .constant hn hv hdata hclass hroutine

/-- A mention gives the field that it declares. -/
theorem Declares.declared?_eq (h : s.Declares m f) : s.declared? m = some f := by
  cases h with
  | hint hn => simp [declared?, hn]
  | librarySlot hn | libraryProperty hn => simp [declared?, fieldOfEntry?, hn]
  | slot hn hv => simp [declared?, fieldOfEntry?, hn, hv]
  | descriptor hn hv hdata => simp [declared?, fieldOfEntry?, hn, hv, hdata]
  | constant hn hv hdata hclass hroutine =>
    simp [declared?, fieldOfEntry?, hn, hv, hdata, hroutine]

/-- The field that a mention declares is told by what stands there. -/
theorem declared?_eq_some_iff : s.declared? m = some f ↔ s.Declares m f :=
  ⟨declares_of_declared?, Declares.declared?_eq⟩

/-- The fields that are declared are those of the mentions that declare one. -/
theorem declaredFields_eq (s : Store) (k : Kind) :
    s.declaredFields k = (s.mentions k).filterMap s.declared? := by
  have hhints (owner : Kind) :
      s.hintedFields owner = (s.hints owner).filterMap fun h =>
        s.declared? ⟨owner, h.1, .hint h.2⟩ := by
    have hnames : s.hintedFields owner =
        ((s.hints owner).filter fun h => isPublic h.1).map
          fun h => ⟨h.1, owner, h.2, .attribute⟩ := by
      cases owner <;> rfl
    rw [hnames, ← List.filterMap_eq_map, List.filterMap_filter]
    rfl
  -- The listing goes through the exposed classes: those that speak for this kind.
  rw [mentions, ← flatMap_exposedLineage]
  simp only [declaredFields, List.filterMap_flatMap, List.filterMap_append, List.filterMap_map,
    hhints]
  rfl

/-- A kind's listing shows a field exactly if it is declared before any other whose name folds
    alike. -/
theorem mem_fields_iff : f ∈ s.fields k ↔ s.DeclaresFirst k f := by
  rw [fields, mem_firstBy_iff, declaredFields_eq]
  constructor
  · rintro ⟨before, rest, hsplit, hfirst⟩
    obtain ⟨l₁, l₂, hl, rfl, hf⟩ := List.filterMap_eq_append_iff.1 hsplit
    obtain ⟨passed, m, rest', rfl, hpassed, hm, -⟩ := List.filterMap_eq_cons_iff.1 hf
    refine ⟨l₁ ++ passed, m, rest', by simpa using hl, declared?_eq_some_iff.1 hm, ?_⟩
    intro m' hm' g hg
    rw [← declared?_eq_some_iff] at hg
    obtain hm' | hm' := List.mem_append.1 hm'
    · exact hfirst g (List.mem_filterMap.2 ⟨m', hm', hg⟩)
    · rw [hpassed m' hm'] at hg
      cases hg
  · rintro ⟨before, m, rest, hsplit, hm, hfirst⟩
    refine ⟨before.filterMap s.declared?, rest.filterMap s.declared?, ?_, fun g hg => ?_⟩
    · rw [hsplit, List.filterMap_append,
        List.filterMap_cons_some (declared?_eq_some_iff.2 hm)]
    · obtain ⟨m', hm', hg⟩ := List.mem_filterMap.1 hg
      exact hfirst m' hm' g (declared?_eq_some_iff.1 hg)

/-- A kind's listing shows its fields in the order of their first declarations. -/
theorem pairwise_fields (s : Store) (k : Kind) : (s.fields k).Pairwise (s.DeclaresAhead k) := by
  refine (pairwise_firstBy (s.declaredFields k) []).imp ?_
  rintro f g ⟨before, rest, hsplit, hahead⟩
  rw [declaredFields_eq] at hsplit
  obtain ⟨l₁, l₂, hl, rfl, hf⟩ := List.filterMap_eq_append_iff.1 hsplit
  obtain ⟨passed, m, rest', rfl, hpassed, hm, -⟩ := List.filterMap_eq_cons_iff.1 hf
  refine ⟨l₁ ++ passed, m, rest', by simpa using hl, declared?_eq_some_iff.1 hm, ?_⟩
  intro m' hm' h hh
  rw [← declared?_eq_some_iff] at hh
  simp only [List.append_assoc, List.mem_append, List.mem_singleton] at hm'
  obtain hm' | hm' | rfl := hm'
  · exact hahead h (by simp; exact .inl ⟨m', hm', hh⟩)
  · rw [hpassed m' hm'] at hh
    cases hh
  · rw [hm] at hh
    cases hh
    exact hahead f (by simp)

/-- A field is found exactly if it is declared before any other that the key stands for. -/
theorem findField?_eq_some_iff {key : Key} :
    s.findField? k key = some f ↔ s.DeclaresFirst k f ∧ foldCase f.name = key.folded := by
  constructor
  · intro h
    exact ⟨mem_fields_iff.1 (List.mem_of_find?_eq_some h), by simpa using List.find?_some h⟩
  · rintro ⟨hf, hkey⟩
    obtain ⟨before, rest, hsplit⟩ := List.append_of_mem (mem_fields_iff.2 hf)
    have hpairs := pairwise_fields s k
    rw [hsplit, List.pairwise_append] at hpairs
    rw [findField?, List.find?_eq_some_iff_append]
    refine ⟨by simpa using hkey, before, rest, hsplit, fun g hg => ?_⟩
    -- What is listed before is declared ahead of all that the key stands for.
    obtain ⟨_, m, _, -, hm, hahead⟩ := hpairs.2.2 g hg f List.mem_cons_self
    have hname : foldCase g.name ≠ foldCase f.name := hahead m (by simp) g hm
    simpa [hkey] using hname

/-- The first of the declarations of a name is listed. -/
theorem exists_declaresFirst (hm : m ∈ s.mentions k) (hg : s.Declares m g) :
    ∃ f, s.DeclaresFirst k f ∧ foldCase f.name = foldCase g.name := by
  have hdeclared : g ∈ s.declaredFields k := by
    rw [declaredFields_eq]
    exact List.mem_filterMap.2 ⟨m, hm, declared?_eq_some_iff.2 hg⟩
  have hfound : (s.findField? k (.ofText g.name)).isSome := by
    have hfind : s.findField? k (.ofText g.name) =
        (s.declaredFields k).find? fun f => foldCase f.name == foldCase g.name :=
      find?_firstBy (fun a b h => by rw [h]) (by simp) _
    rw [hfind, List.find?_isSome]
    exact ⟨g, hdeclared, by simp⟩
  obtain ⟨f, hf⟩ := Option.isSome_iff_exists.1 hfound
  obtain ⟨hfirst, hname⟩ := findField?_eq_some_iff.1 hf
  exact ⟨f, hfirst, hname⟩

/-- Of the fields that are declared first, one at most goes by a name. -/
theorem DeclaresFirst.unique (hf : s.DeclaresFirst k f) (hg : s.DeclaresFirst k g)
    (h : foldCase f.name = foldCase g.name) : f = g := by
  have hfound : s.findField? k (.ofText f.name) = some f := findField?_eq_some_iff.2 ⟨hf, rfl⟩
  have hfound' : s.findField? k (.ofText f.name) = some g :=
    findField?_eq_some_iff.2 ⟨hg, h.symm⟩
  exact Option.some.inj (hfound.symm.trans hfound')

end Store

/-! ### What a lookup answers -/

namespace Service

/-- A lookup of a field that remembers nothing answers with the declared field, or refuses. -/
theorem resolveField_eq (svc : ServiceId) (w : World) (k : Kind) (key : Key) :
    (resolveField svc k key (w.withResolver svc { enabled := false })).1 =
      (w.store.findField? k key).elim
        (.error (.engine (.noField key.name (w.store.typeName k)))) .ok := by
  have h := Inquiry.ask_eq_search svc (.field k key) w { enabled := false }
    (fun _ _ hf => (nomatch hf)) rfl
  rw [Inquiry.ask, Run.map_apply] at h
  revert h
  generalize (resolveField svc k key (w.withResolver svc { enabled := false })).1 = answer
  simp only [World.search, Inquiry.search, Inquiry.failure?, Inquiry.found?, Inquiry.missing]
  cases w.store.findField? k key <;> cases answer <;> simp [Except.map]

/-- **The first declaration counts.** The classes of a kind are gone through along its line of
    descent, and in each the hints before the entries. A lookup that remembers nothing answers with
    the first field declared there whose name folds as the key does, and refuses, and only so, if
    there is none. The listing shows the first field declared under each folded name: these and no
    others, one for each, and in the order of those declarations. -/
theorem resolveField_eq_first (svc : ServiceId) (w : World) (k : Kind) (key : Key) :
    let s := w.store
    let answer := (resolveField svc k key (w.withResolver svc { enabled := false })).1
    (∀ f, answer = .ok f ↔ s.DeclaresFirst k f ∧ foldCase f.name = key.folded) ∧
      (∀ e, answer = .error e ↔ e = .engine (.noField key.name (s.typeName k)) ∧
        ∀ m ∈ s.mentions k, ∀ f, s.Declares m f → foldCase f.name ≠ key.folded) ∧
      (∀ f, f ∈ s.fields k ↔ s.DeclaresFirst k f) ∧
      (∀ m ∈ s.mentions k, ∀ f, s.Declares m f →
        ∃! g, g ∈ s.fields k ∧ foldCase g.name = foldCase f.name) ∧
      (s.fields k).Pairwise (s.DeclaresAhead k) := by
  intro s answer
  have hanswer : answer = _ := resolveField_eq svc w k key
  have hfound (f : Field) :
      s.findField? k key = some f ↔ s.DeclaresFirst k f ∧ foldCase f.name = key.folded :=
    Store.findField?_eq_some_iff
  have hnone : s.findField? k key = none ↔
      ∀ m ∈ s.mentions k, ∀ f, s.Declares m f → foldCase f.name ≠ key.folded := by
    rw [Option.eq_none_iff_forall_ne_some]
    constructor
    · intro h m hm f hf hkey
      -- A field that is declared later has one before it that is the first of its name.
      obtain ⟨g, hg, hname⟩ := Store.exists_declaresFirst hm hf
      exact h g ((hfound g).2 ⟨hg, hname.trans hkey⟩)
    · intro h f hf
      obtain ⟨⟨before, m, rest, hsplit, hm, -⟩, hkey⟩ := (hfound f).1 hf
      exact h m (by simp [hsplit]) f hm hkey
  refine ⟨fun f => ?_, fun e => ?_, fun f => Store.mem_fields_iff, fun m hm f hf => ?_,
    Store.pairwise_fields s k⟩
  · rw [hanswer, ← hfound f]
    cases s.findField? k key <;> simp
  · rw [hanswer, ← hnone]
    cases s.findField? k key <;> simp [eq_comm, s]
  · obtain ⟨g, hg, hname⟩ := Store.exists_declaresFirst hm hf
    refine ⟨g, ⟨Store.mem_fields_iff.2 hg, hname⟩, ?_⟩
    rintro g' ⟨hg', hname'⟩
    exact (Store.mem_fields_iff.1 hg').unique hg (hname'.trans hname.symm)

/-- A class with a hint and a constant, and a descendant that speaks of the first name once more,
    spelled otherwise. -/
def savings : World where
  store :=
    { classes := #[
        { name := "Account", qualifiedName := "Account", home := some "host",
          bases := [.library .object], lineage := [.declared 0, .library .object],
          metaclass := .type, hints := ⟨[("total", false)]⟩, attrs := ⟨[("rate", .int 3)]⟩ },
        { name := "Savings", qualifiedName := "Savings", home := some "host",
          bases := [.declared 0], lineage := [.declared 1, .declared 0, .library .object],
          metaclass := .type, attrs := ⟨[("TOTAL", .int 0)]⟩ }] }

/-- The descendant's own declaration of a field hides the inherited one, whatever the key's case. A
    field that it does not redeclare is the inherited one. -/
theorem resolveField_eq_first_savings :
    let s := savings.store
    let total : Field := ⟨"TOTAL", .declared 1, true, .attribute⟩
    let rate : Field := ⟨"rate", .declared 0, true, .attribute⟩
    let answer (name : String) := (resolveField .main (.declared 1) (.ofText name)
      (savings.withResolver .main { enabled := false })).1
    s.mentions (.declared 1) = [⟨.declared 1, "TOTAL", .entry (.value (.int 0))⟩,
        ⟨.declared 0, "total", .hint false⟩, ⟨.declared 0, "rate", .entry (.value (.int 3))⟩] ∧
      answer "Total" = .ok total ∧ answer "RATE" = .ok rate := by
  intro s total rate answer
  let own : Mention := ⟨.declared 1, "TOTAL", .entry (.value (.int 0))⟩
  let hidden : Mention := ⟨.declared 0, "total", .hint false⟩
  let inherited : Mention := ⟨.declared 0, "rate", .entry (.value (.int 3))⟩
  have hmentions : s.mentions (.declared 1) = [own, hidden, inherited] := rfl
  have hown : s.declared? own = some total := by decide +kernel
  have hhidden : s.declared? hidden = some ⟨"total", .declared 0, false, .attribute⟩ := by
    decide +kernel
  have hinherited : s.declared? inherited = some rate := by decide +kernel
  -- What the descendant declares comes first, and what it inherits under another name counts.
  have htotal : s.DeclaresFirst (.declared 1) total :=
    ⟨[], own, _, hmentions, Store.declares_of_declared? hown, by simp⟩
  have hrate : s.DeclaresFirst (.declared 1) rate := by
    refine ⟨[own, hidden], inherited, [], hmentions, Store.declares_of_declared? hinherited, ?_⟩
    intro m hm g hg
    have hother : foldCase "TOTAL" ≠ foldCase "rate" ∧ foldCase "total" ≠ foldCase "rate" := by
      decide +kernel
    obtain rfl | rfl : m = own ∨ m = hidden := by simpa using hm
    · cases hown.symm.trans hg.declared?_eq
      exact hother.1
    · cases hhidden.symm.trans hg.declared?_eq
      exact hother.2
  refine ⟨hmentions, ?_, ?_⟩
  · exact ((resolveField_eq_first .main savings (.declared 1) (.ofText "Total")).1 total).2
      ⟨htotal, by decide +kernel⟩
  · exact ((resolveField_eq_first .main savings (.declared 1) (.ofText "RATE")).1 rate).2
      ⟨hrate, by decide +kernel⟩

end Service

end ScriptBridge
