import ScriptBridge.Config

namespace ScriptBridge

/-!
# The settings that a document describes

A document that keeps to the schema is nothing or a map, and so is the section in it; each setting
that it gives has its type. Reading settings asks a little less: a section may also be any other
document that says nothing, such as an empty list.

* `Document.Section` are the entries of a document as a section, where a predicate tells which
  documents stand for a section that is not there;
* `Config.Describes` tells the settings that a document describes, `Config.Misfit` an option that a
  document gives the wrong type;
* `Config.ofDocument_eq_ok_iff`: settings are read exactly from the documents that describe them;
* `Config.Strays` are the documents of which reading and schema make different things;
* `Config.reads_schema_or_hollow` puts these together.
-/

namespace Document

variable {entries : List (Document × Document)} {name : String}

/-! ### Sections -/

/-- Whether a document is nothing. -/
def IsNull (d : Document) : Prop := d = .null

/-- Whether a document says nothing: it is nothing, falsehood, zero or empty. -/
def SaysNothing (d : Document) : Prop := d.isGiven = false

/-- Whether a document says nothing, but is neither nothing nor a map. -/
def IsHollow (d : Document) : Prop :=
  d.SaysNothing ∧ ¬ d.IsNull ∧ ∀ entries, d ≠ .map entries

/-- The entries of a document as a section: those of a map, and none where the document stands for a
    section that is not there. -/
inductive Section (absent : Document → Prop) : Document → List (Document × Document) → Prop where
  | map (entries : List (Document × Document)) : Section absent (.map entries) entries
  | absent {d : Document} : absent d → Section absent d []

/-- Whether a section gives a setting a value: the one under the name of the setting, or the default
    where nothing stands there. `form` makes a document of a value. -/
def Sets {α : Type} (entries : List (Document × Document)) (name : String) (form : α → Document)
    (fallback a : α) : Prop :=
  (lookup? entries name).elim (a = fallback) (· = form a)

/-- Nothing says nothing. -/
theorem IsNull.saysNothing {d : Document} (h : d.IsNull) : d.SaysNothing := by
  rw [h]
  rfl

/-- A map that says nothing is empty. -/
theorem eq_nil_of_saysNothing (h : (map entries).SaysNothing) : entries = [] := by
  simpa [SaysNothing, isGiven] using h

/-- The more documents stand for a section that is not there, the more are sections. -/
theorem Section.mono {absent absent' : Document → Prop} {d : Document}
    (h : Section absent d entries) (hsub : ∀ d, absent d → absent' d) :
    Section absent' d entries := by
  cases h with
  | map => exact .map entries
  | absent ha => exact .absent (hsub d ha)

/-- What is not hollow is a section of the schema, if it is a section at all. -/
theorem Section.isNull {d : Document} (h : Section SaysNothing d entries) (hd : ¬ d.IsHollow) :
    Section IsNull d entries := by
  cases h with
  | map => exact .map entries
  | absent hsilent =>
    by_cases hnull : d.IsNull
    · exact .absent hnull
    · by_cases hmap : ∃ e, d = .map e
      · -- A map that says nothing has no entries.
        obtain ⟨e, rfl⟩ := hmap
        cases eq_nil_of_saysNothing hsilent
        exact .map []
      · exact absurd ⟨hsilent, hnull, fun e he => hmap ⟨e, he⟩⟩ hd

/-- What is hollow is no section of the schema. -/
theorem IsHollow.not_section {d : Document} (h : d.IsHollow) : ¬ Section IsNull d entries := by
  intro hs
  cases hs with
  | map => exact h.2.2 entries rfl
  | absent hnull => exact h.2.1 hnull

/-! ### Entries -/

/-- The entries of a section under some names. -/
def pick (names : List String) (entries : List (Document × Document)) :
    List (Document × Document) :=
  entries.filter fun e => names.any e.1.isText

/-- What stands under a name does not depend on what stands under others. -/
theorem lookup?_pick {names : List String} (h : name ∈ names) :
    lookup? (pick names entries) name = lookup? entries name := by
  -- An entry of the name passes the filter, so looking for it among those left is the same search.
  have hboth : (fun e : Document × Document => decide (names.any e.1.isText ∧ e.1.isText name)) =
      fun e => e.1.isText name := by
    funext e
    have hany : e.1.isText name = true → names.any e.1.isText = true := fun he =>
      List.any_eq_true.2 ⟨name, h, he⟩
    cases he : e.1.isText name with
    | true => simp [hany he]
    | false => simp
  rw [lookup?, pick, ← List.filter_reverse, List.find?_filter, hboth, lookup?]

/-- An entry that is added comes before those of the same name, and hides no other. -/
theorem lookup?_concat (key d : Document) :
    lookup? (entries ++ [(key, d)]) name =
      if key.isText name then some d else lookup? entries name := by
  cases h : key.isText name <;> simp [lookup?, h]

end Document

namespace Config

open Document

/-! ### What documents describe -/

/-- Whether a document describes settings, where `absent` tells the documents that stand for a
    section that is not there. Entries of other names do not count. -/
def Describes (absent : Document → Prop) (d : Document) (c : Config) : Prop :=
  ∃ root interop, Section absent d root ∧
    Section absent ((lookup? root "interop").getD .null) interop ∧
    Sets root "debug" .bool false c.debug ∧
    Sets interop "handles_cache_enabled" .bool true c.cacheEnabled ∧
    Sets interop "max_diagnostic_keys" .int 50 c.listingLimit

/-- Whether a document gives an option something that is not of the type that is expected there. -/
inductive Misfit (d : Document) : (option expected : String) → Document → Prop where
  | root : d.isGiven → (∀ entries, d ≠ .map entries) → Misfit d "<root>" "mapping" d
  | interop {root : List (Document × Document)} {x : Document} :
      Section SaysNothing d root → lookup? root "interop" = some x →
      x.isGiven → (∀ entries, x ≠ .map entries) → Misfit d "interop" "mapping" x
  | debug {root : List (Document × Document)} {x : Document} :
      Section SaysNothing d root → lookup? root "debug" = some x →
      (∀ b, x ≠ .bool b) → Misfit d "debug" "bool" x
  | cacheEnabled {root interop : List (Document × Document)} {x : Document} :
      Section SaysNothing d root →
      Section SaysNothing ((lookup? root "interop").getD .null) interop →
      lookup? interop "handles_cache_enabled" = some x →
      (∀ b, x ≠ .bool b) → Misfit d "interop.handles_cache_enabled" "bool" x
  | listingLimit {root interop : List (Document × Document)} {x : Document} :
      Section SaysNothing d root →
      Section SaysNothing ((lookup? root "interop").getD .null) interop →
      lookup? interop "max_diagnostic_keys" = some x →
      (∀ n, x ≠ .int n) → Misfit d "interop.max_diagnostic_keys" "int" x

/-- Whether settings are read from a document that does not keep to the schema: it is hollow itself,
    or the section in it is and the one setting beside that section is right. -/
def Strays (d : Document) : Prop :=
  d.IsHollow ∨ ∃ root x b, d = .map root ∧ lookup? root "interop" = some x ∧ x.IsHollow ∧
    Sets root "debug" .bool false b

/-! ### Reading one option -/

/-- Whether reading an option gives the value of a document of the right form, and refuses every
    other document with the option, the expected type and the type of what is there. -/
def Checks {α : Type} (read : Document → Except Reason α) (form : α → Document)
    (option expected : String) : Prop :=
  (∀ a, read (form a) = .ok a) ∧
    ∀ d, (∀ a, d ≠ form a) → read d = .error (.configType option expected d.typeName)

/-- An option that turns something on or off is checked for its type and named in the error. -/
theorem checks_readBool (option : String) : Checks (readBool option) .bool option "bool" := by
  refine ⟨fun b => rfl, fun d h => ?_⟩
  cases d with
  | bool b => exact absurd rfl (h b)
  | _ => rfl

/-- An option that is a number is checked for its type and named in the error. -/
theorem checks_readInt (option : String) : Checks (readInt option) .int option "int" := by
  refine ⟨fun n => rfl, fun d h => ?_⟩
  cases d with
  | int n => exact absurd rfl (h n)
  | _ => rfl

section Setting

variable {α : Type} {read : Document → Except Reason α} {form : α → Document}
  {option expected name : String} {entries : List (Document × Document)} {fallback a : α}

/-- A setting is read as the value that its section gives it. -/
theorem setting_of_sets (h : Checks read form option expected)
    (hs : Sets entries name form fallback a) : setting entries name fallback read = .ok a := by
  unfold Sets at hs
  unfold setting
  cases hx : lookup? entries name with
  | none =>
    rw [hx] at hs
    exact congrArg Except.ok hs.symm
  | some x =>
    rw [hx] at hs
    obtain rfl : x = form a := hs
    exact h.1 a

/-- A setting has a value, or its section gives it something of another type, which is refused. -/
theorem setting_cases (h : Checks read form option expected)
    (entries : List (Document × Document)) (name : String) (fallback : α) :
    (∃ a, Sets entries name form fallback a) ∨
      ∃ x, lookup? entries name = some x ∧ (∀ a, x ≠ form a) ∧
        setting entries name fallback read = .error (.configType option expected x.typeName) := by
  unfold Sets setting
  cases lookup? entries name with
  | none => exact .inl ⟨fallback, rfl⟩
  | some x =>
    -- A document of the right form gives the value. Any other is refused.
    by_cases hx : ∃ a, x = form a
    · exact .inl hx
    · have hno : ∀ a, x ≠ form a := fun a ha => hx ⟨a, ha⟩
      exact .inr ⟨x, rfl, hno, h.2 x hno⟩

end Setting

/-- The entries of a section are read. -/
theorem readMap_of_section {d : Document} {entries : List (Document × Document)} (option : String)
    (h : Section SaysNothing d entries) : readMap option d = .ok entries := by
  cases h with
  | map => cases entries <;> rfl
  | absent hd =>
    unfold readMap
    rw [show d.isGiven = false from hd]
    rfl

/-- What is no section says something and is no map, and it is refused. -/
theorem readMap_cases (option : String) (d : Document) :
    (∃ entries, Section SaysNothing d entries) ∨
      d.isGiven ∧ (∀ entries, d ≠ .map entries) ∧
        readMap option d = .error (.configType option "mapping" d.typeName) := by
  cases hd : d.isGiven with
  | false => exact .inl ⟨[], .absent hd⟩
  -- What says something is a map, or it is refused.
  | true =>
    by_cases hmap : ∃ entries, d = .map entries
    · obtain ⟨entries, rfl⟩ := hmap
      exact .inl ⟨entries, .map entries⟩
    · have hno : ∀ entries, d ≠ .map entries := fun e he => hmap ⟨e, he⟩
      refine .inr ⟨rfl, hno, ?_⟩
      unfold readMap
      rw [hd]
      cases d with
      | map entries => exact absurd rfl (hno entries)
      | _ => rfl

/-! ### Reading a document -/

/-- Once both sections are there, the settings are what is left to read. -/
theorem ofDocument_of_sections {d : Document} {root interop : List (Document × Document)}
    (hroot : Section SaysNothing d root)
    (hinterop : Section SaysNothing ((lookup? root "interop").getD .null) interop) :
    ofDocument d = do
      let debug ← setting root "debug" false (readBool "debug")
      let cacheEnabled ← setting interop "handles_cache_enabled" true
        (readBool "interop.handles_cache_enabled")
      let listingLimit ← setting interop "max_diagnostic_keys" Listing.defaultLimit
        (readInt "interop.max_diagnostic_keys")
      return { cacheEnabled, debug, listingLimit } := by
  unfold ofDocument
  rw [readMap_of_section "<root>" hroot]
  show (do let interop ← readMap "interop" _; _) = _
  rw [readMap_of_section "interop" hinterop]
  rfl

/-- The settings that a document describes are read from it. -/
theorem ofDocument_of_describes {d : Document} {c : Config} (h : Describes SaysNothing d c) :
    ofDocument d = .ok c := by
  obtain ⟨root, interop, hroot, hinterop, hdebug, hcache, hlimit⟩ := h
  -- The settings are read in this order, so the first that is wrong would be the one refused.
  rw [ofDocument_of_sections hroot hinterop, setting_of_sets (checks_readBool _) hdebug,
    setting_of_sets (checks_readBool _) hcache, Listing.defaultLimit,
    setting_of_sets (checks_readInt _) hlimit]
  rfl

/-- A document and the section in it are sections, or it is refused because one of them is not. -/
theorem sections_cases (d : Document) :
    (∃ root interop, Section SaysNothing d root ∧
        Section SaysNothing ((lookup? root "interop").getD .null) interop) ∨
      ∃ option expected x, Misfit d option expected x ∧
        ofDocument d = .error (.configType option expected x.typeName) := by
  -- The document is read before the section in it.
  rcases readMap_cases "<root>" d with ⟨root, hroot⟩ | ⟨hgiven, hmap, hread⟩
  · rcases readMap_cases "interop" ((lookup? root "interop").getD .null) with
      ⟨interop, hinterop⟩ | ⟨hgiven, hmap, hread⟩
    · exact .inl ⟨root, interop, hroot, hinterop⟩
    · -- A section that is missing is nothing, so this one is there.
      cases hx : lookup? root "interop" with
      | none =>
        rw [hx] at hgiven
        cases hgiven
      | some x =>
        rw [hx] at hgiven hmap hread
        refine .inr ⟨_, _, x, .interop hroot hx hgiven hmap, ?_⟩
        unfold ofDocument
        rw [readMap_of_section "<root>" hroot]
        show (do let interop ← readMap "interop" _; _) = _
        rw [hx, hread]
        rfl
  · refine .inr ⟨_, _, d, .root hgiven hmap, ?_⟩
    unfold ofDocument
    rw [hread]
    rfl

/-- A document describes settings, or it is refused for an option that it gives the wrong type. -/
theorem ofDocument_cases (d : Document) :
    (∃ c, Describes SaysNothing d c) ∨
      ∃ option expected x, Misfit d option expected x ∧
        ofDocument d = .error (.configType option expected x.typeName) := by
  rcases sections_cases d with ⟨root, interop, hroot, hinterop⟩ | hmisfit
  · have hread := ofDocument_of_sections hroot hinterop
    -- The settings are gone through in the order in which they are read.
    rcases setting_cases (checks_readBool "debug") root "debug" false with
      ⟨debug, hdebug⟩ | ⟨x, hx, hform, herror⟩
    · rw [setting_of_sets (checks_readBool _) hdebug] at hread
      rcases setting_cases (checks_readBool "interop.handles_cache_enabled") interop
        "handles_cache_enabled" true with ⟨cache, hcache⟩ | ⟨x, hx, hform, herror⟩
      · rw [setting_of_sets (checks_readBool _) hcache] at hread
        rcases setting_cases (checks_readInt "interop.max_diagnostic_keys") interop
          "max_diagnostic_keys" Listing.defaultLimit with ⟨limit, hlimit⟩ | ⟨x, hx, hform, herror⟩
        · exact .inl ⟨⟨cache, debug, limit⟩, root, interop, hroot, hinterop, hdebug, hcache, hlimit⟩
        · rw [herror] at hread
          exact .inr ⟨_, _, x, .listingLimit hroot hinterop hx hform, hread⟩
      · rw [herror] at hread
        exact .inr ⟨_, _, x, .cacheEnabled hroot hinterop hx hform, hread⟩
    · rw [herror] at hread
      exact .inr ⟨_, _, x, .debug hroot hx hform, hread⟩
  · exact .inr hmisfit

/-- **What is accepted.** Settings are read from a document exactly if it describes them. -/
theorem ofDocument_eq_ok_iff {d : Document} {c : Config} :
    ofDocument d = .ok c ↔ Describes SaysNothing d c := by
  refine ⟨fun h => ?_, ofDocument_of_describes⟩
  rcases ofDocument_cases d with ⟨c', hc'⟩ | ⟨_, _, _, -, herror⟩
  · obtain rfl : c' = c := by
      have hboth := (ofDocument_of_describes hc').symm.trans h
      cases hboth
      rfl
    exact hc'
  · rw [herror] at h
    cases h

/-- **What is refused.** The error names an option that the document gives the wrong type, what is
    expected there and what is there. -/
theorem misfit_of_error {d : Document} {r : Reason} (h : ofDocument d = .error r) :
    ∃ option expected x, Misfit d option expected x ∧
      r = .configType option expected x.typeName := by
  rcases ofDocument_cases d with ⟨c, hc⟩ | ⟨option, expected, x, hmisfit, herror⟩
  · rw [ofDocument_of_describes hc] at h
    cases h
  · rw [herror] at h
    cases h
    exact ⟨option, expected, x, hmisfit, rfl⟩

/-! ### Where reading departs from the schema -/

/-- What the schema lets a document describe is described when hollow sections are let pass too. -/
theorem Describes.saysNothing {d : Document} {c : Config} (h : Describes IsNull d c) :
    Describes SaysNothing d c := by
  obtain ⟨root, interop, hroot, hinterop, hsets⟩ := h
  have hsub : ∀ d : Document, d.IsNull → d.SaysNothing := fun _ => IsNull.saysNothing
  exact ⟨root, interop, hroot.mono hsub, hinterop.mono hsub, hsets⟩

/-- A document that does not stray describes by the schema what it describes. -/
theorem Describes.isNull {d : Document} {c : Config} (h : Describes SaysNothing d c)
    (hd : ¬ Strays d) : Describes IsNull d c := by
  obtain ⟨root, interop, hroot, hinterop, hdebug, hsets⟩ := h
  have hroot' := hroot.isNull fun hollow => hd (.inl hollow)
  refine ⟨root, interop, hroot', hinterop.isNull ?_, hdebug, hsets⟩
  intro hollow
  cases hx : lookup? root "interop" with
  | none =>
    -- A section that is missing is nothing, which is not hollow.
    rw [hx] at hollow
    exact hollow.2.1 rfl
  | some x =>
    rw [hx] at hollow
    cases hroot with
    | map => exact hd (.inr ⟨root, x, c.debug, rfl, hx, hollow, hdebug⟩)
    | absent => cases hx

/-- A document that strays describes settings, but none by the schema. -/
theorem Strays.describes {d : Document} (h : Strays d) :
    (∃ c, Describes SaysNothing d c) ∧ ∀ c, ¬ Describes IsNull d c := by
  rcases h with hollow | ⟨root, x, b, rfl, hx, hollow, hdebug⟩
  · refine ⟨⟨{}, [], [], .absent hollow.1, .absent rfl, rfl, rfl, rfl⟩, ?_⟩
    rintro c ⟨root, interop, hroot, -⟩
    exact hollow.not_section hroot
  · have hinterop : Section SaysNothing ((lookup? root "interop").getD .null) [] := by
      rw [hx]
      exact .absent hollow.1
    refine ⟨⟨{ debug := b }, root, [], .map root, hinterop, hdebug, rfl, rfl⟩, ?_⟩
    rintro c ⟨root', interop, hroot, hinterop', -⟩
    cases hroot with
    | map =>
      rw [hx] at hinterop'
      exact hollow.not_section hinterop'
    | absent hnull => cases hnull

/-! ### Entries that are no settings -/

/-- Only two entries of a document count. -/
theorem ofDocument_pick (root : List (Document × Document)) :
    ofDocument (.map (pick ["interop", "debug"] root)) = ofDocument (.map root) := by
  unfold ofDocument
  rw [readMap_of_section "<root>" (.map root), readMap_of_section "<root>" (.map (pick _ root))]
  show (do let interop ← readMap "interop" _; _) = (do let interop ← readMap "interop" _; _)
  have hdebug : setting (pick ["interop", "debug"] root) "debug" false (readBool "debug") =
      setting root "debug" false (readBool "debug") := by
    unfold setting
    rw [lookup?_pick (by simp)]
  rw [lookup?_pick (by simp), hdebug]

/-- Only two entries of the section in a document count. -/
theorem ofDocument_pick_section {root interop : List (Document × Document)}
    (h : lookup? root "interop" = some (.map interop)) :
    ofDocument (.map (root ++ [(.text "interop",
        .map (pick ["handles_cache_enabled", "max_diagnostic_keys"] interop))])) =
      ofDocument (.map root) := by
  generalize hpick : pick ["handles_cache_enabled", "max_diagnostic_keys"] interop = picked
  have hroot : lookup? (root ++ [(.text "interop", .map picked)]) "interop" =
      some (.map picked) := by
    rw [lookup?_concat]
    rfl
  have hdebug : lookup? (root ++ [(.text "interop", .map picked)]) "debug" =
      lookup? root "debug" := by
    rw [lookup?_concat]
    rfl
  rw [ofDocument_of_sections (.map root) (by rw [h]; exact .map interop),
    ofDocument_of_sections (.map _) (by rw [hroot]; exact .map picked)]
  unfold setting
  rw [hdebug, ← hpick, lookup?_pick (by simp), lookup?_pick (by simp)]

/-- **The schema, and what passes beside it.** Settings are read from a document exactly if it
    describes them: it and the section in it are maps or say nothing, and each setting that is given
    has its type; the values are those that are given, and the defaults for what is missing. Every
    other document is refused for an option of the wrong type. This is the schema, which lets
    nothing but `null` stand for a section, except where the document is hollow or the section in it
    is: those should be refused. Other entries do not count. -/
theorem reads_schema_or_hollow (d : Document) :
    (∀ c, ofDocument d = .ok c ↔ Describes SaysNothing d c) ∧
      (∀ r, ofDocument d = .error r → r.kind = .validationError ∧
        ∃ option expected x, Misfit d option expected x ∧
          r = .configType option expected x.typeName) ∧
      ((∀ c, ofDocument d = .ok c ↔ Describes IsNull d c) ↔ ¬ Strays d) ∧
      ∀ root, d = .map root →
        ofDocument (.map (pick ["interop", "debug"] root)) = ofDocument d ∧
          ∀ interop, lookup? root "interop" = some (.map interop) →
            ofDocument (.map (root ++ [(.text "interop",
                .map (pick ["handles_cache_enabled", "max_diagnostic_keys"] interop))])) =
              ofDocument d := by
  -- Documents are read exactly as described, so the parts compare two descriptions.
  refine ⟨fun c => ofDocument_eq_ok_iff, fun r h => ?_, ⟨fun h hd => ?_, fun hd c => ?_⟩, ?_⟩
  · obtain ⟨option, expected, x, hmisfit, rfl⟩ := misfit_of_error h
    exact ⟨rfl, option, expected, x, hmisfit, rfl⟩
  · -- What strays is read, and so it would be described by the schema.
    obtain ⟨⟨c, hc⟩, hno⟩ := hd.describes
    exact hno c ((h c).1 (ofDocument_of_describes hc))
  · rw [ofDocument_eq_ok_iff]
    exact ⟨fun h => h.isNull hd, Describes.saysNothing⟩
  · rintro root rfl
    exact ⟨ofDocument_pick root, fun interop => ofDocument_pick_section⟩

/-- A document with a section, both with an entry that is no setting. -/
def workshopSettings : Document :=
  .map [(.text "debug", .bool true),
    (.text "interop", .map [(.text "max_diagnostic_keys", .int 5), (.text "colour", .text "red")]),
    (.text "unrelated", .int 1)]

/-- A document with a list for a section. -/
def listForSection (items : List Document) : Document := .map [(.text "interop", .list items)]

theorem workshopSettings_keeps : ¬ Strays workshopSettings := by
  rintro (hollow | ⟨root, x, b, hroot, hx, hollow, -⟩)
  · exact hollow.2.2 _ rfl
  · cases hroot
    cases hx
    exact hollow.2.2 _ rfl

/-- The settings that are given are read, a list of numbers for a section is refused, and what is no
    setting does not count. -/
theorem reads_schema_or_hollow_workshop :
    Describes IsNull workshopSettings { debug := true, listingLimit := 5 } ∧
      (∃ option expected x, Misfit (listForSection [.int 1, .int 2]) option expected x ∧
        Reason.configType "interop" "mapping" "list" = .configType option expected x.typeName) ∧
      ofDocument (.map [(.text "interop", .map [(.text "colour", .text "red")]),
          (.text "interop", .map [])]) =
        ofDocument (.map [(.text "interop", .map [(.text "colour", .text "red")])]) := by
  obtain ⟨-, -, hschema, -⟩ := reads_schema_or_hollow workshopSettings
  obtain ⟨-, hrefused, -⟩ := reads_schema_or_hollow (listForSection [.int 1, .int 2])
  obtain ⟨-, -, -, hother⟩ := reads_schema_or_hollow
    (.map [(.text "interop", .map [(.text "colour", .text "red")])])
  exact ⟨(hschema.2 workshopSettings_keeps _).1 rfl, (hrefused _ rfl).2, (hother _ rfl).2 _ rfl⟩

/-- Settings are read from a document with an empty list for a section, which describes none. -/
theorem settings_of_empty_list :
    ofDocument (listForSection []) = .ok {} ∧ ∀ c, ¬ Describes IsNull (listForSection []) c := by
  refine ⟨rfl, ?_⟩
  rintro c ⟨root, interop, hroot, hinterop, -⟩
  cases hroot with
  | map =>
    cases hinterop with
    | absent h => cases h
  | absent h => cases h

end Config

end ScriptBridge
