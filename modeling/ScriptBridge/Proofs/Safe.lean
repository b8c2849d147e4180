import ScriptBridge.Eval
import ScriptBridge.Proofs.Misses

namespace ScriptBridge

/-!
# Safe requests

A safe request gives the absent value where a strict one is refused because it found nothing. Apart
from that the two do the same, as long as no declared class is told which of them it is asked for.
The refusal lists the keys that there are, and listing them may run host code that a safe request
does without.

* `Run.AgreesUnless` tells that two operations run alike, or else something is the case;
* `Service.serve_agreesUnless` is the invariant along the wrappers of a target: a safe and a strict
  request run alike, or else they miss;
* `Shelf.Plain` tells that listing keys runs no host code;
* `safe_extends`: a request that misses is absent if it is safe and refused if it is strict, and one
  that does not miss ends alike.
-/

/-! ### Operations that run alike -/

namespace Run

variable {α : Type} {p q : Prop} {x y : Run Value} {w : World}

/-- Whether two operations run alike at a world, unless something else is the case. -/
def AgreesUnless (p : Prop) (x y : Run Value) (w : World) : Prop := x w = y w ∨ p

namespace AgreesUnless

/-- A request agrees with itself, whatever is missed. -/
theorem refl (x : Run Value) : AgreesUnless p x x w := .inl rfl

/-- What else is the case may be said more weakly. -/
theorem imp (h : AgreesUnless p x y w) (hpq : p → q) : AgreesUnless q x y w := Or.imp_right hpq h

/-- Only how the operations run at the world counts. -/
theorem congr (h : AgreesUnless p x y w) {x' y' : Run Value} (hx : x' w = x w) (hy : y' w = y w) :
    AgreesUnless p x' y' w :=
  h.imp_left fun h => by rw [hx, hy, h]

/-- The two may part only after what they have in common. -/
theorem bind {z : Run α} {f g : α → Run Value}
    (h : ∀ a u, z w = (.ok a, u) → AgreesUnless p (f a) (g a) u) :
    AgreesUnless p (z >>= f) (z >>= g) w := by
  rcases hz : z w with ⟨e | a, u⟩
  · exact .inl (by rw [bind_of_error hz, bind_of_error hz])
  · exact (h a u hz).imp_left fun h => by rw [bind_of_ok hz, bind_of_ok hz, h]

/-- What follows the two is the same, so they agree as long as they did before it. -/
theorem andThen (h : AgreesUnless p x y w) (f : Value → Run Value) :
    AgreesUnless p (x >>= f) (y >>= f) w :=
  h.imp_left fun h => by rw [bind_apply, bind_apply, h]

/-- Both branches of a test count, each where it is taken. -/
theorem ite {c : Prop} [Decidable c] {x₁ x₂ y₁ y₂ : Run Value}
    (ht : c → AgreesUnless p x₁ y₁ w) (he : ¬ c → AgreesUnless p x₂ y₂ w) :
    AgreesUnless p (if c then x₁ else x₂) (if c then y₁ else y₂) w := by
  by_cases h : c
  · rw [if_pos h, if_pos h]
    exact ht h
  · rw [if_neg h, if_neg h]
    exact he h

/-- A safe and a strict index are the same, unless a key misses the place. -/
theorem readIndex (k : Key) (size : Int) (f : Option Int → Run Value)
    (hp : ∀ m, k.MissesPlace size m → p) :
    AgreesUnless p (orFail (k.readIndex size false) >>= f) (orFail (k.readIndex size true) >>= f)
      w := by
  cases hk : k.reading with
  | tooLong => exact .inl (by simp [Key.readIndex, hk])
  | word => exact .inr (hp _ (.word hk))
  | index i =>
    by_cases hi : i < 1 ∨ size < i
    · exact .inr (hp _ (.outside hk hi))
    · exact .inl (by simp [Key.readIndex, hk, hi])

end AgreesUnless

end Run

/-! ### Values that answer for themselves -/

namespace Container

open Run Host

variable {call : Call} {w : World} {v scope args : Value} {key : Key} {l : LibraryKind}

/-- A struct looks at the flag only where it has no such key. -/
theorem readStruct_agreesUnless {items : OrderedMap Key Value} {card : Option Value}
    (hbody : w.store.body? v = some (.struct items card)) :
    AgreesUnless (∃ m u, Lacks call v scope key w .struct m u)
      (readStruct call v items key false) (readStruct call v items key true) w := by
  unfold readStruct
  refine .ite (fun _ => .refl _) fun hmeta => ?_
  cases hkey : items.get? key with
  | some x => exact .refl _
  | none => exact .inr ⟨_, _, .struct hbody hmeta hkey⟩

/-- An array looks at the flag only where a key misses its places. -/
theorem readArray_agreesUnless {items : List Value} {card : Option Value}
    (hbody : w.store.body? v = some (.array items card)) :
    AgreesUnless (∃ m u, Lacks call v scope key w .array m u)
      (readArray call v items key false) (readArray call v items key true) w := by
  unfold readArray
  refine .ite (fun _ => .refl _) fun hmeta => .ite (fun _ => .refl _) fun hlength => ?_
  exact .readIndex key _ _ fun m hplace => ⟨m, w, .array hbody hmeta hlength hplace⟩

/-- A scripted instance reads its public members safely in any case, and looks at the flag only
    where they have no such key. -/
theorem readScripted_agreesUnless (v scope : Value) (key : Key) :
    AgreesUnless (∃ m u, Lacks call v scope key w .scripted m u)
      (readScripted call v scope key false) (readScripted call v scope key true) w := by
  by_cases hmeta : key.same .metadata
  · exact .inl (by rw [readScripted, readScripted, if_pos hmeta, if_pos hmeta])
  · unfold readScripted
    rw [if_neg hmeta, if_neg hmeta]
    refine .bind fun members u hmembers => .bind fun found u' hfound => ?_
    by_cases h : found = .absent
    · subst h
      exact .inr ⟨_, _, .scripted hmeta hmembers hfound⟩
    · exact .inl (by simp [h])

/-- The library classes that hold keys read alike, unless a value lacks the key. -/
theorem readNative_agreesUnless (hl : l.holdsKeys) (v scope : Value) (key : Key) :
    AgreesUnless (∃ m u, Lacks call v scope key w l m u)
      (readNative call l v scope key false) (readNative call l v scope key true) w := by
  cases l with
  | struct =>
    refine .bind fun b u hb => ?_
    rcases b with _ | b
    · exact .refl _
    · cases b with
      | struct items card =>
        rw [body?_apply] at hb
        injection hb with hbody hworld
        subst hworld
        injection hbody with hbody
        exact readStruct_agreesUnless hbody
      -- What holds something else fails, safe or not.
      | _ => exact .refl _
  | array =>
    refine .bind fun b u hb => ?_
    rcases b with _ | b
    · exact .refl _
    · cases b with
      | array items card =>
        rw [body?_apply] at hb
        injection hb with hbody hworld
        subst hworld
        injection hbody with hbody
        exact readArray_agreesUnless hbody
      | _ => exact .refl _
  | scripted =>
    have hread (safe : Bool) :
        readNative call .scripted v scope key safe w = readScripted call v scope key safe w := by
      unfold readNative
      rw [bind_of_ok (body?_apply w v)]
    exact (readScripted_agreesUnless v scope key).congr (hread false) (hread true)
  | referenceable => exact .refl _
  | _ => cases hl

/-- What is stored under a key is called alike, unless nothing is stored there. -/
theorem invokeStored_agreesUnless (h : w.store.HoldsKeys v "dereference") :
    AgreesUnless
      (∃ l m u, w.store.libraryMethod? v "dereference" = some l ∧ Lacks call v scope key w l m u)
      (invokeStored call v scope key args false) (invokeStored call v scope key args true) w := by
  obtain ⟨l, hmethod, hl⟩ := h
  have hread : AgreesUnless (∃ m u, Lacks call v scope key w l m u)
      (read call v scope key false) (read call v scope key true) w :=
    (readNative_agreesUnless hl v scope key).congr (viaKeyed_apply hmethod ..)
      (viaKeyed_apply hmethod ..)
  exact (hread.andThen _).imp fun ⟨m, u, h⟩ => ⟨l, m, u, hmethod, h⟩

/-- Whether a value reads the key that is to be called by the library's own method, also once the
    registered functions were asked. -/
def ReadsOwn (call : Call) (v scope : Value) (key : Key) : KeyUse → World → Prop
  | .read _, _ | .write _, _ => True
  | .call .., w => w.store.HoldsKeys v "dereference" ∧
    (scopedFunction? call scope key v).After w fun _ w => w.store.HoldsKeys v "dereference"

/-- The library classes that hold keys call alike, unless there is nothing to call. -/
theorem invokeNative_agreesUnless (hl : l.holdsKeys)
    (h : ReadsOwn call v scope key (.call args false) w) :
    AgreesUnless (∃ m u, LacksCallee call v scope key w l m u)
      (invokeNative call l v scope key args false) (invokeNative call l v scope key args true)
      w := by
  cases l with
  | struct =>
    refine .bind fun f u hf => ?_
    cases f with
    -- A function that is registered is called, whatever the container holds.
    | some f => exact .refl _
    | none =>
      refine .ite (fun _ => .refl _) fun hnames => (invokeStored_agreesUnless (h.2 _ _ hf)).imp ?_
      rintro ⟨l, m, u', hmethod, hkey⟩
      exact ⟨m, u', .struct hf hnames hmethod hkey⟩
  | array =>
    refine .bind fun f u hf => ?_
    cases f with
    | some f => exact .refl _
    | none =>
      refine (invokeStored_agreesUnless (h.2 _ _ hf)).imp ?_
      rintro ⟨l, m, u', hmethod, hkey⟩
      exact ⟨m, u', .array hf hmethod hkey⟩
  | scripted =>
    refine (invokeStored_agreesUnless h.1).imp ?_
    rintro ⟨l, m, u', hmethod, hkey⟩
    exact ⟨m, u', .scripted hmethod hkey⟩
  | referenceable => exact .refl _
  | _ => cases hl

end Container

/-! ### Targets of the host -/

namespace Service

open Run Host

variable {call : Call} {w : World}

/-- The elements of a sequence of the host are read alike, unless a key misses its places. -/
theorem readElement_agreesUnless (v : Value) (key : Key) :
    AgreesUnless (∃ m u, LacksElement call v key w m u)
      (readElement call v key false) (readElement call v key true) w :=
  .bind fun _ u hsize => .readIndex key _ _ fun m hplace => ⟨m, u, .intro hsize hplace⟩

/-- A map of the host is asked the same questions, and looks at the flag only if it answers no to
    all of them. -/
theorem readMap_agreesUnless (svc : ServiceId) (v : Value) (key : Key) :
    AgreesUnless (∃ m u, LacksEntry call svc v key w m u)
      (readMap call svc v key false) (readMap call svc v key true) w := by
  unfold readMap
  refine .bind fun here u hhere => .ite (fun _ => .refl _) fun hvalue => ?_
  refine .bind fun there u' hthere => .ite (fun _ => .refl _) fun hname => .inr ?_
  rw [Bool.not_eq_true] at hvalue hname
  subst hvalue hname
  by_cases hsame : key.toValue = .text key.name
  · -- Where the value of the key is its name, the map is asked once.
    rw [if_pos hsame] at hthere
    cases hthere
    exact ⟨_, _, .value hhere hsame⟩
  · rw [if_neg hsame] at hthere
    exact ⟨_, _, .both hhere hsame hthere⟩

/-- A field is read alike, unless there is none. -/
theorem readField_agreesUnless (svc : ServiceId) (t : Target) (name : Key) :
    AgreesUnless (∃ m u, LacksField svc t name w m u)
      (readField call svc t name false none) (readField call svc t name true none) w := by
  unfold readField
  refine .bind fun f u hf => ?_
  cases f with
  | some f => exact .refl _
  | none => exact .inr ⟨_, _, .intro hf⟩

/-- The targets of the host read alike, by the rules for their sort, unless a target lacks the
    key. -/
theorem readHost_agreesUnless (svc : ServiceId) (t : Target) {kind : TargetKind}
    (hkind : kind ≠ .referenceable) (key : Key) :
    AgreesUnless (∃ m u, LacksHost call svc t key w kind m u)
      (readHost call svc t kind key false) (readHost call svc t kind key true) w := by
  have hsequence (hmeta : ¬ key.same .metadata) (hkind : kind = .sequence ∨ kind = .array) :
      AgreesUnless (∃ m u, LacksHost call svc t key w kind m u)
        (readSequence call t.inst key false) (readSequence call t.inst key true) w := by
    refine .ite (fun _ => .refl _) fun hlength => (readElement_agreesUnless t.inst key).imp ?_
    rintro ⟨m, u, h⟩
    exact ⟨m, u, .sequence hmeta hkind hlength h⟩
  unfold readHost
  -- The key for the description is answered alike, so it is none that is lacked.
  refine .ite (fun _ => .refl _) fun hmeta => ?_
  cases kind with
  | referenceable => exact absurd rfl hkind
  | orderedMap =>
    exact (readMap_agreesUnless svc t.inst key).imp fun ⟨m, u, h⟩ => ⟨m, u, .map hmeta h⟩
  | sequence => exact hsequence hmeta (.inl rfl)
  | array => exact hsequence hmeta (.inr rfl)
  | text =>
    refine .ite (fun hword => (readField_agreesUnless svc t key).imp ?_) fun hword =>
      (readElement_agreesUnless t.inst key).imp ?_
    · exact fun ⟨m, u, h⟩ => ⟨m, u, .word hmeta hword h⟩
    · exact fun ⟨m, u, h⟩ => ⟨m, u, .letter hmeta hword h⟩
  | errorLike =>
    refine .ite (fun _ => .refl _) fun _ => .ite (fun _ => .refl _) fun hdetail => ?_
    have hkey : ∀ k ∈ Key.errorKeys, ¬ key.same k := by
      simpa [List.any_eq_true] using hdetail
    exact (readField_agreesUnless svc t key).imp fun ⟨m, u, h⟩ => ⟨m, u, .detail hmeta hkey h⟩
  | nativeObject =>
    exact (readField_agreesUnless svc t key).imp fun ⟨m, u, h⟩ => ⟨m, u, .field hmeta h⟩

/-- A call of a member of the host goes the same way up to the search for the member. Host code that
    raises an error is past that, or before it, and ends both alike. -/
theorem invokeHost_agreesUnless (svc : ServiceId) (t : Target) (kind : TargetKind) (key : Key)
    (args scope : Value) :
    AgreesUnless (∃ m u, LacksMember call svc t key args w kind m u)
      (invokeHost call svc t kind key args false scope)
      (invokeHost call svc t kind key args true scope) w := by
  unfold invokeHost
  refine .bind fun registered u₁ hregistered => ?_
  cases registered with
  | some f => exact .refl _
  | none =>
    refine .bind fun entry u₂ hentry => ?_
    cases entry with
    | some f => exact .refl _
    | none =>
      refine .bind fun s u hs => ?_
      cases hs
      refine .ite (fun _ => .refl _) fun hnamed => ?_
      unfold invokeTarget
      refine .ite (fun _ => .refl _) fun hname => .bind fun values u₃ hvalues => ?_
      refine .bind fun s u hs => ?_
      cases hs
      refine .bind fun found u₄ hfound => ?_
      cases found with
      | ok callee => exact .refl _
      | error f =>
        cases f with
        | engine r =>
          -- Only what is missing is refused, so the reason says that.
          have hanswer := congrArg (fun x => x.1.bind id) hfound
          have hr := missing_of_inquire hanswer
          have hworld : (calleeOf svc (.method t.kind key (values.map u₃.store.kindOf)) u₃).2 =
            u₄ := congrArg (fun x => x.2) hfound
          subst hr
          exact .inr ⟨_, _, .intro hregistered hentry hnamed hname hvalues
            (Prod.ext hanswer hworld)⟩
        | _ => exact .refl _

/-! ### Requests -/

variable {r : KeyUse} {key : Key} {l : LibraryKind} {v scope : Value}

/-- What the host answers for a target is the same, unless the target has nothing for the
    request. -/
theorem answerHost_agreesUnless (r : KeyUse) (svc : ServiceId) (t : Target) {kind : TargetKind}
    (hkind : kind ≠ .referenceable) (key : Key) (scope : Value) :
    AgreesUnless (∃ m u, LacksOther call svc t key w kind m u r)
      (answerHost call svc t kind key scope (r.withSafe false))
      (answerHost call svc t kind key scope (r.withSafe true)) w := by
  cases r with
  | read safe => exact readHost_agreesUnless svc t hkind key
  | write x => exact .refl _
  | call args safe => exact invokeHost_agreesUnless svc t kind key args scope

/-- What a value answers for itself is the same, unless the value has nothing for the request. -/
theorem answerOwn_agreesUnless (hl : l.holdsKeys) (h : Container.ReadsOwn call v scope key r w) :
    AgreesUnless (∃ m u, LacksOwn call v scope key w l m u r)
      (answerOwn call l v scope key (r.withSafe false))
      (answerOwn call l v scope key (r.withSafe true)) w := by
  cases r with
  | read safe => exact Container.readNative_agreesUnless hl v scope key
  | write x => exact .refl _
  | call args safe => exact Container.invokeNative_agreesUnless hl h

/-- Whether a target that answers for itself does so by the library's own methods. -/
def AnswersOwn (call : Call) (r : KeyUse) (key : Key) (kind : TargetKind) (t : Target)
    (scope : Value) (w : World) : Prop :=
  kind = .referenceable → ∃ l, w.store.libraryMethod? t.inst r.method = some l ∧
    (l = .wrapper ∨ l.holdsKeys ∧ Container.ReadsOwn call t.inst scope key r w)

/-- A safe request runs as a strict one does, unless the two find nothing. -/
theorem serve_agreesUnless (r : KeyUse) (key : Key) (fuel : Nat) (svc : ServiceId) (t : Target)
    (scope : Value) (w : World) (h : Along call r key (AnswersOwn call r key) fuel svc t scope w) :
    AgreesUnless (∃ m u, Lacks call r key fuel svc t scope w m u)
      (serve call (r.withSafe false) key fuel svc t scope)
      (serve call (r.withSafe true) key fuel svc t scope) w := by
  induction fuel generalizing svc t scope w with
  | zero => exact .refl _
  | succ fuel ih =>
    rw [serve, serve, receive_withSafe, receive_withSafe]
    refine .bind fun p u hreceive => ?_
    obtain ⟨hanswers, hpasses⟩ := h p u hreceive
    obtain ⟨kind, scope'⟩ := p
    cases kind with
    | referenceable =>
      obtain ⟨l, hmethod, hl⟩ := hanswers rfl
      have hstrict : u.store.libraryMethod? t.inst (r.withSafe false).method = some l := by
        rw [KeyUse.method_withSafe, hmethod]
      have hsafe : u.store.libraryMethod? t.inst (r.withSafe true).method = some l := by
        rw [KeyUse.method_withSafe, hmethod]
      refine AgreesUnless.congr ?_ (viaKeyed_apply hstrict ..) (viaKeyed_apply hsafe ..)
      obtain rfl | ⟨hl, hreads⟩ := hl
      · -- What a wrapper passes on is a request with one wrapper less to go.
        refine .bind fun x u₂ hservice => ?_
        obtain ⟨svc', rfl, htarget⟩ := hpasses rfl hmethod x u₂ hservice
        refine .bind fun t' u₃ ht => (ih svc' t' scope' u₃ (htarget t' u₃ ht)).imp ?_
        rintro ⟨m, w', hmiss⟩
        exact ⟨m, w', .wrapped hreceive hmethod hservice ht hmiss⟩
      · have hown : AgreesUnless (∃ m u', LacksOwn call t.inst scope' key u l m u' r)
            (answerOwn call l t.inst scope' key (r.withSafe false))
            (answerOwn call l t.inst scope' key (r.withSafe true)) u :=
          answerOwn_agreesUnless hl hreads
        have hlacks : (∃ m u', LacksOwn call t.inst scope' key u l m u' r) →
            ∃ m u', Lacks call r key (fuel + 1) svc t scope w m u' := by
          rintro ⟨m, u', hmiss⟩
          exact ⟨m, u', .own hreceive hmethod hmiss⟩
        cases l with
        | wrapper => cases hl
        | _ => exact hown.imp hlacks
    | _ =>
      refine AgreesUnless.imp (answerHost_agreesUnless r svc t (by simp) key scope') ?_
      rintro ⟨m, u', hmiss⟩
      exact ⟨m, u', .other hreceive (by simp) hmiss⟩

/-- Whether all that a request for a key of a value comes to answers by the library's own
    methods. -/
def AnswersItself (call : Call) (r : KeyUse) (svc : ServiceId) (target key scope : Value)
    (w : World) : Prop :=
  (keyOf call key).After w fun key w =>
    Along call r key (AnswersOwn call r key) (w.store.objects.size + 2) svc
      (w.store.asTarget target) scope w

/-- A safe and a strict read run alike, unless they miss. -/
theorem dereference_agreesUnless (svc : ServiceId) (target key scope : Value)
    (h : AnswersItself call (.read false) svc target key scope w) :
    AgreesUnless (∃ m u, Misses call (.read false) svc target key scope w m u)
      (dereference call svc target key false scope)
      (dereference call svc target key true scope) w := by
  unfold dereference
  refine .bind fun k u hk => ?_
  by_cases htarget : target = .none
  · exact .inr ⟨_, _, .nothing hk rfl htarget⟩
  · rw [if_neg htarget, if_neg htarget]
    refine ((serve_agreesUnless (.read false) k _ svc _ scope u (h k u hk)).congr rfl rfl).imp ?_
    rintro ⟨m, u', hmiss⟩
    exact ⟨m, u', .request hk (fun _ _ => htarget) hmiss⟩

/-- A safe and a strict call run alike, unless they miss. -/
theorem dereferenceAndInvoke_agreesUnless (svc : ServiceId) (target key args scope : Value)
    (h : AnswersItself call (.call args false) svc target key scope w) :
    AgreesUnless (∃ m u, Misses call (.call args false) svc target key scope w m u)
      (dereferenceAndInvoke call svc target key args false scope)
      (dereferenceAndInvoke call svc target key args true scope) w := by
  unfold dereferenceAndInvoke
  refine .bind fun k u hk => ?_
  refine ((serve_agreesUnless (.call args false) k _ svc _ scope u (h k u hk)).congr rfl rfl).imp ?_
  rintro ⟨m, u', hmiss⟩
  exact ⟨m, u', .request hk nofun hmiss⟩

end Service

/-! ### Refusals of plain containers -/

namespace Container

open Run Host

variable {w : World} {v : Value} {m : OrderedMap Key Value} {card : Option Value} {l : LibraryKind}

/-- The names of the keys of a struct are listed without asking anything else. -/
theorem exists_keyNames_eq (call : Call) (hl : w.store.libraryMethod? v "key_names" = some l)
    (hb : w.store.body? v = some (.struct m card)) :
    ∃ i w', keyNames call v w = (.ok (.object i), w') ∧ w.Grows w' ∧
      itemsOf call (.object i) w' = (.ok (m.keys.map fun k => .text k.name), w') := by
  have hm : libraryMethod? v "key_names" w = (.ok (some l), w) := by rw [← hl]; rfl
  obtain ⟨i, w', hnew, hgrows, hitems⟩ :=
    exists_newList_eq call (m.keys.map fun k => .text k.name) w
  refine ⟨i, w', ?_, hgrows, hitems⟩
  rw [keyNames, viaMethod, bind_of_ok hm]
  simp only [bind_apply, body?_apply, hb]
  exact hnew

/-- The keys of a struct are listed by their names, and nothing but lists is added. -/
theorem exists_listKeys_eq (call : Call) (hl : w.store.libraryMethod? v "key_names" = some l)
    (hb : w.store.body? v = some (.struct m card)) :
    ∃ shown w', listKeys call v w =
        (.ok (⟨shown, Listing.defaultLimit⟩, m.keys.map fun k => .text k.name), w') ∧
      w.Grows w' := by
  obtain ⟨i, w₁, hnames, hgrows, hitems⟩ := exists_keyNames_eq call hl hb
  obtain ⟨shown, hshown⟩ := exists_mapM_textOf_eq call w₁
    (m.keys.map fun k => .text k.name) (by simp)
  -- The names are asked for twice, the second time in a world with one more list.
  have hl' : w₁.store.libraryMethod? v "key_names" = some l := by
    rw [hgrows.libraryMethod? hb (by simp), hl]
  obtain ⟨j, w₂, hnames', hgrows', hitems'⟩ := exists_keyNames_eq call hl' (hgrows.body? hb)
  refine ⟨shown, w₂, ?_, hgrows.trans hgrows'⟩
  rw [listKeys, bind_of_ok hnames, bind_of_ok hitems, bind_of_ok hshown, bind_of_ok hnames',
    bind_of_ok (x := listedKeys call (.object j)) hitems']
  rfl

end Container

namespace Service

open Run Host

variable {w : World} {i : Nat} {m : HostMap}

/-- The walk through the keys of a plain host map gives them in order. -/
theorem itemsOf_dictKeys (call : Call) {j : Nat}
    (hj : w.store.deref? (.object j) =
      some { kind := .library .dictKeys, body := .side .keys (.object i) })
    (hi : w.store.deref? (.object i) = some { kind := .library .dict, body := .dict m }) :
    itemsOf call (.object j) w = (.ok (m.keys.map (·.value)), w) := by
  have hk := Store.kindOf_of_deref? hj
  have hiter : librarySpecial? (.object j) "__iter__" w = (.ok (some .dictKeys), w) :=
    librarySpecial?_of_library hk (by decide)
  have hc : requireContent (.object j) w = (.ok (.side .keys (.object i)), w) := by
    simp [requireContent, wholeContent?, bind_apply, Store.content?, Store.ownContent?,
      Store.body?, hj]
  have hwalk : walkSide call .keys (.object i) w = (.ok (m.keys.map (·.value)), w) := by
    simp [walkSide, bind_apply, Store.content?, Store.ownContent?, Store.body?, hi,
      OrderedMap.keys]
  unfold itemsOf
  rw [bind_of_ok (callSpecial?_of_library hk _ _)]
  dsimp only
  rw [bind_of_ok hiter]
  dsimp only
  rw [bind_of_ok hc]
  exact hwalk

/-- The keys of a plain host map, as its method for that gives them. -/
theorem exists_callMethod_keys_eq (n : Nat)
    (hi : w.store.deref? (.object i) = some { kind := .library .dict, body := .dict m }) :
    ∃ j w', callMethod (callAt (n + 2)) (.object i) "keys" [] w = (.ok (.object j), w') ∧
      w.Grows w' ∧
      itemsOf (callAt (n + 2)) (.object j) w' = (.ok (m.keys.map (·.value)), w') := by
  have hk := Store.kindOf_of_deref? hi
  obtain ⟨f, w₁, hbound, hgrows, hf⟩ := exists_alloc_eq w
    { kind := .library .boundMethod, body := .bound (.native ⟨some .dict, "keys"⟩) (.object i) }
  obtain ⟨j, w₂, hside, hgrows', hj⟩ := exists_alloc_eq w₁
    { kind := .library .dictKeys, body := .side .keys (.object i) }
  -- The method is bound, and the bound method called, so two objects are added.
  have hattr : getAttr (callAt (n + 2)) (.object i) "keys" w = (.ok (.object f), w₁) := by
    rw [getAttr_libraryMethod hk rfl]
    · exact hbound
    · simp [ownValue?, bind_apply, hi]
      rfl
  have hcall : callAt (n + 2) (.object f) {} w₁ = (.ok (.object j), w₂) := by
    have hbody : w₁.store.body? (.object f) =
        some (.bound (.native ⟨some .dict, "keys"⟩) (.object i)) := by
      simp [Store.body?, hf]
    have hc : content? (.object i) w₁ = (.ok (some (.dict m)), w₁) := by
      simp [Store.content?, Store.ownContent?, Store.body?, hgrows.deref? hi]
    have hkeys : NativeCollection.invokeDict (callAt n) (.object i) "keys" {} w₁ =
        (.ok (.object j), w₂) := by
      unfold NativeCollection.invokeDict
      rw [bind_of_ok hc]
      exact hside
    unfold callAt callStep
    rw [bind_of_ok (store_apply w₁), hbody]
    exact hkeys
  refine ⟨j, w₂, ?_, hgrows.trans hgrows', ?_⟩
  · rw [callMethod, bind_of_ok hattr, hcall]
  · exact itemsOf_dictKeys _ hj (hgrows'.deref? (hgrows.deref? hi))

/-- The keys of a plain host map are listed by their texts, and only new objects are added. -/
theorem exists_listMapKeys_eq (n : Nat) (svc : ServiceId)
    (hi : w.store.deref? (.object i) = some { kind := .library .dict, body := .dict m })
    (htexts : ∀ k ∈ m.keys, ∃ t, k.value = .text t) :
    ∃ keys w', listMapKeys (callAt (n + 2)) svc (.object i) w = (.ok keys, w') ∧ w.Grows w' := by
  obtain ⟨j, w₁, hkeys, hgrows, hitems⟩ := exists_callMethod_keys_eq n hi
  obtain ⟨shown, hshown⟩ := exists_mapM_textOf_eq (callAt (n + 2)) w₁
    (m.keys.map (·.value)) (by simpa using htexts)
  obtain ⟨j', w₂, hkeys', hgrows', hitems'⟩ := exists_callMethod_keys_eq n (hgrows.deref? hi)
  refine ⟨(⟨shown, (w₁.service svc).config.listingLimit⟩, m.keys.map (·.value)), w₂, ?_,
    hgrows.trans hgrows'⟩
  unfold listMapKeys
  simp only [bind_assoc]
  rw [bind_of_ok hkeys, bind_of_ok hitems, bind_of_ok hshown, bind_of_ok (service_apply w₁ svc),
    bind_of_ok hkeys', bind_of_ok hitems']
  rfl

end Service

/-- Whether a value is a struct that lists its keys by the library's own method. -/
def Store.ListsKeys (s : Store) (v : Value) : Prop :=
  (∃ l, s.libraryMethod? v "key_names" = some l) ∧ ∃ m card, s.body? v = some (.struct m card)

/-- Whether keys are listed without running host code: those of a struct or of a host map of texts,
    or those of an instance that has its public members at hand. -/
def Shelf.Plain (call : Call) (w : World) : Shelf → Prop
  | nothing => True
  | map _ v => ∃ m, w.store.deref? v = some { kind := .library .dict, body := .dict m } ∧
      ∀ k ∈ m.keys, ∃ t, k.value = .text t
  | struct v => w.store.ListsKeys v
  | scripted v =>
    ∃ members, Container.publicScope call v w = (.ok members, w) ∧ w.store.ListsKeys members

/-- Keys that are listed without host code are listed, and only new objects are added. -/
theorem Shelf.Plain.exists_list_eq {n : Nat} {w : World} {shelf : Shelf}
    (h : shelf.Plain (Host.callAt (n + 2)) w) :
    ∃ keys w', shelf.list (Host.callAt (n + 2)) w = (.ok keys, w') ∧ w.Grows w' := by
  cases shelf with
  | nothing => exact ⟨_, w, rfl, .refl w⟩
  | map svc v =>
    obtain ⟨m, hv, htexts⟩ := h
    cases v with
    | object i => exact Service.exists_listMapKeys_eq n svc hv htexts
    | _ => cases hv
  | struct v =>
    obtain ⟨⟨l, hl⟩, m, card, hb⟩ := h
    obtain ⟨shown, w', hkeys, hgrows⟩ := Container.exists_listKeys_eq (Host.callAt (n + 2)) hl hb
    exact ⟨_, w', hkeys, hgrows⟩
  | scripted v =>
    obtain ⟨members, hmembers, ⟨l, hl⟩, m, card, hb⟩ := h
    obtain ⟨shown, w', hkeys, hgrows⟩ := Container.exists_listKeys_eq (Host.callAt (n + 2)) hl hb
    exact ⟨_, w', (Run.bind_of_ok hmembers).trans hkeys, hgrows⟩

/-! ### A safe request and the strict one -/

/-- How a safe operation extends a strict one that misses in some ways. If they miss, the safe one
    is absent, and the strict one sets out to refuse in the very world that the safe one leaves; and
    if no host code is needed to list the keys for that, it is refused for the miss and adds nothing
    but objects of its own. If they do not miss, both end alike, in the same world. -/
structure Extends (call : Call) (misses : Miss → World → Prop) (strict safe : Run Value)
    (w : World) : Prop where
  absent : ∀ m w', misses m w' → safe w = (.ok .absent, w')
  refused : ∀ m w', misses m w' → strict w = m.refusal call w'
  plainly : ∀ m w', misses m w' → m.shelf.Plain call w' → ∃ shown keys w'',
    strict w = (.error (.engine (m.reason shown keys)), w'') ∧ w'.Grows w''
  same : (∀ m w', ¬ misses m w') → strict w = safe w

/-- An operation with a flag extends itself if it answers a miss by the flag, and runs alike without
    one. -/
theorem Extends.of_answer {n : Nat} {misses : Miss → World → Prop} {f : Bool → Run Value}
    {w : World} (hmissed : ∀ m w', misses m w' → ∀ safe,
      f safe w = m.answer (Host.callAt (n + 2)) safe w')
    (hagree : Run.AgreesUnless (∃ m w', misses m w') (f false) (f true) w) :
    Extends (Host.callAt (n + 2)) misses (f false) (f true) w where
  absent m w' hmiss := hmissed m w' hmiss true
  refused m w' hmiss := hmissed m w' hmiss false
  plainly m w' hmiss hplain := by
    obtain ⟨⟨shown, keys⟩, w'', hlist, hgrows⟩ := hplain.exists_list_eq
    have hrefused : m.refusal (Host.callAt (n + 2)) w' =
        (.error (.engine (m.reason shown keys)), w'') := Run.bind_of_ok hlist
    exact ⟨shown, keys, w'', (hmissed m w' hmiss false).trans hrefused, hgrows⟩
  same hnone := hagree.resolve_right fun ⟨m, w', hmiss⟩ => hnone m w' hmiss

/-- **Safe requests.** Where values answer by the library's own methods, a safe read or call extends
    the strict one: they part only if the request itself finds nothing. -/
theorem safe_extends (n : Nat) (svc : ServiceId) (target key args scope : Value) (w : World) :
    let call := Host.callAt (n + 2)
    (Service.AnswersItself call (.read false) svc target key scope w →
      Extends call (Service.Misses call (.read false) svc target key scope w)
        (Service.dereference call svc target key false scope)
        (Service.dereference call svc target key true scope) w) ∧
    (Service.AnswersItself call (.call args false) svc target key scope w →
      Extends call (Service.Misses call (.call args false) svc target key scope w)
        (Service.dereferenceAndInvoke call svc target key args false scope)
        (Service.dereferenceAndInvoke call svc target key args true scope) w) := by
  intro call
  have hread (m : Miss) (w' : World)
      (hmiss : Service.Misses call (.read false) svc target key scope w m w') (safe : Bool) :
      Service.dereference call svc target key safe scope w = m.answer call safe w' :=
    Service.dereference_of_misses hmiss safe
  have hinvoke (m : Miss) (w' : World)
      (hmiss : Service.Misses call (.call args false) svc target key scope w m w') (safe : Bool) :
      Service.dereferenceAndInvoke call svc target key args safe scope w = m.answer call safe w' :=
    Service.dereferenceAndInvoke_of_misses hmiss safe
  exact ⟨fun h => .of_answer hread (Service.dereference_agreesUnless svc target key scope h),
    fun h => .of_answer hinvoke
      (Service.dereferenceAndInvoke_agreesUnless svc target key args scope h)⟩

/-- A struct with one key, a wrapper around it, and arguments for a call. -/
def purse : World where
  store :=
    { objects := #[
        { kind := .library .struct, body := .struct ⟨[(.ofText "coins", .int 3)]⟩ none },
        { kind := .library .wrapper,
          body := .wrapper (.kind (.library .struct)) (.object 0) (.service .main) },
        { kind := .library .tuple, body := .tuple [] }] }

/-- A key that the struct lacks is looked for through the wrapper, to read it and to call it: both
    requests miss it in the struct. -/
theorem safe_extends_purse :
    let call := Host.callValue
    let misses (r : KeyUse) :=
      Service.Misses call r .main (.object 1) (.text "notes") (.scope 0) purse
    let read (safe : Bool) :=
      Service.dereference call .main (.object 1) (.text "notes") safe (.scope 0)
    let invoke (safe : Bool) :=
      Service.dereferenceAndInvoke call .main (.object 1) (.text "notes") (.object 2) safe
        (.scope 0)
    (Service.AnswersItself call (.read false) .main (.object 1) (.text "notes") (.scope 0) purse ∧
      (∃ u, misses (.read false) (.ofStruct (.object 0) (.ofText "notes")) u) ∧
      Extends call (misses (.read false)) (read false) (read true) purse) ∧
    (Service.AnswersItself call (.call (.object 2) false) .main (.object 1) (.text "notes")
        (.scope 0) purse ∧
      (∃ u, misses (.call (.object 2) false) (.ofStruct (.object 0) (.ofText "notes")) u) ∧
      Extends call (misses (.call (.object 2) false)) (invoke false) (invoke true) purse) := by
  intro call misses read invoke
  have hread : Service.AnswersItself (Host.callAt (998 + 2)) (.read false) .main (.object 1)
      (.text "notes") (.scope 0) purse := by
    rintro k w ⟨⟩ ⟨kind, scope⟩ w ⟨⟩
    refine ⟨fun _ => ⟨.wrapper, rfl, .inl rfl⟩, fun _ _ => ?_⟩
    rintro x w ⟨⟩
    refine ⟨.main, rfl, ?_⟩
    rintro t w ⟨⟩ ⟨kind, scope⟩ w ⟨⟩
    exact ⟨fun _ => ⟨.struct, rfl, .inr ⟨rfl, trivial⟩⟩, fun _ h => nomatch h⟩
  have hcall : Service.AnswersItself (Host.callAt (998 + 2)) (.call (.object 2) false) .main
      (.object 1) (.text "notes") (.scope 0) purse := by
    rintro k w ⟨⟩ ⟨kind, scope⟩ w ⟨⟩
    refine ⟨fun _ => ⟨.wrapper, rfl, .inl rfl⟩, fun _ _ => ?_⟩
    rintro x w ⟨⟩
    refine ⟨.main, rfl, ?_⟩
    rintro t w ⟨⟩ ⟨kind, scope⟩ w ⟨⟩
    have hstruct : purse.store.HoldsKeys (.object 0) "dereference" := ⟨.struct, rfl, rfl⟩
    refine ⟨fun _ => ⟨.struct, rfl, .inr ⟨rfl, hstruct, ?_⟩⟩, fun _ h => nomatch h⟩
    rintro f w ⟨⟩
    exact hstruct
  have hextends := safe_extends 998 .main (.object 1) (.text "notes") (.object 2) (.scope 0) purse
  have hplain : ¬ (Key.ofText "notes").same .metadata := by decide +kernel
  have hnames : ¬ (Key.ofText "notes").same .keyArray := by decide +kernel
  have hlacks (w : World) (h : purse.store = w.store) : Container.Lacks call (.object 0) (.scope 0)
      (.ofText "notes") w .struct (.ofStruct (.object 0) (.ofText "notes")) w :=
    .struct (by rw [← h]; rfl) hplain rfl
  have hunread : ∃ u, misses (.read false) (.ofStruct (.object 0) (.ofText "notes")) u :=
    ⟨_, .request rfl (fun _ _ => nofun) (.wrapped rfl rfl rfl rfl (.own rfl rfl (hlacks _ rfl)))⟩
  have huncalled :
      ∃ u, misses (.call (.object 2) false) (.ofStruct (.object 0) (.ofText "notes")) u :=
    ⟨_, .request rfl nofun (.wrapped rfl rfl rfl rfl
      (.own rfl rfl (.struct rfl hnames rfl (hlacks _ rfl))))⟩
  exact ⟨⟨hread, hunread, hextends.1 hread⟩, hcall, huncalled, hextends.2 hcall⟩

/-- A host map whose only key is an instance of a class, and the function that the class shows its
    instances by, which raises an error. -/
def keyring : World where
  store :=
    { objects := #[
        { kind := .library .dict, body := .dict ⟨[(⟨.object 1, .identity (.object 1)⟩, .int 1)]⟩ },
        { kind := .declared 0 },
        { kind := .library .function,
          body := .function ⟨"__str__", [⟨"self", .normal, none, none⟩],
            .raise "ValueError" [.literal (.text "boom")], true, {}⟩ }]
      classes := #[
        { name := "K", qualifiedName := "K", home := some "host",
          bases := [.library .object], lineage := [.declared 0, .library .object],
          metaclass := .type, attrs := ⟨[("__str__", .object 2)]⟩ }] }

/-- A safe read of a missing key is absent, and the strict one ends in what showing the other key
    raises: that is no refusal of a miss. -/
theorem strict_read_raises_keyring :
    (Service.dereference Host.callValue .main (.object 0) (.text "x") true .none keyring).1 =
        .ok .absent ∧
      ∃ e, (Service.dereference Host.callValue .main (.object 0) (.text "x") false .none
        keyring).1 = .error (.raised e) :=
  ⟨rfl, _, rfl⟩

end ScriptBridge
