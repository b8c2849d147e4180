import ScriptBridge.Proofs.Holding

namespace ScriptBridge

/-!
# How requests are received

A request is sorted by its target before it is answered, and the scope it runs in is settled if it
is going to be used. None of this runs code of the host as long as a scope is given, or none.

* `Service.exists_receive_eq` is what a request is received as;
* `Service.request_settled`: a value that answers by a method of the library is asked by it;
* `Service.request_sorted`: any other is treated by the rules for its sort, `Service.request_host`
  when it is read or written.
-/

/-- Whether a value is a scope, or says that none is given. -/
def Value.IsScope (scope : Value) : Prop := scope = .none ∨ ∃ i, scope = .scope i

/-- Whether a request reads or writes, and calls nothing. -/
def KeyUse.IsAccess : KeyUse → Prop
  | read _ | write _ => True
  | call .. => False

namespace Service

open Run Host

variable {v scope : Value} {l : LibraryKind} {w : World}

/-! ### Scopes -/

/-- The scope that a request runs in, if a scope or none is given. -/
def settledScope (w : World) (svc : ServiceId) : Value → Value
  | .none => .scope (w.service svc).root
  | scope => scope

/-- No host code decides whether a scope is given. -/
theorem scopeOrRoot_eq (call : Call) (svc : ServiceId) (hscope : scope.IsScope) (w : World) :
    scopeOrRoot call svc scope w = (.ok (settledScope w svc scope), w) := by
  obtain rfl | ⟨i, rfl⟩ := hscope <;> rfl

/-- A settled scope is a scope, and stays as it is. -/
theorem isScope_settledScope (svc : ServiceId) (hscope : scope.IsScope) (w : World) :
    (settledScope w svc scope).IsScope ∧
      ∀ u, settledScope u svc (settledScope w svc scope) = settledScope w svc scope := by
  obtain rfl | ⟨i, rfl⟩ := hscope
  · exact ⟨.inr ⟨_, rfl⟩, fun _ => rfl⟩
  · exact ⟨.inr ⟨i, rfl⟩, fun _ => rfl⟩

/-- The scope that a request is received with: calls have theirs settled, and so have requests to
    values that answer for themselves. -/
def receivedScope (r : KeyUse) (kind : TargetKind) (settled scope : Value) : Value :=
  match r, kind with
  | .call .., _ | _, .referenceable => settled
  | _, _ => scope

/-- A wrapper receives the scope that a request settles on. -/
theorem receivedScope_referenceable (r : KeyUse) (settled scope : Value) :
    receivedScope r .referenceable settled scope = settled := by
  cases r <;> rfl

/-- Any other value receives the scope that a read or a write comes with, as it is. -/
theorem receivedScope_of_isAccess {r : KeyUse} {kind : TargetKind} (hr : r.IsAccess)
    (hkind : kind ≠ .referenceable) (settled scope : Value) :
    receivedScope r kind settled scope = scope := by
  cases r with
  | call args safe => cases hr
  | _ =>
    cases kind with
    | referenceable => exact absurd rfl hkind
    | _ => rfl

/-! ### Targets -/

/-- Telling what sort of target a request comes to leaves a trace at most. -/
theorem exists_sortTarget_eq (svc : ServiceId) (r : KeyUse) (t : Target) (key : Key) (w : World) :
    ∃ lines, sortTarget svc r t key w = (.ok (w.store.targetKind t), w.withTrace lines) := by
  obtain ⟨lines, h⟩ := w.exists_report_eq svc fun _ =>
    [[r.traceName, (w.store.targetKind t).traceName, w.store.typeName t.kind, key.name]]
  exact ⟨lines, Prod.ext rfl h⟩

/-- Receiving a request leaves nothing but a line in the trace. -/
theorem exists_receive_eq (call : Call) (svc : ServiceId) (r : KeyUse) (t : Target) (key : Key)
    (w : World) : ∃ lines, ∀ scope : Value, scope.IsScope →
      receive call svc r t key scope w =
        (.ok (w.store.targetKind t,
          receivedScope r (w.store.targetKind t) (settledScope w svc scope) scope),
          w.withTrace lines) := by
  obtain ⟨lines, hs⟩ := exists_sortTarget_eq svc r t key w
  refine ⟨lines, fun scope hscope => ?_⟩
  have hsettled : settledScope (w.withTrace lines) svc scope = settledScope w svc scope := by
    cases scope <;> simp [settledScope]
  have hroot := scopeOrRoot_eq call svc hscope (w.withTrace lines)
  rw [hsettled] at hroot
  -- A call settles its scope before the target is sorted, the others do so after it if at all.
  cases r with
  | call args safe =>
    simp only [receive]
    rw [bind_of_ok (scopeOrRoot_eq call svc hscope w), bind_of_ok hs]
    rfl
  | _ =>
    simp only [receive]
    rw [bind_of_ok hs]
    cases w.store.targetKind t with
    | referenceable =>
      rw [if_pos rfl, bind_of_ok hroot]
      rfl
    | _ => rfl

/-! ### Answers -/

/-- A value that answers by a method of the library is asked by it, in the scope that is settled. -/
theorem request_settled (call : Call) (svc : ServiceId) (r : KeyUse) (key : Key)
    (hscope : scope.IsScope) (htarget : w.store.asTarget v = ⟨w.store.kindOf v, v⟩)
    (hsort : w.store.classify v = .referenceable)
    (hmethod : w.store.libraryMethod? v r.method = some l) (hl : l ≠ .wrapper) :
    ∃ lines, request call r svc (w.store.asTarget v) key scope w =
      answerOwn call l v (settledScope w svc scope) key r (w.withTrace lines) := by
  have hv : v ≠ .none := by
    rintro rfl
    cases hsort
  have hkind : w.store.targetKind ⟨w.store.kindOf v, v⟩ = .referenceable := by
    simp [Store.targetKind, Target.hasInstance, hv, hsort]
  obtain ⟨lines, hreceive⟩ := exists_receive_eq call svc r ⟨w.store.kindOf v, v⟩ key w
  have hreceived := hreceive scope hscope
  rw [hkind, receivedScope_referenceable] at hreceived
  have hmethod' : (w.withTrace lines).store.libraryMethod? v r.method = some l := hmethod
  refine ⟨lines, ?_⟩
  rw [htarget, request, bind_of_ok (x := wrapperDepth) rfl, serve, bind_of_ok hreceived]
  dsimp only
  rw [viaKeyed_apply hmethod']
  -- A wrapper is left out: it passes the request on, and answers nothing itself.
  cases l with
  | wrapper => exact absurd rfl hl
  | _ => rfl

/-- A value that answers by a method of the library is asked by it. -/
theorem request_own (call : Call) (svc : ServiceId) (r : KeyUse) (key : Key)
    (hscope : scope.IsScope) (h : w.store.AnswersAs v l)
    (hmethod : w.store.libraryMethod? v r.method = some l) (hl : l ≠ .wrapper) :
    ∃ sc lines, request call r svc (w.store.asTarget v) key scope w =
      answerOwn call l v sc key r (w.withTrace lines) :=
  ⟨_, request_settled call svc r key hscope h.target h.sort hmethod hl⟩

/-- A target that does not answer for itself is treated by the rules for its sort. -/
theorem request_target (call : Call) (svc : ServiceId) (r : KeyUse) (key : Key)
    (hscope : scope.IsScope) (t : Target) (hsort : w.store.targetKind t ≠ .referenceable) :
    ∃ lines, request call r svc t key scope w =
      answerHost call svc t (w.store.targetKind t) key
        (receivedScope r (w.store.targetKind t) (settledScope w svc scope) scope) r
        (w.withTrace lines) := by
  obtain ⟨lines, hreceive⟩ := exists_receive_eq call svc r t key w
  refine ⟨lines, ?_⟩
  rw [request, bind_of_ok (x := wrapperDepth) rfl, serve, bind_of_ok (hreceive scope hscope)]
  cases hc : w.store.targetKind t with
  | referenceable => exact absurd hc hsort
  | _ => rfl

/-- A value that does not answer for itself is treated by the rules for its sort. -/
theorem request_sorted (call : Call) (svc : ServiceId) (r : KeyUse) (key : Key)
    (hscope : scope.IsScope) (hv : v ≠ .none)
    (htarget : w.store.asTarget v = ⟨w.store.kindOf v, v⟩)
    (hsort : w.store.classify v ≠ .referenceable) :
    ∃ lines, request call r svc (w.store.asTarget v) key scope w =
      answerHost call svc ⟨w.store.kindOf v, v⟩ (w.store.classify v) key
        (receivedScope r (w.store.classify v) (settledScope w svc scope) scope) r
        (w.withTrace lines) := by
  have hkind : w.store.targetKind ⟨w.store.kindOf v, v⟩ = w.store.classify v := by
    simp [Store.targetKind, Target.hasInstance, hv]
  obtain ⟨lines, hreq⟩ := request_target call svc r key hscope ⟨w.store.kindOf v, v⟩
    (by rw [hkind]; exact hsort)
  rw [hkind] at hreq
  exact ⟨lines, by rw [htarget, hreq]⟩

/-- A value that does not answer for itself is read and written in the scope that is given. -/
theorem request_host (call : Call) (svc : ServiceId) {r : KeyUse} (key : Key) (hr : r.IsAccess)
    (hscope : scope.IsScope) (hv : v ≠ .none)
    (htarget : w.store.asTarget v = ⟨w.store.kindOf v, v⟩)
    (hsort : w.store.classify v ≠ .referenceable) :
    ∃ lines, request call r svc (w.store.asTarget v) key scope w =
      answerHost call svc ⟨w.store.kindOf v, v⟩ (w.store.classify v) key scope r
        (w.withTrace lines) := by
  obtain ⟨lines, hreq⟩ := request_sorted call svc r key hscope hv htarget hsort
  exact ⟨lines, by rw [hreq, receivedScope_of_isAccess hr hsort]⟩

/-- The function that is registered for a target is looked up and nothing else done. -/
theorem registeredFor?_withTrace (svc : ServiceId) (t : Target) (key : Key) (w : World)
    (lines : List String) : registeredFor? svc t key (w.withTrace lines) =
      ((registeredFor? svc t key w).1, w.withTrace lines) := by
  unfold registeredFor?
  split
  · cases svc <;> rfl
  · rfl

end Service

end ScriptBridge
