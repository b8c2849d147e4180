import ScriptBridge.Proofs.Indexing
import ScriptBridge.Proofs.Written

namespace ScriptBridge

/-!
# The entries of a host map

A host map is read under the value of a key and then under its name. It is written and called under
the value only, so that the three agree as long as the entry that is read is the one under the
value.

* `World.TakesAs` tells which key of a map stands for a value, `World.takesAs_of_places` is a case
  where one does;
* `Service.exists_request_map_eq`: a request for a host map is answered by the rules for maps;
* `Service.readMap_eq_ok_iff`, `Service.writeMap_eq`, `Service.invokeHost_map_eq` follow these
  rules;
* `map_operations_agree` puts them together, and `map_operations_stray` tells of an entry that is
  found by its name alone.
-/

/-- Whether a host map takes a value for one of its keys, or for a new key, and asks nothing that
    changes anything. -/
def World.TakesAs (w : World) (call : Call) (m : HostMap) (x : Value) (mk : MapKey) : Prop :=
  ∀ lines, Host.mapKeyIn call m x (w.withTrace lines) = (.ok mk, w.withTrace lines)

/-- A key that means a place of its own is taken by its form. -/
theorem World.takesAs_of_places {m : HostMap} {k : Key} (w : World) (call : Call)
    (h : (Holding.pairs m).Places k) : w.TakesAs call m k.toValue k.mapKey :=
  fun lines => Host.mapKeyIn_of_places call (w.withTrace lines) h

namespace Service

open Run Host

variable {call : Call} {svc : ServiceId} {v x y args scope : Value} {k : Key} {m : HostMap}
  {mk mn : MapKey} {w u : World}

/-! ### Requests for a host map -/

/-- A request for a host map is answered by the rules for maps. -/
theorem exists_request_map_eq (call : Call) (svc : ServiceId) (r : KeyUse) (k : Key)
    (hkind : w.store.kindOf v = .library .dict) (hbody : w.store.body? v = some (.dict m))
    (hscope : scope.IsScope) :
    ∃ lines, request call r svc (w.store.asTarget v) k scope w =
      answerHost call svc ⟨.library .dict, v⟩ .orderedMap k
        (receivedScope r .orderedMap (settledScope w svc scope) scope) r (w.withTrace lines) := by
  have hsort := classify_of_dict hkind
  obtain ⟨lines, hreq⟩ := request_sorted call svc r k hscope (Store.ne_none_of_body? hbody)
    (Store.asTarget_of_body? hbody (by simp)) (by rw [hsort]; decide)
  rw [hsort, hkind] at hreq
  exact ⟨lines, hreq⟩

/-! ### The three rules -/

/-- A map that is read gives the entry under the value of the key, if it has one. -/
theorem readMap_of_get? (safe : Bool) (hkind : w.store.kindOf v = .library .dict)
    (hbody : w.store.body? v = some (.dict m)) (hmk : mapKeyIn call m k.toValue w = (.ok mk, w))
    (hget : m.get? mk = some y) : readMap call svc v k safe w = (.ok y, w) := by
  have hin : m.contains mk = true := by rw [OrderedMap.contains, hget, Option.isSome_some]
  rw [readMap, bind_of_ok (contains_of_dict hkind hbody hmk), if_pos hin]
  exact getItem_of_dict hkind hbody hmk hget

/-- A map that has no entry under the value of the key gives that under the name, if the key was
    made from a number. -/
theorem readMap_of_name (safe : Bool) (hkind : w.store.kindOf v = .library .dict)
    (hbody : w.store.body? v = some (.dict m)) (hmk : mapKeyIn call m k.toValue w = (.ok mk, w))
    (hmn : mapKeyIn call m (.text k.name) w = (.ok mn, w)) (hnumber : k.number.isSome)
    (hmissed : m.contains mk = false) (hget : m.get? mn = some y) :
    readMap call svc v k safe w = (.ok y, w) := by
  have hin : m.contains mn = true := by rw [OrderedMap.contains, hget, Option.isSome_some]
  have hne : k.toValue ≠ .text k.name := by
    obtain ⟨n, hn⟩ := Option.isSome_iff_exists.1 hnumber
    simp [Key.toValue, hn]
  rw [readMap, bind_of_ok (contains_of_dict hkind hbody hmk), hmissed, if_neg Bool.false_ne_true,
    if_neg hne, bind_of_ok (contains_of_dict hkind hbody hmn), if_pos hin]
  exact getItem_of_dict hkind hbody hmn hget

/-- A read that finds no entry and is not safe fails, if the key was made from no number. -/
theorem readMap_ne_ok (hkind : w.store.kindOf v = .library .dict)
    (hbody : w.store.body? v = some (.dict m)) (hmk : mapKeyIn call m k.toValue w = (.ok mk, w))
    (hnumber : k.number = none) (hmissed : m.contains mk = false) :
    (readMap call svc v k false w).1 ≠ .ok y := by
  have heq : k.toValue = .text k.name := by rw [Key.toValue, hnumber]
  rw [readMap, bind_of_ok (contains_of_dict hkind hbody hmk), hmissed, if_neg Bool.false_ne_true,
    if_pos heq, pure_bind, if_neg Bool.false_ne_true, if_neg Bool.false_ne_true]
  rcases hlist : listMapKeys call svc v w with ⟨e | ⟨shown, keys⟩, u⟩
  · rw [bind_of_error hlist]
    intro h
    cases h
  · rw [bind_of_ok hlist]
    intro h
    cases h

/-- A map that is written has the value under the value of the key. -/
theorem writeMap_eq (x : Value) (hkind : w.store.kindOf v = .library .dict)
    (hbody : w.store.body? v = some (.dict m)) (hmk : mapKeyIn call m k.toValue w = (.ok mk, w)) :
    writeMap call v k x w =
      (.ok (), { w with store := w.store.setBody v (.dict (m.insert mk x)) }) := by
  have hmutable : w.store.isInstance v .mutableMapping = true := by
    rw [Store.isInstance, hkind]
    rfl
  rw [writeMap, bind_of_ok (store_apply w), if_pos hmutable]
  exact setItem_of_dict x hkind hbody hmk

/-- Calls the value of an entry, or reports that it is no function. -/
def invokeEntry (call : Call) (k : Key) (v f args scope : Value) : Run Value := do
  if (← store).isCallable f then callFunction call f [] scope args
  else refuse (.notAFunction k.name (← typeNameOf v))

/-- Calls a method of the host, which takes no arguments by name. -/
def invokeMethod (call : Call) (svc : ServiceId) (k : Key) (t : Target) (args : Value)
    (safe : Bool) : Run Value := do
  if (← store).isInstance args .mapping then refuse .namedArguments
  else invokeTarget call svc t k args safe

/-- What a key of a map calls where nothing is registered: the entry under the value of the key,
    else a method of the host. -/
theorem invokeHost_map_eq (args scope : Value) (safe : Bool)
    (hkind : w.store.kindOf v = .library .dict) (hbody : w.store.body? v = some (.dict m))
    (hmk : mapKeyIn call m k.toValue w = (.ok mk, w))
    (hfree : registeredFor? svc ⟨.library .dict, v⟩ k w = (.ok none, w)) :
    invokeHost call svc ⟨.library .dict, v⟩ .orderedMap k args safe scope w =
      match m.get? mk with
      | some f => invokeEntry call k v f args scope w
      | none => invokeMethod call svc k ⟨.library .dict, v⟩ args safe w := by
  have hentry : mapValue? call .orderedMap v k w = (.ok (m.get? mk), w) := by
    rw [mapValue?, if_pos rfl, bind_of_ok (contains_of_dict hkind hbody hmk), OrderedMap.contains]
    cases hget : m.get? mk with
    | none => rfl
    | some f =>
      rw [Option.isSome_some, if_pos rfl, bind_of_ok (getItem_of_dict hkind hbody hmk hget)]
      rfl
  rw [invokeHost, bind_of_ok hfree]
  dsimp only
  rw [bind_of_ok hentry]
  cases m.get? mk <;> rfl

/-! ### The three operations -/

/-- What an operation on a host map finds when its key is made: the map, the key of it that stands
    for the value, and no function that is registered for the map under the name. -/
structure SeesMap (call : Call) (svc : ServiceId) (v key : Value) (k : Key) (m : HostMap)
    (mk : MapKey) (w u : World) : Prop where
  made : keyOf call key w = (.ok k, u)
  notMetadata : k.same .metadata = false
  kind : u.store.kindOf v = .library .dict
  body : u.store.body? v = some (.dict m)
  takes : u.TakesAs call m k.toValue mk
  free : (memberFunction? svc k v u).1 = .ok none

namespace SeesMap

variable {key : Value}

/-- A read follows the rules for maps. -/
theorem exists_dereference_eq (h : SeesMap call svc v key k m mk w u) (hscope : scope.IsScope)
    (safe : Bool) : ∃ lines, dereference call svc v key safe scope w =
      readMap call svc v k safe (u.withTrace lines) := by
  obtain ⟨lines, hreq⟩ := exists_request_map_eq call svc (.read safe) k h.kind h.body hscope
  refine ⟨lines, ?_⟩
  rw [dereference, bind_of_ok h.made, if_neg (Store.ne_none_of_body? h.body),
    bind_of_ok (store_apply u), hreq, answerHost, readHost, if_neg (by simp [h.notMetadata])]

/-- A write sets the value under the value of the key. -/
theorem exists_assign_eq (h : SeesMap call svc v key k m mk w u) (hscope : scope.IsScope)
    (x : Value) : ∃ lines, assign call svc v key x scope w =
      (.ok x, { u.withTrace lines with
        store := u.store.setBody v (.dict (m.insert mk x)) }) := by
  obtain ⟨lines, hreq⟩ := exists_request_map_eq call svc (.write x) k h.kind h.body hscope
  have hwrite := writeMap_eq (w := u.withTrace lines) x h.kind h.body (h.takes lines)
  refine ⟨lines, ?_⟩
  rw [assign, bind_of_ok h.made, bind_of_ok (store_apply u), hreq, answerHost, writeHost,
    bind_of_ok hwrite]
  rfl

/-- A call calls the entry under the value of the key, else a method of the host. -/
theorem exists_invoke_eq (h : SeesMap call svc v key k m mk w u) (hscope : scope.IsScope)
    (args : Value) (safe : Bool) : ∃ lines, dereferenceAndInvoke call svc v key args safe scope w =
      match m.get? mk with
      | some f => invokeEntry call k v f args (settledScope u svc scope) (u.withTrace lines)
      | none => invokeMethod call svc k ⟨.library .dict, v⟩ args safe (u.withTrace lines) := by
  obtain ⟨lines, hreq⟩ := exists_request_map_eq call svc (.call args safe) k h.kind h.body hscope
  have hfree : registeredFor? svc ⟨.library .dict, v⟩ k (u.withTrace lines) =
      (.ok none, u.withTrace lines) := by
    rw [registeredFor?_withTrace, registeredFor?,
      if_pos (by simp [Target.hasInstance, Store.ne_none_of_body? h.body]), h.free]
  refine ⟨lines, ?_⟩
  rw [dereferenceAndInvoke, bind_of_ok h.made, bind_of_ok (store_apply u), hreq, answerHost,
    receivedScope]
  exact invokeHost_map_eq (w := u.withTrace lines) args _ safe h.kind h.body (h.takes lines) hfree

end SeesMap

end Service

/-! ### The operations agree on entries under the value of the key -/

/-- **One entry.** If a read of a host map finds an entry, and the key was made from no number or
    the map has it under that number, then a write puts its value in the place of that very entry,
    with all keys as they were, and a call calls what was read. -/
theorem map_operations_agree (call : Call) (svc : ServiceId) (v key x y args scope : Value)
    (safe : Bool) (k : Key) (m : HostMap) (mk : MapKey) (w u : World)
    (h : Service.SeesMap call svc v key k m mk w u) (hscope : scope.IsScope)
    (hfound : (Service.dereference call svc v key false scope w).1 = .ok y)
    (hown : k.number = none ∨ m.contains mk) :
    m.get? mk = some y ∧
      (∃ m' lines, Service.assign call svc v key x scope w =
          (.ok x, { u.withTrace lines with store := u.store.setBody v (.dict m') }) ∧
        m.SetTo mk x m' ∧ m'.keys = m.keys) ∧
      ∃ lines, Service.dereferenceAndInvoke call svc v key args safe scope w =
        Service.invokeEntry call k v y args (Service.settledScope u svc scope)
          (u.withTrace lines) := by
  obtain ⟨lines, hread⟩ := h.exists_dereference_eq hscope false
  rw [hread] at hfound
  -- A key that is made from a number might be read by its text, which is where the three part.
  have hin : m.contains mk = true := by
    refine hown.elim (fun hnumber => ?_) id
    cases hmissed : m.contains mk with
    | true => rfl
    | false =>
      exact absurd hfound (Service.readMap_ne_ok (w := u.withTrace lines) h.kind h.body
        (h.takes lines) hnumber hmissed)
  obtain ⟨f, hget⟩ := Option.isSome_iff_exists.1 hin
  obtain rfl : f = y := by
    rw [Service.readMap_of_get? (w := u.withTrace lines) false h.kind h.body (h.takes lines) hget]
      at hfound
    exact Except.ok.inj hfound
  obtain ⟨lines₁, hassign⟩ := h.exists_assign_eq hscope x
  obtain ⟨lines₂, hinvoke⟩ := h.exists_invoke_eq hscope args safe
  rw [hget] at hinvoke
  refine ⟨hget, ⟨_, lines₁, hassign, OrderedMap.setTo_insert .., ?_⟩, lines₂, hinvoke⟩
  -- The key is there already, so no key is added.
  rw [OrderedMap.keys_insert, if_pos hin]

/-- **Another entry.** An entry that is found by the name of a number alone is only read: a write
    adds an entry under the number, and a call calls a method of the host. -/
theorem map_operations_stray (call : Call) (svc : ServiceId) (v key x y args scope : Value)
    (safe : Bool) (k : Key) (m : HostMap) (mk mn : MapKey) (w u : World)
    (h : Service.SeesMap call svc v key k m mk w u) (hscope : scope.IsScope)
    (hmn : u.TakesAs call m (.text k.name) mn) (hnumber : k.number.isSome)
    (hmissed : m.contains mk = false) (hget : m.get? mn = some y) :
    (Service.dereference call svc v key false scope w).1 = .ok y ∧
      (∃ m' lines, Service.assign call svc v key x scope w =
          (.ok x, { u.withTrace lines with store := u.store.setBody v (.dict m') }) ∧
        m.SetTo mk x m' ∧ m'.keys = m.keys ++ [mk]) ∧
      ∃ lines, Service.dereferenceAndInvoke call svc v key args safe scope w =
        Service.invokeMethod call svc k ⟨.library .dict, v⟩ args safe (u.withTrace lines) := by
  obtain ⟨lines, hread⟩ := h.exists_dereference_eq hscope false
  obtain ⟨lines₁, hassign⟩ := h.exists_assign_eq hscope x
  obtain ⟨lines₂, hinvoke⟩ := h.exists_invoke_eq hscope args safe
  have hnone : m.get? mk = none :=
    Option.isNone_iff_eq_none.1 (Option.isSome_eq_false_iff.1 hmissed)
  rw [hnone] at hinvoke
  refine ⟨?_, ⟨_, lines₁, hassign, OrderedMap.setTo_insert .., ?_⟩, lines₂, hinvoke⟩
  · rw [hread, Service.readMap_of_name (w := u.withTrace lines) false h.kind h.body (h.takes lines)
      (hmn lines) hnumber hmissed hget]
  · rw [OrderedMap.keys_insert, hmissed]
    rfl

/-! ### A map with the text of a number among its keys -/

/-- The keys of a list of prizes: the text of a number. -/
def prizes : HostMap := ⟨[(⟨.text "1", .text "1"⟩, .text "cup")]⟩

/-- A list of prizes. -/
def raffle : World where
  store := { objects := #[{ kind := .library .dict, body := .dict prizes }] }

/-- No key of the prizes has to be asked. -/
theorem takesAs_prizes (k : Key) :
    raffle.TakesAs Host.callValue prizes k.toValue k.mapKey := by
  refine World.takesAs_of_places raffle _ fun key hkey => ?_
  obtain rfl : key = ⟨.text "1", .text "1"⟩ := by simpa [prizes, OrderedMap.keys] using hkey
  intro h
  cases h

/-- Under its text a prize is read, changed in its place, and is what is called. -/
theorem map_operations_agree_raffle :
    (Service.dereference Host.callValue .main (.object 0) (.text "1") false .none raffle).1 =
        .ok (.text "cup") ∧
      ∃ m' lines, Service.assign Host.callValue .main (.object 0) (.text "1") (.text "book") .none
          raffle = (.ok (.text "book"),
            { raffle.withTrace lines with store := raffle.store.setBody (.object 0) (.dict m') }) ∧
        m'.keys = prizes.keys := by
  have hfound : (Service.dereference Host.callValue .main (.object 0) (.text "1") false .none
      raffle).1 = .ok (.text "cup") := rfl
  have hsees : Service.SeesMap Host.callValue .main (.object 0) (.text "1") (.ofText "1") prizes
      (Key.ofText "1").mapKey raffle raffle :=
    ⟨rfl, by decide +kernel, rfl, rfl, takesAs_prizes (.ofText "1"), rfl⟩
  obtain ⟨-, ⟨m', lines, hassign, -, hkeys⟩, -⟩ := map_operations_agree Host.callValue .main
    (.object 0) (.text "1") (.text "book") (.text "cup") .none .none false (.ofText "1") prizes _
    raffle raffle hsees (.inl rfl) hfound (.inl rfl)
  exact ⟨hfound, m', lines, hassign, hkeys⟩

/-- Under its number the same prize is read, but a write adds another, though nothing is registered
    under that name. -/
theorem number_strays_raffle :
    (Host.memberFunction? .main { name := "1", number := some 1 } (.object 0) raffle).1 = .ok none ∧
      (Service.dereference Host.callValue .main (.object 0) (.int 1) false .none raffle).1 =
        .ok (.text "cup") ∧
      ∃ m' lines, Service.assign Host.callValue .main (.object 0) (.int 1) (.text "book") .none
          raffle = (.ok (.text "book"),
            { raffle.withTrace lines with store := raffle.store.setBody (.object 0) (.dict m') }) ∧
        m'.keys ≠ prizes.keys := by
  have hsees : Service.SeesMap Host.callValue .main (.object 0) (.int 1)
      { name := "1", number := some 1 } prizes
      (Key.mapKey { name := "1", number := some 1 }) raffle raffle :=
    ⟨Host.keyOf_int (by decide +kernel) _ _, by decide +kernel, rfl, rfl, takesAs_prizes _, rfl⟩
  obtain ⟨hfound, ⟨m', lines, hassign, -, hkeys⟩, -⟩ := map_operations_stray Host.callValue .main
    (.object 0) (.int 1) (.text "book") (.text "cup") .none .none false _ prizes _
    (Key.ofText "1").mapKey raffle raffle hsees (.inl rfl) (takesAs_prizes (.ofText "1")) rfl
    (by decide +kernel) (by decide +kernel)
  exact ⟨rfl, hfound, m', lines, hassign, by rw [hkeys]; decide +kernel⟩

end ScriptBridge
