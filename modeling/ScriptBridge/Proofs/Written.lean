import ScriptBridge.Eval
import ScriptBridge.Proofs.Items

namespace ScriptBridge

/-!
# Written values are read

What is written under a key of a container is what the key reads as afterwards, and nothing else
that the container holds changes. The two ways to the place are different for each sort of
container, so each is followed once for a write and once for a read.

* `Service.contains_of_write` is what a write leaves, `Service.exists_read_eq` what a read gives;
* `written_reads`: a value that was written is read, and the rest of the container is as it was.
-/

/-! ### Writes -/

namespace Service

open Run Host

variable {call : Call} {svc : ServiceId} {v x y scope : Value} {k : Key} {w w' : World}
  {h : Holding} {xs : List Value} {m : OrderedMap Key Value}

/-- A dictionary of the host is a map to the engine. -/
theorem classify_of_dict {s : Store} (hk : s.kindOf v = .library .dict) :
    s.classify v = .orderedMap := by
  unfold Store.classify Store.isInstance
  rw [hk]
  rfl

/-- A struct stores the value under the key, and changes nothing else. -/
theorem exists_writeNative_struct_eq (call : Call) (sc x : Value) (hs : w.store.IsStruct v m)
    (hkey : w.store.key? k.asValue = some k) :
    ∃ card, w.store.body? v = some (.struct m card) ∧
      Container.writeNative call .struct v sc k x w =
        (.ok x, { w with store := w.store.setBody v (.struct (m.insert k x) card) }) := by
  obtain ⟨card, hb, hset⟩ := exists_setItem_eq call x hs hkey
  refine ⟨card, hb, ?_⟩
  rw [Container.writeNative, bind_of_ok (body?_apply w v)]
  dsimp only
  rw [bind_of_ok hset]
  rfl

/-- An instance of a class of a script stores the value in the struct of its public members. -/
theorem exists_writeNative_scripted_eq (call : Call) (sc x : Value) {members : Value}
    (ha : w.store.AnswersAs v .scripted) (hp : w.store.ShowsPublic v members)
    (hs : w.store.IsStruct members m) (hkey : w.store.key? k.asValue = some k) :
    ∃ card, w.store.body? members = some (.struct m card) ∧
      Container.writeNative call .scripted v sc k x w =
        (.ok x, { w with store := w.store.setBody members (.struct (m.insert k x) card) }) := by
  obtain ⟨card, hb, hset⟩ := exists_setItem_eq call x hs hkey
  refine ⟨card, hb, ?_⟩
  rw [Container.writeNative, bind_of_ok (body?_apply w v)]
  dsimp only
  rw [bind_of_ok (publicScope_of_showsPublic call hp ha.write), bind_of_ok hset]
  rfl

/-- A write to a sequence sets the item at the place. -/
theorem contains_of_write_items (hc : w.store.Contains v (.items xs)) (hscope : scope.IsScope)
    (hwrite : request call (.write x) svc (w.store.asTarget v) k scope w = (.ok y, w')) :
    y = x ∧ ∃ h', w'.store.Contains v h' ∧ Wrote k x (.items xs) h' := by
  obtain ⟨u, heq, -, hheld⟩ := exists_write_items_eq (k := k) call svc x hc hscope
  rw [heq] at hwrite
  unfold writeItems at hwrite hheld
  cases hi : k.writeIndex xs.length false with
  | error e =>
    rw [hi] at hwrite
    cases hwrite
  | ok i =>
    obtain ⟨n, rfl, hn⟩ := Key.exists_of_writeIndex hi
    rw [hi] at hwrite hheld
    cases hwrite
    simp only [Except.map, Except.toOption, Option.getD_some, Key.toNat_place] at hheld
    exact ⟨rfl, _, hheld, .item hn (paddedTo_setPadded ..)⟩

/-- A write to a plain map sets the entry under the key that the host sees. -/
theorem contains_of_write_dict {m : HostMap} (hk : w.store.kindOf v = .library .dict)
    (hb : w.store.body? v = some (.dict m)) (hplaces : (Holding.pairs m).Places k)
    (hscope : scope.IsScope)
    (hwrite : request call (.write x) svc (w.store.asTarget v) k scope w = (.ok y, w')) :
    y = x ∧ ∃ h', w'.store.Contains v h' ∧ Wrote k x (.pairs m) h' := by
  have hsort := classify_of_dict hk
  obtain ⟨lines, hreq⟩ := request_host (r := .write x) call svc k trivial hscope
    (Store.ne_none_of_body? hb) (Store.asTarget_of_body? hb (by simp)) (by rw [hsort]; decide)
  have hmutable : (w.withTrace lines).store.isInstance v .mutableMapping = true := by
    rw [World.store_withTrace, Store.isInstance, hk]
    rfl
  have hset := setItem_of_dict (w := w.withTrace lines) x hk hb (mapKeyIn_of_places call _ hplaces)
  rw [hreq, hsort, answerHost, writeHost, writeMap, bind_assoc, bind_of_ok (store_apply _),
    if_pos hmutable, bind_of_ok hset] at hwrite
  cases hwrite
  refine ⟨rfl, _, .dict ?_ ?_, .pair (OrderedMap.setTo_insert ..)⟩
  · rw [Store.kindOf_setBody, World.store_withTrace, hk]
  · rw [Store.body?_setBody_self, World.store_withTrace, hb]
    rfl

/-- A write that succeeds gives the value back, and sets the place that the key means in what the
    container holds. -/
theorem contains_of_write (hc : w.store.Contains v h) (hkey : w.store.key? k.asValue = some k)
    (hplaces : h.Places k) (hscope : scope.IsScope)
    (hwrite : request call (.write x) svc (w.store.asTarget v) k scope w = (.ok y, w')) :
    y = x ∧ ∃ h', w'.store.Contains v h' ∧ Wrote k x h h' := by
  cases hc with
  | struct ha hs =>
    obtain ⟨sc, lines, hreq⟩ := request_own call svc (.write x) k hscope ha ha.write (by decide)
    obtain ⟨card, hb, heq⟩ :=
      exists_writeNative_struct_eq (w := w.withTrace lines) call sc x hs hkey
    rw [hreq, answerOwn, heq] at hwrite
    cases hwrite
    refine ⟨rfl, _, .struct (ha.setBody hb Body.sameSort_struct) (hs.setBody hb card), ?_⟩
    exact .entry (OrderedMap.setTo_insert ..)
  | scripted ha hp hs =>
    obtain ⟨sc, lines, hreq⟩ := request_own call svc (.write x) k hscope ha ha.write (by decide)
    obtain ⟨card, hb, heq⟩ :=
      exists_writeNative_scripted_eq (w := w.withTrace lines) call sc x ha hp
      hs hkey
    rw [hreq, answerOwn, heq] at hwrite
    cases hwrite
    refine ⟨rfl, _, .scripted (ha.setBody hb Body.sameSort_struct) (hp.setBody _ _ _)
      (hs.setBody hb card), ?_⟩
    exact .entry (OrderedMap.setTo_insert ..)
  -- The containers of items are written by places, and host maps by the value of the key.
  | array ha hb => exact contains_of_write_items (.array ha hb) hscope hwrite
  | sequence hi => exact contains_of_write_items (.sequence hi) hscope hwrite
  | dict hk hb => exact contains_of_write_dict hk hb hplaces hscope hwrite

/-! ### Reads -/

/-- An instance of a class of a script gives what its public members hold, unless it is asked for
    its description. -/
theorem readScripted_of_get? (sc : Value) {members : Value} (safe : Bool)
    (ha : w.store.AnswersAs v .scripted) (hp : w.store.ShowsPublic v members)
    (hs : w.store.IsStruct members m) (hmeta : k.same .metadata = false) (hx : x ≠ .absent)
    (hget : m.get? k = some x) : Container.readScripted call v sc k safe w = (.ok x, w) := by
  obtain ⟨card, hb⟩ := hs.body
  rw [Container.readScripted, if_neg (by simp [hmeta]),
    bind_of_ok (publicScope_of_showsPublic call hp ha.read)]
  have hstruct : Container.readStruct call members m k true w = (.ok x, w) := by
    simp only [Container.readStruct, hmeta, Bool.false_eq_true, if_false, hget]
    rfl
  rw [bind_apply, viaKeyed_apply hs.reader, bind_of_ok (body?_apply w members), hb]
  dsimp only
  rw [hstruct]
  dsimp only
  rw [if_pos (by simp [hx])]
  rfl

/-- The item at the place is what the key reads as. -/
theorem exists_read_items_of_gives (call : Call) (svc : ServiceId) (safe : Bool)
    (hc : w.store.Contains v (.items xs)) (hplaces : (Holding.items xs).Places k)
    (hmeta : k.same .metadata = false) (hscope : scope.IsScope)
    (hgives : (Holding.items xs).Gives k x) :
    ∃ lines, request call (.read safe) svc (w.store.asTarget v) k scope w =
      (.ok x, w.withTrace lines) := by
  obtain ⟨i, hi, hget⟩ := hgives
  have hlt : i < xs.length := (List.getElem?_eq_some_iff.1 hget).1
  have hread : readItems xs k safe = .ok x := by
    rw [readItems, if_neg (by simp [show _ = false from hplaces]), Key.readIndex_of_reading hi hlt]
    simp [Except.map, hget]
  obtain ⟨lines, heq⟩ := exists_read_items_eq call svc safe hc hmeta hscope
  exact ⟨lines, by rw [heq, hread]⟩

/-- What a plain map has under the key that the host sees is what the key reads as. -/
theorem exists_read_dict_of_gives (call : Call) (svc : ServiceId) (safe : Bool) {m : HostMap}
    (hk : w.store.kindOf v = .library .dict) (hb : w.store.body? v = some (.dict m))
    (hplaces : (Holding.pairs m).Places k) (hmeta : k.same .metadata = false)
    (hscope : scope.IsScope) (hgives : (Holding.pairs m).Gives k x) :
    ∃ lines, request call (.read safe) svc (w.store.asTarget v) k scope w =
      (.ok x, w.withTrace lines) := by
  have hsort := classify_of_dict hk
  obtain ⟨lines, hreq⟩ := request_host (r := .read safe) call svc k trivial hscope
    (Store.ne_none_of_body? hb) (Store.asTarget_of_body? hb (by simp)) (by rw [hsort]; decide)
  have hkey := mapKeyIn_of_places call (w.withTrace lines) hplaces
  have hcontains := contains_of_dict (w := w.withTrace lines) hk hb hkey
  have hitem := getItem_of_dict (w := w.withTrace lines) hk hb hkey hgives
  have hin : m.contains k.mapKey = true := by
    rw [OrderedMap.contains, show m.get? k.mapKey = some x from hgives, Option.isSome_some]
  refine ⟨lines, ?_⟩
  rw [hreq, hsort, answerHost, readHost, if_neg (by simp [hmeta])]
  dsimp only
  rw [readMap, bind_of_ok hcontains, if_pos hin, hitem]

/-- What a container holds under a key is what the key reads as, and reading changes nothing but the
    trace. -/
theorem exists_read_eq (call : Call) (svc : ServiceId) (safe : Bool) (hc : w.store.Contains v h)
    (hplaces : h.Places k) (hmeta : k.same .metadata = false) (hscope : scope.IsScope)
    (hx : x ≠ .absent) (hgives : h.Gives k x) :
    ∃ lines, request call (.read safe) svc (w.store.asTarget v) k scope w =
      (.ok x, w.withTrace lines) := by
  cases hc with
  | struct ha hs =>
    obtain ⟨sc, lines, hreq⟩ := request_own call svc (.read safe) k hscope ha ha.read (by decide)
    obtain ⟨card, hb⟩ := hs.body
    refine ⟨lines, ?_⟩
    rw [hreq, answerOwn, Container.readNative, bind_of_ok (body?_apply _ v), World.store_withTrace,
      hb]
    simp only [Container.readStruct, hmeta, Bool.false_eq_true, if_false]
    rw [show _ = some x from hgives]
    rfl
  | scripted ha hp hs =>
    obtain ⟨sc, lines, hreq⟩ := request_own call svc (.read safe) k hscope ha ha.read (by decide)
    refine ⟨lines, ?_⟩
    rw [hreq, answerOwn, Container.readNative, bind_of_ok (body?_apply _ v)]
    exact readScripted_of_get? (w := w.withTrace lines) sc safe ha hp hs hmeta hx hgives
  | array ha hb =>
    exact exists_read_items_of_gives call svc safe (.array ha hb) hplaces hmeta hscope hgives
  | sequence hs =>
    exact exists_read_items_of_gives call svc safe (.sequence hs) hplaces hmeta hscope hgives
  | dict hk hb => exact exists_read_dict_of_gives call svc safe hk hb hplaces hmeta hscope hgives

end Service

/-! ### What was written is read -/

/-- **Written values.** A write to a container that succeeds gives the value back, and in what the
    container holds it sets the place that the key means and nothing else. A read of the same key
    then gives the value, as long as the key is turned into the same one and that changes nothing
    of the container. -/
theorem written_reads (call : Call) (svc : ServiceId) (target key x y scope : Value) (k : Key)
    (h : Holding) (w w₁ w' : World) (hobject : ∀ k, key = .key k → k.object = none)
    (hkey : Host.keyOf call key w = (.ok k, w₁)) (hcontains : w₁.store.Contains target h)
    (hmeta : k.same .metadata = false) (hplaces : h.Places k) (hscope : scope.IsScope)
    (hx : x ≠ .absent) (hassign : Service.assign call svc target key x scope w = (.ok y, w')) :
    y = x ∧ ∃ h', w'.store.Contains target h' ∧ Wrote k x h h' ∧
      ∀ safe w₂, Host.keyOf call key w' = (.ok k, w₂) → w₂.store.Contains target h' →
        ∃ lines, Service.dereference call svc target key safe scope w' =
          (.ok x, w₂.withTrace lines) := by
  have hown := Host.key?_asValue_of_keyOf hkey hobject
  rw [Service.assign, Run.bind_of_ok hkey, Run.bind_of_ok (Run.store_apply w₁)] at hassign
  obtain ⟨hy, h', hcontains', hwrote⟩ :=
    Service.contains_of_write hcontains hown hplaces hscope hassign
  refine ⟨hy, h', hcontains', hwrote, ?_⟩
  intro safe w₂ hkey' hcontains₂
  obtain ⟨lines, hread⟩ := Service.exists_read_eq call svc safe hcontains₂
    (hwrote.places hplaces) hmeta hscope hx hwrote.gives
  refine ⟨lines, ?_⟩
  rw [Service.dereference, Run.bind_of_ok hkey', if_neg hcontains₂.ne_none,
    Run.bind_of_ok (Run.store_apply w₂), hread]

/-- A scripted instance, its public members, and a queue. -/
def pantry : World where
  store :=
    { objects := #[
        { kind := .declared 0, attrs := ⟨[("this_scope", .object 1)]⟩ },
        { kind := .library .struct, body := .struct ⟨[(.ofText "Jam", .int 1)]⟩ none },
        { kind := .library .deque, body := .deque [.int 7] none }]
      classes := #[
        { name := "P", qualifiedName := "P", home := some "host", bases := [.library .scripted],
          lineage := .declared 0 :: LibraryKind.scripted.lineage.map .library,
          metaclass := .type }] }

/-- A public member is written under another spelling, and a queue is filled up to a place that is
    given in the digits of another script. -/
theorem written_reads_pantry :
    let call := Host.callValue
    (pantry.store.Contains (.object 0) (.entries ⟨[(.ofText "Jam", .int 1)]⟩) ∧
      ∃ w' h', Service.assign call .main (.object 0) (.text "JAM") (.int 2) .none pantry =
          (.ok (.int 2), w') ∧ w'.store.Contains (.object 0) h' ∧
        Wrote (.ofText "JAM") (.int 2) (.entries ⟨[(.ofText "Jam", .int 1)]⟩) h' ∧
        ∀ safe, ∃ lines, Service.dereference call .main (.object 0) (.text "JAM") safe .none w' =
          (.ok (.int 2), w'.withTrace lines)) ∧
    (pantry.store.Contains (.object 2) (.items [.int 7]) ∧
      ∃ w' h', Service.assign call .main (.object 2) (.text "٤") (.int 2) .none pantry =
          (.ok (.int 2), w') ∧ w'.store.Contains (.object 2) h' ∧
        Wrote (.ofText "٤") (.int 2) (.items [.int 7]) h' ∧
        ∀ safe, ∃ lines, Service.dereference call .main (.object 2) (.text "٤") safe .none w' =
          (.ok (.int 2), w'.withTrace lines)) := by
  have hscripted : pantry.store.Contains (.object 0) (.entries ⟨[(.ofText "Jam", .int 1)]⟩) :=
    .scripted ⟨rfl, rfl, rfl, rfl⟩ ⟨rfl, rfl, fun _ _ h => nomatch h⟩ ⟨⟨none, rfl⟩, rfl, rfl⟩
  have hqueue : pantry.store.Contains (.object 2) (.items [.int 7]) := .sequence (.deque rfl rfl)
  have hlength : (Key.ofText "٤").same .length = false := by decide +kernel
  obtain ⟨-, h₁, hc₁, hwrote₁, hread₁⟩ := written_reads Host.callValue .main (.object 0)
    (.text "JAM") (.int 2) (.int 2) .none (.ofText "JAM") _ pantry pantry _ nofun rfl hscripted
    (by decide +kernel) trivial (.inl rfl) nofun rfl
  obtain ⟨-, h₂, hc₂, hwrote₂, hread₂⟩ := written_reads Host.callValue .main (.object 2)
    (.text "٤") (.int 2) (.int 2) .none (.ofText "٤") _ pantry pantry _ nofun rfl hqueue
    (by decide +kernel) hlength (.inl rfl) nofun rfl
  exact ⟨⟨hscripted, _, h₁, rfl, hc₁, hwrote₁, fun safe => hread₁ safe _ rfl hc₁⟩,
    hqueue, _, h₂, rfl, hc₂, hwrote₂, fun safe => hread₂ safe _ rfl hc₂⟩

/-- A list, an instance of a class of integers that is shown as a text, and the function that shows
    it. -/
def tray : World where
  store :=
    { objects := #[
        { kind := .library .list, body := .list [.int 1, .int 2, .int 3] },
        { kind := .declared 0, body := .scalar (.int 2) },
        { kind := .library .function,
          body := .function ⟨"__str__", [⟨"self", .normal, none, none⟩],
            .literal (.text "length"), true, {}⟩ }]
      classes := #[
        { name := "I", qualifiedName := "I", home := some "host",
          bases := [.library .int], lineage := [.declared 0, .library .int, .library .object],
          metaclass := .type, attrs := ⟨[("__str__", .object 2)]⟩ }] }

/-- A number that is shown as `length` is written to its place, and reads as the length. -/
theorem length_read_tray :
    tray.store.IsSequence (.object 0) [.int 1, .int 2, .int 3] ∧
    (∃ k w, Host.keyOf Host.callValue (.object 1) tray = (.ok k, w) ∧ k.same .metadata = false) ∧
    ∃ w', Service.assign Host.callValue .main (.object 0) (.object 1) (.text "x") .none tray =
        (.ok (.text "x"), w') ∧
      (Service.dereference Host.callValue .main (.object 0) (.object 1) false .none w').1 =
        .ok (.int 3) :=
  ⟨.list rfl rfl, ⟨_, _, rfl, by decide +kernel⟩, _, rfl, rfl⟩

end ScriptBridge
