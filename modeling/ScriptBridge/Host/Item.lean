import ScriptBridge.Host.Equality

namespace ScriptBridge

/-!
# Elements

The operations that all sorts of containers share: how many elements there are, walking through
them, and reading, writing, removing and finding one. A declared class may define any of them.

* `Host.length`, `Host.itemsOf`, `Host.truth` look at a container as a whole;
* `Host.getItem`, `Host.setItem`, `Host.deleteItem`, `Host.contains` at one element.
-/

namespace Body

/-- The elements of a content that can be listed one by one. -/
def elements? : Body → Option (List Value)
  | .list items | .deque items _ | .tuple items | .array items _ => some items
  | .bytes items | .byteArray items | .byteView _ items =>
    some (items.map fun (n : Nat) => .int n)
  | .words items => some (items.map .int)
  | .dict m | .mapView m => some (m.keys.map (·.value))
  | .struct m _ => some (m.keys.map fun k => .text k.name)
  | .scalar (.text t) => some (t.toList.map fun c => .text (String.singleton c))
  | _ => none

/-- The number of elements of a content. -/
def length? : Body → Option Nat
  | .range start stop step => some (Store.rangeLength start stop step)
  | .scalar (.text t) => some t.length
  | .list items | .deque items _ | .tuple items | .array items _ => some items.length
  | .dict m | .mapView m => some m.size
  | .struct m _ => some m.size
  | b => b.elements?.map (·.length)

/-- An element of a sequence, counted from zero. -/
def element? (b : Body) (i : Nat) : Option Value :=
  match b with
  | .range start stop step =>
    if i < Store.rangeLength start stop step then some (.int (start + i * step)) else none
  | b => b.elements?.bind (·[i]?)

end Body

namespace Host

open Run

/-- The host's error for a missing key. -/
def keyMissing : Fault := .host .keyError ""

/-- The host's error for an index out of range. -/
def outOfRange : Fault := .host .indexError ""

/-- The content of a value; a text is its own. -/
def wholeContent? (v : Value) : Run (Option Body) := do
  match v with
  | .text t => return some (.scalar (.text t))
  | v => content? v

/-- The content of a library value; one that was never initialised lacks the attribute for it. -/
def requireContent (v : Value) : Run Body := do
  match ← wholeContent? v with
  -- Allocated by a class that skipped the initialiser.
  | some .plain => fail .attributeError
  | some b => return b
  | none => fail .typeError

/-- The place that an index means in a sequence. -/
def place? (length : Nat) (i : Int) : Option Nat :=
  let j := if i < 0 then i + length else i
  if 0 ≤ j ∧ j < length then some j.toNat else none

/-! ### Containers as a whole -/

/-- The number of elements that a declared class gives. -/
def lengthResult (call : Call) (v : Value) : Run Nat := do
  let n ← indexOf call v
  if n < 0 then fail .valueError
  else if (maxLength : Int) < n then fail overflow
  else return n.toNat

/-- The number of elements of a value. -/
def length (call : Call) (v : Value) : Run Nat := do
  match ← callSpecial? call v "__len__" [] with
  | some r => lengthResult call r
  | none =>
    match ← librarySpecial? v "__len__" with
    | none => fail .typeError
    | some .sized | some .collection => return 0
    | some _ =>
      match ← requireContent v with
      | .side _ of => match (← requireContent of).length? with
        | some n => return n
        | none => lengthResult call (← operate call "len" [of])
      | .range start stop step =>
        let n := Store.rangeLength start stop step
        if maxLength < n then fail overflow else return n
      | b => match b.length? with
        | some n => return n
        | none => fail .typeError

/-- How far walks without a known end are followed. -/
def walkLimit : Nat := 100000

/-- Walks through a value by asking for one element after the other, until there is none. -/
def walkByIndex (call : Call) (v : Value) : Nat → Nat → Run (List Value)
  | 0, _ => fail (.host .recursionError "")
  | fuel + 1, i => do
    match ← outcome (operate call "getitem" [v, .int i]) with
    | .ok x => do return x :: (← walkByIndex call v fuel (i + 1))
    | .error f => if faultIsA (← store) f .indexError then return [] else fail f

/-- Walks on with something that a declared class walks with; it never says that it is done. -/
def walkOn (call : Call) (walker : Value) : Nat → Run (List Value)
  | 0 => fail (.host .recursionError "")
  | fuel + 1 => do
    match ← callSpecial? call walker "__next__" [] with
    | some x => do return x :: (← walkOn call walker fuel)
    | none => fail .typeError

/-- Walks through a map: its keys, its values or its pairs. -/
def walkSide (call : Call) (side : MapSide) (of : Value) : Run (List Value) := do
  let direct (pairs : List (Value × Value)) : Run (List Value) :=
    match side with
    | .keys => return pairs.map (·.1)
    | .values => return pairs.map (·.2)
    | .items => pairs.mapM fun (k, x) => newTuple [k, x]
  match ← content? of with
  | some (.dict m) | some (.mapView m) => direct (m.entries.map fun (k, x) => (k.value, x))
  | _ =>
    let keys ← operate call "list" [of]
    match ← body? keys with
    | some (.list keys) => match side with
      | .keys => return keys
      | _ => do
        let pairs ← keys.mapM fun k => do return (k, ← operate call "getitem" [of, k])
        direct pairs
    | _ => fail .typeError

/-- The elements of a value that can be walked through. -/
def itemsOf (call : Call) (v : Value) : Run (List Value) := do
  match ← callSpecial? call v "__iter__" [] with
  | some walker => walkOn call walker walkLimit
  | none =>
    match ← librarySpecial? v "__iter__" with
    | some .iterable | some .collection => return []
    | some .sequence =>
      match ← content? v with
      | some (.array items _) =>
        -- an array that defines how it is indexed is walked through that way
        if ((← store).declaredSpecial? (← kindOf v) "__getitem__").isSome then
          walkByIndex call v walkLimit 0
        else return items
      | _ => walkByIndex call v walkLimit 0
    | some _ =>
      match ← requireContent v with
      | .side side of => walkSide call side of
      | .range start stop step =>
        return (List.range (Store.rangeLength start stop step)).map fun (i : Nat) =>
          .int (start + i * step)
      | b => match b.elements? with
        | some items => return items
        | none => fail .typeError
    | none =>
      let s ← store
      if (s.special? (s.kindOf v) "__getitem__").isNone then fail .typeError
      else match s.content? v with
        | some (.words items) => return items.map .int
        | _ => match v with
          | .scope _ => walkByIndex call v walkLimit 0
          | .kind _ => fail .typeError
          | v => walkByIndex call v walkLimit 0

/-- Whether a value counts as true: nothing, falsehood, zero and whatever is empty do not. -/
def truth (call : Call) (v : Value) : Run Bool := do
  match ← callSpecial? call v "__bool__" [] with
  | some (.bool b) => return b
  | some _ => fail .typeError
  | none =>
    let s ← store
    let k := s.kindOf v
    match v with
    | .kind _ => return true
    | v =>
      -- Without a verdict of its own, a container counts as true by its length.
      if (s.special? k "__bool__").isNone && (s.special? k "__len__").isSome then
        match s.content? v with
        | some (.range a b c) => return Store.rangeLength a b c ≠ 0
        | _ => match v with
          | .text t => return !t.isEmpty
          | v => return (← length call v) ≠ 0
      else match s.content? v with
        | some (.scalar x) => return Store.isTrueScalar x
        | some (.deque items _) => return !items.isEmpty
        | some (.range a b c) => return Store.rangeLength a b c ≠ 0
        | some _ => return true
        | none => return Store.isTrueScalar v

/-! ### Scopes as containers -/

/-- Whether the variables of a scope have a key. -/
def bindingsHave (call : Call) (bindings : Value) (key : Key) : Run Bool := do
  match ← body? bindings, ← kindOf bindings with
  | some (.struct m _), .library .struct => return m.contains key
  | _, _ => do return (← operate call "contains" [bindings, key.asValue]) = .bool true

/-- A bound on the number of scopes on the way to a root. Setting a parent may close a circle. -/
def scopeLimit (s : Store) : Nat := s.scopes.size + s.objects.size + 1

/-- The first scope on the way to the root that has a variable, and its variables. What stands in
    the place of a scope is asked for its variables and its parent. -/
def ownerFrom (call : Call) (key : Key) : Nat → Value → Run (Option (Value × Value))
  | 0, _ | _, .none => return none
  | fuel + 1, .scope i => do
    match (← store).scopes[i]? with
    | none => return none
    | some c =>
      if ← bindingsHave call c.bindings key then return some (.scope i, c.bindings)
      else ownerFrom call key fuel c.parent
  | fuel + 1, v => do
    -- Asking may run code of the session, so nothing is read ahead.
    let bindings ← getAttr call v "variables"
    if ← bindingsHave call bindings key then return some (v, bindings)
    else ownerFrom call key fuel (← getAttr call v "parent")

/-- The first scope, from one to its root, that has a variable, and its variables. -/
def findOwner (call : Call) (i : Nat) (key : Value) : Run (Option (Value × Value)) := do
  let key ← keyOf call key
  ownerFrom call key (scopeLimit (← store)) (.scope i)

/-! ### Single elements -/

/-- The entry of a host map under a key. What a declared map does about missing keys is asked. -/
def getMapItem (call : Call) (v : Value) (m : HostMap) (key : Value) : Run Value := do
  match m.get? (← mapKeyIn call m key) with
  | some x => return x
  | none =>
    -- Only a descendant may have something to say about missing keys.
    match ← kindOf v with
    | .declared _ =>
      match ← callSpecial? call v "__missing__" [key] with
      | some x => return x
      | none => fail keyMissing
    | _ => fail keyMissing

/-- The entries of a struct and what it keeps of its type, by now: to make a key may have changed
    what they were. -/
def structNow (v : Value) (m : OrderedMap Key Value) (card : Option Value) :
    Run (OrderedMap Key Value × Option Value) := do
  match ← body? v with
  | some (.struct m card) => return (m, card)
  | _ => return (m, card)

/-- The element of a library value under a key or at an index. -/
def getContentItem (call : Call) (v : Value) (b : Body) (key : Value) : Run Value := do
  match b with
  | .dict m => getMapItem call v m key
  | .mapView m => match m.get? (← mapKeyIn call m key) with
    | some x => return x
    | none => fail keyMissing
  | .struct m card => do
    let k ← keyOf call key
    let (m, _) ← structNow v m card
    match m.get? k with
    | some x => return x
    | none => fail keyMissing
  | b =>
    match b.length? with
    | none => fail .typeError
    | some n =>
      let i ← indexOf call key
      match (place? n i).bind b.element? with
      | some x => return x
      | none => fail outOfRange

/-- The element of a value under a key or at an index. -/
def getItem (call : Call) (v key : Value) : Run Value := do
  match ← callSpecial? call v "__getitem__" [key] with
  | some x => return x
  | none =>
    match ← librarySpecial? v "__getitem__" with
    | none => fail .typeError
    -- The abstract classes can be descended from as they are; they hold nothing.
    | some .mapping => fail keyMissing
    | some .sequence => fail outOfRange
    | some _ =>
      match v with
      | .scope i => do
        match ← findOwner call i key with
        | some (_, bindings) => operate call "getitem" [bindings, key]
        | none => fail (.host .keyError (Quoted.text (← textOf call key)))
      | v => getContentItem call v (← requireContent v) key

/-- An integer as a signed word of 32 bits. -/
def wrapWord (n : Int) : Int := n.bmod 4294967296

/-- A byte as an element of an array: an integer in range. -/
def byteOf (call : Call) (x : Value) : Run Nat := do
  let n ← indexOf call x
  if 0 ≤ n ∧ n ≤ 255 then return n.toNat else fail .valueError

/-- A machine word as an element of an array. -/
def wordOf (x : Value) : Run Int := do
  match (← store).scalar x with
  | .int n => return wrapWord n
  | .bool b => return if b then 1 else 0
  | _ => fail .typeError

/-- The place that an index means in a sequence that is written. -/
def requirePlace (call : Call) (length : Nat) (key : Value) : Run Nat := do
  match place? length (← indexOf call key) with
  | some i => return i
  | none => fail outOfRange

/-- Sets an element of a library value. -/
def setContentItem (call : Call) (v : Value) (b : Body) (key x : Value) : Run Unit := do
  match b with
  | .dict m => do setContent v (.dict (← insertKey call m key x))
  | .struct m card => do
    let k ← keyOf call key
    -- Making the key may have run code that wrote to this very struct.
    let (m, card) ← structNow v m card
    setBody v (.struct (m.insert k x) card)
  | .list items => do setContent v (.list (items.set (← requirePlace call items.length key) x))
  | .deque items limit => do
    setBody v (.deque (items.set (← requirePlace call items.length key) x) limit)
  | .array items card => do
    setBody v (.array (items.set (← requirePlace call items.length key) x) card)
  | .byteArray items => do
    let i ← requirePlace call items.length key
    setBody v (.byteArray (items.set i (← byteOf call x)))
  | .byteView true items => do
    let i ← requirePlace call items.length key
    setContent v (.byteView true (items.set i (← byteOf call x)))
  | .words items => do
    let i ← requirePlace call items.length key
    setBody v (.words (items.set i (← wordOf x)))
  | _ => fail .typeError

/-- Sets the element of a value under a key or at an index. -/
def setItem (call : Call) (v key x : Value) : Run Unit := do
  match ← callSpecial? call v "__setitem__" [key, x] with
  | some _ => return
  | none =>
    match ← librarySpecial? v "__setitem__" with
    | none => fail .typeError
    | some .mutableMapping => fail keyMissing
    | some .mutableSequence => fail outOfRange
    | some _ =>
      match v with
      | .scope i => do
        match (← store).scopes[i]? with
        | some c => do let _ ← operate call "setitem" [c.bindings, key, x]
        | none => fail .typeError
      | v => setContentItem call v (← requireContent v) key x

/-- Removes an element of a library value. -/
def deleteContentItem (call : Call) (v : Value) (b : Body) (key : Value) : Run Unit := do
  match b with
  | .dict m => do
    let k ← mapKeyIn call m key
    if m.contains k then setContent v (.dict (m.erase k)) else fail keyMissing
  | .struct m card => do
    let k ← keyOf call key
    let (m, card) ← structNow v m card
    if m.contains k then setBody v (.struct (m.erase k) card) else fail keyMissing
  | .list items => do setContent v (.list (items.eraseIdx (← requirePlace call items.length key)))
  | .deque items limit => do
    setBody v (.deque (items.eraseIdx (← requirePlace call items.length key)) limit)
  | .array items card => do
    setBody v (.array (items.eraseIdx (← requirePlace call items.length key)) card)
  | .byteArray items => do
    setBody v (.byteArray (items.eraseIdx (← requirePlace call items.length key)))
  | _ => fail .typeError

/-- Removes the element of a value under a key or at an index. -/
def deleteItem (call : Call) (v key : Value) : Run Unit := do
  match ← callSpecial? call v "__delitem__" [key] with
  | some _ => return
  | none =>
    match ← librarySpecial? v "__delitem__" with
    | none => fail .typeError
    | some .mutableMapping => fail keyMissing
    | some .mutableSequence => fail outOfRange
    | some _ => deleteContentItem call v (← requireContent v) key

/-! ### Finding -/

/-- Whether a value is among some elements. -/
def isAmong (call : Call) (x : Value) : List Value → Run Bool
  | [] => return false
  | y :: rest => do if ← equal call y x then return true else isAmong call x rest

/-- Whether a library value holds a key or an element. -/
def contentHas (call : Call) (v : Value) (b : Body) (x : Value) : Run Bool := do
  match b with
  | .dict m | .mapView m => do return m.contains (← mapKeyIn call m x)
  | .struct m card =>
    -- Only an error of type means that the value can be no key.
    catching .typeError (do
      let k ← keyOf call x
      let (m, _) ← structNow v m card
      return m.contains k) (return false)
  | .scalar (.text t) =>
    match (← store).scalar x with
    | .text part => return part.isEmpty || (t.splitOn part).length > 1
    | _ => fail .typeError
  | .bytes items | .byteArray items =>
    match (← store).scalar x, bytesOf? (← content? x) with
    | _, some part => return part.isEmpty || (List.range items.length).any fun i =>
        (items.drop i).take part.length = part
    | _, none => do
      let n ← byteOf call x
      return items.contains n
  | .side .keys of => do return (← operate call "contains" [of, x]) = .bool true
  | _ => isAmong call x (← itemsOf call v)

/-- Whether a value holds a key or an element. -/
def contains (call : Call) (v x : Value) : Run Bool := do
  match ← callSpecial? call v "__contains__" [x] with
  | some r => truth call r
  | none =>
    match ← librarySpecial? v "__contains__" with
    | none => isAmong call x (← itemsOf call v)
    | some .container | some .collection => return false
    | some .mapping =>
      catching .keyError (do
        let _ ← getItem call v x
        return true) (return false)
    | some .sequence => isAmong call x (← itemsOf call v)
    | some _ =>
      match v with
      | .scope i => do return (← findOwner call i x).isSome
      | v => contentHas call v (← requireContent v) x

end Host

end ScriptBridge
