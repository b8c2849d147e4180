import ScriptBridge.Host.Text

namespace ScriptBridge

/-!
# Snapshots

A value as it is at one moment, with everything it refers to spelled out. A container that is being
spelled out already is cut off.
-/

/-- A value with everything it refers to. -/
inductive Snapshot where
  | null
  | absent
  | bool (b : Bool)
  | int (n : Int)
  | real (text : String)
  | complex (text : String)
  | fraction (text : String)
  | decimal (text : String)
  | text (s : String)
  | list (items : List Snapshot)
  | tuple (items : List Snapshot)
  | deque (items : List Snapshot)
  | array (items : List Snapshot)
  | dict (pairs : List (Snapshot × Snapshot))
  | mapView (pairs : List (Snapshot × Snapshot))
  | struct (pairs : List (String × Snapshot))
  | bytes (items : List Nat)
  | byteArray (items : List Nat)
  | byteView (items : List Nat)
  | words (items : List Int)
  | range (start stop step : Int)
  | key (value : Snapshot)
  | error (name : String) (args : List Snapshot) (attrs : List (String × Snapshot))
  /-- An instance; `plain` is the value it has as an instance of a library class. -/
  | object (type : String) (attrs : List (String × Snapshot)) (plain : Option Snapshot)
  | kind (type : String)
  /-- A class with an instance of it. -/
  | target (type : String) (inst : Snapshot)
  | wrapper (type : String) (inst : Snapshot)
  | function (name : String)
  | scope (type : String) (bindings : Snapshot)
  /-- A description of a type. -/
  | card (struct : Snapshot)
  /-- A member of a class that is no function: its sort. -/
  | descriptor (sort : String)
  | cycle
deriving Inhabited

namespace Snapshot

mutual

/-- Whether all the numbers in a snapshot have few enough digits to be written. -/
def isWritable : Snapshot → Bool
  | .int n => (decimalText? n).isSome
  | .fraction t => (t.splitOn "/").all fun n => (n.dropPrefix "-").toString.length ≤ digitLimit
  | .range start stop step => [start, stop, step].all fun n => (decimalText? n).isSome
  | .list items | .tuple items | .deque items | .array items => allWritable items
  | .dict pairs | .mapView pairs => pairsWritable pairs
  | .struct pairs => namedWritable pairs
  | .key value => value.isWritable
  | .error _ args attrs => allWritable args && namedWritable attrs
  | .object _ attrs none => namedWritable attrs
  | .object _ attrs (some plain) => namedWritable attrs && plain.isWritable
  | .target _ inst | .wrapper _ inst => inst.isWritable
  | .scope _ bindings => bindings.isWritable
  | .card fields => fields.isWritable
  | _ => true

/-- Whether all of some snapshots can be written. -/
def allWritable : List Snapshot → Bool
  | [] => true
  | s :: rest => s.isWritable && allWritable rest

/-- Whether all of some pairs can be written. -/
def pairsWritable : List (Snapshot × Snapshot) → Bool
  | [] => true
  | (k, s) :: rest => k.isWritable && s.isWritable && pairsWritable rest

/-- Whether all of some named snapshots can be written. -/
def namedWritable : List (String × Snapshot) → Bool
  | [] => true
  | (_, s) :: rest => s.isWritable && namedWritable rest

end

end Snapshot

namespace Store

/-- The fixed places of an object that are filled, class by class and sorted by name. -/
def filledSlots (s : Store) (o : Object) : List (String × Value) :=
  (s.lineage o.kind).flatMap fun
    | .declared i =>
      let own := o.slots.entries.filter fun (n, _) => n.owner = .declared i
      (own.mergeSort fun a b => a.1.name ≤ b.1.name).map fun (n, v) => (n.name, v)
    | .library .fraction => match o.body with
      | .scalar (.fraction r) => [("_denominator", .int r.den), ("_numerator", .int r.num)]
      | _ => []
    | .library .keysView | .library .valuesView | .library .itemsView => match o.body with
      | .side _ of => [("_mapping", of)]
      | _ => []
    | _ => []

/-- The snapshot of a value that is no object and refers to none. -/
def scalarSnapshot (s : Store) (v : Value) : Snapshot :=
  match v with
  | .none | .object _ => .null
  | .absent => .absent
  | .bool b => .bool b
  | .int n => .int n
  | .real x => .real x.text
  | .complex re im => .complex (Double.complexText re im)
  | .fraction r => .fraction r.text
  | .decimal d => .decimal d.text
  | .text t => .text t
  | .key k => match k.number with
    | some n => .key (.int n)
    | none => .key (.text k.name)
  | .kind (.label t) => .text t
  | .kind k => .kind (s.typeName k)
  | .native f => .function f.name
  | .nativeField f => match fieldSort f with
    | .property => .descriptor "property"
    | sort => .object (s.typeName (.library sort)) [] none
  | .service _ | .scope _ => .object (s.typeName (s.kindOf v)) [] none

/-- The snapshot of a value; `within` are the objects and scopes it is part of. -/
def snapshotWith (s : Store) (fuel : Nat) (within : List Value) (v : Value) : Snapshot :=
  match fuel with
  | 0 => .cycle
  | fuel + 1 =>
    let inner := v :: within
    let item := s.snapshotWith fuel inner
    let named (pairs : List (String × Value)) : List (String × Snapshot) :=
      pairs.map fun (n, x) => (n, item x)
    let mapped (m : HostMap) : List (Snapshot × Snapshot) :=
      m.entries.map fun (k, x) => (item k.value, item x)
    match v with
    | .scope i =>
      if v ∈ within then .cycle
      else .scope (s.name (s.kindOf v)) (s.scopes[i]?.elim .null fun c => item c.bindings)
    | .object _ =>
      if v ∈ within then .cycle
      else match s.deref? v, s.content? v with
        | some o, some body =>
          let attrs := named (o.attrs.entries.filter (·.1 != "_box_meta"))
          let ofKind (plain : Option Snapshot) : Snapshot :=
            .object (s.typeName o.kind) (attrs ++ named (s.filledSlots o)) plain
          let isDeclared := match o.kind with
            | .declared _ => true
            | _ => false
          -- an instance of a declared class, with its plain value or without
          let withPlain (plain : Snapshot) : Snapshot :=
            if isDeclared then ofKind (some plain) else plain
          let unlessDeclared (plain : Snapshot) : Snapshot :=
            if isDeclared then ofKind none else plain
          match body with
          | .list items => withPlain (.list (items.map item))
          | .tuple items => withPlain (.tuple (items.map item))
          | .dict m => withPlain (.dict (mapped m))
          | .scalar x => match x with
            | .text _ | .int _ | .bool _ => withPlain (item x)
            | _ => unlessDeclared (item x)
          | .deque items _ => unlessDeclared (.deque (items.map item))
          | .array items _ => unlessDeclared (.array (items.map item))
          | .struct m _ => unlessDeclared (.struct (m.entries.map fun (k, x) => (k.name, item x)))
          | .bytes items => unlessDeclared (.bytes items)
          | .byteArray items => unlessDeclared (.byteArray items)
          | .mapView m => .mapView (mapped m)
          | .byteView _ items => .byteView items
          | .words items => .words items
          | .range start stop step => .range start stop step
          | .key k => .key (item k.toValue)
          | .error args =>
            .error (s.name o.kind) (args.map item) (named (o.attrs.entries ++ s.filledSlots o))
          | .wrapper cls inst _ =>
            .wrapper (match cls with
              | .kind k => s.typeName k
              | v => s.typeName (s.kindOf v)) (item inst)
          | .target cls inst => .target (s.typeName cls) (item inst)
          | .function f => .function f.name
          | .bound .. => .function (s.functionName v)
          | .property .. => .descriptor "property"
          | .staticMethod _ => .descriptor "staticmethod"
          | .classMethod _ => .descriptor "classmethod"
          | .slotEntry .. | .side .. | .entriesOf _ | .itemsOf _ | .viewOf _ => ofKind none
          | .plain =>
            if s.descends o.kind .metadata then .card ((o.attrs.get? "meta").elim .null item)
            else ofKind none
        | _, _ => .null
    | v => s.scalarSnapshot v

/-- The snapshot of a value. Objects and scopes on a way into it differ, so their number bounds how
    deep it is. -/
def snapshot (s : Store) (v : Value) : Snapshot :=
  s.snapshotWith (2 * (s.objects.size + s.scopes.size) + 3) [] v

end Store

end ScriptBridge
