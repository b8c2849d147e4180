import ScriptBridge.Assignable

namespace ScriptBridge

/-!
# Targets

What a read, a write or a call is aimed at: a class, and usually an instance. The instance decides
which rules apply.

* `Store.asTarget` is the target that a value stands for;
* `Store.classify` sorts instances into the kinds of targets.
-/

/-- A class with an instance of it, or with `none` for the class alone. -/
structure Target where
  kind : Kind
  inst : Value
deriving DecidableEq, Repr

namespace Target

/-- Whether there is an instance. -/
def hasInstance (t : Target) : Bool := t.inst ≠ .none

/-- The instance, or else the class. -/
def subject (t : Target) : Value := if t.hasInstance then t.inst else .kind t.kind

end Target

/-- The rules by which a target is read, written and called. -/
inductive TargetKind where
  /-- The value answers itself. -/
  | referenceable
  | orderedMap
  /-- A sequence that grows. -/
  | sequence
  /-- A sequence of fixed size. -/
  | array
  | text
  | errorLike
  | nativeObject
deriving DecidableEq, Repr

namespace TargetKind

/-- The name of a kind of target. -/
def name : TargetKind → String
  | referenceable => "referenceable"
  | orderedMap => "ordered_map"
  | sequence => "sequence"
  | array => "array"
  | text => "text"
  | errorLike => "error_like"
  | nativeObject => "native_object"

/-- The name of a kind of target in a trace. -/
def traceName : TargetKind → String
  | referenceable => "REFERENCEABLE"
  | orderedMap => "ORDERED_MAP"
  | sequence => "SEQUENCE"
  | array => "ARRAY"
  | text => "TEXT"
  | errorLike => "ERROR_LIKE"
  | nativeObject => "NATIVE_OBJECT"

end TargetKind

namespace Store

/-- The target that a value stands for: itself, unless it is a target already. -/
def asTarget (s : Store) (v : Value) : Target :=
  match s.body? v with
  | some (.target cls inst) => ⟨cls, inst⟩
  | _ => ⟨s.kindOf v, v⟩

/-- The rules for an instance; the first that applies. -/
def classify (s : Store) (v : Value) : TargetKind :=
  if s.isInstance v .referenceable then .referenceable
  else if s.isInstance v .text then .text
  else if s.isInstance v .mapping then .orderedMap
  else if s.isInstance v .byteArray then .array
  else if s.isInstance v .mutableSequence then .sequence
  else if [.tuple, .bytes, .range, .byteView, .wordArray].any (s.isInstance v) then .array
  else if s.isInstance v .baseError then .errorLike
  else .nativeObject

/-- The rules for a target; a class alone is like any other object. -/
def targetKind (s : Store) (t : Target) : TargetKind :=
  if t.hasInstance then s.classify t.inst else .nativeObject

end Store

end ScriptBridge
