import ScriptBridge.Key
import ScriptBridge.Kind
import ScriptBridge.Number.Decimal
import ScriptBridge.Number.Double

namespace ScriptBridge

/-!
# Values

What scripts and host functions pass around. Scalars are values by themselves; everything with an
identity (containers, instances, functions) is a reference into the store.

* `Value` is a flat type, so equality of values is the host's identity of objects;
* `MapKey` is a value as the key of a host map, compared by what it equals and not by what it is.
-/

/-- Which of a session's two services is meant. -/
inductive ServiceId where
  /-- The service under the session's configuration. -/
  | main
  /-- The service that is used where no scope leads to another. -/
  | fallback
deriving DecidableEq, Repr, Inhabited

/-- A function of the host itself: one of its free functions, or a member of a library class. -/
structure NativeFunction where
  owner : Option LibraryKind
  name : String
deriving DecidableEq, Repr, Inhabited

/-- A value. -/
inductive Value where
  | none
  /-- The mark for "no value", distinct from a stored `none`. -/
  | absent
  | bool (b : Bool)
  | int (n : Int)
  | real (x : Double)
  | complex (re im : Double)
  | fraction (r : Ratio)
  | decimal (d : Decimal)
  | text (s : String)
  | key (k : Key)
  | kind (k : Kind)
  | native (f : NativeFunction)
  /-- A field of a library class, as the class itself holds it. -/
  | nativeField (f : NativeFunction)
  | service (id : ServiceId)
  /-- A scope, by its number. -/
  | scope (id : Nat)
  /-- An object of the store, by its number. -/
  | object (id : Nat)
deriving DecidableEq, Repr, Inhabited

/-- What a value is compared by as a key of a host map. Numbers of all types compare by value, a
    complex number is a pair of numbers, and tuples are spelled out as pairs that end in `nil`. -/
inductive KeyForm where
  | number (r : Ratio)
  /-- A decimal number that is too great or too small to be written out. -/
  | scaled (negative : Bool) (coefficient : Nat) (exponent : Int)
  | infinite (negative : Bool)
  | text (s : String)
  | bytes (items : List Nat)
  | name (folded : String)
  /-- A range, by its elements: how many, the first and the step, as far as they matter. -/
  | range (length : Nat) (start step : Int)
  | nil
  | pair (head tail : KeyForm)
  | identity (v : Value)
  /-- A value of a class that computes its own hash, with the hash. -/
  | hashed (hash : Int) (v : Value)
deriving DecidableEq, Repr, Inhabited

/-- A value as the key of a host map. -/
structure MapKey where
  value : Value
  form : KeyForm
deriving DecidableEq, Repr, Inhabited

instance : Keyed MapKey KeyForm := ⟨MapKey.form⟩

/-- A host map. -/
abbrev HostMap := OrderedMap MapKey Value

namespace Value

/-- The exact number that a value of a number type stands for. Decimal numbers are left out: their
    exponents can be too great to be written out. -/
def ratio? : Value → Option Ratio
  | .bool b => some (.ofInt (if b then 1 else 0))
  | .int n => some (.ofInt n)
  | .real x => x.ratio?
  | .fraction r => some r
  | _ => Option.none

/-- The exact number that a value of a number type stands for, decimal numbers included. -/
def exactRatio? : Value → Option Ratio
  | .decimal d => d.ratio?
  | v => v.ratio?

end Value

namespace Key

/-- A key as a value. -/
def asValue (k : Key) : Value :=
  match k.object with
  | some id => .object id
  | none => .key k

/-- The value that a key stands for in a host map: its integer, or its name as it is spelled. -/
def toValue (k : Key) : Value :=
  match k.number with
  | some n => .int n
  | none => .text k.name

end Key

namespace MapKey

/-- A text as the key of a host map. -/
def ofText (s : String) : MapKey := ⟨.text s, .text s⟩

end MapKey

end ScriptBridge
