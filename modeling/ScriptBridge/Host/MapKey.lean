import ScriptBridge.Host.Text
import ScriptBridge.Number.Residue

namespace ScriptBridge

/-!
# Keys of host maps

What a value is compared by as the key of a host map. Values whose content can change are none; a
declared class may compute the hash of its instances, and compare those of equal hash itself.

* `Host.keyForm` is the form of a map key;
* `Host.mapKey` is a value as a key, `Host.mapKeyIn` as a key of a given map.
-/

namespace Store

/-- The form of several values as one key. -/
def pairForms : List KeyForm → KeyForm
  | [] => .nil
  | f :: rest => .pair f (pairForms rest)

/-- The form of a floating-point number, if it is equal to itself. -/
def realForm? : Double → Option KeyForm
  | .infinite negative => some (.infinite negative)
  | x => x.ratio?.map .number

/-- The greatest exponent of a decimal number that is written out as a ratio. -/
def widestExponent : Nat := 100000

/-- The form of a decimal number, if it is equal to itself. -/
def decimalForm? : Decimal → Option KeyForm
  | .infinite negative => some (.infinite negative)
  | .undefined .. => none
  | .finite negative n e =>
    let (m, f) := Decimal.canonical n e
    if n = 0 then some (.number (.ofInt 0))
    else if f.natAbs ≤ widestExponent then (Decimal.finite negative m f).ratio?.map .number
    else some (.scaled negative m f)

/-- The form of a number, if it is equal to itself. -/
def numberForm? (v : Value) : Option KeyForm :=
  match v with
  | .real x => realForm? x
  | .complex re im => do
    let a ← realForm? re
    -- Numbers of all classes share one form as far as they are equal.
    if im.isZero then return a
    return .pair a (← realForm? im)
  | .decimal d => decimalForm? d
  | v => v.ratio?.map .number

/-- The number of elements of a range. -/
def rangeLength (start stop step : Int) : Nat :=
  if 0 < step then ((stop - start + step - 1) / step).toNat
  else if step < 0 then ((start - stop - step - 1) / (-step)).toNat
  else 0

/-- The form of a range: its elements, as far as they tell it apart. -/
def rangeForm (start stop step : Int) : KeyForm :=
  match rangeLength start stop step with
  | 0 => .range 0 0 0
  | 1 => .range 1 start 0
  | n => .range n start step

end Store

namespace KeyForm

/-- The hash of a form, as far as it is known: that of a number, or the one a class computes. -/
def hash? : KeyForm → Option Int
  | .number r => some (Residue.ofRatio r)
  | .scaled negative n e => some (Residue.ofScaled negative n e)
  | .infinite negative => some (Residue.signed negative Residue.infinite)
  | .hashed h _ => some h
  | _ => none

/-- Whether a form has a part whose class computes its hash. -/
def isCustom : KeyForm → Bool
  | .hashed .. => true
  | .pair a b => a.isCustom || b.isCustom
  | _ => false

/-- Whether two forms have the same hash. -/
def sameHash : KeyForm → KeyForm → Bool
  | .pair a b, .pair c d => a.sameHash c && b.sameHash d
  | a, b => match a.hash?, b.hash? with
    | some m, some n => m = n
    | _, _ => a = b

end KeyForm

namespace Host

open Run

/-- The hash that a declared class gives. -/
def hashResult (v : Value) : Run Int := do
  match (← store).scalar v with
  | .int n => return n
  | .bool b => return if b then 1 else 0
  | _ => fail .typeError

/-- Refuses a decimal number that no use is made of. -/
def refuseSignal (v : Value) : Run Unit :=
  match v with
  | .decimal d => if d.isSignalling then fail .typeError else return
  | _ => return

/-- The form by which a value without content is compared. -/
def scalarForm (v : Value) : Run KeyForm := do
  refuseSignal v
  return match v with
    | .text t => .text t
    | .key k => .name k.folded
    | v => (Store.numberForm? v).getD (.identity v)

/-- The form by which a value is compared as a key of a host map. -/
def keyFormWith (call : Call) (fuel : Nat) (v : Value) : Run KeyForm := do
  match fuel with
  | 0 => fail (.host .recursionError "")
  | fuel + 1 =>
    match ← callSpecial? call v "__hash__" [] with
    | some h => return .hashed (Residue.ofWord (← hashResult h)) v
    | none =>
      let s ← store
      match s.content? v with
      | none => scalarForm v
      | some b =>
        match b with
        -- What can change is no key.
        | .list _ | .deque .. | .dict _ | .mapView _ | .struct .. | .array .. | .byteArray _ =>
          fail .typeError
        | .byteView true _ => fail .valueError
        | .side side _ => if side = .values then return .identity v else fail .typeError
        | .tuple items => do return Store.pairForms (← items.mapM (keyFormWith call fuel))
        | .bytes items | .byteView false items => return .bytes items
        | .range start stop step => return Store.rangeForm start stop step
        | .scalar (.text t) => return .text t
        | .scalar x => do
          refuseSignal x
          return (Store.numberForm? x).getD (.identity v)
        | .key k => return .name k.folded
        | .bound f r => return .pair (.identity r) (.identity f)
        | _ => match ← librarySpecial? v "__hash__" with
          -- Descendants that tell their equals but compute no hash.
          | some .mapping | some .struct | some .array => fail .typeError
          | _ => return .identity v

/-- The form by which a value is compared as a key of a host map. -/
def keyForm (call : Call) (v : Value) : Run KeyForm := keyFormWith call nestingLimit v

/-- A value as the key of a host map. -/
def mapKey (call : Call) (v : Value) : Run MapKey := do return ⟨v, ← keyForm call v⟩

/-- Whether one key that computes its own hash is equal to another key of the same hash: the one
    that is there says so. -/
def sameKey (call : Call) (there given : MapKey) : Run Bool := do
  if there.form = given.form then return true
  -- Forms tell all other keys apart; code runs only where a class computes a hash.
  else if (there.form.isCustom || given.form.isCustom) && there.form.sameHash given.form then
    return (← operate call "equal" [there.value, given.value]) = .bool true
  else return false

/-- The first of some keys that is equal to a given one. -/
def equalKey? (call : Call) (given : MapKey) : List MapKey → Run (Option MapKey)
  | [] => return none
  | k :: rest => do
    if ← sameKey call k given then return some k else equalKey? call given rest

/-- A key as a key of a given map: if the map holds an equal key, it is compared like that. -/
def keyIn (call : Call) (m : HostMap) (key : MapKey) : Run MapKey := do
  if key.form.isCustom || m.keys.any (·.form.isCustom) then
    match ← equalKey? call key m.keys with
    | some k => return { key with form := k.form }
    | none => return key
  else return key

/-- A value as a key of a given map. -/
def mapKeyIn (call : Call) (m : HostMap) (v : Value) : Run MapKey := do
  keyIn call m (← mapKey call v)

/-- A host map with a key set. -/
def insertKey (call : Call) (m : HostMap) (k x : Value) : Run HostMap := do
  return m.insert (← mapKeyIn call m k) x

/-- A host map of pairs of values. -/
def hostMapOf (call : Call) (pairs : List (Value × Value)) : Run HostMap :=
  pairs.foldlM (fun m (k, x) => insertKey call m k x) {}

end Host

end ScriptBridge
