import ScriptBridge.Hint.Expression
import ScriptBridge.Program
import ScriptBridge.Value

namespace ScriptBridge

/-!
# Objects

What the store holds behind a reference: the kind of the object, its content, the attributes that
were set on it, and the fixed places that are filled.
-/

/-- A parameter of a function: hints are resolved and the default is a value. -/
structure Param where
  name : String
  form : ParamForm
  hint : Option Hint
  fallback : Option Value
deriving Inhabited

namespace Param

/-- Whether a parameter takes one argument by position. -/
def takesPosition (p : Param) : Bool :=
  p.form = .normal ∨ p.form = .positional

/-- How far a list of parameters has got: whether those that take arguments by position are over,
    whether a default was seen among them, and whether nothing may follow. -/
structure Progress where
  isNamed : Bool := false
  hasDefault : Bool := false
  isClosed : Bool := false

/-- Parameters as the host takes them, if it takes them in this order. A plain parameter before one
    that takes its argument by position only does so too, and one after those by position must be
    given by name; a default is followed by defaults as long as arguments go by position. -/
def arrangeAfter? (seen : Progress) : List Param → Option (List Param)
  | [] => some []
  | p :: rest =>
    let byPosition (form : ParamForm) : Option (List Param) :=
      if seen.hasDefault && p.fallback.isNone then none
      else (arrangeAfter? { seen with hasDefault := p.fallback.isSome } rest).map
        ({ p with form } :: ·)
    let byName (isClosed : Bool) (form : ParamForm) : Option (List Param) :=
      (arrangeAfter? { seen with isNamed := true, isClosed } rest).map ({ p with form } :: ·)
    if seen.isClosed then none
    else match p.form, seen.isNamed with
      | .normal, false =>
        byPosition (if rest.any (·.form = .positional) then .positional else .normal)
      | .positional, false => byPosition .positional
      | .positional, true | .rest, true => none
      | .normal, true | .named, _ => byName false .named
      | .rest, false => if p.fallback.isSome then none else byName false .rest
      | .restNamed, _ => if p.fallback.isSome then none else byName true .restNamed

/-- Parameters as the host takes them, if it does: their names must be names, each once, and their
    order must be one it knows. -/
def arrange? (params : List Param) : Option (List Param) :=
  let names := params.map (·.name)
  if names.all HintExpr.isIdentifier && names.eraseDups.length = names.length then
    arrangeAfter? {} params
  else none

end Param

/-- What a running body sees: parameters, innermost first, its receiver, and the class it was
    declared in. -/
structure Frame where
  locals : List (String × Value) := []
  receiver : Option Value := none
  owner : Option Kind := none
deriving Inhabited

/-- A function of the host program. The frame is the one it was created in. -/
structure Function where
  name : String
  params : List Param
  body : Expr
  /-- Whether the first parameter is the receiver. -/
  hasReceiver : Bool
  frame : Frame
deriving Inhabited

/-- The three ways to walk through a map. -/
inductive MapSide where
  | keys
  | values
  | items
deriving DecidableEq, Repr

/-- The content of an object. -/
inductive Body where
  /-- Attributes only. -/
  | plain
  | list (items : List Value)
  /-- A queue, and how many items it holds at most. -/
  | deque (items : List Value) (limit : Option Nat)
  | tuple (items : List Value)
  | dict (entries : HostMap)
  /-- A host map as a view shows it: it can be read only. -/
  | mapView (entries : HostMap)
  /-- The scripts' own map, with the description of its type once asked for. -/
  | struct (entries : OrderedMap Key Value) (card : Option Value)
  /-- The scripts' own sequence, with the description of its type once asked for. -/
  | array (items : List Value) (card : Option Value)
  /-- The host map in which a struct keeps its entries. -/
  | entriesOf (owner : Value)
  /-- The list in which an array keeps its items. -/
  | itemsOf (owner : Value)
  /-- A walk through a map. -/
  | side (side : MapSide) (of : Value)
  | bytes (items : List Nat)
  | byteArray (items : List Nat)
  /-- Bytes as a view shows them. -/
  | byteView (writable : Bool) (items : List Nat)
  /-- A view of the host map or of the bytes that another object holds. -/
  | viewOf (owner : Value)
  /-- Signed machine words. -/
  | words (items : List Int)
  | range (start stop step : Int)
  /-- An instance of a descendant of a scalar class, with the plain scalar. -/
  | scalar (v : Value)
  | error (args : List Value)
  /-- An instance of a descendant of the class of keys, with the plain key. -/
  | key (k : Key)
  /-- A class, an instance of it or `none`, and the service that answers for it. -/
  | wrapper (cls : Value) (inst : Value) (service : Value)
  /-- A class with an instance of it or `none`. -/
  | target (cls : Kind) (inst : Value)
  | function (f : Function)
  /-- A function with the receiver it will be called on. -/
  | bound (function : Value) (receiver : Value)
  | property (getter : Value) (setter : Option Value)
  | staticMethod (function : Value)
  | classMethod (function : Value)
  /-- The class's entry for one of its fixed places. -/
  | slotEntry (owner : Kind) (name : String)
deriving Inhabited

/-- A fixed place of an instance: the class that declares it, and its name. -/
structure SlotName where
  owner : Kind
  name : String
deriving DecidableEq, Repr

instance : Keyed SlotName SlotName := ⟨id⟩

/-- An object. -/
structure Object where
  kind : Kind
  body : Body := .plain
  attrs : OrderedMap String Value := {}
  slots : OrderedMap SlotName Value := {}
deriving Inhabited

end ScriptBridge
