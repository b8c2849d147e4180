import ScriptBridge.OrderedMap
import ScriptBridge.Text.CaseFolding
import ScriptBridge.Text.DecimalDigit

namespace ScriptBridge

/-!
# Keys

A key is the name a script reads, writes or calls something by. Two keys are the same when their
names fold to the same text; the spelling is kept for display and for maps of the host, which tell
spellings apart. A key made from an integer remembers it.

* `Key.folded` is the form by which keys are compared;
* `Key.reading` is what a key means as an index.
-/

/-- A case-insensitive name, with the integer it was made from, if any. -/
structure Key where
  name : String
  number : Option Int := none
  /-- Tells apart keys that were made one by one; those made on the way to a lookup have none. -/
  stamp : Nat := 0
  /-- The number of the object that the key is, if it is an instance of a declared class. -/
  object : Option Nat := none
deriving DecidableEq, Repr, Inhabited

namespace Key

/-- The key of a text. -/
def ofText (s : String) : Key := { name := s }

/-- The folded name. -/
def folded (k : Key) : String := foldCase k.name

instance : Keyed Key String := ⟨folded⟩

/-- Whether two keys are the same key. -/
def same (a b : Key) : Bool := a.folded == b.folded

/-- What a key means as an index. -/
inductive Reading where
  /-- Not a number. -/
  | word
  /-- A number. -/
  | index (i : Int)
  /-- Digits, but more of them than are converted. -/
  | tooLong
deriving DecidableEq, Repr

/-- Reads a key as an index: the integer it was made from, or its name when that consists of
    decimal digits of any script. -/
def reading (k : Key) : Reading :=
  match k.number with
  -- A number stands for itself, whatever the key shows as its name.
  | some n => .index n
  | none =>
    if !isDecimal k.name then .word
    else if k.name.length ≤ digitLimit then .index (decimalValue k.name)
    else .tooLong

/-! ### Keys with a meaning of their own -/

/-- The routine that a class runs on the arguments of its constructor. -/
def init : Key := ofText "init"

/-- The number of elements. -/
def length : Key := ofText "length"

/-- The message of an error. -/
def message : Key := ofText "message"

/-- The details of an error. -/
def detail : Key := ofText "detail"

/-- The type of an error. -/
def type : Key := ofText "type"

/-- Where an error arose. -/
def tagContext : Key := ofText "tagContext"

/-- Whatever else an error says. -/
def extendedInfo : Key := ofText "extendedInfo"

/-- The names of a struct's keys. -/
def keyArray : Key := ofText "keyArray"

/-- The description of a value's type. -/
def metadata : Key := ofText "$bx"

/-- The nameless member that stands for a constructor. -/
def newInstance : Key := ofText ""

/-- The well-known keys under the names the class of keys offers them by, in order. -/
def wellKnown : List (String × Key) :=
  [("init", init), ("length", length), ("message", message), ("detail", detail), ("type", type),
   ("tag_context", tagContext), ("extended_info", extendedInfo), ("key_array", keyArray),
   ("box_meta", metadata), ("new_instance", newInstance)]

/-- The keys that every error answers. -/
def errorKeys : List Key := [message, detail, type, tagContext, extendedInfo]

end Key

end ScriptBridge
