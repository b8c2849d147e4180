import ScriptBridge.Number.Double

namespace ScriptBridge

/-!
# Documents

Structured data as configuration files hold it: scalars, lists, sets and maps.

* `Document` is the type of documents, `Document.typeName` the name of a document's type;
* `Document.isGiven` tells whether a document says anything;
* `Document.lookup?` finds an entry of a map.
-/

/-- A document. Of equal keys of a map the last counts. -/
inductive Document where
  | null
  | bool (b : Bool)
  | int (n : Int)
  | real (x : Double)
  | text (s : String)
  /-- Bytes, of which only the number matters. -/
  | bytes (size : Nat)
  | date (year month day : Nat)
  | dateTime (year month day hour minute second : Nat)
  | list (items : List Document)
  | set (items : List Document)
  | map (entries : List (Document × Document))
deriving Inhabited

namespace Document

/-- The name of a document's type. -/
def typeName : Document → String
  | .null => "NoneType"
  | .bool _ => "bool"
  | .int _ => "int"
  | .real _ => "float"
  | .text _ => "str"
  | .bytes _ => "bytes"
  | .date .. => "date"
  | .dateTime .. => "datetime"
  | .list _ => "list"
  | .set _ => "set"
  | .map _ => "dict"

/-- Whether a document counts as given: nothing, falsehood, zero and whatever is empty do not. -/
def isGiven : Document → Bool
  | .null => false
  | .bool b => b
  | .int n => n != 0
  | .real x => !x.isZero
  | .text s => !s.isEmpty
  | .bytes size => size != 0
  | .date .. | .dateTime .. => true
  | .list items | .set items => !items.isEmpty
  | .map entries => !entries.isEmpty

/-- Whether a document is a given text. -/
def isText (name : String) : Document → Bool
  | .text s => s == name
  | _ => false

/-- The entry of a map under a name; of several the last. -/
def lookup? (entries : List (Document × Document)) (name : String) : Option Document :=
  (entries.reverse.find? fun e => e.1.isText name).map (·.2)

end Document

end ScriptBridge
