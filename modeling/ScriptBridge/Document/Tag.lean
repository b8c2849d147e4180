import ScriptBridge.Document.Character

namespace ScriptBridge

/-!
# Tags

A tag tells what a node of a document is. It is written down or follows from how the node is
written: a word without quotes may be a number, a truth value or a date.

* `Tag` is the type of tags, `Tag.ofName` reads the full name of one;
* `Tag.ofWord` is the tag of a plain scalar.
-/

/-- What a node of a document is. -/
inductive Tag where
  | null
  | bool
  | int
  | real
  | text
  | bytes
  | timestamp
  | list
  | map
  | set
  /-- A list of single entries. -/
  | orderedMap
  /-- The key of an entry whose value gives further entries. -/
  | merge
  /-- The key of an entry whose value stands for the whole map. -/
  | value
  | other
deriving DecidableEq, Repr, Inhabited

namespace Tag

/-- What the full names of the common tags start with. -/
def namespaceName : String := "tag:yaml.org,2002:"

/-- The tag of a full name. -/
def ofName (name : String) : Tag :=
  match (name.dropPrefix? namespaceName).map (·.toString) with
  | some "null" => .null
  | some "bool" => .bool
  | some "int" => .int
  | some "float" => .real
  | some "str" => .text
  | some "binary" => .bytes
  | some "timestamp" => .timestamp
  | some "seq" => .list
  | some "map" => .map
  | some "set" => .set
  | some "omap" | some "pairs" => .orderedMap
  | some "merge" => .merge
  | some "value" => .value
  | _ => .other

/-- Whether a node with a tag may not be a key of a map. -/
def isUnhashable : Tag → Bool
  | .list | .map | .set | .orderedMap => true
  | _ => false

/-! ### Plain scalars -/

/-- The words for truth and falsehood. -/
def boolWords : List String :=
  ["yes", "Yes", "YES", "no", "No", "NO", "true", "True", "TRUE", "false", "False", "FALSE",
   "on", "On", "ON", "off", "Off", "OFF"]

/-- The words for nothing. -/
def nullWords : List String := ["~", "null", "Null", "NULL"]

/-- The marks of a tag, an anchor and an alias, if one is written where a scalar is expected. -/
def markWords : List String := ["!", "&", "*"]

/-- Drops a sign. -/
def unsigned : List Char → List Char
  | '-' :: cs | '+' :: cs => cs
  | cs => cs

/-- Whether a character is a digit or a mark between digits. -/
def isSpacedDigit (c : Char) : Bool := c.isDigit || c == '_'

/-- What follows digits that may be set apart by underscores, the first a digit, if there are
    any. -/
def afterDigits? : List Char → Option (List Char)
  | [] => none
  | c :: cs => if c.isDigit then some (cs.dropWhile isSpacedDigit) else none

/-- Whether characters are groups of up to sixty, each after a colon. -/
def isSixties : List Char → Bool
  | [] => true
  -- A single digit is a group too, at the end or before the next colon.
  | [':', a] => a.isDigit
  | ':' :: a :: ':' :: rest => a.isDigit && isSixties (':' :: rest)
  | ':' :: a :: b :: rest => '0' ≤ a && a ≤ '5' && b.isDigit && isSixties rest
  | _ => false

/-- Whether characters are an exponent: a mark, a sign and digits, or nothing. -/
def isExponent : List Char → Bool
  | [] => true
  | e :: sign :: cs =>
    (e == 'e' || e == 'E') && (sign == '-' || sign == '+') && !cs.isEmpty && cs.all Char.isDigit
  | _ => false

/-- Whether a word is an integer: binary, hexadecimal, octal after a zero, decimal, or in groups of
    sixty. -/
def isInt (word : List Char) : Bool :=
  match unsigned word with
  | [] => false
  | '0' :: 'b' :: cs => !cs.isEmpty && cs.all fun c => c == '0' || c == '1' || c == '_'
  | '0' :: 'x' :: cs =>
    !cs.isEmpty && cs.all fun c =>
      isSpacedDigit c || ('a' ≤ c && c ≤ 'f') || ('A' ≤ c && c ≤ 'F')
  | '0' :: cs => cs.all fun c => ('0' ≤ c && c ≤ '7') || c == '_'
  | cs => (afterDigits? cs).any isSixties

/-- Whether a word is a real number: digits around a point, groups of sixty before one, or a word
    for what is not finite. -/
def isReal (word : List Char) : Bool :=
  let cs := unsigned word
  let isSigned := cs.length ≠ word.length
  let isPoint (ending : List Char → Bool) : List Char → Bool
    | '.' :: rest => ending (rest.dropWhile isSpacedDigit)
    | _ => false
  match cs with
  | '.' :: rest =>
    let named := String.ofList rest
    named ∈ ["inf", "Inf", "INF"] ||
      (!isSigned && (named ∈ ["nan", "NaN", "NAN"] || (afterDigits? rest).any isExponent))
  | cs =>
    (afterDigits? cs).any fun rest =>
      isPoint isExponent rest ||
        (rest.head? == some ':' && isSixties (rest.takeWhile (· != '.')) &&
          isPoint List.isEmpty (rest.dropWhile (· != '.')))

end Tag

end ScriptBridge
