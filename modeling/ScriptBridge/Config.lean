import ScriptBridge.Document.Reading
import ScriptBridge.Error

namespace ScriptBridge

/-!
# Configuration

The settings of a service and the documents they are read from. A document that is not given, and a
section that is not given, leave the defaults; a setting that is given must have its type.
-/

/-- The settings of a service. -/
structure Config where
  /-- Whether lookups are remembered. -/
  cacheEnabled : Bool := true
  /-- Whether the service traces what it does. -/
  debug : Bool := false
  /-- How many names an error message lists; a negative number is no limit. -/
  listingLimit : Int := Listing.defaultLimit
deriving DecidableEq, Repr, Inhabited

namespace Config

/-- A setting that must be a truth value. -/
def readBool (option : String) : Document → Except Reason Bool
  | .bool b => .ok b
  | d => .error (.configType option "bool" d.typeName)

/-- A setting that must be an integer; a truth value is none. -/
def readInt (option : String) : Document → Except Reason Int
  | .int n => .ok n
  | d => .error (.configType option "int" d.typeName)

/-- A setting of a section, or its default. -/
def setting (entries : List (Document × Document)) (name : String) (fallback : α)
    (read : Document → Except Reason α) : Except Reason α :=
  match Document.lookup? entries name with
  | none => .ok fallback
  | some d => read d

/-- The entries of a section that must be a map; one that is not given has none. -/
def readMap (option : String) (d : Document) : Except Reason (List (Document × Document)) :=
  if !d.isGiven then .ok []
  else match d with
    | .map entries => .ok entries
    | d => .error (.configType option "mapping" d.typeName)

/-- The settings of a document. Unknown entries are ignored. -/
def ofDocument (d : Document) : Except Reason Config := do
  let root ← readMap "<root>" d
  let interop ← readMap "interop" ((Document.lookup? root "interop").getD .null)
  let debug ← setting root "debug" false (readBool "debug")
  let cacheEnabled ← setting interop "handles_cache_enabled" true
    (readBool "interop.handles_cache_enabled")
  let listingLimit ← setting interop "max_diagnostic_keys" Listing.defaultLimit
    (readInt "interop.max_diagnostic_keys")
  return { cacheEnabled, debug, listingLimit }

/-- How deep settings lie in a document. -/
def depth : Nat := 3

/-- The settings of a configuration file. -/
def ofFile (text : String) : Except Fault Config :=
  match Document.ofFile depth text with
  | .error kind => .error (.host kind "")
  | .ok d => (ofDocument d).mapError .engine

end Config

end ScriptBridge
