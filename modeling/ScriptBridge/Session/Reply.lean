import ScriptBridge.Session.Answer
import ScriptBridge.Registry

namespace ScriptBridge

/-!
# Replies

What a command gives back, and the facts it can tell about the things of the library.
-/

/-- What a command gives: a value, which a variable can keep, or facts. -/
inductive Reply where
  | value (v : Value)
  | facts (a : Answer)

namespace Session

open Run Host

/-- A truth value as a reply. -/
def flag (b : Bool) : Reply := .value (.bool b)

/-- A number as a reply. -/
def number (n : Int) : Reply := .value (.int n)

/-- A text as a reply. -/
def words (s : String) : Reply := .value (.text s)

/-- Texts as a reply. -/
def names (ss : List String) : Run Reply := do return .value (← newList (ss.map .text))

/-- A reply that says nothing. -/
def nothing : Reply := .value .none

/-- Named values as a reply. -/
def tell (fields : List (String × Value)) : Run Reply := do
  let s ← store
  return .facts (.record (fields.map fun (n, v) => (n, .value (s.snapshot v))))

/-- The facts about a member that was found. -/
def recordFacts (r : MethodRecord) : Run Answer := do
  let s ← store
  let handle := match r.handle with
    | .kind k => s.typeName k
    | .native f => f.name
    | h => match s.body? h with
      | some (.staticMethod f) | some (.classMethod f) => s.functionName f
      | _ => s.functionName h
  return .record
    [("name", .text r.name), ("handle", .text handle), ("owner", .text (s.typeName r.owner)),
     ("static", .flag r.isStatic), ("arity", .number r.arity)]

/-- The word for where a field's value lives. -/
def formName : FieldForm → String
  | .attribute => "attribute"
  | .property => "property"
  | .own => "instance"

/-- The facts about a field. -/
def fieldFacts (s : Store) (f : Field) : Answer :=
  .record [("name", .text f.name), ("owner", .text (s.typeName f.owner)),
           ("static", .flag f.isStatic), ("kind", .text (formName f.form))]

/-- The facts about a callable member. -/
def memberFacts (s : Store) (m : Member) : Answer :=
  let params := match m.params with
    | none => .null
    | some ps => .list (ps.map fun kinds => .texts (kinds.map s.typeName))
  .record [("name", .text m.name), ("attr", .text m.attr), ("owner", .text (s.typeName m.owner)),
           ("static", .flag m.isStatic), ("params", params)]

/-- The facts about a registered function. -/
def registeredFacts (s : Store) (m : MemberFunction) : Answer :=
  .record [("name", .text m.name.name), ("type", .text m.category.name),
           ("function", .text (s.functionName m.function))]

/-- The facts about settings. -/
def configFacts (c : Config) : Answer :=
  .record [("handles_cache_enabled", .flag c.cacheEnabled), ("debug", .flag c.debug),
           ("max_diagnostic_keys", .number c.listingLimit)]

end Session

end ScriptBridge
