import ScriptBridge.Session.Snapshot

namespace ScriptBridge

/-!
# Answers

What a session says in reply to a command: a value, a record of facts, or why the command failed,
and the lines that were traced.
-/

/-- An answer. -/
inductive Answer where
  | value (s : Snapshot)
  /-- A number that is written out, however large. -/
  | number (n : Int)
  | list (items : List Answer)
  | record (fields : List (String × Answer))
deriving Inhabited

namespace Answer

/-- A text as an answer. -/
def text (s : String) : Answer := .value (.text s)

/-- A truth value as an answer. -/
def flag (b : Bool) : Answer := .value (.bool b)

/-- The answer that says nothing. -/
def null : Answer := .value .null

/-- An optional text as an answer. -/
def optionalText : Option String → Answer
  | some s => text s
  | none => null

/-- Texts as an answer. -/
def texts (names : List String) : Answer := .list (names.map text)

end Answer

/-- How a command ended. -/
inductive Outcome where
  | done (answer : Answer)
  /-- The engine refused: the class of error, its message, the class of its cause, and for a missing
      key the keys there are and the type they were looked for in. -/
  | refused (error message : String) (cause : Option String)
      (missed : Option (List Snapshot × String))
  /-- A host program raised an error. -/
  | raised (error message : String)
  /-- The host refused; its wording is shown for some commands only. -/
  | failed (error : String) (message : Option String)

/-- The reply to a command. -/
structure Step where
  outcome : Outcome
  trace : List String

namespace Host

open Run

/-- How a command that failed has ended. -/
def outcomeOf (call : Call) (withDetail : Bool) (f : Fault) : Run Outcome := do
  let s ← store
  let missed (r : Reason) : Option (List Snapshot × String) :=
    if r.kind = .keyNotFoundError then
      some (r.keys.map s.snapshot, s.typeName (s.kindOf r.target))
    else none
  match f with
  | .engine r => return .refused r.kind.name r.message none (missed r)
  | .wrapped r cause => return .refused r.kind.name r.message (some (faultName s cause)) (missed r)
  | .host k detail => return .failed k.name (if withDetail then some detail else none)
  | .raised e => do
    let message ← match ← outcome (textOf call e) with
      | .ok t => pure t
      | .error _ => pure ""
    return .raised (faultName s f) message

end Host

end ScriptBridge
