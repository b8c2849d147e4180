import ScriptBridge.Declare
import ScriptBridge.Session.Command

namespace ScriptBridge

/-!
# What a command is given

Commands name their values, classes and scopes. Here the names become what they stand for.
-/

namespace Session

open Run Host

/-- How values are called in a session. -/
def call : Call := callValue

/-- The value of a literal. -/
def valueOf (l : Literal) : Run Value := build call l

/-- The values of literals. -/
def valuesOf (ls : List Literal) : Run (List Value) := buildAll call ls

/-- The value of an optional literal, if it is given. -/
def valueOf? : Option Literal → Run (Option Value)
  | none => return none
  | some l => do return some (← valueOf l)

/-- The arguments of a command as one value: a tuple, or whatever gives them by name. -/
def argumentsFrom : ArgumentList → Run Value
  | .positional items => do newTuple (← valuesOf items)
  | .named map => valueOf map

/-- The class of a reference. -/
def kindFrom : KindRef → Run Kind
  | .named n => kindNamed n
  | .label t => return .label t

/-- The classes of references. -/
def kindsFrom (refs : List KindRef) : Run (List Kind) := refs.mapM kindFrom

/-- What the variable of a name holds in the place of a scope. -/
def scopeNamed (name : String) : Run Value := valueOf (.scope name)

/-- The scope of an optional name. -/
def scopeFrom : Option String → Run Value
  | none => return .none
  | some n => scopeNamed n

/-- The category of a name. -/
def categoryNamed (name : String) : Run Category := do
  match Category.ofName? name with
  | some c => return c
  | none => fail .valueError

end Session

end ScriptBridge
