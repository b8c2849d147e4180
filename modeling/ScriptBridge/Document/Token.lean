import ScriptBridge.Kind

namespace ScriptBridge

/-!
# Tokens of configuration files

What a configuration file is made of. Indentation is made explicit: a list or map that is laid out
by indentation has a token at its start and one at its end.

* `TagMark` is a tag as it is written, `Directive` a directive;
* `Token` is the type of tokens.
-/

/-- A tag as it is written: an abbreviation, if there is one, and what follows it. -/
structure TagMark where
  handle : Option String
  suffix : String
deriving DecidableEq, Repr, Inhabited

/-- A directive, which stands before a document. -/
inductive Directive where
  /-- The version of the format; only its first number matters. -/
  | version (major : Nat)
  /-- An abbreviation for tags, and what it stands for. -/
  | handle (name meaning : String)
  /-- A directive without effect. -/
  | other
deriving DecidableEq, Repr, Inhabited

/-- A token. -/
inductive Token where
  | directive (d : Directive)
  | documentStart
  | documentEnd
  /-- A list starts here whose items are laid out by indentation. -/
  | layoutList
  /-- A map starts here whose entries are laid out by indentation. -/
  | layoutMap
  /-- A list or map laid out by indentation ends here. -/
  | layoutEnd
  | openList
  | closeList
  | openMap
  | closeMap
  | comma
  /-- An item of a list follows. -/
  | item
  /-- A key follows. -/
  | key
  /-- The value of a key follows. -/
  | value
  | alias (name : String)
  | anchor (name : String)
  | tag (mark : TagMark)
  /-- A scalar; a plain one is neither quoted nor a block. -/
  | scalar (text : String) (isPlain : Bool)
  /-- Nothing can be read from here on. -/
  | broken (kind : LibraryKind)
deriving DecidableEq, Repr, Inhabited

end ScriptBridge
