import ScriptBridge.Hint

namespace ScriptBridge

/-!
# Programs

The host side of a session as data: literals for values, expressions for the bodies of functions,
and declarations of functions and classes. Classes are referred to by name.
-/

/-- How a parameter takes its argument. -/
inductive ParamForm where
  /-- By position or by name. -/
  | normal
  /-- By position only. -/
  | positional
  /-- All remaining positions. -/
  | rest
  /-- By name only. -/
  | named
  /-- All remaining names. -/
  | restNamed
deriving DecidableEq, Repr, Inhabited

mutual

/-- A value as it is written in a session. -/
inductive Literal where
  | none
  | absent
  | bool (b : Bool)
  | int (n : Int)
  /-- An integer by its digits. -/
  | numeral (text : String)
  | real (text : String)
  | complex (text : String)
  | fraction (text : String)
  | decimal (text : String)
  | text (s : String)
  /-- A text several times over. -/
  | repeated (s : String) (times : Nat)
  | list (items : List Literal)
  | tuple (items : List Literal)
  | deque (items : List Literal)
  | array (items : List Literal)
  | dict (pairs : List (Literal × Literal))
  | mapView (pairs : List (Literal × Literal))
  | struct (pairs : List (Literal × Literal))
  | bytes (items : List Int)
  | byteArray (items : List Int)
  | byteView (writable : Bool) (items : List Int)
  | words (items : List Int)
  | range (start stop step : Int)
  | key (of : Literal)
  /-- An instance of a class made from arguments. -/
  | new (kind : String) (args : List Literal)
  | kind (name : String)
  /-- A class with an optional instance of it, as the target of a lookup. -/
  | target (kind : String) (inst : Option Literal)
  /-- A value in its wrapper. -/
  | wrapped (of : Literal)
  | function (decl : FunctionDecl)
  /-- A function of the host's core. -/
  | native (name : String)
  /-- A scope: the root one, or the one a variable holds. -/
  | scope (name : String)
  | variable (name : String)

/-- The body of a function. -/
inductive Expr where
  | literal (v : Literal)
  /-- A parameter of this function or of an enclosing one. -/
  | param (name : String)
  /-- The receiver of the call. -/
  | self
  /-- An attribute of the receiver. -/
  | attr (name : String)
  | setAttr (name : String) (value : Expr)
  | add (left right : Expr)
  /-- The texts of several values, joined. -/
  | concat (parts : List Expr)
  | tuple (items : List Expr)
  | list (items : List Expr)
  | struct (fields : List (String × Expr))
  /-- Several expressions in order; the last gives the value. -/
  | sequence (steps : List Expr)
  | cond (test yes no : Expr)
  | isNone (of : Expr)
  | raise (kind : String) (args : List Expr)
  /-- A variable of the calling scope. -/
  | scopeGet (name : String)
  | scopeSet (name : String) (value : Expr)
  /-- A public member of a scripted instance. -/
  | thisGet (name : String)
  | thisSet (name : String) (value : Expr)
  /-- A function that sees the parameters and the receiver of this one. -/
  | closure (decl : FunctionDecl)
  /-- The next initialiser along the receiver's line of descent. -/
  | superInit (args : List Expr)
  | new (kind : String) (args : List Expr)
  /-- The name of a value's kind. -/
  | kindName (of : Expr)

/-- A declared parameter. -/
structure ParamDecl where
  name : String
  form : ParamForm
  hint : Option HintDecl
  fallback : Option Literal

/-- A declared function. -/
structure FunctionDecl where
  name : String
  params : List ParamDecl
  body : Expr

end

instance : Inhabited Literal := ⟨.none⟩

instance : Inhabited Expr := ⟨.self⟩

instance : Inhabited FunctionDecl := ⟨⟨"", [], .self⟩⟩

/-- What a method belongs to. -/
inductive Binding where
  | toInstance
  | unbound
  | toClass
deriving DecidableEq, Repr, Inhabited

/-- A member of a declared class. -/
inductive MemberDecl where
  /-- A field with a hint, and a value that the class holds, if any. -/
  | field (name : String) (hint : HintDecl) (value : Option Literal)
  | constant (name : String) (value : Literal)
  | property (name : String) (getter : Expr) (setter : Option Expr)
  /-- A method; `takesReceiver` adds the receiver before the declared parameters, `exposedAs` is the
      name scripts see, if another than its own. -/
  | method (name : String) (params : List ParamDecl) (body : Expr) (binding : Binding)
      (exposedAs : Option String) (isAbstract : Bool) (takesReceiver : Bool)

/-- A declared class. -/
structure ClassDecl where
  name : String
  bases : List String
  /-- The package it lives in, if any. -/
  home : Option String
  qualifiedName : String
  /-- The fixed places of its instances, when it declares any. -/
  slots : Option (List String)
  members : List MemberDecl

end ScriptBridge
