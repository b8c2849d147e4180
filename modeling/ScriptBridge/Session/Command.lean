import ScriptBridge.Document
import ScriptBridge.Program

namespace ScriptBridge

/-!
# Commands

What a session can be asked to do. Values are given as literals, classes by name, scopes by the name
of the variable that holds them.
-/

/-- A class given by name, or a text in its place. -/
inductive KindRef where
  | named (name : String)
  | label (text : String)
deriving Inhabited

/-- Arguments as they are written. -/
inductive ArgumentList where
  | positional (items : List Literal)
  /-- By name: a literal of a map of any sort. -/
  | named (map : Literal)
deriving Inhabited

/-- A step on a cache of records. -/
inductive CacheStep where
  | get (key : Literal)
  | has (key : Literal)
  | clear
  | create (key value : Literal)
  /-- A record that cannot be made, with the message of the error. -/
  | fail (key : Literal) (message : String)

/-- Where a configuration is read from. -/
structure ConfigSource where
  /-- The text of a file that is named outright. -/
  file : Option String
  /-- A path that is given outright. -/
  path : Option String
  /-- The file that the environment names: its text, if the file exists. -/
  environment : Option (Option String)
  /-- Whether the settings are those of the service for where there is no scope. -/
  viaFallback : Bool

/-- What the main service is asked to read, write, call or look up. -/
inductive ServiceCommand where
  -- reading, writing and calling through the service
  | dereference (target key : Literal) (safe : Bool) (scope : Option String)
  | assign (target key value : Literal) (scope : Option String)
  | call (target key : Literal) (args : ArgumentList) (safe : Bool) (scope : Option String)
  | invoke (target name : Literal) (args : ArgumentList) (safe : Bool)
  | invokeStatic (target name : Literal) (args : ArgumentList)
  | construct (kind : KindRef) (args : ArgumentList) (scope : Option String)
  -- resolution
  | resolve (target name : Literal) (kinds : List KindRef)
  | resolveConstructor (kind : KindRef) (kinds : List KindRef)
  | resolveField (kind : KindRef) (name : Literal)
  | listFields (kind : KindRef)
  | ownAttribute (target name : Literal)
  | listMethods (kind : KindRef)
  | listConstructors (kind : KindRef)
  | isInterface (kind : KindRef)
  | getField (target name : Literal) (fallback : Option Literal)
  | setField (target name value : Literal)
  | fieldNames (target : Literal)
  | fieldNamesNoCase (target : Literal)
  | hasField (target name : Literal)
  | hasFieldNoCase (target name : Literal)
  | methodNames (target : Literal)
  | hasMethod (target name : Literal)
  | hasMethodNoCase (target name : Literal)
  | cacheInfo
  | cacheClear
  | cacheEnable (value : Literal)
  | cacheHas (kind : KindRef) (name : String) (kinds : Option (List KindRef))

/-- Commands about functions that are registered as members, and about calling functions. -/
inductive FunctionCommand where
  | register (name : Literal) (category : String) (function : Literal)
  | registerAndReturn (name : Literal) (category : String) (function : Literal)
  | getMember (name target : Literal)
  | hasMember (name target : Literal)
  | memberNames (category : String)
  | invokeMember (name target : Literal) (args : ArgumentList) (scope : Option String)
  | callFunction (function : Literal) (args : ArgumentList) (scope : Option String)
  | acceptsScope (function : Literal)

/-- Reading, writing and calling without naming the service: of a value that answers for itself, or
    by dotted access. -/
inductive AccessCommand where
  -- values that answer for themselves
  | askAssign (target key value : Literal) (scope : Option String)
  | askDereference (target key : Literal) (safe : Bool) (scope : Option String)
  | askCall (target key : Literal) (args : ArgumentList) (safe : Bool) (scope : Option String)
  -- dotted access
  | get (target key : Literal) (safe : Bool) (scope : Option String)
  | getAndInvoke (target key : Literal) (args : ArgumentList) (safe : Bool)
      (scope : Option String)
  | set (target key value : Literal) (scope : Option String)
  | setDeep (target value : Literal) (keys : List Literal) (scope : Option String)

/-- Commands about wrappers. -/
inductive WrapperCommand where
  | new (kind : KindRef) (inst : Literal) (viaFallback : Bool)
  | of (value : Literal)
  | construct (wrapper : Literal) (args : ArgumentList) (scope : Option String)
  | invoke (wrapper name : Literal) (args : ArgumentList) (safe : Bool)
  | invokeStatic (wrapper name : Literal) (args : ArgumentList)
  | getField (wrapper name : Literal) (fallback : Option Literal)
  | setField (wrapper name value : Literal)
  | info (wrapper : Literal)
  | has (wrapper name : Literal)

/-- Commands about scopes; a scope is named by the variable that holds it. -/
inductive ScopeCommand where
  | new (parent : Option String) (ownsService : Bool)
  | ofInstance (parent : Option String) (inst : Literal)
  | set (scope : String) (key value : Literal)
  | item (scope : String) (key : Literal)
  | get (scope : String) (key : Literal) (fallback : Literal)
  | has (scope : String) (key : Literal)
  | owner (scope : String) (key : Literal)
  | service (scope : String)
  | functions (scope : String)

/-- Questions that one function of the library answers. -/
inductive Question where
  | reveal (value : Literal)
  | same (a b : Literal)
  | equal (a b : Literal)
  | display (value : Literal)
  | absent
  | isAbsent (value : Literal)
  | key (value : Literal)
  | keyEqual (a b : Literal)
  | wellKnownKeys
  | target (type : Option Literal) (inst : Option Literal)
  | classify (value : Literal)
  | category (value : Literal)
  | isAssignable (arg param : KindRef)
  | unboxedKind (kind : KindRef)
  | hintKinds (hint : Option HintDecl)
  | memberInfo (params : Option (List (List KindRef))) (kinds : List KindRef)
  | unwrapArguments (args : ArgumentList)
  | readIndex (key : Literal) (size : Int) (safe : Bool)
  | writeIndex (key : Literal) (size : Int) (fixed : Bool)
  | render (template : String) (values : List (String × Literal))
  | formatKeys (keys : Literal) (limit : Option Int)
  | formatKinds (kinds : List KindRef)
  | typeName (kind : KindRef)
  | errorIs (kind base : KindRef)
  | safeRecoverable
  | config (data : Document)
  | loadConfig (source : ConfigSource)
  | recordCache (steps : List CacheStep)

/-- Commands on a struct as a map. -/
inductive StructCommand where
  | of (pairs : List Literal)
  | new (data : Option Literal) (named : List (String × Literal))
  | get (target key : Literal)
  | getD (target key fallback : Literal)
  | set (target key value : Literal)
  | delete (target key : Literal)
  | has (target key : Literal)
  | size (target : Literal)
  | walk (target : Literal)
  | names (target : Literal)
  | pop (target key : Literal) (fallback : Option Literal)
  | popItem (target : Literal)
  | setDefault (target key fallback : Literal)
  | update (target value : Literal)
  | clear (target : Literal)

/-- Commands on an array as a sequence counted from zero. -/
inductive ArrayCommand where
  | get (target index : Literal)
  | set (target index value : Literal)
  | delete (target index : Literal)
  | insert (target index value : Literal)
  | append (target value : Literal)
  | extend (target value : Literal)
  | pop (target : Literal) (index : Option Literal)
  | remove (target value : Literal)
  | reverse (target : Literal)
  | index (target value : Literal)
  | count (target value : Literal)
  | has (target value : Literal)
  | size (target : Literal)

/-- A command. -/
inductive Command where
  | service (c : ServiceCommand)
  | function (c : FunctionCommand)
  | access (c : AccessCommand)
  | wrapper (c : WrapperCommand)
  | scope (c : ScopeCommand)
  | ask (q : Question)
  | struct (c : StructCommand)
  | array (c : ArrayCommand)

/-- A command, and the variable that keeps its result. -/
structure Request where
  command : Command
  saveAs : Option String

/-- A whole session: its classes, its settings and its commands. -/
structure Script where
  classes : List ClassDecl
  config : Option Document
  /-- Whether everything is traced. -/
  traceAll : Bool
  /-- Whether types are described by pairs. -/
  pairMetadata : Bool
  requests : List Request

end ScriptBridge
