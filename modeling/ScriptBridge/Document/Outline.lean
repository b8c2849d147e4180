import ScriptBridge.Document.Timestamp
import ScriptBridge.Document.Token.Lexer

namespace ScriptBridge

/-!
# Outlines

The nodes of a file and how they contain one another. A node may have a name by which it is put into
other places again, even into itself, so nodes refer to one another by number.

* `Node` is a node: its tag and its content;
* `Outline` is the nodes of a file;
* `Outline.ofTokens` builds an outline, of one document at most.
-/

/-- What a node contains; other nodes are referred to by number. -/
inductive Content where
  | scalar (text : String)
  | list (items : List Nat)
  | map (entries : List (Nat × Nat))
deriving DecidableEq, Repr, Inhabited

/-- A node of a file. -/
structure Node where
  tag : Tag
  content : Content
deriving DecidableEq, Repr, Inhabited

/-- The nodes of a file, and the outermost one if there is a document. -/
structure Outline where
  nodes : Array Node := #[]
  root : Option Nat := none
deriving Repr, Inhabited

namespace Outline

open Document (malformed)

/-- An outline under construction. -/
structure Draft where
  tokens : List Token
  nodes : Array Node := #[]
  /-- The nodes that have a name. -/
  anchors : List (String × Nat) := []
  /-- The abbreviations for tags. -/
  handles : List (String × String) := []
  /-- How many lists and maps the next node is in. -/
  depth : Nat := 0

/-- A step of the construction. -/
abbrev Build := StateT Draft (Except LibraryKind)

/-- Refuses the file. -/
def refuse {α : Type} : Build α := fun _ => malformed

/-- The next token, if there is one. -/
def peek : Build (Option Token) := do
  match (← get).tokens with
  | [] => return none
  -- What cannot be read fails only once it is reached.
  | .broken kind :: _ => throw kind
  | t :: _ => return some t

/-- Whether the next token is one of some. -/
def isNext (ts : List Token) : Build Bool := do return (← peek).any ts.contains

/-- Moves on to the next token. -/
def advance : Build Unit := modify fun d => { d with tokens := d.tokens.tail }

/-- Moves on if the next token is a given one; tells whether it is. -/
def take (t : Token) : Build Bool := do
  if ← isNext [t] then
    advance
    return true
  else return false

/-- Adds a node, under a name if there is one. -/
def add (anchor : Option String) (n : Node) : Build Nat := do
  let d ← get
  let index := d.nodes.size
  let anchors := match anchor with
    | some a => (a, index) :: d.anchors
    | none => d.anchors
  set { d with nodes := d.nodes.push n, anchors }
  return index

/-- Fills in the content of a node. -/
def fill (index : Nat) (c : Content) : Build Unit :=
  modify fun d => { d with nodes := d.nodes.modify index fun n => { n with content := c } }

/-- An empty scalar, which stands where nothing is written. -/
def emptyNode : Build Nat := add none ⟨.null, .scalar ""⟩

/-- The name and the tag before a node, in either order. -/
structure Properties where
  anchor : Option String := none
  tag : Option TagMark := none

/-- Reads the name before a node. -/
def anchor? : Build (Option String) := do
  match ← peek with
  | some (.anchor name) => advance; return some name
  | _ => return none

/-- Reads the tag before a node. -/
def tag? : Build (Option TagMark) := do
  match ← peek with
  | some (.tag mark) => advance; return some mark
  | _ => return none

/-- Reads the name and the tag before a node. -/
def properties : Build Properties := do
  match ← anchor? with
  | some name => return { anchor := some name, tag := ← tag? }
  | none =>
    match ← tag? with
    | some mark => return { anchor := ← anchor?, tag := some mark }
    | none => return {}

/-- The tag that a written one stands for. The tag that is a mere exclamation mark says nothing. -/
def tagOf (written : Option TagMark) : Build (Option Tag) := do
  let name ← match written with
    | none => pure none
    | some ⟨none, suffix⟩ => pure (some suffix)
    | some ⟨some handle, suffix⟩ =>
      match (← get).handles.lookup handle with
      | some meaning => pure (some (meaning ++ suffix))
      | none => refuse
  return (name.filter (· ≠ "!")).map Tag.ofName

/-- How many lists and maps may be in one another. -/
def depthLimit : Nat := 489

/-- Reads what is inside a list or map. -/
def inside {α : Type} (read : Build α) : Build α := do
  let depth := (← get).depth
  if depthLimit ≤ depth then throw .recursionError
  modify fun d => { d with depth := depth + 1 }
  let a ← read
  modify fun d => { d with depth }
  return a

/-- Where a node stands: inside brackets, laid out by indentation, or as a value that may be a list
    whose items are not indented. -/
inductive Place where
  | bracketed
  | laidOut
  | entry
deriving DecidableEq, Repr

/-! ### Nodes -/

mutual

/-- Reads a node. `fuel` bounds how deep nodes are nested and how many of them follow one
    another. -/
def node (fuel : Nat) (place : Place) : Build Nat :=
  match fuel with
  | 0 => refuse
  | fuel + 1 => do
    match ← peek with
    | some (.alias name) =>
      advance
      match (← get).anchors.lookup name with
      | some n => return n
      | none => refuse
    | _ =>
      let p ← properties
      let tag ← tagOf p.tag
      -- A name that is given twice is refused, but only after the tag was looked up.
      let known := (← get).anchors
      if p.anchor.any fun a => (known.lookup a).isSome then refuse
      let list (read : Build (List Nat)) : Build Nat := do
        -- Added before its items are read, so that an alias inside can refer to it.
        let n ← add p.anchor ⟨tag.getD .list, .list []⟩
        fill n (.list (← inside read))
        return n
      let map (read : Build (List (Nat × Nat))) : Build Nat := do
        let n ← add p.anchor ⟨tag.getD .map, .map []⟩
        fill n (.map (← inside read))
        return n
      let blank : Build Nat :=
        if p.anchor.isSome || p.tag.isSome then add p.anchor ⟨tag.getD .null, .scalar ""⟩
        else refuse
      match place, ← peek with
      | .entry, some .item => list (flushItems fuel)
      | _, some (.scalar text isPlain) =>
        advance
        -- A quoted text is a text, unless a tag is written: then the word is looked at again.
        let resolved := if isPlain || p.tag.isSome then Tag.ofWord text else .text
        add p.anchor ⟨tag.getD resolved, .scalar text⟩
      | _, some .openList => advance; list (bracketItems fuel true)
      | _, some .openMap => advance; map (bracketEntries fuel true)
      | .bracketed, _ => blank
      | _, some .layoutList => advance; list (layoutItems fuel)
      | _, some .layoutMap => advance; map (layoutEntries fuel)
      | _, _ => blank

/-- Reads a node unless one of some tokens shows that there is none. -/
def nodeUnless (fuel : Nat) (place : Place) (ends : List Token) : Build Nat := do
  if ← isNext ends then emptyNode
  else match fuel with
    | 0 => refuse
    | fuel + 1 => node fuel place

/-- Reads the items of a list that is laid out by indentation, to its end. -/
def layoutItems (fuel : Nat) : Build (List Nat) :=
  match fuel with
  | 0 => refuse
  | fuel + 1 => do
    if ← take .item then
      let n ← nodeUnless fuel .laidOut [.item, .layoutEnd]
      return n :: (← layoutItems fuel)
    else if ← take .layoutEnd then return []
    else refuse

/-- Reads the items of a list that is not indented against the key before it. -/
def flushItems (fuel : Nat) : Build (List Nat) :=
  match fuel with
  | 0 => refuse
  | fuel + 1 => do
    if ← take .item then
      let n ← nodeUnless fuel .laidOut [.item, .key, .value, .layoutEnd]
      return n :: (← flushItems fuel)
    else return []

/-- Reads the entries of a map that is laid out by indentation, to its end. -/
def layoutEntries (fuel : Nat) : Build (List (Nat × Nat)) :=
  match fuel with
  | 0 => refuse
  | fuel + 1 => do
    if ← take .key then
      let ends : List Token := [.key, .value, .layoutEnd]
      let key ← nodeUnless fuel .entry ends
      let value ← if ← take .value then nodeUnless fuel .entry ends else emptyNode
      return (key, value) :: (← layoutEntries fuel)
    else if ← take .layoutEnd then return []
    else refuse

/-- Reads the items of a list in brackets, to its end. An item may be a single entry of a map. -/
def bracketItems (fuel : Nat) (isFirst : Bool) : Build (List Nat) :=
  match fuel with
  | 0 => refuse
  | fuel + 1 => do
    if ← take .closeList then return []
    -- A comma may stand after the last item, and none before the first.
    if !isFirst then if !(← take .comma) then refuse
    if ← take .closeList then return []
    let n ← if ← take .key then do
        let n ← add none ⟨.map, .map []⟩
        let e ← inside do
          let key ← nodeUnless fuel .bracketed [.value, .comma, .closeList]
          let value ← if ← take .value then nodeUnless fuel .bracketed [.comma, .closeList]
            else emptyNode
          pure (key, value)
        fill n (.map [e])
        pure n
      else node fuel .bracketed
    return n :: (← bracketItems fuel false)

/-- Reads the entries of a map in brackets, to its end. A key need not have a value. -/
def bracketEntries (fuel : Nat) (isFirst : Bool) : Build (List (Nat × Nat)) :=
  match fuel with
  | 0 => refuse
  | fuel + 1 => do
    if ← take .closeMap then return []
    if !isFirst then if !(← take .comma) then refuse
    if ← take .closeMap then return []
    let e ← if ← take .key then do
        let key ← nodeUnless fuel .bracketed [.value, .comma, .closeMap]
        let value ← if ← take .value then nodeUnless fuel .bracketed [.comma, .closeMap]
          else emptyNode
        pure (key, value)
      else do
        let key ← node fuel .bracketed
        pure (key, ← emptyNode)
    return e :: (← bracketEntries fuel false)

end

/-! ### Documents -/

/-- The abbreviations that need no directive. -/
def commonHandles : List (String × String) := [("!", "!"), ("!!", Tag.namespaceName)]

/-- Reads the directives before a document: the version once, and every abbreviation once. -/
def directives (version : Option Nat) (handles : List (String × String)) :
    List Token → Except LibraryKind (List (String × String) × List Token)
  | .directive (.version major) :: ts =>
    if version.isSome || major ≠ 1 then malformed else directives (some major) handles ts
  | .directive (.handle name meaning) :: ts =>
    if (handles.lookup name).isSome then malformed
    else directives version ((name, meaning) :: handles) ts
  | .directive .other :: ts => directives version handles ts
  | ts => .ok (handles, ts)

/-- Reads the document of a file and makes sure that no other follows. Without directives the mark
    before it may be left out. -/
def document : Build (Option Nat) := do
  if (← peek).isNone then return none
  let d ← get
  -- No more than three steps are made for each token.
  let fuel := 3 * d.tokens.length + 3
  let (handles, ts) ← directives none [] d.tokens
  let hasDirectives := ts.length ≠ d.tokens.length
  set { d with tokens := ts, handles := handles ++ commonHandles }
  let root ← if ← take .documentStart then
      match ← peek with
      | none | some .documentStart | some .documentEnd | some (.directive _) => emptyNode
      | some _ => node fuel .laidOut
    -- Directives must be ended by the mark.
    else if hasDirectives then refuse
    else node fuel .laidOut
  modify fun d => { d with tokens := d.tokens.dropWhile (· = .documentEnd) }
  if (← peek).isSome then refuse
  return some root

/-- The outline of a file. -/
def ofTokens (ts : Array Token) : Except LibraryKind Outline := do
  let (root, d) ← document.run { tokens := ts.toList }
  return { nodes := d.nodes, root }

end Outline

end ScriptBridge
