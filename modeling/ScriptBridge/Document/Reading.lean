import ScriptBridge.Document.Outline
import ScriptBridge.Document.Scalar

namespace ScriptBridge

/-!
# Reading documents

The value of a file. The nodes are gone through from the outside in, and every one must have a
value. Because a node may contain itself, the value is given only to a certain depth.

* `Walk` is how far the nodes have been gone through, `Walk.visit` looks at one of them;
* `Walk.flatten` puts the entries that a map takes over from others before its own;
* `Document.unfold` is the value of a node, `Document.ofFile` that of a file.
-/

/-- How far the nodes of an outline have been gone through. -/
structure Walk where
  nodes : Array Node
  visited : List Nat := []
  /-- The lists, sets and maps to be gone through next. -/
  waiting : List Nat := []

namespace Walk

open Document (malformed)

/-- A step through the nodes. -/
abbrev Step := StateT Walk (Except LibraryKind)

/-- The text of a node that stands where a scalar is expected. A map may name the entry that stands
    for it. `fuel` bounds how often one does. -/
def scalarText (nodes : Array Node) : (fuel : Nat) → Nat → Except LibraryKind String
  | 0, _ => .error .recursionError
  | fuel + 1, n =>
    match (nodes.getD n default).content with
    | .scalar s => .ok s
    | .list _ => malformed
    | .map entries =>
      match entries.find? fun e => (nodes.getD e.1 default).tag = .value with
      | some e => scalarText nodes fuel e.2
      | none => malformed

/-- The value of a node that is no list, set or map. -/
def scalarOf (nodes : Array Node) (n : Nat) : Except LibraryKind Document := do
  let node := nodes.getD n default
  -- These have a meaning as keys only, and a foreign tag has none at all.
  if node.tag ∈ [.merge, .value, .other] then malformed
  let s ← scalarText nodes (nodes.size + 1) n
  match node.tag, node.content with
  | .timestamp, .map _ => throw .typeError
  | tag, _ => Document.ofScalar tag s

/-- A node. -/
def node (n : Nat) : Step Node := do return (← get).nodes.getD n default

/-- The entries of a map; any other node is refused. -/
def entries (n : Nat) : Step (List (Nat × Nat)) := do
  match (← node n).content with
  | .map entries => return entries
  | _ => throw .documentError

/-- The items of a list; any other node is refused. -/
def items (n : Nat) : Step (List Nat) := do
  match (← node n).content with
  | .list items => return items
  | _ => throw .documentError

/-- Changes a node. -/
def change (n : Nat) (f : Node → Node) : Step Unit :=
  modify fun w => { w with nodes := w.nodes.modify n f }

/-- Looks at a node for the first time: a scalar must have a value, and anything else is gone
    through later. -/
def visit (n : Nat) : Step Unit := do
  let w ← get
  if w.visited.contains n then return
  -- Noted before anything is looked at: a node may contain itself.
  set { w with visited := n :: w.visited }
  match (← node n).tag with
  | .list | .map | .set | .orderedMap => modify fun w => { w with waiting := w.waiting ++ [n] }
  | _ => discard (scalarOf w.nodes n : Except LibraryKind Document)

/-! ### Entries taken over -/

/-- The place of the first entry of some that gives further entries, and its value. -/
def mergePlace? (w : Walk) (es : List (Nat × Nat)) : Option (Nat × Nat) :=
  let isMerge (e : Nat × Nat) : Bool := (w.nodes.getD e.1 default).tag = .merge
  (es.find? isMerge).map fun e => (es.findIdx isMerge, e.2)

/-- Puts the entries that a map takes over from others before its own; `found` are those found so
    far. Of several maps in a list the first comes last. The mark of an entry that stands for the
    whole map is a mere text here. `fuel` bounds how often entries are taken over. -/
def flatten (fuel : Nat) (n : Nat) (found : List (Nat × Nat)) : Step Unit :=
  match fuel with
  | 0 => throw .recursionError
  | fuel + 1 => do
    let own ← entries n
    match mergePlace? (← get) own with
    | none =>
      for (key, _) in own do
        if (← node key).tag = .value then change key fun k => { k with tag := .text }
      change n fun m => { m with content := .map (found ++ own) }
    | some (place, source) =>
      -- The mark is taken away first, so a map that takes over from itself comes to an end.
      change n fun m => { m with content := .map (own.eraseIdx place) }
      let taken (n : Nat) : Step (List (Nat × Nat)) := do
        discard (entries n)
        flatten fuel n []
        entries n
      -- A source is flattened in place, so whoever uses it later sees what it took over.
      let more ← match (← node source).content with
        | .map _ => taken source
        | .list maps => do pure (← maps.mapM taken).reverse.flatten
        | .scalar _ => throw .documentError
      flatten fuel n (found ++ more)

/-! ### Lists, sets and maps -/

/-- Goes through the entries of a map: keys must not be lists, sets or maps. -/
def mapEntries (n : Nat) : Step Unit := do
  discard (entries n)
  let count := (← get).nodes.foldl (fun k n => match n.content with
    | .map es => k + es.length
    | _ => k) 0
  flatten (count + 2) n []
  for (key, value) in ← entries n do
    visit key
    if (← node key).tag.isUnhashable then throw .documentError
    visit value

/-- Goes through a list, set or map. -/
def enter (n : Nat) : Step Unit := do
  match (← node n).tag with
  | .list => for m in ← items n do visit m
  | .orderedMap =>
    for m in ← items n do
      match ← entries m with
      | [(key, value)] => visit key; visit value
      | _ => throw .documentError
  | _ => mapEntries n

/-- Goes through all that waits. `fuel` is at least the number of nodes. -/
def finish : (fuel : Nat) → Step Unit
  | 0 => return
  | fuel + 1 => do
    match (← get).waiting with
    | [] => return
    | n :: more =>
      modify fun w => { w with waiting := more }
      enter n
      finish fuel

end Walk

namespace Document

/-- The value of a node to a depth; what lies deeper is left out. -/
def unfold (nodes : Array Node) : (depth : Nat) → Nat → Document
  | 0, _ => .null
  | depth + 1, n =>
    let node := nodes.getD n default
    match node.tag, node.content with
    | .list, .list items | .orderedMap, .list items => .list (items.map (unfold nodes depth))
    | .set, .map entries => .set (entries.map fun e => unfold nodes depth e.1)
    | .map, .map entries =>
      .map (entries.map fun e => (unfold nodes depth e.1, unfold nodes depth e.2))
    | _, _ => ((Walk.scalarOf nodes n).toOption).getD .null

/-- Characters with every line break of a file as one line feed: a carriage return alone counts as
    one, and so does one before a line feed. -/
def lineFeeds : List Char → List Char
  | [] => []
  | '\r' :: '\n' :: cs => '\n' :: lineFeeds cs
  | '\r' :: cs => '\n' :: lineFeeds cs
  | c :: cs => c :: lineFeeds cs

/-- The value of a file to a depth. -/
def ofFile (depth : Nat) (s : String) : Except LibraryKind Document := do
  let outline ← Outline.ofTokens (Token.scan (String.ofList (lineFeeds s.toList)))
  match outline.root with
  | none => return .null
  | some root =>
    let walk : Walk.Step Unit := do
      Walk.visit root
      Walk.finish (outline.nodes.size + 1)
    let (_, w) ← walk.run { nodes := outline.nodes }
    return unfold w.nodes depth root

end Document

end ScriptBridge
