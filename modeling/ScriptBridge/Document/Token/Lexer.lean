import ScriptBridge.Document.Cursor
import ScriptBridge.Document.Token.Block
import ScriptBridge.Document.Token.Label
import ScriptBridge.Document.Token.Plain

namespace ScriptBridge

/-!
# Reading tokens

A file is read from left to right. Whether something is a key shows only at the colon after it, so
its place is remembered until then, and the tokens before a key are put in when the colon is found.

* `PendingKey` is a place at which a key may have started;
* `Lexer` is how far the reading has come, `Lexer.step` reads one more token;
* `Token.scan` reads all tokens of a text.
-/

/-- A place at which a key may have started. -/
structure PendingKey where
  /-- The number of tokens before it. -/
  token : Nat
  /-- Whether nothing but a key may stand there. -/
  isRequired : Bool
  index : Nat
  line : Nat
  column : Nat
deriving Repr, Inhabited

/-- How far the reading has come. -/
structure Lexer where
  cursor : Cursor
  tokens : Array Token := #[]
  /-- The number of brackets that are open. -/
  depth : Nat := 0
  /-- The column of the innermost list or map that is laid out by indentation. -/
  indent : Int := -1
  /-- The columns of those around it, from the inside out. -/
  outer : List Int := []
  /-- Whether a key may start here. -/
  keyAllowed : Bool := true
  /-- The places at which a key may have started, by the number of open brackets. -/
  pending : List (Nat × PendingKey) := []
deriving Repr, Inhabited

namespace Lexer

open Document

/-! ### Keys and indentation -/

/-- The longest key that is recognised by the colon after it. -/
def keyLimit : Nat := 1024

/-- Adds a token. -/
def emit (l : Lexer) (t : Token) : Lexer := { l with tokens := l.tokens.push t }

/-- Puts a token in front of others. -/
def insert (l : Lexer) (place : Nat) (t : Token) : Lexer :=
  { l with tokens := l.tokens.extract 0 place ++ #[t] ++ l.tokens.extract place l.tokens.size }

/-- Moves on to where a rest of the text starts. -/
def reach (l : Lexer) (rest : List Char) : Lexer := { l with cursor := l.cursor.reach rest }

/-- Whether a key that started on an earlier line, or too far away, is none. -/
def isStale (l : Lexer) (k : PendingKey) : Bool :=
  k.line ≠ l.cursor.line || keyLimit < l.cursor.index - k.index

/-- Forgets the keys that have turned out to be none. -/
def dropStale (l : Lexer) : Except LibraryKind Lexer :=
  if l.pending.any fun (_, k) => l.isStale k && k.isRequired then malformed
  else .ok { l with pending := l.pending.filter fun (_, k) => !l.isStale k }

/-- Forgets the key that may have started inside the present brackets. -/
def dropPending (l : Lexer) : Except LibraryKind Lexer :=
  if l.pending.any fun (d, k) => d == l.depth && k.isRequired then malformed
  else .ok { l with pending := l.pending.filter fun (d, _) => d != l.depth }

/-- Remembers that a key may start here. -/
def savePending (l : Lexer) : Except LibraryKind Lexer :=
  if !l.keyAllowed then .ok l
  else do
    let key : PendingKey :=
      { token := l.tokens.size
        -- At the column of a map that is laid out only its next key can stand.
        isRequired := l.depth = 0 ∧ l.indent = l.cursor.column
        index := l.cursor.index
        line := l.cursor.line
        column := l.cursor.column }
    let l ← l.dropPending
    return { l with pending := (l.depth, key) :: l.pending }

/-- Ends the lists and maps that are indented more than a column. -/
def unwind (column : Int) (l : Lexer) : Lexer :=
  if l.depth ≠ 0 then l
  else
    let columns := l.indent :: l.outer
    let deeper := columns.takeWhile (column < ·)
    let left := columns.drop deeper.length
    { l with
      tokens := l.tokens ++ Array.replicate deeper.length Token.layoutEnd
      indent := left.headD (-1)
      outer := left.tail }

/-- Whether something that starts at a column is laid out more deeply than all around it. -/
def isDeeper (l : Lexer) (column : Nat) : Bool := l.depth = 0 && l.indent < column

/-- Starts a list or map at a column. -/
def layOut (l : Lexer) (column : Nat) : Lexer :=
  { l with indent := column, outer := l.indent :: l.outer }

/-! ### Space between tokens -/

/-- Skips spaces, comments and line breaks; tells whether a line has ended. -/
def skipSpace (inComment lineEnded : Bool) : List Char → Bool × List Char
  | [] => (lineEnded, [])
  | c :: cs =>
    if isBreak c then skipSpace false true cs
    else if inComment || c == '#' then skipSpace true lineEnded cs
    else if c == ' ' then skipSpace false lineEnded cs
    else (lineEnded, c :: cs)

/-- Moves on to the next token. -/
def toToken (l : Lexer) : Lexer :=
  let start := l.cursor.rest
  let start := if l.cursor.index = 0 && start.head? = some Cursor.byteOrderMark then start.drop 1
    else start
  let (lineEnded, rest) := skipSpace false false start
  let l := l.reach rest
  -- Inside brackets it does not matter where lines end.
  if lineEnded && l.depth = 0 then { l with keyAllowed := true } else l

/-! ### Tokens -/

/-- Reads a mark of some characters that ends all that is laid out. -/
def topLevel (l : Lexer) (t : Token) (rest : List Char) : Except LibraryKind Lexer := do
  let l ← (l.unwind (-1)).dropPending
  return ({ l with keyAllowed := false }.reach rest).emit t

/-- Reads an opening bracket. -/
def opening (l : Lexer) (t : Token) (rest : List Char) : Except LibraryKind Lexer := do
  let l ← l.savePending
  return ({ l with depth := l.depth + 1, keyAllowed := true }.reach rest).emit t

/-- Reads a closing bracket; one must be open. -/
def closing (l : Lexer) (t : Token) (rest : List Char) : Except LibraryKind Lexer := do
  if l.depth = 0 then malformed
  let l ← l.dropPending
  return ({ l with depth := l.depth - 1, keyAllowed := false }.reach rest).emit t

/-- Reads a comma. -/
def comma (l : Lexer) (rest : List Char) : Except LibraryKind Lexer := do
  let l ← l.dropPending
  return ({ l with keyAllowed := true }.reach rest).emit .comma

/-- Reads the mark before an item or a key. Outside brackets it may start a list or map. -/
def mark (l : Lexer) (t start : Token) (keyAfter : Bool) (rest : List Char) :
    Except LibraryKind Lexer := do
  if l.depth = 0 && !l.keyAllowed then malformed
  let column := l.cursor.column
  let l := if l.isDeeper column then (l.layOut column).emit start else l
  let l ← l.dropPending
  return ({ l with keyAllowed := keyAfter }.reach rest).emit t

/-- Reads a colon. What was remembered is a key then, and starts a map if it stands deeper than all
    around it; otherwise the colon itself may start one. -/
def colon (l : Lexer) (rest : List Char) : Except LibraryKind Lexer :=
  match l.pending.lookup l.depth with
  | none => l.mark .value .layoutMap (l.depth = 0) rest
  | some key =>
    let l := { l with pending := l.pending.filter fun (d, _) => d != l.depth, keyAllowed := false }
    -- That this was a key is known only now, so its mark goes in front of it afterwards.
    let l := l.insert key.token .key
    let l := if l.isDeeper key.column then (l.layOut key.column).insert key.token .layoutMap else l
    .ok ((l.reach rest).emit .value)

/-- Reads a token that may be a key or stand before one. -/
def keyPart (l : Lexer) (read : Except LibraryKind (Token × List Char)) :
    Except LibraryKind Lexer := do
  let l ← l.savePending
  let (t, rest) ← read
  return ({ l with keyAllowed := false }.reach rest).emit t

/-- Reads a block scalar. -/
def blockScalar (l : Lexer) (isFolded : Bool) (rest : List Char) : Except LibraryKind Lexer := do
  let l ← l.dropPending
  let (cs, rest) ← block isFolded (max 1 (l.indent + 1)).toNat rest
  return ({ l with keyAllowed := true }.reach rest).emit (.scalar (String.ofList cs) false)

/-- Reads a plain scalar. -/
def plainScalar (l : Lexer) : Except LibraryKind Lexer := do
  let l ← l.savePending
  let p := plain (l.depth ≠ 0) (l.indent + 1).toNat l.cursor.rest
  return ({ l with keyAllowed := p.endsLine }.reach p.rest).emit
    (.scalar (String.ofList p.text) true)

/-- Whether a plain scalar may start with a character that others follow. A mark starts one only if
    no space follows it. -/
def startsPlain (inBrackets : Bool) (c : Char) (rest : List Char) : Bool :=
  let isMark := isBlank c || isBreak c || "-?:,[]\x7b\x7d#&*!|>'\"%@\x60".toList.contains c
  !isMark || (!endsWord rest && (c == '-' || (!inBrackets && (c == '?' || c == ':'))))

/-- Ends the reading. -/
def finish (l : Lexer) : Except LibraryKind Lexer := (l.unwind (-1)).dropPending

/-- Reads one token, given its first character and what follows that. -/
def token (l : Lexer) (c : Char) (rest : List Char) : Except LibraryKind Lexer :=
  let inBrackets := l.depth ≠ 0
  let startsLine := l.cursor.column = 0
  let alone := endsWord rest
  if startsLine ∧ c = '%' then do
    let (d, rest) ← directive rest
    l.topLevel (.directive d) rest
  else if startsLine ∧ isTriple '-' (c :: rest) then l.topLevel .documentStart (rest.drop 2)
  else if startsLine ∧ isTriple '.' (c :: rest) then l.topLevel .documentEnd (rest.drop 2)
  else match c with
    | '[' => l.opening .openList rest
    | '\x7b' => l.opening .openMap rest
    | ']' => l.closing .closeList rest
    | '\x7d' => l.closing .closeMap rest
    | ',' => l.comma rest
    | '*' => l.keyPart (do let (n, rest) ← name rest; return (.alias n, rest))
    | '&' => l.keyPart (do let (n, rest) ← name rest; return (.anchor n, rest))
    | '!' => l.keyPart (do let (m, rest) ← tagMark rest; return (.tag m, rest))
    | '\'' => l.keyPart (do
      let (t, rest) ← quoted false rest
      return (.scalar (String.ofList t) false, rest))
    | '"' => l.keyPart (do
      let (t, rest) ← quoted true rest
      return (.scalar (String.ofList t) false, rest))
    | c =>
      if c = '-' ∧ alone then l.mark .item .layoutList true rest
      else if c = '?' ∧ (inBrackets ∨ alone) then l.mark .key .layoutMap (!inBrackets) rest
      -- Inside brackets a colon needs no space after it.
      else if c = ':' ∧ (inBrackets ∨ alone) then l.colon rest
      else if c = '|' ∧ !inBrackets then l.blockScalar false rest
      else if c = '>' ∧ !inBrackets then l.blockScalar true rest
      else if startsPlain inBrackets c rest then l.plainScalar
      else malformed

/-- Reads one more token; tells whether there was one. -/
def step (l : Lexer) : Except LibraryKind (Lexer × Bool) := do
  let l ← l.toToken.dropStale
  let l := l.unwind l.cursor.column
  match l.cursor.rest with
  | [] => return (← l.finish, false)
  | c :: rest => return (← l.token c rest, true)

/-- The tokens in front of which nothing can be put any more. -/
def settled (l : Lexer) : Array Token :=
  let places := (l.pending.filter fun (_, k) => !l.isStale k).map (·.2.token)
  l.tokens.extract 0 (places.foldl min l.tokens.size)

/-- Reads tokens to the end, or as far as they can be told. `fuel` is more than the number of
    characters. -/
def run : (fuel : Nat) → Lexer → Array Token
  | 0, l => l.tokens
  | fuel + 1, l =>
    match l.step with
    | .error kind => l.settled.push (.broken kind)
    | .ok (l, true) => run fuel l
    | .ok (l, false) => l.tokens

end Lexer

/-- The tokens of a text; the last one tells if it cannot be read. -/
def Token.scan (s : String) : Array Token :=
  let cs := s.toList
  if cs.all Document.isAllowed then Lexer.run (cs.length + 1) { cursor := { rest := cs } }
  else #[.broken .documentError]

end ScriptBridge
