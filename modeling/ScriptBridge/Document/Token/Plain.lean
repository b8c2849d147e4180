import ScriptBridge.Document.Character

namespace ScriptBridge

/-!
# Plain scalars

A scalar without quotes is a run of words. It ends at a colon that a space follows, at a comment, at
a line that is indented less, at a line that separates documents, and inside brackets at whatever
belongs to the brackets. Lines are read as one.

* `Document.plain` reads such a scalar.
-/

namespace Document

/-- The characters that structure what stands in brackets. -/
def isBracketMark (c : Char) : Bool :=
  c == ',' || c == '[' || c == ']' || c == '\x7b' || c == '\x7d'

/-- The length of the word that starts here. -/
def wordLength (inBrackets : Bool) : List Char → Nat
  | [] => 0
  | c :: cs =>
    let endsKey := endsWord cs || (inBrackets && cs.head?.any isBracketMark)
    if isBlank c || isBreak c then 0
    else if c == ':' && endsKey then 0
    else if inBrackets && (isBracketMark c || c == '?') then 0
    else wordLength inBrackets cs + 1

/-- Reads on after a line break: the breaks of the blank lines, the column of what follows, and what
    follows. There are none if a line separates documents. -/
def plainBreaks (column : Nat) : List Char → Option (List Char) × Nat × List Char
  | [] => (some [], column, [])
  | c :: cs =>
    if c == ' ' then plainBreaks (column + 1) cs
    else if isBreak c then
      if isSeparator cs then (none, 0, cs)
      else
        let (breaks, column, rest) := plainBreaks 0 cs
        (breaks.map (breakChar c :: ·), column, rest)
    else (some [], column, c :: cs)

/-- What separates two words of a plain scalar, if they belong together. -/
structure Gap where
  /-- What is put between the words. -/
  text : Option (List Char)
  /-- The column after the last line break, if there is one. -/
  column : Option Nat
  /-- What follows. -/
  rest : List Char

/-- Reads the space after a word. -/
def gap (cs : List Char) : Gap :=
  let spaces := cs.takeWhile (· == ' ')
  match cs.drop spaces.length with
  | [] => { text := none, column := none, rest := [] }
  | c :: rest =>
    if isBreak c then
      if isSeparator rest then { text := none, column := some 0, rest }
      else
        let (breaks, column, rest) := plainBreaks 0 rest
        { text := breaks.map (folded (breakChar c)), column := some column, rest }
    else
      { text := if spaces.isEmpty then none else some spaces, column := none, rest := c :: rest }

/-- A plain scalar, whether a line break has been read after it, and what follows. -/
structure Plain where
  text : List Char
  endsLine : Bool
  rest : List Char

/-- Reads words, given what stands before the first. A line must be indented by `indent` at least.
    `fuel` is more than the number of characters, `endsLine` whether a break has just been read. -/
def plainWords (inBrackets : Bool) (indent : Nat) : (fuel : Nat) → (before : List Char) →
    (endsLine : Bool) → List Char → Plain
  | 0, _, endsLine, cs => { text := [], endsLine, rest := cs }
  | fuel + 1, before, endsLine, cs =>
    let length := wordLength inBrackets cs
    if length = 0 || cs.head? == some '#' then { text := [], endsLine, rest := cs }
    else
      let word := before ++ cs.take length
      let gap := gap (cs.drop length)
      let goesOn := gap.rest.head? ≠ some '#' ∧ (inBrackets ∨ gap.column.all (indent ≤ ·))
      match gap.text with
      | some text =>
        if goesOn then
          let more := plainWords inBrackets indent fuel text gap.column.isSome gap.rest
          { more with text := word ++ more.text }
        else { text := word, endsLine := gap.column.isSome, rest := gap.rest }
      | none => { text := word, endsLine := gap.column.isSome, rest := gap.rest }

/-- Reads a plain scalar. -/
def plain (inBrackets : Bool) (indent : Nat) (cs : List Char) : Plain :=
  plainWords inBrackets indent (cs.length + 1) [] false cs

end Document

end ScriptBridge
