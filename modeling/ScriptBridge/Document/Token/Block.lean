import ScriptBridge.Document.Character

namespace ScriptBridge

/-!
# Block scalars

A scalar may be written as a block of lines that are indented more than what surrounds them. A
header tells whether the lines are kept or folded, what happens to the line breaks at the end and,
if need be, how far the block is indented.

* `Document.block` reads such a scalar after the mark that starts its header.
-/

namespace Document

/-- What happens to the line breaks at the end of a block. -/
inductive Chomp where
  /-- One is kept. -/
  | clip
  /-- None is kept. -/
  | strip
  /-- All are kept. -/
  | keep
deriving DecidableEq, Repr

/-- Reads the sign that tells what happens at the end. -/
def chomp : List Char → Chomp × List Char
  | '+' :: cs => (.keep, cs)
  | '-' :: cs => (.strip, cs)
  | cs => (.clip, cs)

/-- Reads the digit that tells how far a block is indented. -/
def indentation : List Char → Except LibraryKind (Option Nat × List Char)
  | [] => .ok (none, [])
  | c :: cs =>
    if c == '0' then malformed
    else if c.isDigit then .ok (some (c.toNat - '0'.toNat), cs)
    else .ok (none, c :: cs)

/-- Reads a header: sign and digit in any order, and the end of the line. -/
def blockHeader (cs : List Char) : Except LibraryKind (Chomp × Option Nat × List Char) := do
  let (sign, cs) := chomp cs
  let (digit, cs) ← indentation cs
  let (sign, cs) := if sign = .clip ∧ digit.isSome then chomp cs else (sign, cs)
  if !endsField cs then malformed
  return (sign, digit, ← endOfLine cs)

/-- Reads blank lines and the indentation of the line after them: the breaks, the column of what
    follows, and what follows. -/
def blockBreaks (indent column : Nat) : List Char → List Char × Nat × List Char
  | [] => ([], column, [])
  | c :: cs =>
    if c == ' ' && column < indent then blockBreaks indent (column + 1) cs
    else if isBreak c then
      let (breaks, column, rest) := blockBreaks indent 0 cs
      (breakChar c :: breaks, column, rest)
    else ([], column, c :: cs)

/-- Reads blank lines and the indentation of the line after them where the indentation is not known:
    the largest one, the breaks, the column of what follows, and what follows. -/
def firstBreaks (deepest column : Nat) : List Char → Nat × List Char × Nat × List Char
  | [] => (deepest, [], column, [])
  | c :: cs =>
    if c == ' ' then firstBreaks (max deepest (column + 1)) (column + 1) cs
    else if isBreak c then
      let (deepest, breaks, column, rest) := firstBreaks deepest 0 cs
      (deepest, breakChar c :: breaks, column, rest)
    else (deepest, [], column, c :: cs)

/-- A block that has been read: its text up to the last line, the break after that, the breaks of
    the blank lines after it, and what follows. -/
structure Block where
  text : List Char
  last : List Char
  blank : List Char
  rest : List Char

/-- Reads the lines of a block. `breaks` are those before the first, `column` is its column. `fuel`
    is more than the number of characters. -/
def blockLines (isFolded : Bool) (indent : Nat) : (fuel : Nat) → (breaks : List Char) →
    (column : Nat) → List Char → Block
  | 0, breaks, _, cs => { text := [], last := [], blank := breaks, rest := cs }
  | fuel + 1, breaks, column, cs =>
    if column ≠ indent || cs.isEmpty then { text := [], last := [], blank := breaks, rest := cs }
    else
      let line := cs.takeWhile (!isBreak ·)
      let after := cs.drop line.length
      let last := (after.take 1).map breakChar
      let (blank, column, rest) := blockBreaks indent 0 (after.drop 1)
      if column ≠ indent || rest.isEmpty then { text := breaks ++ line, last, blank, rest }
      else
        let joins := isFolded && last == ['\n'] && !cs.head?.any isBlank && !rest.head?.any isBlank
        let between := if !joins then last else if blank.isEmpty then [' '] else []
        let more := blockLines isFolded indent fuel blank column rest
        { more with text := breaks ++ line ++ between ++ more.text }

/-- Reads a block scalar after the mark that starts its header: its text, and what follows. The
    block is indented by `least` at least. -/
def block (isFolded : Bool) (least : Nat) (cs : List Char) :
    Except LibraryKind (List Char × List Char) := do
  let (sign, digit, cs) ← blockHeader cs
  let b : Block := match digit with
    | some n =>
      let indent := least + n - 1
      let (breaks, column, rest) := blockBreaks indent 0 cs
      blockLines isFolded indent (cs.length + 1) breaks column rest
    | none =>
      let (deepest, breaks, column, rest) := firstBreaks 0 0 cs
      blockLines isFolded (max least deepest) (cs.length + 1) breaks column rest
  let ending := match sign with
    | .clip => b.last
    | .strip => []
    | .keep => b.last ++ b.blank
  return (b.text ++ ending, b.rest)

end Document

end ScriptBridge
