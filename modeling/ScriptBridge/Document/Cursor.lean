import ScriptBridge.Document.Character

namespace ScriptBridge

/-!
# Places in a text

* `Cursor` is a place in a text, with its line and its column;
* `Cursor.next` and `Cursor.skip` move on by characters, `Cursor.reach` to where a given rest
  starts.
-/

/-- A place in a text: what follows it, and where it stands. -/
structure Cursor where
  rest : List Char
  /-- The number of characters before. -/
  index : Nat := 0
  /-- The number of line breaks before. -/
  line : Nat := 0
  /-- The number of characters before on its line; byte order marks do not count. -/
  column : Nat := 0
deriving Repr, Inhabited

namespace Cursor

/-- The mark that tells the order of bytes. -/
def byteOrderMark : Char := '\ufeff'

/-- The place after the next character. -/
def next (p : Cursor) : Cursor :=
  match p.rest with
  | [] => p
  | c :: cs =>
    if Document.isBreak c then
      { rest := cs, index := p.index + 1, line := p.line + 1, column := 0 }
    else
      { p with
        rest := cs
        index := p.index + 1
        column := if c = byteOrderMark then p.column else p.column + 1 }

/-- The place after some characters. -/
def skip : Nat → Cursor → Cursor
  | 0, p => p
  | n + 1, p => skip n p.next

/-- The place at which a rest of the text starts. -/
def reach (p : Cursor) (rest : List Char) : Cursor :=
  p.skip (p.rest.length - rest.length)

end Cursor

end ScriptBridge
