import ScriptBridge.Kind

namespace ScriptBridge

/-!
# Characters of configuration files

The classes of characters that the format tells apart, and the ends of words and lines. The end of
the text ends a word and a line.

* `Document.isBreak` and `Document.isBlank` are line breaks and the space within a line;
* `Document.endsWord`, `Document.endsField` and `Document.endsLine` tell what ends at a place;
* `Document.folded` joins two lines;
* `Document.malformed` is the refusal of a text that breaks the rules of the format.
-/

namespace Document

/-- The refusal of a text that breaks the rules of the format. -/
def malformed {α : Type} : Except LibraryKind α := .error .documentError

/-- Whether a character ends a line. -/
def isBreak (c : Char) : Bool := c == '\n' || c == '\x85' || c == '\u2028' || c == '\u2029'

/-- The line break that a character is read as: the two separators of Unicode stay what they are. -/
def breakChar (c : Char) : Char := if c == '\x85' then '\n' else c

/-- Whether a character is a space within a line. -/
def isBlank (c : Char) : Bool := c == ' ' || c == '\t'

/-- Whether a character may occur in a name. -/
def isNameChar (c : Char) : Bool := c.isAlphanum || c == '-' || c == '_'

/-- Whether a character may occur at all: most control characters may not. -/
def isAllowed (c : Char) : Bool :=
  c == '\t' || c == '\n' || c == '\x85' || (' ' ≤ c && c ≤ '~') ||
    ('\xa0' ≤ c && c.toNat ≠ 0xfffe && c.toNat ≠ 0xffff)

/-- Whether a word ends here. -/
def endsWord : List Char → Bool
  | [] => true
  | c :: _ => isBlank c || isBreak c

/-- Whether a field of a line ends here; a tab ends none. -/
def endsField : List Char → Bool
  | [] => true
  | c :: _ => c == ' ' || isBreak c

/-- Whether a line ends here. -/
def endsLine : List Char → Bool
  | [] => true
  | c :: _ => isBreak c

/-- Whether three equal characters stand here as a word. -/
def isTriple (mark : Char) : List Char → Bool
  | a :: b :: c :: rest => a == mark && b == mark && c == mark && endsWord rest
  | _ => false

/-- Whether a line that starts here separates documents. -/
def isSeparator (cs : List Char) : Bool := isTriple '-' cs || isTriple '.' cs

/-- Drops the spaces and the comment at the end of a line, and the break; nothing else may stand
    there. -/
def endOfLine (cs : List Char) : Except LibraryKind (List Char) :=
  let cs := cs.dropWhile (· == ' ')
  let cs := if cs.head? = some '#' then cs.dropWhile (!isBreak ·) else cs
  if endsLine cs then .ok (cs.drop 1) else malformed

/-- What stands between two lines that are read as one: a space for a single plain break; of more
    breaks the first is left out. `first` is the first break, `more` are the others. -/
def folded (first : Char) (more : List Char) : List Char :=
  if first ≠ '\n' then first :: more else if more.isEmpty then [' '] else more

end Document

end ScriptBridge
