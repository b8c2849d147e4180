import ScriptBridge.Document.Character
import ScriptBridge.Number.Integer

namespace ScriptBridge

/-!
# Quoted scalars

A scalar in quotes goes up to the closing quote, over several lines if need be, which are then read
as one. In single quotes a quote is written twice; in double quotes a backslash starts an escape.

* `Document.quoted` reads such a scalar after its opening quote.
-/

namespace Document

/-- The character that another stands for after a backslash. -/
def escape? : Char → Option Char
  | '0' => some '\x00'
  | 'a' => some '\x07'
  | 'b' => some '\x08'
  | 't' | '\t' => some '\t'
  | 'n' => some '\n'
  | 'v' => some '\x0b'
  | 'f' => some '\x0c'
  | 'r' => some '\r'
  | 'e' => some '\x1b'
  | ' ' => some ' '
  | '"' => some '"'
  | '\\' => some '\\'
  | '/' => some '/'
  | 'N' => some '\x85'
  | '_' => some '\xa0'
  | 'L' => some '\u2028'
  | 'P' => some '\u2029'
  | _ => none

/-- The number of hexadecimal digits that follow a mark after a backslash. -/
def escapeLength? : Char → Option Nat
  | 'x' => some 2
  | 'u' => some 4
  | 'U' => some 8
  | _ => none

/-- The value of a hexadecimal digit. -/
def hexDigit? (c : Char) : Option Nat :=
  if c.toNat < 128 then (Numeral.digitValue? c).filter (· < 16) else none

/-- The number that hexadecimal digits at the start stand for, all of which must be there. -/
def hexNumber (length : Nat) (cs : List Char) : Except LibraryKind Nat :=
  if cs.length < length then malformed
  else match (cs.take length).mapM hexDigit? with
    | none => malformed
    | some ds => .ok (ds.foldl (fun n d => 16 * n + d) 0)

/-- The character of a code point; half of a surrogate pair is none of its own. -/
def character (code : Nat) : Except LibraryKind Char :=
  if 0x7fffffff < code then .error .overflowError
  else if 0x10ffff < code then .error .valueError
  else .ok (if 0xd800 ≤ code ∧ code < 0xe000 then '\ufffd' else Char.ofNat code)

/-- Reads on after a line break inside quotes: the breaks of the blank lines, and what follows. No
    line there may separate documents. `fuel` is at least the number of characters. -/
def quotedBreaks : (fuel : Nat) → List Char → Except LibraryKind (List Char × List Char)
  | 0, _ => malformed
  | fuel + 1, cs =>
    if isSeparator cs then malformed
    else match cs.dropWhile isBlank with
      | [] => .ok ([], [])
      | c :: rest =>
        if isBreak c then do
          let (breaks, rest) ← quotedBreaks fuel rest
          return (breakChar c :: breaks, rest)
        else .ok ([], c :: rest)

/-- Reads an escape after its backslash. A break that is escaped leaves nothing. -/
def escaped (cs : List Char) : Except LibraryKind (List Char × List Char) :=
  match cs with
  | [] => malformed
  | c :: rest =>
    match escape? c, escapeLength? c with
    | some e, _ => .ok ([e], rest)
    | none, some length => do
      return ([← character (← hexNumber length rest)], rest.drop length)
    | none, none => if isBreak c then quotedBreaks (rest.length + 1) rest else malformed

/-- Reads spaces and line breaks inside quotes. Spaces before a break do not count. -/
def quotedSpace (cs : List Char) : Except LibraryKind (List Char × List Char) :=
  match cs.dropWhile isBlank with
  | [] => malformed
  | c :: rest =>
    if isBreak c then do
      let (breaks, rest) ← quotedBreaks (rest.length + 1) rest
      return (folded (breakChar c) breaks, rest)
    else .ok (cs.takeWhile isBlank, c :: rest)

/-- Reads up to the closing quote. `fuel` is at least the number of characters. -/
def quotedParts (isDouble : Bool) : (fuel : Nat) → List Char →
    Except LibraryKind (List Char × List Char)
  | 0, _ | _, [] => malformed
  | fuel + 1, c :: cs => do
    let goOn (part : List Char × List Char) : Except LibraryKind (List Char × List Char) := do
      let (more, rest) ← quotedParts isDouble fuel part.2
      return (part.1 ++ more, rest)
    if isDouble then
      if c = '"' then return ([], cs)
      else if c = '\\' then goOn (← escaped cs)
      else if isBlank c || isBreak c then goOn (← quotedSpace (c :: cs))
      else goOn ([c], cs)
    else match c, cs with
      | '\'', '\'' :: cs => goOn (['\''], cs)
      | '\'', cs => return ([], cs)
      | c, cs =>
        if isBlank c || isBreak c then goOn (← quotedSpace (c :: cs))
        else goOn ([c], cs)

/-- Reads a quoted scalar after its opening quote: its text, and what follows the closing quote. -/
def quoted (isDouble : Bool) (cs : List Char) : Except LibraryKind (List Char × List Char) :=
  quotedParts isDouble (cs.length + 1) cs

end Document

end ScriptBridge
