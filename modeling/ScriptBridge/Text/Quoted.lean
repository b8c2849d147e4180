import ScriptBridge.Text.Printable

namespace ScriptBridge

/-!
# Quoted text

How a text and a byte string are shown inside other values. The quote is the single one, unless the
text holds a single quote and no double one; the quote in use, the backslash and the common line
controls are escaped with a backslash, every other unprintable character by its code point.
-/

namespace Quoted

/-- A number in lower-case hexadecimal, padded with zeros to a width. -/
def hex (width n : Nat) : String :=
  let digits := Nat.toDigits 16 n
  String.ofList (List.replicate (width - digits.length) '0' ++ digits)

/-- The quote a text is written in. -/
def quoteFor (s : String) : Char :=
  if s.contains '\'' && !s.contains '"' then '"' else '\''

/-- The escapes that have a letter of their own. -/
def lettered? : Char → Option String
  | '\n' => some "\\n"
  | '\r' => some "\\r"
  | '\t' => some "\\t"
  | '\\' => some "\\\\"
  | _ => none

/-- A character by its code point. -/
def codePoint (c : Char) : String :=
  if c.toNat < 0x100 then "\\x" ++ hex 2 c.toNat
  else if c.toNat < 0x10000 then "\\u" ++ hex 4 c.toNat
  else "\\U" ++ hex 8 c.toNat

/-- One character of a quoted text. -/
def char (quote c : Char) : String :=
  if c = quote then String.ofList ['\\', c] else
  match lettered? c with
  | some e => e
  | none => if printable c then String.singleton c else codePoint c

/-- A text between quotes. -/
def text (s : String) : String :=
  let q := quoteFor s
  String.singleton q ++ String.join (s.toList.map (char q)) ++ String.singleton q

/-- A shown text with every character beyond ASCII escaped. -/
def asciiOnly (s : String) : String :=
  String.join (s.toList.map fun c => if c.toNat < 0x80 then String.singleton c else codePoint c)

/-- One byte of a quoted byte string: everything beyond printable ASCII is escaped. -/
def byte (quote : Char) (n : Nat) : String :=
  let c := Char.ofNat n
  if n < 0x7f then char quote c else "\\x" ++ hex 2 n

/-- A byte string between quotes, marked as such. -/
def bytes (bs : List Nat) : String :=
  let q := quoteFor (String.ofList (bs.map Char.ofNat))
  "b" ++ String.singleton q ++ String.join (bs.map (byte q)) ++ String.singleton q

end Quoted

end ScriptBridge
