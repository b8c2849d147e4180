import ScriptBridge.Number.Double
import ScriptBridge.Text.DecimalDigit

namespace ScriptBridge

/-!
# Tokens of written hints

A hint may be written as text, in the host's language of expressions. Its tokens are names, numbers,
quoted texts, marks, and the ends of lines outside all brackets.

* `HintToken.scan` splits a text into tokens.
-/

/-- The tokens of a written hint. -/
inductive HintToken where
  | name (text : String)
  | text (s : String)
  /-- A quoted text that holds no characters, or is put together when it is read: the class of what
      it stands for, and whether it is empty. -/
  | quoted (isBytes isEmpty : Bool)
  | int (n : Int)
  | real (x : Double)
  | imaginary (isZero : Bool)
  | mark (text : String)
  /-- The end of a line outside all brackets. -/
  | lineEnd
deriving DecidableEq, Repr

namespace HintToken

/-- Ranges of characters beyond ASCII that no name has: signs, punctuation and pictures. -/
def foreignMarks : List (Nat × Nat) :=
  [(0x80, 0xA9), (0xAB, 0xB4), (0xB6, 0xB6), (0xB8, 0xB9), (0xBB, 0xBF), (0xD7, 0xD7), (0xF7, 0xF7),
   (0x2000, 0x203E), (0x2041, 0x2053), (0x2055, 0x2070), (0x207A, 0x207E), (0x208A, 0x208E),
   (0x2190, 0x2BFF), (0x3000, 0x3004), (0xFEFF, 0xFEFF), (0xFF01, 0xFF0F), (0x1F000, 0x1FAFF)]

/-- Whether a name can start with a character. -/
def startsName (c : Char) : Bool :=
  c.isAlpha || c == '_' ||
    (c.toNat ≥ 128 && c.toNat ≠ 0xB7 && (decimalDigit? c).isNone &&
      !foreignMarks.any fun (low, high) => low ≤ c.toNat && c.toNat ≤ high)

/-- Whether a name can go on with a character. -/
def isNameChar (c : Char) : Bool :=
  startsName c || (decimalDigit? c).isSome || c.toNat == 0xB7

/-- Whether a text is a name. -/
def isName (s : String) : Bool :=
  s.toList.head?.any startsName && s.toList.all isNameChar

/-! ### Numbers -/

/-- Reads digits with single underscores between them. -/
def digitRun (isDigit : Char → Bool) : List Char → List Char × List Char
  | '_' :: c :: cs =>
    if isDigit c then
      let (ds, rest) := digitRun isDigit cs
      (c :: ds, rest)
    -- An underscore that no digit follows is left over, and nothing may go on with it.
    else ([], '_' :: c :: cs)
  | c :: cs =>
    if isDigit c then
      let (ds, rest) := digitRun isDigit cs
      (c :: ds, rest)
    else ([], c :: cs)
  | [] => ([], [])

/-- Reads digits of which the first is no underscore. -/
def digitsOf (cs : List Char) : List Char × List Char :=
  if cs.head?.any Char.isDigit then digitRun Char.isDigit cs else ([], cs)

/-- Whether a number may end before some characters: a name may not follow at once, but an operator
    that is a word may. -/
def endsNumber (cs : List Char) : Bool :=
  !cs.head?.any isNameChar ||
    ["and", "else", "for", "if", "in", "is", "not", "or"].any fun w => w.toList.isPrefixOf cs

/-- The value of digits in a base. -/
def valueIn (base : Nat) (ds : List Char) : Nat :=
  ds.foldl (fun n c =>
    let d := if c.isDigit then c.toNat - '0'.toNat else c.toLower.toNat - 'a'.toNat + 10
    base * n + d) 0

/-- Reads the exponent of a number, with its sign. -/
def exponentOf (cs : List Char) : List Char × List Char :=
  match cs with
  | e :: '+' :: rest | e :: '-' :: rest =>
    let (ds, after) := digitsOf rest
    if (e == 'e' || e == 'E') && !ds.isEmpty then (e :: cs.tail.head?.toList ++ ds, after)
    else ([], cs)
  | e :: rest =>
    let (ds, after) := digitsOf rest
    if (e == 'e' || e == 'E') && !ds.isEmpty then (e :: ds, after) else ([], cs)
  | [] => ([], [])

/-- Reads a decimal number: whole, with a fraction or an exponent, or imaginary. -/
def decimal? (cs : List Char) : Option (HintToken × List Char) :=
  let (whole, rest) := digitsOf cs
  let (point, fraction, rest) := match rest with
    | '.' :: more =>
      let (ds, after) := digitsOf more
      (true, ds, after)
    | rest => (false, [], rest)
  let (exponent, rest) := exponentOf rest
  let isWhole := !point && exponent.isEmpty
  let real := Double.ofText? (String.ofList
    (whole ++ (if point then '.' :: fraction else []) ++ exponent))
  match rest with
  | 'j' :: more | 'J' :: more => real.map fun x => (.imaginary x.isZero, more)
  | rest =>
    if isWhole then
      -- A zero in front used to mean octal and is refused, unless all digits are zeros.
      if (whole.head? = some '0' && whole.any (· != '0')) || digitLimit < whole.length then none
      else some (.int (valueIn 10 whole), rest)
    else real.map fun x => (.real x, rest)

/-- Reads a number. -/
def number? (cs : List Char) : Option (HintToken × List Char) := do
  let based (base : Nat) (isDigit : Char → Bool) (cs : List Char) :
      Option (HintToken × List Char) :=
    let (ds, rest) := digitRun isDigit cs
    if ds.isEmpty then none else some (.int (valueIn base ds), rest)
  let (token, rest) ← match cs with
    | '0' :: 'x' :: cs | '0' :: 'X' :: cs =>
      based 16 (fun c => c.isDigit || "abcdefABCDEF".toList.contains c) cs
    | '0' :: 'o' :: cs | '0' :: 'O' :: cs => based 8 (fun c => '0' ≤ c && c ≤ '7') cs
    | '0' :: 'b' :: cs | '0' :: 'B' :: cs => based 2 (fun c => c == '0' || c == '1') cs
    | cs => decimal? cs
  if endsNumber rest then some (token, rest) else none

/-! ### Quoted texts -/

/-- The character of a number of hexadecimal digits at the start of a text. -/
def hexChar? (count : Nat) (cs : List Char) : Option (Char × List Char) :=
  let ds := cs.take count
  let isHex (c : Char) : Bool := c.isDigit || "abcdefABCDEF".toList.contains c
  if ds.length = count && ds.all isHex && valueIn 16 ds < 0x110000 then
    some (Char.ofNat (valueIn 16 ds), cs.drop count)
  else none

/-- The characters that a letter after a backslash stands for. -/
def escapes : List (Char × String) :=
  [('\\', "\\"), ('\'', "'"), ('"', "\""), ('a', "\x07"), ('b', "\x08"), ('f', "\x0c"), ('n', "\n"),
   ('r', "\r"), ('t', "\t"), ('v', "\x0b"), ('\n', "")]

/-- Reads what stands after a backslash; an unknown letter keeps it. -/
def escape? (isBytes : Bool) (cs : List Char) : Option (List Char × List Char) :=
  match cs with
  | [] => none
  | c :: rest =>
    let digits := (c :: rest.take 2).takeWhile fun c => '0' ≤ c && c ≤ '7'
    if !digits.isEmpty then some ([Char.ofNat (valueIn 8 digits)], cs.drop digits.length)
    else
      let hex (count : Nat) : Option (List Char × List Char) :=
        (hexChar? count rest).map fun (c, rest) => ([c], rest)
      match c, isBytes with
      | 'x', _ => hex 2
      | 'u', false => hex 4
      | 'U', false => hex 8
      | 'N', false => match rest with
        | '\x7b' :: more =>
          let name := more.takeWhile (· != '\x7d')
          -- which character it names is never told
          if name.length = more.length || name.isEmpty then none
          else some ([' '], more.drop (name.length + 1))
        | _ => none
      | c, _ => match escapes.lookup c with
        | some s => some (s.toList, rest)
        | none => some (['\\', c], rest)

/-- Reads the characters of a quoted text up to its closing quote. `fuel` is at least their
    number. -/
def quotedChars? (isBytes isRaw : Bool) (closing : List Char) :
    (fuel : Nat) → List Char → Option (List Char × List Char)
  | 0, _ | _, [] => none
  | fuel + 1, c :: rest =>
    if closing.isPrefixOf (c :: rest) then some ([], (c :: rest).drop closing.length)
    else if c == '\\' then
      match isRaw, rest with
      -- A raw text keeps the backslash, which still hides a quote.
      | true, d :: more => do
        let (cs, after) ← quotedChars? isBytes isRaw closing fuel more
        return (c :: d :: cs, after)
      | true, [] => none
      | false, rest => do
        let (part, rest) ← escape? isBytes rest
        let (cs, after) ← quotedChars? isBytes isRaw closing fuel rest
        return (part ++ cs, after)
    -- Only a text in three quotes goes over several lines.
    else if c == '\n' && closing.length = 1 then none
    else do
      let (cs, after) ← quotedChars? isBytes isRaw closing fuel rest
      return (c :: cs, after)

/-- Whether the braces of a text that is put together match and enclose something; two alike stand
    for one. -/
def bracesMatch (fuel depth : Nat) (inside : Bool) : List Char → Bool
  | [] => depth = 0
  | c :: cs =>
    match fuel with
    | 0 => false
    | fuel + 1 =>
      if c == '\x7b' then
        if depth = 0 && cs.head? = some c then bracesMatch fuel depth false (cs.drop 1)
        else bracesMatch fuel (depth + 1) false cs
      else if c == '\x7d' then
        if depth = 0 then cs.head? = some c && bracesMatch fuel depth false (cs.drop 1)
        else inside && bracesMatch fuel (depth - 1) true cs
      else bracesMatch fuel depth (inside || c != ' ') cs

/-- Reads a quoted text, given the letters before the quote. -/
def quoted? (letters cs : List Char) : Option (HintToken × List Char) := do
  let letters := letters.map Char.toLower
  let isBytes := letters.contains 'b'
  let isRaw := letters.contains 'r'
  let quote ← cs.head?
  let three := List.replicate 3 quote
  let closing := if three.isPrefixOf cs then three else [quote]
  let (content, rest) ← quotedChars? isBytes isRaw closing (cs.length + 1) (cs.drop closing.length)
  if isBytes then
    let source := (cs.drop closing.length).take (cs.length - closing.length - rest.length)
    if source.any fun c => c.toNat ≥ 128 then none else return (.quoted true content.isEmpty, rest)
  else if letters.contains 'f' && content.any fun c => c == '\x7b' || c == '\x7d' then
    if bracesMatch (content.length + 1) 0 false content then return (.quoted false false, rest)
    else none
  else return (.text (String.ofList content), rest)

/-- The letters that may stand before a quote. -/
def quoteLetters : List String := ["r", "b", "u", "f", "br", "rb", "fr", "rf"]

/-! ### Texts -/

/-- The marks of two or three characters; longer ones come first. -/
def longMarks : List String :=
  ["...", "**", "//", "==", "!=", "<=", ">=", "<<", ">>", ":="]

/-- Splits a text into tokens; `depth` is the number of open brackets. Fails on a character that
    starts no token and on an open quote. -/
def scanWith (fuel depth : Nat) (cs : List Char) : Option (List HintToken) :=
  match fuel, cs with
  | _, [] => some []
  | 0, _ => none
  | fuel + 1, c :: rest =>
    if c == ' ' || c == '\t' || c == '\x0c' then scanWith fuel depth rest
    else if c == '#' then scanWith fuel depth (rest.dropWhile (· != '\n'))
    else if c == '\\' then
      match rest with
      | '\n' :: d :: rest => scanWith fuel depth (d :: rest)
      | _ => none
    else if c == '\n' then
      let more := scanWith fuel depth rest
      -- Inside brackets the end of a line is a space.
      if depth = 0 then more.map (.lineEnd :: ·) else more
    else if c == '\'' || c == '"' then do
      let (token, rest) ← quoted? [] (c :: rest)
      return token :: (← scanWith fuel depth rest)
    else if c.isDigit || (c == '.' && rest.head?.any Char.isDigit) then do
      let (token, rest) ← number? (c :: rest)
      return token :: (← scanWith fuel depth rest)
    else if startsName c then
      let more := rest.takeWhile isNameChar
      let after := rest.dropWhile isNameChar
      let letters := c :: more
      -- Letters before a quote belong to it; the same letters elsewhere are a name.
      let isLetters := quoteLetters.contains (String.ofList (letters.map Char.toLower))
      if isLetters && after.head?.any fun c => c == '\'' || c == '"' then do
        let (token, rest) ← quoted? letters after
        return token :: (← scanWith fuel depth rest)
      else (scanWith fuel depth after).map (.name (String.ofList letters) :: ·)
    else match longMarks.find? fun m => m.toList.isPrefixOf (c :: rest) with
      | some m => (scanWith fuel depth ((c :: rest).drop m.length)).map (.mark m :: ·)
      | none =>
        let depth := if "([\x7b".toList.contains c then depth + 1
          else if ")]\x7d".toList.contains c then depth - 1 else depth
        if "()[]\x7b\x7d,.|^&+-*/%@<>:~=".toList.contains c then
          (scanWith fuel depth rest).map (.mark (String.singleton c) :: ·)
        else none

/-- The characters of a text with every line ended alike. -/
def plainLines : List Char → List Char
  | '\r' :: '\n' :: cs => '\n' :: plainLines cs
  | '\r' :: cs => '\n' :: plainLines cs
  | c :: cs => c :: plainLines cs
  | [] => []

/-- Splits a text into tokens. Lines before the first token and after the last do not count. A line
    that starts with a space is none, unless spaces at the start are `indented`. -/
def scan (indented : Bool) (text : String) : Option (List HintToken) := do
  let isSpace (c : Char) : Bool := c == ' ' || c == '\t'
  let cs := plainLines text.toList
  let cs := if indented then cs.dropWhile isSpace else cs
  let first := cs.dropWhile (· == '\n')
  if first.head?.any isSpace then none
  let ts ← scanWith cs.length 0 cs
  let ts := ts.dropWhile (· = .lineEnd)
  return (ts.reverse.dropWhile (· = .lineEnd)).reverse

end HintToken

end ScriptBridge
