import ScriptBridge.Text.Pattern

namespace ScriptBridge

/-!
# Layouts

How a value is to be written in a field of a pattern: a width with fill and alignment, the sign of
numbers, separators between groups of digits, a precision and a letter for the notation.

* `Layout.parse?` reads a layout;
* `Layout.pad` aligns a text;
* `Layout.number` lays out the parts of a number.
-/

/-- Where a text goes in a field that is wider. -/
inductive Alignment where
  | left
  | right
  | center
  /-- The sign to the left, the digits to the right. -/
  | inner
deriving DecidableEq, Repr

/-- How a value is to be written. -/
structure Layout where
  fill : Char := ' '
  alignment : Alignment
  sign : Option Char := none
  /-- Whether a zero never has a sign. -/
  plainZero : Bool := false
  /-- Whether the base of a number is marked and its point always written. -/
  isMarked : Bool := false
  width : Nat := 0
  separator : Option Char := none
  precision : Option Nat := none
  /-- The letter for the notation. -/
  letter : Option Char
deriving DecidableEq, Repr

namespace Layout

/-- The alignment that a character stands for. -/
def alignment? : Char → Option Alignment
  | '<' => some .left
  | '>' => some .right
  | '^' => some .center
  | '=' => some .inner
  | _ => none

/-- The fill and the alignment at the start of a layout, and what follows them. -/
def splitAlignment (cs : List Char) : Option Char × Option Alignment × List Char :=
  match cs with
  | c :: d :: rest => match alignment? d, alignment? c with
    | some a, _ => (some c, some a, rest)
    | none, some a => (none, some a, d :: rest)
    | none, none => (none, none, cs)
  | [c] => match alignment? c with
    | some a => (none, some a, [])
    | none => (none, none, cs)
  | [] => (none, none, [])

/-- Whether a character stands at the start, and what follows it. -/
def splitMark (c : Char) : List Char → Bool × List Char
  | d :: rest => if c = d then (true, rest) else (false, d :: rest)
  | [] => (false, [])

/-- The digits at the start, and what follows them. -/
def splitDigits (cs : List Char) : List Char × List Char :=
  let digits := cs.takeWhile fun c => (decimalDigit? c).isSome
  (digits, cs.drop digits.length)

/-- The separator between groups of digits, and what follows it; two separators are none. -/
def splitSeparator? (cs : List Char) : Option (Option Char × List Char) :=
  match cs with
  | ',' :: '_' :: _ | '_' :: ',' :: _ => none
  | ',' :: rest => some (some ',', rest)
  | '_' :: rest => some (some '_', rest)
  | cs => some (none, cs)

/-- The precision after a point, and what follows it; a point alone is none. -/
def splitPrecision? (cs : List Char) : Option (Option Nat × List Char) :=
  match cs with
  | '.' :: rest =>
    let (digits, rest) := splitDigits rest
    if digits.isEmpty then none else some (some (decimalValue (String.ofList digits)), rest)
  | cs => some (none, cs)

/-- The letters for notations whose digits are separated in groups of three. -/
def decimalLetters : List Char := ['d', 'e', 'f', 'g', 'E', 'G', '%', 'F']

/-- The letters for notations in other bases, whose digits are separated in groups of four. -/
def baseLetters : List Char := ['b', 'o', 'x', 'X']

/-- Whether a separator goes with a letter. -/
def allowsSeparator (separator letter : Option Char) : Bool :=
  match separator, letter with
  | none, _ | _, none => true
  | some s, some l => decimalLetters.contains l || s = '_' && baseLetters.contains l

/-- The greatest number that a layout may hold. -/
def greatestNumber : Nat := 9223372036854775807

/-- Reads a layout, for numbers or for other values, with the letter that stands for none. -/
def parse? (isNumber : Bool) (usual : Option Char) (cs : List Char) : Option Layout := do
  let (fill, align, cs) := splitAlignment cs
  let (sign, cs) := match cs with
    | c :: rest => if c = ' ' ∨ c = '+' ∨ c = '-' then (some c, rest) else (none, c :: rest)
    | [] => (none, [])
  let (plainZero, cs) := splitMark 'z' cs
  let (isMarked, cs) := splitMark '#' cs
  let (isZeroed, cs) := if fill.isNone then splitMark '0' cs else (false, cs)
  let (digits, cs) := splitDigits cs
  let (separator, cs) ← splitSeparator? cs
  let (precision, cs) ← splitPrecision? cs
  let width := decimalValue (String.ofList digits)
  let letter ← match cs with
    | [] => some usual
    | [c] => some (some c)
    | _ => none
  let implied : Alignment :=
    if !isNumber then .left else if isZeroed then .inner else .right
  if greatestNumber < width || precision.any (greatestNumber < ·) then none
  else if !allowsSeparator separator letter then none
  else some { fill := fill.getD (if isZeroed then '0' else ' '), alignment := align.getD implied
              sign, plainZero, isMarked, width, separator, precision, letter }

/-- A character several times over. -/
def times (n : Nat) (c : Char) : String := String.ofList (List.replicate n c)

/-- A text in a field: `before` stays in front of any inner fill. -/
def place (l : Layout) (before text : String) : String :=
  let n := l.width - (before.length + text.length)
  match l.alignment with
  | .left => before ++ text ++ times n l.fill
  | .right => times n l.fill ++ before ++ text
  | .center => times (n / 2) l.fill ++ before ++ text ++ times (n - n / 2) l.fill
  | .inner => before ++ times n l.fill ++ text

/-- A text in a field. -/
def pad (l : Layout) (text : String) : String := l.place "" text

/-- Digits in groups, the last ones first, with zeros up to a least width; `fuel` bounds the number
    of groups. -/
def groups (size : Nat) : Nat → List Char → Nat → List String
  | 0, _, _ => []
  | fuel + 1, reversed, least =>
    let n := min size (max (max reversed.length least) 1)
    let chunk := reversed.take n
    let group := times (n - chunk.length) '0' ++ String.ofList chunk.reverse
    let rest := reversed.drop n
    if rest.isEmpty && least ≤ n then [group]
    else group :: groups size fuel rest (least - n - 1)

/-- Digits with separators between groups, and zeros up to a least width. -/
def grouped (l : Layout) (digits : String) (least : Nat) : String :=
  match l.separator with
  | none => times (least - digits.length) '0' ++ digits
  | some s =>
    let size := if l.letter.any baseLetters.contains then 4 else 3
    let parts := groups size (digits.length + least + 1) digits.toList.reverse least
    (String.singleton s).intercalate parts.reverse

/-- The sign that a number is written with. -/
def signText (l : Layout) (negative : Bool) : String :=
  if negative then "-"
  else match l.sign with
    | some '+' => "+"
    | some ' ' => " "
    | _ => ""

/-- Lays out a number: sign and mark of the base, the digits before the point, and the rest. -/
def number (l : Layout) (negative : Bool) (mark digits rest : String) : String :=
  let before := l.signText negative ++ mark
  let isZeroed := l.fill = '0' && l.alignment = .inner
  let least := if isZeroed then l.width - (before.length + rest.length) else 0
  l.place before ((if digits.isEmpty then "" else l.grouped digits least) ++ rest)

end Layout

end ScriptBridge
