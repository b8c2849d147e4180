import ScriptBridge.Host.Number
import ScriptBridge.Number.DecimalPlaces
import ScriptBridge.Number.Places
import ScriptBridge.Text.DecimalLayout

namespace ScriptBridge

/-!
# Filling patterns

How values are written in the fields of a pattern. Texts and numbers follow a layout; a declared
class may write its instances itself; anything else has its readable form and no layout.

* `Host.format` writes a value in a layout;
* `Host.fillPattern` fills the fields of a pattern.
-/

namespace Host

open Run

/-- The greatest number of characters that there is room for. -/
def memoryLimit : Nat := 68719476736

/-- The host's refusal where there is no room. -/
def memoryExceeded : Fault := .host .memoryError ""

/-! ### Numbers -/

/-- A numeral with a point after its first digits, if it has none. -/
def markPoint (s : String) : String :=
  let front := s.toList.takeWhile Char.isDigit
  if s.contains '.' then s else String.ofList front ++ "." ++ (s.drop front.length).toString

/-- The decimal text of the magnitude of a number in a notation, and whether it stands for zero. -/
def placesText (l : Layout) (letter : Option Char) (x : Double) : String × Bool :=
  match x, x.magnitude.ratio? with
  | .nan, _ => ("nan", false)
  | _, none => ("inf", false)
  | _, some r =>
    let places := l.precision.getD 6
    let text := match letter, l.precision with
      | some 'e', _ | some 'E', _ => Places.scientific l.isMarked places r
      | some 'f', _ | some 'F', _ | some '%', _ => Places.fixed l.isMarked places r
      | none, none => if l.isMarked then markPoint x.magnitude.text else x.magnitude.text
      | none, some n => Places.general l.isMarked true n r
      | some _, _ => Places.general l.isMarked false places r
    (text, text.toList.all fun c => !c.isDigit || c = '0')

/-- The magnitude of a number as it is written with a letter: capitals for a capital letter. -/
def numberParts (l : Layout) (letter : Option Char) (x : Double) : Bool × String × String :=
  let (text, isZero) := placesText l letter x
  let isCapital := letter.any Char.isUpper
  let text := if isCapital then text.toUpper else text
  let digits := text.toList.takeWhile Char.isDigit
  let rest := (text.drop digits.length).toString ++ (if letter = some '%' then "%" else "")
  (x.isNegative && !(l.plainZero && isZero), String.ofList digits, rest)

/-- The letters for notations of floating-point numbers. -/
def realLetters : List Char := ['e', 'E', 'f', 'F', 'g', 'G', '%', 'n']

/-- The greatest precision. -/
def greatestPrecision : Nat := 2147483647

/-- Writes a floating-point number in a layout. -/
def formatReal (l : Layout) (x : Double) : Run String := do
  if l.letter.any (!realLetters.contains ·) then fail .valueError
  if l.precision.any (greatestPrecision < ·) then fail .valueError
  let scaled := match l.letter, x.ratio? with
    | some '%', some r =>
      if x.isZero then x else Double.ofRatio (.of (r.num * 100) r.den)
    | _, _ => x
  let (negative, digits, rest) := numberParts l l.letter scaled
  return l.number negative "" digits rest

/-- The base that a letter stands for, and its mark. -/
def baseOfLetter? : Char → Option (Nat × String)
  | 'b' => some (2, "0b")
  | 'o' => some (8, "0o")
  | 'x' | 'X' => some (16, "0x")
  | 'd' | 'n' => some (10, "")
  | _ => none

/-- The character of a code point. -/
def characterOf (n : Int) : Run String :=
  if 0 ≤ n ∧ n < 0x110000 then return String.singleton (Char.ofNat n.toNat) else fail overflow

/-- Writes an integer in a layout. -/
def formatInt (l : Layout) (n : Int) : Run String := do
  match l.letter with
  | none => fail .valueError
  | some c =>
    if ['e', 'E', 'f', 'F', 'g', 'G', '%'].contains c then
      formatReal l (← realOfRatio (.ofInt n))
    else if l.precision.isSome || l.plainZero then fail .valueError
    else if c = 'c' then
      if l.sign.isSome || l.isMarked then fail .valueError
      else return l.number false "" "" (← characterOf n)
    else match baseOfLetter? c with
      | none => fail .valueError
      | some (base, mark) =>
        if base = 10 && (decimalText? n).isNone then fail .valueError
        let digits := String.ofList (Nat.toDigits base n.natAbs)
        let mark := if l.isMarked then mark else ""
        let capital (s : String) : String := if c = 'X' then s.toUpper else s
        return l.number (n < 0) (capital mark) (capital digits) ""

/-- Writes a complex number in a layout: its two parts, bracketed unless a notation is asked for or
    it has one part only. -/
def formatComplex (l : Layout) (re im : Double) : Run String := do
  if l.letter.any fun c => c = '%' || !realLetters.contains c then fail .valueError
  if l.alignment = .inner || l.fill = '0' then fail .valueError
  let part (l : Layout) (x : Double) : String :=
    let bare := { l with width := 0 }
    let letter := if l.letter.isNone && l.precision.isSome then some 'g' else l.letter
    let (negative, digits, rest) := numberParts bare letter x
    let whole := if l.isMarked then "." else ""
    let rest := if letter.isNone && rest = ".0" then whole else rest
    bare.number negative "" digits rest
  let isAlone := l.letter.isNone && re.isZero && !re.isNegative
  let second := part { l with sign := if isAlone then l.sign else some '+' } im ++ "j"
  let whole := (if isAlone then "" else part l re) ++ second
  return l.pad (if l.letter.isNone && !isAlone then "(" ++ whole ++ ")" else whole)

/-- The style that a letter stands for. -/
def styleOf (letter : Char) : Decimal.Style :=
  match letter.toLower with
  | 'e' => .scientific
  | 'f' => .fixed
  | '%' => .percent
  | _ => .general

/-- Refuses a layout that asks for more than a decimal number is ever given. -/
def refuseSize (l : DecimalLayout) (d : Decimal) (style : Decimal.Style) : Run Unit := do
  let width := l.layout.width
  let precision := match d with
    | .finite .. => l.layout.precision.getD 0
    | _ => 0
  if l.isCommon && DecimalLayout.limit < max width precision then fail .valueError
  let asked := max width (if style = .general then 0 else precision)
  if maxLength < asked - d.text.length then fail overflow
  if memoryLimit < asked then fail memoryExceeded

/-- Writes a decimal number in a layout. -/
def formatDecimal (l : DecimalLayout) (d : Decimal) : Run String := do
  let letter := l.layout.letter.getD 'G'
  let style := styleOf letter
  refuseSize l d style
  match d with
  | .finite negative n e =>
    let (n, e) := Decimal.shaped style l.layout.precision n e
    let mark := if letter.isUpper then "E" else "e"
    let (digits, rest) := Decimal.spelled style l.layout.precision mark l.layout.isMarked n e
    return l.finite (negative && !(l.layout.plainZero && n = 0)) digits rest
  | d =>
    let text := (if d.isNegative then d.text.drop 1 else d.text.drop 0).toString
    return l.word d.isNegative (text ++ if style = .percent then "%" else "")

/-! ### Values -/

/-- Writes a text in a layout: at most as many characters as its precision says. -/
def formatText (l : Layout) (t : String) : Run String := do
  if l.letter ≠ some 's' || l.sign.isSome || l.plainZero || l.isMarked ||
    l.alignment = .inner then fail .valueError
  return l.pad (match l.precision with
    | some n => (t.take n).toString
    | none => t)

/-- The layout that a text describes. -/
def layoutOf (isNumber : Bool) (usual : Option Char) (spec : String) : Run Layout :=
  match Layout.parse? isNumber usual spec.toList with
  | some l => if memoryLimit < l.width then fail memoryExceeded else return l
  | none => fail .valueError

/-- Writes a value in a layout. Without one it has its readable form. -/
def format (call : Call) (v : Value) (spec : String) : Run String := do
  match ← callSpecial? call v "__format__" [.text spec] with
  | some r => textResult r
  | none =>
    if spec.isEmpty then textOf call v
    else match (← store).scalar v with
      | .text t => do formatText (← layoutOf false (some 's') spec) t
      | .int n => do formatInt (← layoutOf true (some 'd') spec) n
      | .bool b => do formatInt (← layoutOf true (some 'd') spec) (if b then 1 else 0)
      | .real x => do formatReal (← layoutOf true none spec) x
      | .complex re im => do formatComplex (← layoutOf true none spec) re im
      | .decimal d => match DecimalLayout.parse? spec.toList with
        | some l => formatDecimal l d
        | none => fail .valueError
      | _ => fail .typeError

/-! ### Patterns -/

/-- Goes from a value to the one that a field names. -/
def followSteps (call : Call) : Value → List Pattern.Step → Run Value
  | v, [] => return v
  | v, .attribute name :: rest => do followSteps call (← getAttr call v name) rest
  | v, .item name :: rest => do
    let key : Value ← match Pattern.index? name with
      | some i => if maxLength < i then fail .valueError else pure (.int i)
      | none => pure (.text (String.ofList name))
    followSteps call (← getItem call v key) rest
  | _, .broken :: _ => fail .valueError

/-- The value that a field starts from. -/
def fieldStart (args : Args) : Nat ⊕ String → Run Value
  | .inl i =>
    if maxLength < i then fail .valueError
    else match args.positional[i]? with
      | some v => return v
      | none => fail outOfRange
  | .inr name =>
    match args.named.lookup name with
    | some v => return v
    | none => fail keyMissing

/-- Converts a value before it is written. -/
def convert (call : Call) (v : Value) : Option Char → Run Value
  | none => return v
  | some 'r' => do return .text (← display call v)
  | some 's' => do return .text (← textOf call v)
  | some 'a' => do return .text (Quoted.asciiOnly (← display call v))
  | some _ => fail .valueError

/-- Fills the pieces of a pattern, given how the layouts of fields are filled. -/
def fillPieces (call : Call) (args : Args)
    (fill : Pattern.Numbering → List Char → Run (String × Pattern.Numbering)) :
    Pattern.Numbering → List Pattern.Piece → Run (String × Pattern.Numbering)
  | n, [] => return ("", n)
  | n, .literal t :: rest => do
    let (more, n) ← fillPieces call args fill n rest
    return (t ++ more, n)
  | _, .broken :: _ => fail .valueError
  | n, .field f :: rest => do
    let path := Pattern.Path.of f.name
    match n.select? path.first with
    | none => fail .valueError
    | some (start, n) =>
      let v ← followSteps call (← fieldStart args start) path.steps
      let v ← convert call v f.conversion
      let (spec, n) ← if f.spec.contains Pattern.opening then fill n f.spec
        else pure (String.ofList f.spec, n)
      let text ← format call v spec
      let (more, n) ← fillPieces call args fill n rest
      return (text ++ more, n)

/-- Fills a pattern whose layouts may hold fields, down to a depth. -/
def fillTo (call : Call) (args : Args) :
    Nat → Pattern.Numbering → List Char → Run (String × Pattern.Numbering)
  | 0, _, _ => fail .valueError
  | depth + 1, n, cs => fillPieces call args (fillTo call args depth) n (Pattern.pieces cs)

/-- Fills the fields of a pattern with arguments. -/
def fillPattern (call : Call) (pattern : String) (args : Args) : Run String := do
  return (← fillTo call args 2 .undecided pattern.toList).1

end Host

end ScriptBridge
