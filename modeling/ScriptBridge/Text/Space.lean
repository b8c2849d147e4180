import ScriptBridge.Text.Printable

namespace ScriptBridge

/-!
# Space

The characters that separate words and may surround a number: the blank characters of every script,
the breaks between lines and the separators among the control characters.
-/

/-- The inclusive ranges of code points of spaces, in ascending order. -/
def spaceRanges : List (Nat × Nat) :=
  [(9, 13), (28, 32), (133, 133), (160, 160), (5760, 5760), (8192, 8202), (8232, 8233),
   (8239, 8239), (8287, 8287), (12288, 12288)]

/-- Whether a character is a space. -/
def isSpace (c : Char) : Bool := inRanges c.toNat spaceRanges

/-- Whether a character is a space that is no control character apart from tabs and breaks. -/
def isBlank (c : Char) : Bool := isSpace c && !(28 ≤ c.toNat && c.toNat ≤ 31)

/-- Characters without those at either end that belong to a class. -/
def trimChars (p : Char → Bool) (cs : List Char) : List Char :=
  ((cs.dropWhile p).reverse.dropWhile p).reverse

/-- A text without the spaces that surround it. -/
def stripSpace (s : String) : String := String.ofList (trimChars isSpace s.toList)

/-- A text without the blanks that surround it. -/
def stripBlank (s : String) : String := String.ofList (trimChars isBlank s.toList)

/-- The words of a text, which spaces separate; at most so many are cut off, and the rest is kept as
    it is. -/
def splitWords (limit : Option Nat) (cs : List Char) : List String :=
  go cs.length limit cs
where
  /-- Cuts off words; `fuel` is the number of characters. -/
  go : Nat → Option Nat → List Char → List String
    | 0, _, _ => []
    | fuel + 1, limit, cs =>
      match cs.dropWhile isSpace with
      | [] => []
      | cs =>
        if limit = some 0 then [String.ofList cs]
        else
          String.ofList (cs.takeWhile (!isSpace ·)) ::
            go fuel (limit.map (· - 1)) (cs.dropWhile (!isSpace ·))

end ScriptBridge
