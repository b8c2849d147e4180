import ScriptBridge.Document.Token
import ScriptBridge.Document.Token.Quoted

namespace ScriptBridge

/-!
# Names, tags and directives

* `Document.name` reads the name of an anchor or alias, `Document.tagMark` a tag and
  `Document.directive` a directive, each after the character that marks it.
-/

namespace Document

/-- Reads the name of an anchor or alias. -/
def name (cs : List Char) : Except LibraryKind (String × List Char) :=
  let name := cs.takeWhile isNameChar
  let rest := cs.drop name.length
  let isEnd := endsWord rest || rest.head?.any ("?:,]\x7d%@\x60".toList.contains ·)
  if name.isEmpty || !isEnd then malformed else .ok (String.ofList name, rest)

/-! ### Tags -/

/-- Whether a character may occur in a tag. -/
def isTagChar (c : Char) : Bool :=
  c.isAlphanum || "-;/?:@&=+$,_.!~*'()[]%".toList.contains c

/-- Reads the bytes that are written with percent signs. `fuel` is at least the number of
    characters. -/
def percentBytes : (fuel : Nat) → List Char → Except LibraryKind (List UInt8 × List Char)
  | fuel + 1, '%' :: cs => do
    let byte ← hexNumber 2 cs
    let (more, rest) ← percentBytes fuel (cs.drop 2)
    return (byte.toUInt8 :: more, rest)
  | _, cs => .ok ([], cs)

/-- Reads the characters of a tag. `fuel` is at least their number. -/
def tagChars : (fuel : Nat) → List Char → Except LibraryKind (List Char × List Char)
  | fuel + 1, c :: cs =>
    if c == '%' then do
      let (coded, rest) ← percentBytes (cs.length + 1) (c :: cs)
      match String.fromUTF8? ⟨coded.toArray⟩ with
      | none => malformed
      | some part =>
        let (more, rest) ← tagChars fuel rest
        return (part.toList ++ more, rest)
    else if isTagChar c then do
      let (more, rest) ← tagChars fuel cs
      return (c :: more, rest)
    else .ok ([], c :: cs)
  | _, cs => .ok ([], cs)

/-- Reads the text of a tag, which must not be empty. -/
def tagText (cs : List Char) : Except LibraryKind (String × List Char) := do
  let (tag, rest) ← tagChars (cs.length + 1) cs
  if rest.length = cs.length then malformed
  return (String.ofList tag, rest)

/-- Reads the rest of an abbreviation after its first exclamation mark: a name and a second one. -/
def handleRest (cs : List Char) : Except LibraryKind (String × List Char) :=
  let name := cs.takeWhile isNameChar
  match cs.drop name.length with
  | '!' :: rest => .ok (String.ofList ('!' :: name ++ ['!']), rest)
  | _ => malformed

/-- Reads a tag after its exclamation mark. -/
def tagMark (cs : List Char) : Except LibraryKind (TagMark × List Char) := do
  let (mark, rest) ← match cs with
    | '<' :: cs => do
      let (suffix, rest) ← tagText cs
      match rest with
      | '>' :: rest => pure (⟨none, suffix⟩, rest)
      | _ => malformed
    | cs =>
      if endsWord cs then pure (⟨none, "!"⟩, cs)
      else do
        let field := cs.takeWhile fun c => c != ' ' && !isBreak c
        let (handle, cs) ← if field.contains '!' then handleRest cs else pure ("!", cs)
        let (suffix, rest) ← tagText cs
        pure (⟨some handle, suffix⟩, rest)
  if endsField rest then return (mark, rest) else malformed

/-! ### Directives -/

/-- Reads a whole number, of not too many digits. -/
def wholeNumber (cs : List Char) : Except LibraryKind (Nat × List Char) :=
  let digits := cs.takeWhile Char.isDigit
  if digits.isEmpty then malformed
  else if digitLimit < digits.length then .error .valueError
  else .ok (digits.foldl (fun n c => 10 * n + (c.toNat - '0'.toNat)) 0, cs.drop digits.length)

/-- Reads the version that a directive gives. -/
def version (cs : List Char) : Except LibraryKind (Directive × List Char) := do
  let (major, cs) ← wholeNumber cs
  match cs with
  | '.' :: cs =>
    let (_, cs) ← wholeNumber cs
    if endsField cs then return (.version major, cs) else malformed
  | _ => malformed

/-- Reads the abbreviation that a directive introduces. -/
def handle (cs : List Char) : Except LibraryKind (Directive × List Char) := do
  let (name, cs) ← match cs with
    | '!' :: ' ' :: cs => pure ("!", ' ' :: cs)
    | '!' :: cs => handleRest cs
    | _ => malformed
  if cs.head? ≠ some ' ' then malformed
  let (meaning, cs) ← tagText (cs.dropWhile (· == ' '))
  if endsField cs then return (.handle name meaning, cs) else malformed

/-- Reads a directive after its percent sign, up to the end of the line. -/
def directive (cs : List Char) : Except LibraryKind (Directive × List Char) := do
  let name := cs.takeWhile isNameChar
  let cs := cs.drop name.length
  if name.isEmpty || !endsField cs then malformed
  let fields := cs.dropWhile (· == ' ')
  let (d, cs) ←
    if name == "YAML".toList then version fields
    else if name == "TAG".toList then handle fields
    else pure (.other, cs.dropWhile (!isBreak ·))
  return (d, ← endOfLine cs)

end Document

end ScriptBridge
