namespace ScriptBridge

/-!
# Encodings

How texts become bytes and bytes become texts. What an encoding has no room for is handled as asked
for: refused, left out or replaced.

* `Encoding.ofName?` is the encoding of a name;
* `Encoding.decode` reads bytes, `Encoding.encode` writes a text.
-/

/-- The order of the bytes of a unit. -/
inductive ByteOrder where
  | lowFirst
  | highFirst
deriving DecidableEq, Repr

/-- An encoding of texts. -/
inductive Encoding where
  /-- Units of one byte; `marked` writes a mark before them. -/
  | bytes (marked : Bool)
  /-- Units of two bytes; without an order a mark before them tells it. -/
  | pairs (order : Option ByteOrder)
  /-- Units of four bytes; without an order a mark before them tells it. -/
  | quads (order : Option ByteOrder)
  /-- One byte for each character, below a bound, with some bytes that stand for other
      characters. -/
  | single (bound : Nat) (others : List (Nat × Option Nat))
deriving DecidableEq, Repr

/-- Why bytes or a text cannot be converted. -/
inductive EncodingFault where
  /-- Bytes that stand for nothing. -/
  | undecodable
  /-- A character that has no bytes. -/
  | unencodable
  /-- A way to handle faults that does not exist. -/
  | unknownHandling
  /-- A way to handle faults that is not meant for this direction. -/
  | wrongHandling
deriving DecidableEq, Repr

namespace Encoding

/-! ### Names -/

/-- A name in small letters, with one underscore for whatever separates its parts. -/
def normalName (s : String) : String :=
  let isPart (c : Char) : Bool := c.isAlphanum || c = '.'
  let parts := (s.toList.splitBy fun a b => isPart a == isPart b).filter (·.any isPart)
  "_".intercalate (parts.map fun p => (String.ofList p).toLower)

/-- The seven-bit encoding. -/
def ascii : Encoding := .single 128 []

/-- The encoding whose bytes are the code points. -/
def latin : Encoding := .single 256 []

/-- The Western encoding with the sign for the euro and others. -/
def latinNine : Encoding :=
  .single 256 [(0xa4, some 0x20ac), (0xa6, some 0x160), (0xa8, some 0x161), (0xb4, some 0x17d),
    (0xb8, some 0x17e), (0xbc, some 0x152), (0xbd, some 0x153), (0xbe, some 0x178)]

/-- The Western encoding with characters in place of control codes. -/
def western : Encoding :=
  .single 256 [(0x80, some 0x20ac), (0x81, none), (0x82, some 0x201a), (0x83, some 0x192),
    (0x84, some 0x201e), (0x85, some 0x2026), (0x86, some 0x2020), (0x87, some 0x2021),
    (0x88, some 0x2c6), (0x89, some 0x2030), (0x8a, some 0x160), (0x8b, some 0x2039),
    (0x8c, some 0x152), (0x8d, none), (0x8e, some 0x17d), (0x8f, none), (0x90, none),
    (0x91, some 0x2018), (0x92, some 0x2019), (0x93, some 0x201c), (0x94, some 0x201d),
    (0x95, some 0x2022), (0x96, some 0x2013), (0x97, some 0x2014), (0x98, some 0x2dc),
    (0x99, some 0x2122), (0x9a, some 0x161), (0x9b, some 0x203a), (0x9c, some 0x153),
    (0x9d, none), (0x9e, some 0x17e), (0x9f, some 0x178)]

/-- The names of encodings. -/
def names : List (List String × Encoding) :=
  [(["utf_8", "cp65001", "u8", "utf", "utf8", "utf8_ucs2", "utf8_ucs4"], .bytes false),
   (["utf_8_sig"], .bytes true),
   (["utf_16", "u16", "utf16"], .pairs none),
   (["utf_16_le", "unicodelittleunmarked", "utf_16le"], .pairs (some .lowFirst)),
   (["utf_16_be", "unicodebigunmarked", "utf_16be"], .pairs (some .highFirst)),
   (["utf_32", "u32", "utf32"], .quads none),
   (["utf_32_le", "utf_32le"], .quads (some .lowFirst)),
   (["utf_32_be", "utf_32be"], .quads (some .highFirst)),
   (["ascii", "646", "ansi_x3.4_1968", "ansi_x3.4_1986", "ansi_x3_4_1968", "cp367", "csascii",
     "ibm367", "iso646_us", "iso_646.irv_1991", "iso_ir_6", "us", "us_ascii"], ascii),
   (["latin_1", "8859", "cp819", "csisolatin1", "ibm819", "iso8859", "iso8859_1", "iso_8859_1",
     "iso_8859_1_1987", "iso_ir_100", "l1", "latin", "latin1"], latin),
   (["cp1252", "1252", "windows_1252"], western),
   (["iso8859_15", "iso_8859_15", "l9", "latin9"], latinNine)]

/-- The encoding of a name. -/
def ofName? (s : String) : Option Encoding :=
  (names.find? fun (ns, _) => ns.contains (normalName s)).map (·.2)

/-! ### Reading -/

/-- What the start of some bytes stands for: a character, or a number of bytes for nothing; and what
    follows. -/
inductive FirstUnit where
  | character (c : Char) (rest : List Nat)
  | broken (length : Nat)

/-- The bytes that follow the first byte of a character: how many, and the range of the first of
    them. -/
def followers? (b : Nat) : Option (Nat × Nat × Nat) :=
  if 0xc2 ≤ b ∧ b ≤ 0xdf then some (1, 0x80, 0xbf)
  -- The narrow ranges shut out what could be written in fewer bytes, and surrogates.
  else if b = 0xe0 then some (2, 0xa0, 0xbf)
  else if b = 0xed then some (2, 0x80, 0x9f)
  else if 0xe1 ≤ b ∧ b ≤ 0xef then some (2, 0x80, 0xbf)
  else if b = 0xf0 then some (3, 0x90, 0xbf)
  else if b = 0xf4 then some (3, 0x80, 0x8f)
  else if 0xf1 ≤ b ∧ b ≤ 0xf3 then some (3, 0x80, 0xbf)
  else none

/-- The first character in units of one byte. -/
def unitOfBytes (b : Nat) (rest : List Nat) : FirstUnit :=
  if b < 128 then .character (Char.ofNat b) rest
  else match followers? b with
    | none => .broken 1
    | some (count, low, high) =>
      let fits : List Nat := match rest with
        | c :: more => if low ≤ c ∧ c ≤ high then
            c :: (more.take (count - 1)).takeWhile fun d => 0x80 ≤ d && d ≤ 0xbf
          else []
        | [] => []
      if fits.length < count then .broken (fits.length + 1)
      else
        let start := b % (if count = 1 then 32 else if count = 2 then 16 else 8)
        let code := fits.foldl (fun n c => 64 * n + c % 64) start
        .character (Char.ofNat code) (rest.drop count)

/-- The number that some bytes stand for. -/
def ofBytes (order : ByteOrder) (items : List Nat) : Nat :=
  (match order with
    | .lowFirst => items.reverse
    | .highFirst => items).foldl (fun n b => 256 * n + b) 0

/-- The first character in units of two bytes. -/
def unitOfPairs (order : ByteOrder) (items : List Nat) : FirstUnit :=
  match items with
  | a :: b :: rest =>
    let unit := ofBytes order [a, b]
    if unit < 0xd800 ∨ 0xdfff < unit then .character (Char.ofNat unit) rest
    -- The second half of a pair cannot stand alone.
    else if 0xdc00 ≤ unit then .broken 2
    else match rest with
      | c :: d :: rest =>
        let second := ofBytes order [c, d]
        if 0xdc00 ≤ second ∧ second ≤ 0xdfff then
          .character (Char.ofNat (0x10000 + (unit - 0xd800) * 1024 + (second - 0xdc00))) rest
        else .broken 2
      | rest => .broken (2 + rest.length)
  | items => .broken items.length

/-- The first character in units of four bytes. -/
def unitOfQuads (order : ByteOrder) (items : List Nat) : FirstUnit :=
  match items with
  | a :: b :: c :: d :: rest =>
    let code := ofBytes order [a, b, c, d]
    if code < 0xd800 ∨ (0xdfff < code ∧ code < 0x110000) then .character (Char.ofNat code) rest
    else .broken 4
  | items => .broken items.length

/-- The first character where each has one byte. -/
def unitOfSingle (bound : Nat) (others : List (Nat × Option Nat)) (b : Nat) (rest : List Nat) :
    FirstUnit :=
  match others.lookup b with
  | some (some code) => .character (Char.ofNat code) rest
  | some none => .broken 1
  | none => if b < bound then .character (Char.ofNat b) rest else .broken 1

/-- Two hexadecimal digits or more. -/
def hexText (length n : Nat) : String :=
  let digits := Nat.toDigits 16 n
  String.ofList (List.replicate (length - digits.length) '0' ++ digits)

/-- What stands for bytes that stand for nothing. -/
def handleBytes (handling : String) (items : List Nat) : Except EncodingFault String :=
  match handling with
  | "strict" => .error .undecodable
  | "ignore" => .ok ""
  | "replace" => .ok "\ufffd"
  | "backslashreplace" => .ok (String.join (items.map fun b => "\\x" ++ hexText 2 b))
  | "xmlcharrefreplace" | "namereplace" => .error .wrongHandling
  | "surrogateescape" | "surrogatepass" => .error .undecodable
  | _ => .error .unknownHandling

/-- The characters of bytes, given how the first is read; `fuel` is at least the number of bytes. -/
def decodeWith (handling : String) (unit : List Nat → FirstUnit) :
    (fuel : Nat) → List Nat → Except EncodingFault String
  | 0, _ | _, [] => .ok ""
  | fuel + 1, items =>
    match unit items with
    | .character c rest => do return String.singleton c ++ (← decodeWith handling unit fuel rest)
    | .broken n => do
      -- Something must be taken away, or the rest would never get shorter.
      let n := max n 1
      let text ← handleBytes handling (items.take n)
      return text ++ (← decodeWith handling unit fuel (items.drop n))

/-- The text that bytes stand for. -/
def decode (e : Encoding) (handling : String) (items : List Nat) : Except EncodingFault String :=
  let read (unit : List Nat → FirstUnit) (items : List Nat) : Except EncodingFault String :=
    decodeWith handling unit items.length items
  let first (unit : Nat → List Nat → FirstUnit) : List Nat → FirstUnit
    | [] => .broken 0
    | b :: rest => unit b rest
  match e with
  | .bytes marked =>
    read (first unitOfBytes)
      (if marked && items.take 3 = [0xef, 0xbb, 0xbf] then items.drop 3 else items)
  | .pairs (some order) => read (unitOfPairs order) items
  | .pairs none =>
    if items.take 2 = [0xff, 0xfe] then read (unitOfPairs .lowFirst) (items.drop 2)
    else if items.take 2 = [0xfe, 0xff] then read (unitOfPairs .highFirst) (items.drop 2)
    else read (unitOfPairs .lowFirst) items
  | .quads (some order) => read (unitOfQuads order) items
  | .quads none =>
    if items.take 4 = [0xff, 0xfe, 0, 0] then read (unitOfQuads .lowFirst) (items.drop 4)
    else if items.take 4 = [0, 0, 0xfe, 0xff] then read (unitOfQuads .highFirst) (items.drop 4)
    else read (unitOfQuads .lowFirst) items
  | .single bound others => read (first (unitOfSingle bound others)) items

/-! ### Writing -/

/-- The bytes of a number. -/
def toBytes (order : ByteOrder) (length n : Nat) : List Nat :=
  let low := (List.range length).map fun i => n / Nat.pow 256 i % 256
  match order with
  | .lowFirst => low
  | .highFirst => low.reverse

/-- The bytes of a character in units of two bytes. -/
def pairsOf (order : ByteOrder) (c : Char) : List Nat :=
  let n := c.toNat
  if n < 0x10000 then toBytes order 2 n
  else
    let m := n - 0x10000
    toBytes order 2 (0xd800 + m / 1024) ++ toBytes order 2 (0xdc00 + m % 1024)

/-- The byte of a character where each has one. -/
def singleOf? (bound : Nat) (others : List (Nat × Option Nat)) (c : Char) : Option Nat :=
  match others.find? fun (_, code) => code = some c.toNat with
  | some (b, _) => some b
  | none => if c.toNat < bound && (others.lookup c.toNat).isNone then some c.toNat else none

/-- What stands for a character that has no bytes. -/
def handleCharacter (handling : String) (c : Char) : Except EncodingFault String :=
  let n := c.toNat
  match handling with
  | "strict" => .error .unencodable
  | "ignore" => .ok ""
  | "replace" => .ok "?"
  | "xmlcharrefreplace" => .ok ("&#" ++ toString n ++ ";")
  | "backslashreplace" =>
    .ok (if n < 0x100 then "\\x" ++ hexText 2 n
      else if n < 0x10000 then "\\u" ++ hexText 4 n
      else "\\U" ++ hexText 8 n)
  | "namereplace" | "surrogateescape" | "surrogatepass" => .error .unencodable
  | _ => .error .unknownHandling

/-- The bytes of characters where each has one. -/
def encodeSingle (bound : Nat) (others : List (Nat × Option Nat)) (handling : String) :
    List Char → Except EncodingFault (List Nat)
  | [] => .ok []
  | c :: cs => do
    let first ← match singleOf? bound others c with
      | some b => pure [b]
      | none => do pure ((← handleCharacter handling c).toList.map Char.toNat)
    return first ++ (← encodeSingle bound others handling cs)

/-- The bytes that stand for a text. -/
def encode (e : Encoding) (handling : String) (s : String) : Except EncodingFault (List Nat) :=
  let plain := s.toUTF8.toList.map UInt8.toNat
  match e with
  | .bytes marked => .ok ((if marked then [0xef, 0xbb, 0xbf] else []) ++ plain)
  | .pairs (some order) => .ok (s.toList.flatMap (pairsOf order))
  | .pairs none => .ok ([0xff, 0xfe] ++ s.toList.flatMap (pairsOf .lowFirst))
  | .quads (some order) => .ok (s.toList.flatMap fun c => toBytes order 4 c.toNat)
  | .quads none =>
    .ok ([0xff, 0xfe, 0, 0] ++ s.toList.flatMap fun c => toBytes .lowFirst 4 c.toNat)
  | .single bound others => encodeSingle bound others handling s.toList

end Encoding

end ScriptBridge
