import ScriptBridge.Host.Allocate
import ScriptBridge.Host.Format
import ScriptBridge.Text.LowerCase
import ScriptBridge.Text.UpperCase

namespace ScriptBridge

/-!
# Methods of texts

The methods that the library gives to texts. Nearly all of them take their arguments by position
only.
-/

namespace NativeText

open Run Host

/-- The text that an argument must be. -/
def textArgument (v : Value) : Run String := do
  match (← store).scalar v with
  | .text t => return t
  | _ => fail .typeError

/-- How often a text occurs in another without overlapping. -/
def occurrences (s part : String) : Nat :=
  if part.isEmpty then s.length + 1 else (s.splitOn part).length - 1

/-- The place where a text first occurs in another. -/
def place? (s part : String) : Option Nat :=
  if part.isEmpty then some 0
  else match s.splitOn part with
    | before :: _ :: _ => some before.length
    | _ => none

/-- Cuts a text at another, at most so many times; a negative number is no limit. -/
def cut (s part : String) (limit : Int) : List String :=
  let pieces := s.splitOn part
  if limit < 0 || pieces.length ≤ limit.toNat + 1 then pieces
  else
    let n := limit.toNat
    pieces.take n ++ [part.intercalate (pieces.drop n)]

/-- Replaces the first occurrences of a text; a negative number is no limit. -/
def replaceFirst (s old new : String) (limit : Int) : String :=
  -- An empty text occurs before each character and at the end.
  if old.isEmpty then
    let cs := s.toList.map String.singleton
    let n := if limit < 0 then cs.length + 1 else limit.toNat
    let marked := cs.zipIdx.map fun (c, i) => (if i < n then new else "") ++ c
    String.join marked ++ (if cs.length < n then new else "")
  else new.intercalate (cut s old limit)

/-- Pads a text with zeros after its sign. -/
def zeroFill (s : String) (width : Int) : String :=
  let zeros := String.ofList (List.replicate (width.toNat - s.length) '0')
  match s.toList with
  | c :: rest =>
    if c = '-' ∨ c = '+' then String.singleton c ++ zeros ++ String.ofList rest else zeros ++ s
  | [] => zeros

/-- Drops some characters at the ends of a text. -/
def strip (left right : Bool) (isDropped : Char → Bool) (s : String) : String :=
  let cs := if left then s.toList.dropWhile isDropped else s.toList
  String.ofList (if right then (cs.reverse.dropWhile isDropped).reverse else cs)

/-- Whether a text has characters and all of them pass. -/
def allPass (p : Char → Bool) (s : String) : Bool := !s.isEmpty && s.toList.all p

/-- Whether one of several texts passes a test; what follows it is not looked at. -/
def anyPasses (test : String → Bool) : List Value → Run Bool
  | [] => return false
  | v :: rest => do if test (← textArgument v) then return true else anyPasses test rest

/-- Whether a text starts, or ends, with a text or with one of several. -/
def matchesEnd (test : String → Bool) (v : Value) : Run Bool := do
  match ← body? v with
  | some (.tuple items) => anyPasses test items
  | _ => return test (← textArgument v)

/-- The part of a text between optional bounds, unless they cross. -/
def between? (call : Call) (s : String) (bounds : List Value) : Run (Option String) := do
  let bound (v : Value) : Run (Option Int) :=
    match v with
    | .none => return none
    | v => do return some (← indexOf call v)
  if 2 < bounds.length then fail .typeError
  let bounds ← bounds.mapM bound
  let start := boundPlace s.length ((bounds[0]?.bind id).getD 0)
  let stop := min s.length (boundPlace s.length ((bounds[1]?.bind id).getD s.length))
  -- Where the bounds cross there is no part, not even an empty one.
  return if stop < start then none
    else some (String.ofList ((s.toList.take stop).drop start))

/-- Cuts a text into a list of texts: at the spaces, or at another text. -/
def split (call : Call) (s : String) (args : Args) : Run Value := do
  match ← bindNames ["sep", "maxsplit"] args with
  | [part, limit] => do
    let limit ← match limit with
      | some n => wordIndexOf call n
      | none => pure (-1)
    match part.getD .none with
    | .none =>
      let limit := if limit < 0 then none else some limit.toNat
      newList ((splitWords limit s.toList).map .text)
    | part => do
      let part ← textArgument part
      if part.isEmpty then fail .valueError
      newList ((cut s part limit).map .text)
  | _ => fail .typeError

/-- Cuts a text in three at the first occurrence of another. -/
def partition (s part : String) : Run Value := do
  if part.isEmpty then fail .valueError
  match s.splitOn part with
  | before :: rest@(_ :: _) =>
    newTuple [.text before, .text part, .text (part.intercalate rest)]
  | _ => newTuple [.text s, .text "", .text ""]

/-- Calls a method of a text with arguments by position. -/
def invokePlain (call : Call) (name s : String) (args : List Value) : Run Value := do
  match name, args with
  | "upper", [] => return .text (upperCase s)
  | "lower", [] => return .text (lowerCase s)
  | "casefold", [] => return .text (foldCase s)
  | "replace", old :: new :: rest => do
    let old ← textArgument old
    let new ← textArgument new
    let limit ← match rest with
      | [] => pure (-1)
      | [n] => wordIndexOf call n
      | _ => fail .typeError
    return .text (replaceFirst s old new limit)
  | "zfill", [n] => return .text (zeroFill s (← wordIndexOf call n))
  | "join", [v] => do
    let parts ← (← itemsOf call v).mapM textArgument
    return .text (s.intercalate parts)
  | "count", v :: bounds => do
    let whole ← between? call s bounds
    let part ← textArgument v
    return .int (whole.elim 0 (occurrences · part))
  | "startswith", v :: bounds => do
    let whole ← between? call s bounds
    return .bool (← matchesEnd (fun part => whole.any (·.startsWith part)) v)
  | "endswith", v :: bounds => do
    let whole ← between? call s bounds
    return .bool (← matchesEnd (fun part => whole.any (·.endsWith part)) v)
  | "find", [v] => do return .int ((place? s (← textArgument v)).elim (-1) Int.ofNat)
  | "index", [v] => do
    match place? s (← textArgument v) with
    | some i => return .int i
    | none => fail .valueError
  | "strip", args | "lstrip", args | "rstrip", args => do
    let isDropped ← match args with
      | [] | [.none] => pure isSpace
      | [v] => do
        let cs := (← textArgument v).toList
        pure fun c => cs.contains c
      | _ => fail .typeError
    return .text (strip (name != "rstrip") (name != "lstrip") isDropped s)
  | "removeprefix", [v] => do
    let part ← textArgument v
    return .text (if s.startsWith part then (s.drop part.length).toString else s)
  | "removesuffix", [v] => do
    let part ← textArgument v
    return .text (if s.endsWith part && !part.isEmpty then (s.dropEnd part.length).toString else s)
  | "isdecimal", [] => return .bool (isDecimal s)
  | "isascii", [] => return .bool (s.toList.all (·.toNat < 128))
  | "isprintable", [] => return .bool (s.toList.all printable)
  | "isspace", [] => return .bool (allPass isSpace s)
  | "partition", [v] => do partition s (← textArgument v)
  | _, _ => fail .typeError

/-- Calls a method of a text. -/
def invoke (call : Call) (name s : String) (args : Args) : Run Value := do
  match name with
  | "format" => return .text (← fillPattern call s args)
  | "split" => split call s args
  | name => if args.named.isEmpty then invokePlain call name s args.positional else fail .typeError

end NativeText

end ScriptBridge
