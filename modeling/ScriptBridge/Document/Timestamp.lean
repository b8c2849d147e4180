import ScriptBridge.Document.Tag

namespace ScriptBridge

/-!
# Dates and times

A date is a year, a month and a day with dashes between. A time of the day may follow, with a
fraction of a second and the distance from universal time.

* `Timestamp` is a date with an optional time as it is written, `Timestamp.ofText?` reads one;
* `Timestamp.isValid` tells whether there is such a date and time.
-/

/-- A date and, if given, hour, minute and second with the distance from universal time in
    minutes. -/
structure Timestamp where
  year : Nat
  month : Nat
  day : Nat
  time : Option (Nat × Nat × Nat × Nat) := none
deriving DecidableEq, Repr

namespace Timestamp

open Document (isBlank)

/-- Reads so many digits, at least and at most. -/
def digits? (least most : Nat) (cs : List Char) : Option (Nat × List Char) :=
  let ds := (cs.takeWhile Char.isDigit).take most
  if ds.length < least then none
  else some (ds.foldl (fun n c => 10 * n + (c.toNat - '0'.toNat)) 0, cs.drop ds.length)

/-- Reads a given character. -/
def expect? (c : Char) : List Char → Option (List Char)
  | d :: cs => if c = d then some cs else none
  | [] => none

/-- Whether nothing follows but perhaps the last line break. -/
def isEnd (cs : List Char) : Bool := cs.isEmpty || cs == ['\n']

/-- Reads the distance from universal time, in minutes and without its sign. -/
def zone? (cs : List Char) : Option Nat :=
  if isEnd cs then some 0
  else match cs.dropWhile isBlank with
    | 'Z' :: rest => if isEnd rest then some 0 else none
    | sign :: rest =>
      if sign ≠ '-' ∧ sign ≠ '+' then none
      else do
        let (hours, rest) ← digits? 1 2 rest
        if isEnd rest then return 60 * hours
        let (minutes, rest) ← digits? 2 2 (← expect? ':' rest)
        if isEnd rest then return 60 * hours + minutes else none
    | [] => none

/-- Reads a time of the day: hour, minute, second and the distance from universal time. -/
def time? (cs : List Char) : Option (Nat × Nat × Nat × Nat) := do
  let (hour, cs) ← digits? 1 2 cs
  let (minute, cs) ← digits? 2 2 (← expect? ':' cs)
  let (second, cs) ← digits? 2 2 (← expect? ':' cs)
  let cs := match cs with
    | '.' :: cs => cs.dropWhile Char.isDigit
    | cs => cs
  return (hour, minute, second, ← zone? cs)

/-- Reads a date, with or without a time after it. -/
def ofText? (s : String) : Option Timestamp := do
  let (year, cs) ← digits? 4 4 s.toList
  let (month, cs) ← digits? 1 2 (← expect? '-' cs)
  let (day, cs) ← digits? 1 2 (← expect? '-' cs)
  if isEnd cs then return { year, month, day }
  let cs ← match cs with
    | c :: rest =>
      if c = 'T' ∨ c = 't' then some rest
      else if isBlank c then some (rest.dropWhile isBlank)
      else none
    | [] => none
  return { year, month, day, time := some (← time? cs) }

/-- The number of days of a month. -/
def daysIn (year month : Nat) : Nat :=
  let isLeap := year % 4 = 0 ∧ (year % 100 ≠ 0 ∨ year % 400 = 0)
  if month = 2 then (if isLeap then 29 else 28)
  else if month ∈ [4, 6, 9, 11] then 30
  else 31

/-- Whether there is such a date and time. -/
def isValid (t : Timestamp) : Bool :=
  1 ≤ t.year && 1 ≤ t.month && t.month ≤ 12 && 1 ≤ t.day && t.day ≤ daysIn t.year t.month &&
    t.time.all fun (hour, minute, second, zone) =>
      hour < 24 && minute < 60 && second < 60 && zone < 24 * 60

end Timestamp

namespace Tag

/-- Whether a word is a date with two digits for month and day, or a date with a time. -/
def isTimestamp (word : String) : Bool :=
  (Timestamp.ofText? word).any fun t => t.time.isSome || word.length = 10

/-- The tag of a plain scalar. A line break at its end is not looked at. -/
def ofWord (s : String) : Tag :=
  if s.isEmpty then .null
  else
    let cs := s.toList
    let cs := if cs.getLast? = some '\n' then cs.dropLast else cs
    let word := String.ofList cs
    if word ∈ boolWords then .bool
    else if isReal cs then .real
    else if isInt cs then .int
    else if word = "<<" then .merge
    else if word ∈ nullWords then .null
    else if isTimestamp word then .timestamp
    else if word = "=" then .value
    else if word ∈ markWords then .other
    else .text

end Tag

end ScriptBridge
