import ScriptBridge.Host.Order

namespace ScriptBridge

/-!
# Sorting

A stable sort by merging. The items are cut into runs that are in order already, short ones are
filled up by insertion, and neighbouring runs are merged as soon as their places in the whole list
allow it. A merge that takes many items in a row from one side looks ahead in growing steps.

Comparisons are made in a fixed sequence, since a comparison may be no order at all: the result then
depends on which items were compared. A comparison may also fail; the items are then left in the
order reached so far.

* `Sorting.gallop` finds the place of an item by growing steps and halving;
* `Sorting.merge` merges two neighbouring runs;
* `Host.sorted` sorts.
-/

namespace Sorting

open Run Host

/-! ### Places -/

/-- Halves the stretch between two places until it is empty: `isBefore` tells whether the item at a
    place comes before the one looked for. `fuel` bounds the halving. -/
def halve (isBefore : Nat → Run Bool) : Nat → Nat → Nat → Run Nat
  | 0, _, high => return high
  | fuel + 1, low, high => do
    if high ≤ low then return high
    else
      let middle := low + (high - low) / 2
      if ← isBefore middle then halve isBefore fuel (middle + 1) high
      else halve isBefore fuel low middle

/-- Takes growing steps as long as a test holds, and gives the last two distances. -/
def stride (goesOn : Nat → Run Bool) (limit : Nat) : Nat → Nat → Nat → Run (Nat × Nat)
  | 0, last, next => return (last, min next limit)
  | fuel + 1, last, next => do
    if next < limit then
      if ← goesOn next then stride goesOn limit fuel next (2 * next + 1) else return (last, next)
    else return (last, min next limit)

/-- The number of items that come before the one looked for, among so many in order, starting the
    search at a place. -/
def gallop (isBefore : Nat → Run Bool) (count start : Nat) : Run Nat := do
  -- Items near the start are found in a few steps, in whichever direction they lie.
  if ← isBefore start then
    let (last, next) ← stride (fun k => isBefore (start + k)) (count - start) count 0 1
    halve isBefore count (start + last + 1) (start + next)
  else
    let (last, next) ←
      stride (fun k => do return !(← isBefore (start - k))) (start + 1) count 0 1
    halve isBefore count (start + 1 - next) (start - last)

/-- Whether the item at a place is less than another one. -/
def isLess (call : Call) (items : Array Value) (x : Value) (i : Nat) : Run Bool :=
  match items[i]? with
  | some y => less call y x
  | none => return false

/-- Whether the item at a place is not greater than another one. -/
def isNotGreater (call : Call) (items : Array Value) (x : Value) (i : Nat) : Run Bool :=
  match items[i]? with
  | some y => do return !(← less call x y)
  | none => return false

/-- The number of items that are less than another one. -/
def countLess (call : Call) (x : Value) (items : List Value) (start : Nat) : Run Nat :=
  gallop (isLess call items.toArray x) items.length start

/-- The number of items that are not greater than another one. -/
def countNotGreater (call : Call) (x : Value) (items : List Value) (start : Nat) : Run Nat :=
  gallop (isNotGreater call items.toArray x) items.length start

/-! ### Runs -/

/-- The number of items after a first one that follow each other in one direction; `down` tells
    which. -/
def runLength (call : Call) (down : Bool) : Value → List Value → Run Nat
  | _, [] => return 0
  | x, y :: rest => do
    if (← less call y x) = down then return (← runLength call down y rest) + 1 else return 0

/-- The length of the run that a list starts with, and whether it descends. -/
def firstRun (call : Call) : List Value → Run (Nat × Bool)
  | x :: y :: rest => do
    let down ← less call y x
    return ((← runLength call down y rest) + 2, down)
  | items => return (items.length, false)

/-- Items in the order reached, and the fault that ended the work, if one did. -/
structure Reached where
  items : List Value
  fault : Option Fault := none

/-- Inserts items into a run one by one, each after its equals. -/
def insertAll (call : Call) (done : List Value) : List Value → Run Reached
  | [] => return { items := done }
  | x :: rest => do
    let place := halve (isNotGreater call done.toArray x) done.length 0 done.length
    match ← outcome place with
    | .ok i => insertAll call (done.take i ++ x :: done.drop i) rest
    -- Items are moved only once their place is known, so none is lost to a fault.
    | .error f => return { items := done ++ x :: rest, fault := some f }

/-- The least length of a run in a list of a length: short lists are one run, and longer ones are
    cut into a number of runs that is a power of two or little less. `fuel` bounds the halving, and
    `odd` is one once a halving left a remainder. -/
def leastRun : Nat → Nat → Nat → Nat
  | 0, n, odd => n + odd
  | fuel + 1, n, odd =>
    if n < 64 then n + odd else leastRun fuel (n / 2) (if n % 2 = 1 then 1 else odd)

/-! ### Merging -/

/-- So many items in a row from one side make a merge look ahead. -/
def patience : Nat := 7

/-- A merge under way. What is merged grows by one end and the two runs shrink by their near ends,
    so all three are lists that start where the work is. -/
structure Merge where
  done : List Value := []
  left : List Value
  right : List Value
  /-- How many items in a row must come from one side. -/
  patience : Nat

/-- How a merge ended: the items, the patience that is left for later merges, and the fault. -/
structure Merged where
  reached : Reached
  patience : Nat

namespace Merge

/-- Which end a merge works from. -/
inductive Side where
  | low
  | high
deriving DecidableEq

/-- All items where they stand now. -/
def whole (side : Side) (m : Merge) : List Value :=
  match side with
  | .low => m.done.reverse ++ m.left ++ m.right
  | .high => m.left.reverse ++ m.right.reverse ++ m.done

/-- A merge that ends with what is left of its runs in place. -/
def finish (side : Side) (m : Merge) : Merged := ⟨{ items := m.whole side }, m.patience⟩

/-- A merge that ends with one item of the shorter run, which goes to the far end. -/
def finishLast (side : Side) (m : Merge) : Merged :=
  let items := match side with
    | .low => m.done.reverse ++ m.right ++ m.left
    | .high => m.right.reverse ++ m.left.reverse ++ m.done
  ⟨{ items }, m.patience⟩

/-- A merge that a fault ends. -/
def stop (side : Side) (m : Merge) (f : Fault) : Merged :=
  ⟨{ items := m.whole side, fault := some f }, m.patience⟩

/-- Takes items from the left run. -/
def takeLeft (m : Merge) (n : Nat) : Merge :=
  { m with done := (m.left.take n).reverse ++ m.done, left := m.left.drop n }

/-- Takes items from the right run. -/
def takeRight (m : Merge) (n : Nat) : Merge :=
  { m with done := (m.right.take n).reverse ++ m.done, right := m.right.drop n }

/-- The number of items of the left run that go before the next of the right one, from the low end;
    or that go after it, from the high end. -/
def leftLead (call : Call) (side : Side) (m : Merge) : Run Nat :=
  match m.right with
  | [] => return 0
  | y :: _ => match side with
    | .low => countNotGreater call y m.left 0
    | .high => do
      let n := m.left.length
      return n - (← countNotGreater call y m.left.reverse (n - 1))

/-- The number of items of the right run that go before the next of the left one, from the low end;
    or that go after it, from the high end. -/
def rightLead (call : Call) (side : Side) (m : Merge) : Run Nat :=
  match m.left with
  | [] => return 0
  | x :: _ => match side with
    | .low => countLess call x m.right 0
    | .high => do
      let n := m.right.length
      return n - (← countLess call x m.right.reverse (n - 1))

/-- Whether one run is used up so that the merge can end: the one that may not run out first has one
    item left, or the other none. -/
def ended? (side : Side) (m : Merge) : Option Merged :=
  let (shorter, other) := match side with
    | .low => (m.left, m.right)
    | .high => (m.right, m.left)
  match shorter, other with
  | _, [] => some (m.finish side)
  | [], _ => some (m.finish side)
  | [_], _ => some (m.finishLast side)
  | _, _ => none

/-- Carries a merge on. With counts it goes item by item, and the counts tell how many came from
    each side in a row; without, it looks ahead on either side in turn. -/
def run (call : Call) (side : Side) : Nat → Option (Nat × Nat) → Merge → Run Merged
  | 0, _, m => return m.finish side
  | fuel + 1, some (l, r), m =>
    match m.left, m.right with
    | x :: _, y :: _ => do
      match ← outcome (less call y x) with
      | .error f => return m.stop side f
      | .ok isLess =>
        let fromRight := isLess == (side == .low)
        let m := if fromRight then m.takeRight 1 else m.takeLeft 1
        let (l, r) := if fromRight then (0, r + 1) else (l + 1, 0)
        match m.ended? side with
        | some e => return e
        | none =>
          if m.patience ≤ max l r then run call side fuel none { m with patience := m.patience + 1 }
          else run call side fuel (some (l, r)) m
    | _, _ => return m.finish side
  | fuel + 1, none, m => do
    let m := { m with patience := max 1 (m.patience - 1) }
    match ← outcome (m.leftLead call side) with
    | .error f => return m.stop side f
    | .ok k =>
      let m := m.takeLeft k
      let more (m : Merge) (go : Merge → Run Merged) : Run Merged :=
        match m.ended? side with
        | some e => return e
        | none => go m
      more m fun m => more (m.takeRight 1) fun m => do
        match ← outcome (m.rightLead call side) with
        | .error f => return m.stop side f
        | .ok j =>
          more (m.takeRight j) fun m => more (m.takeLeft 1) fun m =>
            if Sorting.patience ≤ max k j then run call side fuel none m
            else run call side fuel (some (0, 0)) { m with patience := m.patience + 1 }

end Merge

/-- Merges two neighbouring runs. Items at the outer ends that are in place already are left alone,
    and the work starts at the end of the shorter run. -/
def merge (call : Call) (patience : Nat) (a b : List Value) : Run Merged := do
  let inPlace (fault : Option Fault) : Merged := ⟨{ items := a ++ b, fault }, patience⟩
  match b with
  | [] => return inPlace none
  | y :: _ =>
    match ← outcome (countNotGreater call y a 0) with
    | .error f => return inPlace (some f)
    | .ok i =>
      let left := a.drop i
      match left.getLast? with
      | none => return inPlace none
      | some x =>
        match ← outcome (countLess call x b (b.length - 1)) with
        | .error f => return inPlace (some f)
        | .ok 0 => return inPlace none
        | .ok j =>
          let right := b.take j
          let fuel := left.length + right.length
          -- From either end, the first item of the far run is known to go first.
          let (side, first) : Merge.Side × Merge :=
            if left.length ≤ right.length then
              (.low, Merge.takeRight { left, right, patience } 1)
            else
              (.high, Merge.takeLeft
                { left := left.reverse, right := right.reverse, patience } 1)
          let merged ← match first.ended? side with
            | some e => pure e
            | none => first.run call side fuel (some (0, 0))
          let items := a.take i ++ merged.reached.items ++ b.drop j
          return { merged with reached := { merged.reached with items } }

/-! ### Runs that wait -/

/-- A run that waits to be merged, with the depth at which the border to the next run lies in a tree
    over the whole list. -/
structure Waiting where
  items : List Value
  depth : Nat

/-- The depth of the border between two runs: the first binary place in which the middles of the two
    runs differ, as parts of the whole. The middles are given twice over; `fuel` bounds the
    places. -/
def borderDepth (n : Nat) : Nat → Nat → Nat → Nat
  | 0, _, _ => 1
  | fuel + 1, a, b =>
    if n ≤ a then borderDepth n fuel (2 * (a - n)) (2 * (b - n)) + 1
    else if n ≤ b then 1
    else borderDepth n fuel (2 * a) (2 * b) + 1

/-- The runs that wait, the last one first, and the state of the work. -/
structure Stack where
  runs : List Waiting := []
  patience : Nat
  fault : Option Fault := none

namespace Stack

/-- All items of the runs that wait, in place. -/
def items (s : Stack) : List Value := s.runs.reverse.flatMap (·.items)

/-- Merges the last run with those before it whose borders lie deeper than a given one. -/
def settle (call : Call) (depth : Nat) (top : List Value) (patience : Nat) :
    List Waiting → Run Stack
  | [] => return { runs := [⟨top, depth⟩], patience }
  | w :: rest => do
    if depth < w.depth then
      let m ← merge call patience w.items top
      match m.reached.fault with
      | some f =>
        return { runs := ⟨m.reached.items, depth⟩ :: rest, patience := m.patience, fault := some f }
      | none => settle call depth m.reached.items m.patience rest
    else return { runs := ⟨top, depth⟩ :: w :: rest, patience }

/-- Adds a run of a list of a length, after merging the runs that need not wait any longer. -/
def push (call : Call) (total : Nat) (run : List Value) (s : Stack) : Run Stack := do
  match s.runs with
  | [] => return { s with runs := [⟨run, 0⟩] }
  | last :: rest =>
    let start := (rest.map (·.items.length)).foldl (· + ·) 0
    let a := 2 * start + last.items.length
    let depth := borderDepth total (2 * total + 1) a (a + last.items.length + run.length)
    let s ← settle call depth last.items s.patience rest
    return { s with runs := ⟨run, 0⟩ :: s.runs }

/-- Merges all runs that wait; of two possible pairs the one of shorter runs comes first. `fuel` is
    the number of runs. -/
def collapse (call : Call) : Nat → Stack → Run Reached
  | 0, s => return { items := s.items, fault := s.fault }
  | fuel + 1, s => do
    let join (a b : Waiting) (before after : List Waiting) : Run Reached := do
      let m ← merge call s.patience a.items b.items
      let s : Stack :=
        { runs := after ++ ⟨m.reached.items, a.depth⟩ :: before, patience := m.patience,
          fault := m.reached.fault }
      if s.fault.isSome then return { items := s.items, fault := s.fault }
      else collapse call fuel s
    match s.runs with
    | c :: b :: a :: rest =>
      if a.items.length < c.items.length then join a b rest [c] else join b c (a :: rest) []
    | [c, b] => join b c [] []
    | _ => return { items := s.items, fault := s.fault }

end Stack

/-- Cuts a list into runs of a least length, merging as it goes; `fuel` bounds their number. -/
def sortRuns (call : Call) (least total : Nat) : Nat → Stack → List Value → Run Reached
  | 0, s, rest => return { items := s.items ++ rest }
  | _, s, [] => s.collapse call s.runs.length
  | fuel + 1, s, rest => do
    match ← outcome (firstRun call rest) with
    | .error f => return { items := s.items ++ rest, fault := some f }
    | .ok (n, down) =>
      -- Descending runs are strict, so turning one round keeps equals in order.
      let start := if down then (rest.take n).reverse else rest.take n
      let size := max n (min least rest.length)
      let run ← insertAll call start ((rest.take size).drop n)
      let later := rest.drop size
      if run.fault.isSome then
        return { items := s.items ++ run.items ++ later, fault := run.fault }
      let s ← s.push call total run.items
      if s.fault.isSome then return { items := s.items ++ later, fault := s.fault }
      sortRuns call least total fuel s later

end Sorting

namespace Host

open Run Sorting

/-- The items in order, or the order reached when a comparison failed. -/
def sorted (call : Call) (items : List Value) : Run Reached :=
  if items.length < 2 then return { items }
  else
    let n := items.length
    sortRuns call (leastRun n n 0) n n { patience } items

end Host

end ScriptBridge
