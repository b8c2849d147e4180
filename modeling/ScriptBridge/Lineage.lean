import ScriptBridge.Store

namespace ScriptBridge

/-!
# Lines of descent

The line of descent of a class is merged from those of its bases, so that every class comes before
its own bases and bases keep their order. `mergeLineages` fails when no such order exists.
-/

/-- The first head of some lines that stands in the tail of none of them. -/
def nextInLineage (lines : List (List Kind)) : Option Kind :=
  (lines.filterMap List.head?).find? fun k => lines.all fun l => !(l.tail.contains k)

/-- Merges lines of descent; `fuel` bounds the length of the result. -/
def mergeLineagesWith (fuel : Nat) (lines : List (List Kind)) : Option (List Kind) :=
  let lines := lines.filter (!·.isEmpty)
  match fuel with
  | 0 => if lines.isEmpty then some [] else none
  | fuel + 1 =>
    if lines.isEmpty then some []
    else do
      let k ← nextInLineage lines
      let rest ← mergeLineagesWith fuel (lines.map fun l => if l.head? = some k then l.tail else l)
      return k :: rest

/-- Merges lines of descent. Every step takes one class off some line. -/
def mergeLineages (lines : List (List Kind)) : Option (List Kind) :=
  mergeLineagesWith lines.flatten.length lines

namespace Store

/-- The line of descent of a new class with some bases. -/
def lineageOfBases? (s : Store) (self : Kind) (bases : List Kind) : Option (List Kind) :=
  (mergeLineages (bases.map s.lineage ++ [bases])).map (self :: ·)

end Store

end ScriptBridge
