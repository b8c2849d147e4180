import ScriptBridge.Kind

namespace ScriptBridge

/-!
# Type hints

A parameter or a field may carry a hint of the values it takes.

* `HintDecl` is a hint as a program writes it, over names of classes, `Hint` what it stands for;
* `Hint.kinds` is the list of kinds that a hint accepts;
* `HintDecl.isClassWide` tells the hints that announce a field of the class and not of its
  instances.
-/

/-- A hint as a program writes it. -/
inductive HintDecl where
  /-- Anything. -/
  | any
  /-- The empty value only. -/
  | nothing
  /-- The instances of the class of a name. -/
  | kind (name : String)
  /-- What a hint accepts, or the empty value. -/
  | optional (of : HintDecl)
  /-- What one of several hints accepts. -/
  | union (members : List HintDecl)
  /-- The same, with bars between the members. -/
  | bars (members : List HintDecl)
  /-- A class with arguments. -/
  | generic (name : String) (args : List HintDecl)
  /-- Things that can be called: the hints of the parameters, and that of the result behind them. -/
  | callable (parts : List HintDecl)
  /-- Some listed values, or a type variable. -/
  | unspecific
  /-- A new name for what another hint accepts. -/
  | newName (of : HintDecl)
  /-- A hint with remarks attached. -/
  | annotated (of : HintDecl)
  /-- Announces a field of the class. -/
  | classWide (of : Option HintDecl)
  /-- Text that is read as a hint when a signature is. -/
  | written (text : String)
deriving Inhabited

/-- Whether a field's hint announces a field of the class. A text does when it starts so. -/
def HintDecl.isClassWide : HintDecl → Bool
  | .classWide _ => true
  | .written t => t.startsWith "ClassVar" || t.startsWith "typing.ClassVar"
  | _ => false

/-- A type hint. -/
inductive Hint where
  /-- Anything. -/
  | any
  /-- The empty value only. -/
  | nothing
  /-- The instances of a class. -/
  | kind (k : Kind)
  /-- What one of several hints accepts; `isBar` tells the unions that bars between classes make. -/
  | union (isBar : Bool) (first : Hint) (rest : List Hint)
  /-- A class with arguments, which are not looked at. -/
  | generic (origin : Kind) (args : List Hint)
  /-- A form of hint that stands for a class with arguments. -/
  | typed (origin : Kind) (args : List Hint)
  /-- Some listed values, type variables, new names for types: accepted like anything. -/
  | unspecific
  /-- A hint with remarks attached, which accepts the empty value only. -/
  | annotated (of : Hint)
  /-- Announces a field of the class. -/
  | classWide (of : Option Hint)
  /-- Text within another hint, which is not read. -/
  | forward (text : String)
  /-- Text that is read as a hint when a signature is. -/
  | written (text : String)
deriving Inhabited

namespace Hint

/-- Adds to a list the members of another that it does not hold yet, in order. -/
def addNew [DecidableEq α] (found : List α) (more : List α) : List α :=
  more.foldl (fun acc k => if k ∈ acc then acc else acc ++ [k]) found

mutual

/-- The kinds a hint accepts: those of a union's members without repetition, in order; a text that
    was not read accepts anything. -/
def kinds : Hint → List Kind
  | .any | .unspecific | .classWide _ | .forward _ | .written _ => [.library .object]
  | .nothing => [.library .noneType]
  | .kind k | .generic k _ | .typed k _ => [k]
  | .annotated _ => [.library .annotated]
  | .union _ first rest => kindsOfAll (addNew [] first.kinds) rest

/-- The kinds of several hints, added to those found before. -/
def kindsOfAll (found : List Kind) : List Hint → List Kind
  | [] => found
  | h :: rest => kindsOfAll (addNew found h.kinds) rest

end

mutual

/-- Whether two hints are the same. Two that are accepted like anything are told apart. -/
def same : Hint → Hint → Bool
  | .any, .any | .nothing, .nothing => true
  | .kind k, .kind l => k = l
  | .union _ x xs, .union _ y ys => same x y && sameAll xs ys
  | .generic k xs, .generic l ys | .typed k xs, .typed l ys => k = l && sameAll xs ys
  | .annotated x, .annotated y => same x y
  | .classWide none, .classWide none => true
  | .classWide (some x), .classWide (some y) => same x y
  | .forward t, .forward u | .written t, .written u => t = u
  | _, _ => false

/-- Whether two lists of hints are the same. -/
def sameAll : List Hint → List Hint → Bool
  | [], [] => true
  | x :: xs, y :: ys => same x y && sameAll xs ys
  | _, _ => false

end

/-- The first member and the others, if a hint is a union, else the hint alone. -/
def leaves : Hint → Hint × List Hint
  | .union _ first rest => (first, rest)
  | h => (h, [])

/-- The union of some hints, in order and each once; a single one is no union. -/
def unite (isBar : Bool) (first : Hint) (rest : List Hint) : Hint :=
  -- A union among the members is taken apart, so that none lies in another.
  let (leaf, more) := first.leaves
  let add (found : List Hint) (h : Hint) : List Hint :=
    if (leaf :: found).any (same h) then found else found ++ [h]
  match (more ++ rest.flatMap fun h => h.leaves.1 :: h.leaves.2).foldl add [] with
  | [] => leaf
  | others => .union isBar leaf others

end Hint

end ScriptBridge
