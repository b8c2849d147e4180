import ScriptBridge.Hint.Token

namespace ScriptBridge

/-!
# Expressions of written hints

The host's expressions: names, constants, attributes, arguments in brackets, calls, lists and the
like, and operators.

* `HintExpr.parse?` reads a whole text as one expression.
-/

/-- The expressions of written hints. -/
inductive HintExpr where
  | name (text : String)
  | text (s : String)
  /-- A quoted text of which only the class and whether it is empty are told. -/
  | quoted (isBytes isEmpty : Bool)
  | int (n : Int)
  | real (x : Double)
  | imaginary (isZero : Bool)
  | ellipsis
  | attribute (of : HintExpr) (name : String)
  | subscript (of index : HintExpr)
  /-- A part of a sequence, from a place to another, in steps. -/
  | slice (start stop step : Option HintExpr)
  /-- A call with arguments by position and by name; arguments that are spread have no name or an
      empty one. -/
  | called (head : HintExpr) (args : List HintExpr) (named : List (String × HintExpr))
  | binary (operator : String) (left right : HintExpr)
  | unary (operator : String) (of : HintExpr)
  /-- Comparisons in a row: the operators with what stands after each. -/
  | compared (first : HintExpr) (rest : List (String × HintExpr))
  | both (left right : HintExpr)
  | either (left right : HintExpr)
  | cond (test yes no : HintExpr)
  /-- Gives a name to a value. -/
  | bind (name : String) (value : HintExpr)
  /-- The items of something, each by itself. -/
  | spread (of : HintExpr)
  | list (items : List HintExpr)
  | tuple (items : List HintExpr)
  | set (items : List HintExpr)
  /-- A map; a pair without key is another map, spread. -/
  | dict (pairs : List (Option HintExpr × HintExpr))
  | lambda
  /-- Items made from those of something else: the bracket, and what is walked through first. -/
  | comprehension (bracket : String) (source : HintExpr)
deriving Inhabited

namespace HintExpr

/-- The words that are no names. -/
def reserved : List String :=
  ["False", "None", "True", "and", "as", "assert", "async", "await", "break", "class", "continue",
   "def", "del", "elif", "else", "except", "finally", "for", "from", "global", "if", "import", "in",
   "is", "lambda", "nonlocal", "not", "or", "pass", "raise", "return", "try", "while", "with",
   "yield"]

/-- The words that stand for values though they are reserved. -/
def constants : List String := ["False", "None", "True"]

/-- Whether a text can name something. -/
def isIdentifier (s : String) : Bool :=
  HintToken.isName s && !reserved.contains s

/-- The operators that bind alike, loosest first; those that compare or connect are not among
    them. -/
def levels : List (List String) :=
  [["|"], ["^"], ["&"], ["<<", ">>"], ["+", "-"], ["*", "/", "//", "%", "@"]]

/-- The operator that compares at the start of some tokens. -/
def comparison? : List HintToken → Option (String × List HintToken)
  | .mark m :: ts =>
    if ["==", "!=", "<", ">", "<=", ">="].contains m then some (m, ts) else none
  | .name "not" :: .name "in" :: ts => some ("not in", ts)
  | .name "is" :: .name "not" :: ts => some ("is not", ts)
  | .name "in" :: ts => some ("in", ts)
  | .name "is" :: ts => some ("is", ts)
  | _ => none

/-- Whether something can be given a value in a walk. -/
def isTarget : HintExpr → Bool
  | .name t => !reserved.contains t
  | .attribute .. | .subscript .. => true
  | .spread e => isTarget e
  | .tuple items | .list items => targets items
  | _ => false
where
  /-- Whether several things can be given values in a walk. -/
  targets : List HintExpr → Bool
    | [] => true
    | e :: rest => isTarget e && targets rest

mutual

/-- Parses an expression: a function without a name, or a value with a condition that may follow. -/
def parseExpr (fuel : Nat) (ts : List HintToken) : Option (HintExpr × List HintToken) :=
  match fuel, ts with
  | 0, _ => none
  | fuel + 1, .name "lambda" :: ts => do
    let (_, ts) ← parseParams fuel [] ts
    let (_, ts) ← parseExpr fuel ts
    return (.lambda, ts)
  | fuel + 1, ts => do
    let (e, ts) ← parseEither fuel ts
    match ts with
    | .name "if" :: ts => do
      let (test, ts) ← parseEither fuel ts
      match ts with
      | .name "else" :: ts => do
        let (no, ts) ← parseExpr fuel ts
        return (.cond test e no, ts)
      | _ => none
    | ts => return (e, ts)

/-- Parses the parameters of a function without a name, up to the colon. What was seen is the names
    so far and the marks that stood among them: `/` ends what is given by place alone, `*` what is
    given by place at all, `**` the whole, and `=` tells of a default. -/
def parseParams (fuel : Nat) (seen : List String) (ts : List HintToken) :
    Option (List String × List HintToken) :=
  match fuel, ts with
  | 0, _ => none
  -- A star alone must be followed by a parameter.
  | _, .mark ":" :: ts => if seen.head? = some "*" then none else some (seen, ts)
  | fuel + 1, .mark "/" :: ts =>
    if seen.isEmpty || seen.contains "/" || seen.contains "*" then none
    else parseParamsRest fuel ("/" :: seen) ts
  | fuel + 1, .mark "*" :: .mark "," :: ts =>
    if seen.contains "*" then none else parseParams fuel ("*" :: seen) ts
  | fuel + 1, .mark "*" :: .name n :: ts =>
    if seen.contains "*" || reserved.contains n || seen.contains n then none
    else parseParamsRest fuel (n :: "*" :: seen) ts
  | _, .mark "**" :: .name n :: ts =>
    if seen.head? = some "*" || reserved.contains n || seen.contains n then none
    else match ts with
      | .mark "," :: .mark ":" :: ts | .mark ":" :: ts => some (n :: "**" :: seen, ts)
      | _ => none
  | fuel + 1, .name n :: ts =>
    if reserved.contains n || seen.contains n then none
    else match ts with
      | .mark "=" :: ts => do
        let (_, ts) ← parseExpr fuel ts
        parseParamsRest fuel (n :: "=" :: seen) ts
      | ts =>
        if seen.contains "=" && !seen.contains "*" then none
        else parseParamsRest fuel (n :: seen) ts
  | _, _ => none

/-- Parses what follows a parameter. -/
def parseParamsRest (fuel : Nat) (seen : List String) (ts : List HintToken) :
    Option (List String × List HintToken) :=
  match fuel, ts with
  | fuel + 1, .mark "," :: ts => parseParams fuel seen ts
  | _, .mark ":" :: ts => some (seen, ts)
  | _, _ => none

/-- Parses an expression that may be given a name. -/
def parseNamed (fuel : Nat) (ts : List HintToken) : Option (HintExpr × List HintToken) :=
  match fuel, ts with
  | 0, _ => none
  | fuel + 1, .name n :: .mark ":=" :: ts =>
    if reserved.contains n then none
    else do
      let (e, ts) ← parseExpr fuel ts
      return (.bind n e, ts)
  | fuel + 1, ts => parseExpr fuel ts

/-- Parses alternatives. -/
def parseEither (fuel : Nat) (ts : List HintToken) : Option (HintExpr × List HintToken) :=
  match fuel with
  | 0 => none
  | fuel + 1 => do
    let (e, ts) ← parseBoth fuel ts
    match ts with
    | .name "or" :: ts => do
      let (f, ts) ← parseEither fuel ts
      return (.either e f, ts)
    | ts => return (e, ts)

/-- Parses conditions that must all hold. -/
def parseBoth (fuel : Nat) (ts : List HintToken) : Option (HintExpr × List HintToken) :=
  match fuel with
  | 0 => none
  | fuel + 1 => do
    let (e, ts) ← parseNot fuel ts
    match ts with
    | .name "and" :: ts => do
      let (f, ts) ← parseBoth fuel ts
      return (.both e f, ts)
    | ts => return (e, ts)

/-- Parses a negation, or comparisons in a row. -/
def parseNot (fuel : Nat) (ts : List HintToken) : Option (HintExpr × List HintToken) :=
  match fuel, ts with
  | 0, _ => none
  -- Binds looser than a comparison, so this is no sign.
  | fuel + 1, .name "not" :: ts => do
    let (e, ts) ← parseNot fuel ts
    return (.unary "not" e, ts)
  | fuel + 1, ts => do
    let (e, ts) ← parseLevel fuel levels ts
    let (rest, ts) ← parseCompared fuel ts
    return (if rest.isEmpty then e else .compared e rest, ts)

/-- Parses the comparisons that follow. -/
def parseCompared (fuel : Nat) (ts : List HintToken) :
    Option (List (String × HintExpr) × List HintToken) :=
  match fuel with
  | 0 => none
  | fuel + 1 =>
    match comparison? ts with
    | some (o, ts) => do
      let (e, ts) ← parseLevel fuel levels ts
      let (rest, ts) ← parseCompared fuel ts
      return ((o, e) :: rest, ts)
    | none => some ([], ts)

/-- Parses operators of some levels. -/
def parseLevel (fuel : Nat) (ops : List (List String)) (ts : List HintToken) :
    Option (HintExpr × List HintToken) :=
  match fuel, ops with
  | 0, _ => none
  | fuel + 1, [] => parseUnary fuel ts
  | fuel + 1, op :: ops => do
    let (e, ts) ← parseLevel fuel ops ts
    parseMore fuel op ops e ts

/-- Parses further operands of a level. -/
def parseMore (fuel : Nat) (op : List String) (ops : List (List String)) (left : HintExpr)
    (ts : List HintToken) : Option (HintExpr × List HintToken) :=
  match fuel, ts with
  | 0, _ => none
  | fuel + 1, .mark m :: ts =>
    if op.contains m then do
      let (right, ts) ← parseLevel fuel ops ts
      parseMore fuel op ops (.binary m left right) ts
    else some (left, .mark m :: ts)
  | _, ts => some (left, ts)

/-- Parses signs, and a power behind them. -/
def parseUnary (fuel : Nat) (ts : List HintToken) : Option (HintExpr × List HintToken) :=
  match fuel, ts with
  | 0, _ => none
  | fuel + 1, .mark m :: ts =>
    -- A power binds tighter than the sign before it.
    if m = "-" ∨ m = "+" ∨ m = "~" then do
      let (e, ts) ← parseUnary fuel ts
      return (.unary m e, ts)
    else parsePower fuel (.mark m :: ts)
  | fuel + 1, ts => parsePower fuel ts

/-- Parses an operand with an optional power. -/
def parsePower (fuel : Nat) (ts : List HintToken) : Option (HintExpr × List HintToken) :=
  match fuel with
  | 0 => none
  | fuel + 1 => do
    let (e, ts) ← parseAtom fuel ts
    let (e, ts) ← parseTrailers fuel e ts
    match ts with
    | .mark "**" :: ts => do
      -- Powers group from the right, and the exponent may have a sign.
      let (p, ts) ← parseUnary fuel ts
      return (.binary "**" e p, ts)
    | ts => return (e, ts)

/-- Parses a name, a constant or something in brackets. -/
def parseAtom (fuel : Nat) (ts : List HintToken) : Option (HintExpr × List HintToken) :=
  match fuel, ts with
  | 0, _ => none
  | _, .name t :: ts =>
    if reserved.contains t && !constants.contains t then none else some (.name t, ts)
  | fuel + 1, .text s :: ts => do
    -- adjacent quoted texts are one
    match ← parseAdjacent fuel ts with
    | (.text t, ts) => return (.text (s ++ t), ts)
    | (.quoted false _, ts) => return (.quoted false false, ts)
    | _ => none
  | fuel + 1, .quoted isBytes isEmpty :: ts => do
    match ← parseAdjacent fuel ts with
    | (.text "", ts) => return (.quoted isBytes isEmpty, ts)
    | (.text _, ts) => if isBytes then none else return (.quoted isBytes false, ts)
    | (.quoted b e, ts) =>
      if b = isBytes then return (.quoted isBytes (isEmpty && e), ts) else none
    | _ => none
  | _, .int n :: ts => some (.int n, ts)
  | _, .real x :: ts => some (.real x, ts)
  | _, .imaginary isZero :: ts => some (.imaginary isZero, ts)
  | _, .mark "..." :: ts => some (.ellipsis, ts)
  | fuel + 1, .mark "(" :: ts => do
    let (items, isTuple, ts) ← parseItems fuel true ")" ts
    match items, isTuple with
    -- Brackets alone make no tuple to spread into.
    | [.spread _], false => none
    | [e], false => return (e, ts)
    | items, _ => return (.tuple items, ts)
  | fuel + 1, .mark "[" :: ts => do
    let (items, isTuple, ts) ← parseItems fuel true "]" ts
    match items, isTuple with
    | [.comprehension b e], false => return (.comprehension b e, ts)
    | items, _ => return (.list items, ts)
  | _, .mark "\x7b" :: .mark "\x7d" :: ts => some (.dict [], ts)
  | fuel + 1, .mark "\x7b" :: ts => do
    -- The first colon tells a map from a set, and it may come late.
    match parsePairs fuel ts with
    | some (pairs, ts) => return (pairs, ts)
    | none => do
      let (items, isTuple, ts) ← parseItems fuel true "\x7d" ts
      match items, isTuple with
      | [.comprehension b e], false => return (.comprehension b e, ts)
      | items, _ => return (.set items, ts)
  | _, _ => none

/-- Parses the quoted texts that follow another. -/
def parseAdjacent (fuel : Nat) (ts : List HintToken) : Option (HintExpr × List HintToken) :=
  match fuel, ts with
  | fuel + 1, .text s :: ts => parseAtom fuel (.text s :: ts)
  | fuel + 1, .quoted b e :: ts => parseAtom fuel (.quoted b e :: ts)
  | _, ts => some (.text "", ts)

/-- Parses attributes, arguments and calls. -/
def parseTrailers (fuel : Nat) (e : HintExpr) (ts : List HintToken) :
    Option (HintExpr × List HintToken) :=
  match fuel, ts with
  | 0, _ => none
  | fuel + 1, .mark "." :: .name n :: ts =>
    if reserved.contains n then none else parseTrailers fuel (.attribute e n) ts
  | _, .mark "." :: _ => none
  | fuel + 1, .mark "[" :: ts => do
    let (items, isTuple, ts) ← parseSlices fuel ts
    let index ← match items, isTuple with
      | [], _ => none
      | [.spread e], _ => some (.tuple [.spread e])
      | [e], false => some e
      | items, _ => some (.tuple items)
    parseTrailers fuel (.subscript e index) ts
  | fuel + 1, .mark "(" :: ts => do
    let ((args, named), ts) ← parseArgs fuel [] [] ts
    parseTrailers fuel (.called e args named) ts
  | _, ts => some (e, ts)

/-- Parses the arguments of a call, after some that were read. -/
def parseArgs (fuel : Nat) (args : List HintExpr) (named : List (String × HintExpr))
    (ts : List HintToken) : Option ((List HintExpr × List (String × HintExpr)) × List HintToken) :=
  match fuel, ts with
  | 0, _ => none
  | _, .mark ")" :: ts => some ((args, named), ts)
  | fuel + 1, .mark "**" :: ts => do
    let (e, ts) ← parseExpr fuel ts
    parseArgsRest fuel args (named ++ [("", e)]) ts
  | fuel + 1, .mark "*" :: ts => do
    let (e, ts) ← parseExpr fuel ts
    -- Nothing may be spread by position once something was spread by name.
    if named.any (·.1 = "") then none else parseArgsRest fuel (args ++ [.spread e]) named ts
  | fuel + 1, .name n :: .mark "=" :: ts => do
    let (e, ts) ← parseExpr fuel ts
    if reserved.contains n || named.any (·.1 = n) then none
    else parseArgsRest fuel args (named ++ [(n, e)]) ts
  | fuel + 1, ts => do
    let (e, ts) ← parseNamed fuel ts
    if !named.isEmpty then none
    match ts with
    | .name "for" :: ts => do
      let (e, ts) ← parseWalk fuel ")" (.name "for" :: ts)
      match ts with
      -- A walk without brackets of its own must be the only argument.
      | .mark ")" :: ts => if args.isEmpty then return (([e], []), ts) else none
      | _ => none
    | ts => parseArgsRest fuel (args ++ [e]) named ts

/-- Parses what follows an argument. -/
def parseArgsRest (fuel : Nat) (args : List HintExpr) (named : List (String × HintExpr))
    (ts : List HintToken) : Option ((List HintExpr × List (String × HintExpr)) × List HintToken) :=
  match fuel, ts with
  | fuel + 1, .mark "," :: ts => parseArgs fuel args named ts
  | _, .mark ")" :: ts => some ((args, named), ts)
  | _, _ => none

/-- Parses the walks of a comprehension, of which the first gives the items. -/
def parseWalk (fuel : Nat) (bracket : String) (ts : List HintToken) :
    Option (HintExpr × List HintToken) :=
  match fuel, ts with
  | fuel + 1, .name "for" :: ts => do
    let (_, ts) ← parseTargets fuel ts
    let (source, ts) ← parseEither fuel ts
    let (_, ts) ← parseWalkRest fuel ts
    return (.comprehension bracket source, ts)
  | _, _ => none

/-- Parses the conditions and the further walks of a comprehension. -/
def parseWalkRest (fuel : Nat) (ts : List HintToken) : Option (Unit × List HintToken) :=
  match fuel, ts with
  | fuel + 1, .name "if" :: ts => do
    let (_, ts) ← parseEither fuel ts
    parseWalkRest fuel ts
  | fuel + 1, .name "for" :: ts => do
    let (_, ts) ← parseWalk fuel "" (.name "for" :: ts)
    return ((), ts)
  | _, ts => some ((), ts)

/-- Parses what a walk gives values to, up to the word that follows. -/
def parseTargets (fuel : Nat) (ts : List HintToken) : Option (Unit × List HintToken) :=
  match fuel, ts with
  | 0, _ => none
  | fuel + 1, .mark "*" :: ts => parseTargets fuel ts
  | fuel + 1, ts => do
    let (e, ts) ← parseAtom fuel ts
    let (e, ts) ← parseTrailers fuel e ts
    if !e.isTarget then none
    match ts with
    | .name "in" :: ts => return ((), ts)
    | .mark "," :: .name "in" :: ts => return ((), ts)
    | .mark "," :: ts => parseTargets fuel ts
    | _ => none

/-- Parses items up to a closing bracket; the flag tells whether a comma was seen. -/
def parseItems (fuel : Nat) (isFirst : Bool) (closing : String) (ts : List HintToken) :
    Option (List HintExpr × Bool × List HintToken) :=
  match fuel, ts with
  | 0, _ => none
  | fuel + 1, .mark m :: ts =>
    if m = closing then some ([], true, ts) else parseItem fuel isFirst closing (.mark m :: ts)
  | fuel + 1, ts => parseItem fuel isFirst closing ts

/-- Parses an item and those after it. Only the first may be made by a walk. -/
def parseItem (fuel : Nat) (isFirst : Bool) (closing : String) (ts : List HintToken) :
    Option (List HintExpr × Bool × List HintToken) :=
  match fuel with
  | 0 => none
  | fuel + 1 => do
    let (e, ts) ← match ts with
      | .mark "*" :: ts => do
        -- What is spread cannot be a condition or a comparison.
        let (e, ts) ← parseLevel fuel levels ts
        pure (.spread e, ts)
      | ts => parseNamed fuel ts
    match ts with
    | .mark "," :: ts => do
      let (items, _, ts) ← parseItems fuel false closing ts
      return (e :: items, true, ts)
    | .name "for" :: ts => do
      let (walk, ts) ← parseWalk fuel closing (.name "for" :: ts)
      match e, ts with
      | .spread _, _ => none
      | _, .mark m :: ts =>
        if isFirst && m = closing then return ([walk], false, ts) else none
      | _, _ => none
    | .mark m :: ts => if m = closing then return ([e], false, ts) else none
    | _ => none

/-- Parses the pairs of a map up to the closing bracket, or a walk that makes them. -/
def parsePairs (fuel : Nat) (ts : List HintToken) : Option (HintExpr × List HintToken) :=
  match fuel, ts with
  | 0, _ => none
  | fuel + 1, ts => do
    let (pair, ts) ← match ts with
      | .mark "**" :: ts => do
        let (e, ts) ← parseLevel fuel levels ts
        pure ((none, e), ts)
      | ts => do
        let (k, ts) ← parseExpr fuel ts
        match ts with
        | .mark ":" :: ts => do
          let (e, ts) ← parseExpr fuel ts
          pure ((some k, e), ts)
        | _ => none
    match ts with
    | .mark "\x7d" :: ts | .mark "," :: .mark "\x7d" :: ts => return (.dict [pair], ts)
    | .mark "," :: ts => do
      match ← parsePairs fuel ts with
      | (.dict pairs, ts) => return (.dict (pair :: pairs), ts)
      | _ => none
    | .name "for" :: ts => do
      if pair.1.isNone then none
      let (walk, ts) ← parseWalk fuel "\x7b:" (.name "for" :: ts)
      match ts with
      | .mark "\x7d" :: ts => return (walk, ts)
      | _ => none
    | _ => none

/-- Parses places in brackets; the flag tells whether a comma was seen. -/
def parseSlices (fuel : Nat) (ts : List HintToken) :
    Option (List HintExpr × Bool × List HintToken) :=
  match fuel, ts with
  | 0, _ => none
  | _, .mark "]" :: ts => some ([], true, ts)
  | fuel + 1, ts => do
    let (e, ts) ← match ts with
      | .mark "*" :: ts => do
        let (e, ts) ← parseLevel fuel levels ts
        pure (.spread e, ts)
      | ts => parseSlice fuel ts
    match ts with
    | .mark "," :: ts => do
      let (items, _, ts) ← parseSlices fuel ts
      return (e :: items, true, ts)
    | .mark "]" :: ts => return ([e], false, ts)
    | _ => none

/-- Parses a place, or a part from a place to another. -/
def parseSlice (fuel : Nat) (ts : List HintToken) : Option (HintExpr × List HintToken) :=
  match fuel with
  | 0 => none
  | fuel + 1 => do
    let (start, rest) ← parseBound fuel ts
    match rest with
    | .mark ":" :: ts => do
      let (stop, ts) ← parseBound fuel ts
      match ts with
      | .mark ":" :: ts => do
        let (step, ts) ← parseBound fuel ts
        return (.slice start stop step, ts)
      | ts => return (.slice start stop none, ts)
    -- No part after all: read again, as a place may give a name.
    | _ => if start.isNone then none else parseNamed fuel ts

/-- Parses a bound of a part, which may be left out. -/
def parseBound (fuel : Nat) (ts : List HintToken) : Option (Option HintExpr × List HintToken) :=
  match fuel, ts with
  | 0, _ => none
  | _, .mark ":" :: _ | _, .mark "]" :: _ | _, .mark "," :: _ => some (none, ts)
  | fuel + 1, ts => do
    let (e, ts) ← parseExpr fuel ts
    return (some e, ts)

end

/-- Parses the expressions that commas separate at the end of a text. -/
def parseRest (fuel : Nat) (ts : List HintToken) : Option (List HintExpr) :=
  match fuel, ts with
  | 0, _ => none
  | _, [] => some []
  | fuel + 1, ts => do
    let (e, ts) ← parseExpr (20 * ts.length + 20) ts
    match ts with
    | [] => return [e]
    | .mark "," :: ts => return e :: (← parseRest fuel ts)
    | _ => none

/-- Reads a text as one expression, which lines may end. Spaces at the start are passed over if they
    are `indented`. -/
def parse? (indented : Bool) (text : String) : Option HintExpr := do
  let ts ← HintToken.scan indented text
  -- each token is consumed once, below a bounded number of nested rules
  let (e, rest) ← parseExpr (20 * ts.length + 20) ts
  match rest with
  | [] => return e
  | .mark "," :: rest => return .tuple (e :: (← parseRest (rest.length + 1) rest))
  | _ => none

end HintExpr

end ScriptBridge
