import ScriptBridge.Session.Given
import ScriptBridge.Session.Reply

namespace ScriptBridge

/-!
# Questions
-/

namespace Session

open Run Host

/-- Reads settings from where they are kept. -/
def loadConfig (src : ConfigSource) : Run Config := do
  let missing : Run Config := fail (.host .fileNotFoundError "")
  let fromEnvironment : Run Config :=
    match src.environment with
    | none => return {}
    | some none => missing
    | some (some text) => orFail (Config.ofFile text)
  if src.viaFallback then fromEnvironment
  else match src.file, src.path with
    | some text, _ => orFail (Config.ofFile text)
    | none, some path => if path.isEmpty then fromEnvironment else missing
    | none, none => fromEnvironment

/-- Runs the steps on a cache of records; after each step the size is told. -/
def runCache (c : Cache MapKey Value) : List CacheStep → Run (List Answer)
  | [] => return []
  | step :: rest => do
    let keyFor (l : Literal) : Run MapKey := do mapKey call (← valueOf l)
    let isRecord (v : Value) : Bool := v ≠ .none
    let (answer, c) ← match step with
      | .get key => do
        let s ← store
        pure (Answer.value (((c.get? (← keyFor key)).map s.snapshot).getD .null), c)
      | .has key => do pure (Answer.flag (c.contains (← keyFor key)), c)
      | .clear => pure (Answer.null, {})
      | .create key value => do
        let v ← valueOf value
        let k ← keyFor key
        match c.getOrCreate isRecord k (.ok v : Except String Value) with
        | (.ok (v, made), c) =>
          pure (Answer.list [.value ((← store).snapshot v), .flag made], c)
        | (.error _, c) => pure (Answer.null, c)
      | .fail key message => do
        let k ← keyFor key
        match c.getOrCreate isRecord k (.error message : Except String Value) with
        | (.ok (v, made), c) =>
          pure (Answer.list [.value ((← store).snapshot v), .flag made], c)
        | (.error message, c) =>
          pure (Answer.record
            [("error", .text LibraryKind.noMethodError.name), ("message", .text message)], c)
    return answer :: .number c.size :: (← runCache c rest)

/-- The value of a hole of a template. -/
def holeText (v : Value) : Run String := textOf call v

/-- The target that a class and an instance make; a class that is none is refused by name. -/
def makeTarget (type inst : Option Value) : Run Target := do
  match type with
  | none => do
    let v := inst.getD .none
    return ⟨← kindOf v, v⟩
  | some (.kind k) => return ⟨k, inst.getD .none⟩
  | some v =>
    let s ← store
    fail (.host .typeError ("TargetRef type must be a class, not " ++ s.name (s.kindOf v)))

/-- What a key tells about itself. -/
def keyFacts (v : Value) : Run Reply := do
  let s ← store
  let name ← getAttr call v "name"
  let folded ← getAttr call v "name_no_case"
  let value ← getAttr call v "original_value"
  let number ← getAttr call v "int_value"
  tell [("class", .text (s.name (s.kindOf v))), ("name", name), ("folded", folded),
        ("original", value), ("int", number), ("str", .text (← textOf call v)),
        ("repr", .text (← display call v))]

/-- Whether two forms have the same hash, as far as keys go. -/
def sameHash : KeyForm → KeyForm → Bool
  | .hashed m _, .hashed n _ => m = n
  | f, g => f = g

/-- How two keys compare: directly, by hash and as keys of a host map. -/
def compareKeys (x y : Value) : Run Reply := do
  let same ← compare call x y
  let a ← mapKey call x
  let b ← mapKey call y
  let isThere := (← equalKey? call b [a]).isSome
  let asText ← compare call x (.text (← textOf call y))
  tell [("eq", same), ("same_hash", .bool (sameHash a.form b.form)), ("in_dict", .bool isThere),
        ("eq_text", asText)]

/-- Answers a question. -/
def answer : Question → Run Reply
  | .reveal value => do return .value (← valueOf value)
  | .same a b => do
    let x ← valueOf a
    let y ← valueOf b
    return flag (x = y)
  | .equal a b => do
    let x ← valueOf a
    let y ← valueOf b
    return .value (← compare call x y)
  | .display value => do
    return words (← display call (← valueOf value))
  | .absent => do
    return .facts (.record
      [("bool", .flag (← truth call .absent)), ("repr", .text (← display call .absent)),
       ("singleton", .flag true), ("pickled", .flag true)])
  | .isAbsent value => do return flag ((← valueOf value) = .absent)
  | .key value => do keyFacts (← Native.keyFrom call (.library .key) (← valueOf value))
  | .keyEqual a b => do
    let x ← Native.keyFrom call (.library .key) (← valueOf a)
    let y ← Native.keyFrom call (.library .key) (← valueOf b)
    compareKeys x y
  | .wellKnownKeys =>
    return .facts (.record (Key.wellKnown.map fun (n, k) => (n, .text k.name)))
  | .target type inst => do
    let t ← makeTarget (← valueOf? type) (← valueOf? inst)
    return .facts (.record
      [("type", .text ((← store).typeName t.kind)), ("has_instance", .flag t.hasInstance)])
  | .classify value => do
    let v ← valueOf value
    return words ((← store).classify v).name
  | .category value => do
    let v ← valueOf value
    return words ((← store).category v).name
  | .isAssignable arg param => do
    let a ← kindFrom arg
    let p ← kindFrom param
    return flag ((← store).isAssignable a p)
  | .unboxedKind kind => do
    let k ← kindFrom kind
    return .value (((← store).unboxedKind? k).elim .none fun l => .kind (.library l))
  | .hintKinds hint => do
    let hint ← hint.mapM makeHint
    let kinds := hint.elim [.library .object] Hint.kinds
    names (kinds.map (← store).typeName)
  | .memberInfo params kinds => do
    let kinds ← kindsFrom kinds
    let params ← match params with
      | none => pure none
      | some ps => do pure (some (← ps.mapM kindsFrom))
    let m : Member :=
      { name := "", attr := "", handle := .none, owner := .library .object, isStatic := false,
        params }
    return .facts (.record
      [("arity", .number m.arity), ("accepts_arity", .flag (m.acceptsArity kinds.length)),
       ("accepts_kinds", .flag (m.params.all ((← store).acceptsKinds kinds)))])
  | .unwrapArguments args => do
    return .value (← Host.unwrapArguments call (← argumentsFrom args))
  | .readIndex key size safe => do
    let key ← keyOf call (← valueOf key)
    return .value ((← orFail (key.readIndex size safe)).elim .none .int)
  | .writeIndex key size fixed => do
    let key ← keyOf call (← valueOf key)
    return number (← orFail (key.writeIndex size fixed))
  | .render template values => do
    let values ← values.mapM fun (n, l) => do return (n, ← holeText (← valueOf l))
    match Template.ofName? template with
    | some t => return words (t.render values)
    | none => fail (.host .keyError "")
  | .formatKeys keys limit => do
    let shown ← (← itemsOf call (← valueOf keys)).mapM (textOf call)
    return words (Listing.text ⟨shown, limit.getD Listing.defaultLimit⟩)
  | .formatKinds kinds => do
    let kinds ← kindsFrom kinds
    return words (", ".intercalate ((← store).kindNames kinds))
  | .typeName kind => do
    let k ← kindFrom kind
    return words (← Run.typeName k)
  | .errorIs kind base => do
    let k ← kindFrom kind
    let b ← kindFrom base
    return flag ((← store).isSubclass k b)
  | .safeRecoverable =>
    names
      ([.noFieldError, .noMethodError, .keyNotFoundError].map LibraryKind.name)
  | .config data => do return .facts (configFacts (← ofReason (Config.ofDocument data)))
  | .loadConfig src => do return .facts (configFacts (← Session.loadConfig src))
  | .recordCache steps => do return .facts (.list (← runCache {} steps))

end Session

end ScriptBridge
