import ScriptBridge.Host.Special

namespace ScriptBridge

/-!
# Fields of library classes

What the built-in fields of library values read as, and what happens when they are written. Nearly
all of them can be read only.
-/

namespace Store

/-- What the bytes of a view say about themselves. -/
def byteViewField (writable : Bool) (items : List Nat) : String → Option (List Value ⊕ Value)
  | "nbytes" => some (.inr (.int items.length))
  | "readonly" => some (.inr (.bool !writable))
  | "itemsize" | "ndim" => some (.inr (.int 1))
  | "format" => some (.inr (.text "B"))
  | "shape" => some (.inl [.int items.length])
  | "strides" => some (.inl [.int 1])
  | "suboffsets" => some (.inl [])
  | "c_contiguous" | "f_contiguous" | "contiguous" => some (.inr (.bool true))
  | _ => none

end Store

namespace Host

open Run

/-- What a fixed place of an instance holds; `none` when it was never filled. -/
def slotValue? (v : Value) (owner : LibraryKind) (name : String) : Run (Option Value) := do
  return ((← store).deref? v).bind fun o => o.slots.get? ⟨owner, name⟩

/-- Reads a built-in field of a number. -/
def readNumberField (v : Value) (name : String) : Run Value :=
  match v, name with
  | .bool b, "real" | .bool b, "numerator" => pure (.int (if b then 1 else 0))
  | .int n, "real" | .int n, "numerator" => pure (.int n)
  | .bool _, "imag" | .int _, "imag" | .fraction _, "imag" => pure (.int 0)
  | .bool _, "denominator" | .int _, "denominator" => pure (.int 1)
  | .real x, "real" => newScalar (.real x)
  | .real _, "imag" => pure (.real .zero)
  | .complex re _, "real" => newScalar (.real re)
  | .complex _ im, "imag" => newScalar (.real im)
  | .fraction r, "numerator" => pure (.int r.num)
  | .fraction r, "denominator" => pure (.int r.den)
  | .fraction r, "real" => pure (.fraction r)
  | .decimal d, "real" => newScalar (.decimal d)
  | .decimal _, "imag" => pure (.decimal (.ofInt 0))
  | _, _ => fail .attributeError

/-- Reads a built-in field of a key. -/
def readKeyField (k : Key) (name : String) : Run Value :=
  match name with
  | "name" => pure (.text k.name)
  | "name_no_case" => pure (.text k.folded)
  | "original_value" => pure k.toValue
  | "int_value" => match k.reading with
    | .word => pure .none
    | .index i => pure (.int i)
    | .tooLong => fail .valueError
  | _ => fail .attributeError

/-- Reads a built-in field that a library class declares. -/
def readLibraryField (v : Value) (owner : LibraryKind) (name : String) : Run Value := do
  let s ← store
  match s.key? v with
  | some k => readKeyField k name
  | none =>
    match s.content? v with
    | none => readNumberField v name
    | some b =>
      match b, name with
      | .scalar x, name => readNumberField x name
      | .range start _ _, "start" => return .int start
      | .range _ stop _, "stop" => return .int stop
      | .range _ _ step, "step" => return .int step
      | .deque _ limit, "maxlen" => return limit.elim .none fun (n : Nat) => .int n
      | .byteView .., "obj" => match s.body? v with
        | some (.viewOf owner) => return owner
        | _ => fail .attributeError
      | .byteView writable items, name =>
        match Store.byteViewField writable items name with
        | some (.inl items) => newTuple items
        | some (.inr v) => return v
        | none => fail .attributeError
      | .error args, "args" => newTuple args
      | .error _, "characters_written" =>
        -- The host marks a count that was never given by this number.
        match (← slotValue? v owner name).getD (.int (-1)) with
        | .int (-1) => fail .attributeError
        | n => return n
      | .error _, name => do return (← slotValue? v owner name).getD .none
      | .wrapper (.kind cls) inst _, "target_ref" => newTarget cls inst
      | .wrapper .., "target_ref" => fail .typeError
      | .target _ inst, "has_instance" => return .bool (inst ≠ .none)
      | .target cls _, "target_type" => return .kind cls
      | .target _ inst, "target_instance" => return inst
      | .property getter _, "fget" => return getter
      | .property _ setter, "fset" => return setter.getD .none
      | .property .., "fdel" => return .none
      | _, _ => fail .attributeError

/-- Writes a built-in field that a library class declares: only errors and targets keep
    anything. -/
def writeLibraryField (call : Call) (v : Value) (owner : LibraryKind) (name : String)
    (x : Value) : Run Unit := do
  match (← store).body? v with
  | some (.error _) =>
    if name == "args" then
      match ← body? (← operate call "list" [x]) with
      | some (.list items) => setBody v (.error items)
      | _ => fail .typeError
    else do
      let x ← if name == "characters_written" then do pure (.int (← countOf call x)) else pure x
      modifyStore (·.modify v fun o => { o with slots := o.slots.insert ⟨owner, name⟩ x })
  | some (.target cls inst) =>
    match name, x with
    | "target_instance", x => setBody v (.target cls x)
    | "target_type", .kind k => setBody v (.target k inst)
    | _, _ => fail .attributeError
  | _ => fail .attributeError

end Host

end ScriptBridge
