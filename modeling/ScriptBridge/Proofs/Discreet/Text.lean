import ScriptBridge.Host.Text
import ScriptBridge.Proofs.Discreet.Attribute

namespace ScriptBridge

/-!
# Discreet texts

Values are shown and turned into texts by their own methods, or else by the rules of the host.

* `Host.discreet_showWith` goes down into what a value holds;
* `Host.discreet_textOf` gives a text, `Host.discreet_keyOf` the key that is made of it;
* `Host.discreet_describe` puts a fault into words.
-/

open Run

namespace Host

variable {call : Call} {n : ServiceId → Int} {P : Reason → Prop} [DiscreetCall call]

/-- The full name of a class is kept with it. What takes the place of a class is asked for one. -/
@[grind ←] theorem discreet_qualifiedNameOf (v : Value) :
    (qualifiedNameOf call v).Discreet n P := by
  unfold qualifiedNameOf
  split
  next => exact .bind discreet_store fun _ => .pure _
  next => exact .bind (discreet_getAttr ..) discreet_textResult

/-- The names of the variables of a scope are the keys of what binds them, or what that lists as its
    keys. -/
@[grind ←] theorem discreet_variableNames (bindings : Value) :
    (variableNames call bindings).Discreet n P := by
  unfold variableNames
  refine .bind (discreet_body? bindings) fun b => ?_
  split
  next => exact .pure _
  next => grind

/-- A scalar that cannot be shown is a number of too many digits, and the host says so. -/
theorem within_of_showScalar {s : Store} {name : String} {v : Value} {e : Fault}
    (h : s.showScalar name v = .error e) : e.Within P := by
  have hdigits : e = .tooManyDigits := by
    unfold Store.showScalar at h
    repeat' split at h
    all_goals first | exact (Except.error.inj h).symm | cases h
  rw [hdigits]
  exact Fault.within_tooManyDigits

@[grind ←] theorem discreet_showScalar (s : Store) (name : String) (v : Value) :
    (orFail (s.showScalar name v)).Discreet n P :=
  discreet_orFail fun _ => within_of_showScalar

/-- Showing a value looks at it as deep as it is shown. -/
@[grind ←] theorem discreet_showWith (fuel : Nat) (within : List Value) (v : Value) :
    (showWith call fuel within v).Discreet n P := by
  induction fuel generalizing within v with
  | zero =>
    unfold showWith
    exact .fail (Fault.within_host _ _)
  | succ fuel ih =>
    have hlisted (items : List Value) : (do
        return "[" ++ Store.commas (← items.mapM (showWith call fuel (v :: within))) ++ "]" :
        Run String).Discreet n P := .bind (discreet_mapM (ih _) _) fun _ => .pure _
    have hpairs (m : HostMap) : (do
        let shown ← m.entries.mapM fun x => do
          return (← showWith call fuel (v :: within) x.1.value) ++ ": " ++
            (← showWith call fuel (v :: within) x.2)
        return "\x7b" ++ Store.commas shown ++ "\x7d" : Run String).Discreet n P :=
      .bind (discreet_mapM (fun _ => .bind (ih ..) fun _ => .bind (ih ..) fun _ => .pure _) _)
        fun _ => .pure _
    unfold showWith
    refine .bind discreet_store fun s => ?_
    dsimp only
    refine .bind (discreet_callSpecial? v "__repr__" []) fun r => ?_
    split
    next => exact discreet_textResult _
    next =>
      split
      next =>
        split
        next => exact .pure _
        next =>
          refine .bind (discreet_variableNames _) fun names => ?_
          split
          next => exact .bind (.pure _) fun _ => .pure _
          next => exact .bind (.pure _) fun _ => .pure _
          next => exact .bind (discreet_operate ..) fun _ => .bind (.pure _) fun _ => .pure _
      next =>
        split
        next => exact discreet_showScalar ..
        next =>
          split
          case h_1 => exact .ite (.pure _) (hlisted _)
          case h_2 => exact .ite (.pure _) (.bind (hlisted _) fun _ => .pure _)
          case h_3 => exact .ite (.pure _) (.bind (discreet_mapM (ih _) _) fun _ => .pure _)
          case h_4 => exact .ite (.pure _) (hpairs _)
          case h_5 => exact .bind (hpairs _) fun _ => .pure _
          case h_6 =>
            exact .bind (discreet_mapM (fun _ => .bind (ih ..) fun _ => .pure _) _) fun _ => .pure _
          case h_7 => exact .bind (.ite (.pure _) (hlisted _)) fun _ => .pure _
          case h_8 =>
            -- A view of a map is listed first.
            refine .bind (discreet_operate ..) fun x => .bind (discreet_body? x) fun b => ?_
            split
            next => exact .ite (.pure _) (.bind (hlisted _) fun _ => .pure _)
            next => exact .pure _
          case h_13 => exact discreet_showScalar ..
          case h_14 => exact .bind (discreet_mapM (ih _) _) fun _ => .pure _
          case h_16 => exact .bind (discreet_qualifiedNameOf _) fun _ => .pure _
          case h_28 =>
            refine .ite (.bind (discreet_getAttr ..) fun card => ?_) (.pure _)
            exact .bind (discreet_operate ..) fun name => .bind (discreet_operate ..) fun t =>
              .bind (discreet_textResult t) fun _ => .pure _
          all_goals first
            | exact .pure _
            | exact .bind (ih ..) fun _ => .pure _

@[grind ←] theorem discreet_display (v : Value) : (display call v).Discreet n P :=
  discreet_showWith nestingLimit [] v

/-- The text of an error is made of its arguments, and of the slots of the operating system's
    errors. -/
@[grind ←] theorem discreet_errorText (v : Value) (args : List Value) :
    (errorText call v args).Discreet n P := by
  have htext (x : Value) : (do textResult (← operate call "str" [x])).Discreet n P :=
    .bind (discreet_operate ..) discreet_textResult
  unfold errorText
  refine .bind discreet_store fun s => ?_
  dsimp only
  -- The four slots are read whether they are needed or not.
  refine .bind (discreet_slotValue? ..) fun number => ?_
  refine .bind (discreet_slotValue? ..) fun words => ?_
  refine .bind (discreet_slotValue? ..) fun file => ?_
  refine .bind (discreet_slotValue? ..) fun other => ?_
  split
  next =>
    refine .bind (.bind (htext _) fun _ => .bind (htext _) fun _ => .pure _) fun start => ?_
    refine .bind (discreet_display _) fun shown => ?_
    split
    next => exact .bind (discreet_display _) fun _ => .bind (.pure _) fun _ => .pure _
    next => exact .bind (.pure _) fun _ => .pure _
  next => exact .bind (htext _) fun _ => .bind (htext _) fun _ => .pure _
  next =>
    split
    next => exact .pure _
    next => exact .ite (discreet_display _) (htext _)
    next => exact .bind (discreet_mapM discreet_display _) fun _ => .pure _

/-- A fraction shows its two numbers, which may have too many digits. -/
@[grind ←] theorem discreet_fractionText (r : Ratio) :
    (orFail (Store.fractionText r)).Discreet n P := by
  unfold Store.fractionText
  grind

/-- A text is given by a method of the class, or else by the rules of the library. -/
@[grind ←] theorem discreet_textOf (v : Value) : (textOf call v).Discreet n P := by
  unfold textOf
  split
  next => exact .pure _
  next =>
    refine .bind (discreet_callSpecial? v "__str__" []) fun r => ?_
    split
    next => exact discreet_textResult _
    next =>
      refine .bind discreet_store fun s => .bind (discreet_librarySpecial? v "__str__") fun l => ?_
      split
      case h_2 => exact discreet_fractionText _
      case h_6 => exact .bind (discreet_newDict _) fun _ => discreet_display _
      case h_7 | h_9 => exact discreet_display _
      case h_8 => exact discreet_errorText ..
      all_goals exact .pure _

/-- A key is one already, or is made of the text of a value. -/
@[grind ←] theorem discreet_keyOf (v : Value) : (keyOf call v).Discreet n P := by
  unfold keyOf
  refine .bind discreet_store fun s => ?_
  split
  next => exact .pure _
  next =>
    refine .bind (discreet_textOf v) fun name => ?_
    split
    next => exact .pure _
    next => exact .pure _

/-- Inside another text, a value is formatted by its class first. -/
@[grind ←] theorem discreet_inlineText (v : Value) : (inlineText call v).Discreet n P := by
  unfold inlineText
  refine .bind (discreet_callSpecial? v "__format__" _) fun r => ?_
  split
  next => exact discreet_textResult _
  next => exact discreet_textOf v

/-- A fault is put into words, and what a program has raised is formatted for that. -/
@[grind ←] theorem discreet_describe (f : Fault) : (describe call f).Discreet n P := by
  unfold describe
  refine .bind discreet_store fun s => ?_
  dsimp only
  split
  case h_4 => exact .bind (discreet_inlineText _) fun _ => .pure _
  all_goals exact .pure _

end Host

end ScriptBridge
