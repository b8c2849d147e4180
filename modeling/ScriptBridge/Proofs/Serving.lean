import ScriptBridge.Dispatch
import ScriptBridge.Proofs.Growth

namespace ScriptBridge

/-!
# How a request is served

A request for a key of a value is passed on by wrappers until it comes to a target that answers it.
Host code may run on the way, so what holds of these targets is said where the request comes to
them.

* `Store.HoldsKeys` tells that the library's own method looks a key up;
* `Service.Along` is what holds of every target that a request comes to.
-/

/-- The library classes that look keys up themselves. A wrapper leaves that to what it wraps. -/
def LibraryKind.holdsKeys : LibraryKind → Bool
  | .struct | .array | .scripted | .referenceable => true
  | _ => false

/-- Whether a method of a value is that of a library class that looks keys up itself. -/
def Store.HoldsKeys (s : Store) (v : Value) (method : String) : Prop :=
  ∃ l, s.libraryMethod? v method = some l ∧ l.holdsKeys

namespace Service

open Run Host

variable {call : Call} {r : KeyUse} {key : Key} {P : TargetKind → Target → Value → World → Prop}

/-- Whether the service that a wrapper passes requests on to is a service indeed, and something
    holds of it and of the target that the wrapper stands for. -/
def Passes (call : Call) (v : Value) (P : ServiceId → Target → World → Prop) (w : World) : Prop :=
  (getAttr call v "interop").After w fun x w => ∃ svc, x = .service svc ∧
    (wrapperTarget call v).After w fun t w => P svc t w

/-- Whether something holds of every target that a request comes to: of its sort, the target itself
    and the scope, in the world that the request finds there. -/
def Along (call : Call) (r : KeyUse) (key : Key) (P : TargetKind → Target → Value → World → Prop) :
    Nat → ServiceId → Target → Value → World → Prop
  | 0, _, _, _, _ => True
  | fuel + 1, svc, t, scope, w =>
    (receive call svc r t key scope).After w fun (kind, scope) w => P kind t scope w ∧
      (kind = .referenceable → w.store.libraryMethod? t.inst r.method = some .wrapper →
        Passes call t.inst (fun svc t w => Along call r key P fuel svc t scope w) w)

end Service

end ScriptBridge
