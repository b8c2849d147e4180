import ScriptBridge.Session.Access
import ScriptBridge.Session.Container
import ScriptBridge.Session.Question

namespace ScriptBridge

/-!
# Sessions

Running commands. Each command works on the world that the ones before it left; a command that fails
leaves its changes, and a variable that was to keep its result holds nothing.

* `Session.run` carries out one command;
* `Session.step` carries out a request and gives the reply to it;
* `Script.run` carries out a whole session.
-/

namespace Session

open Run Host

/-- Carries out a command. -/
def run : Command → Act Reply
  | .service c => runService c
  | .function c => runFunction c
  | .access c => runAccess c
  | .wrapper c => runWrapper c
  | .scope c => runScope c
  | .ask q => answer q
  | .struct c => runStruct c
  | .array c => runArray c

/-- Whether the wording of the host's refusals is shown for a command. -/
def showsDetail : Command → Bool
  | .ask (.target ..) | .scope (.item ..) => true
  | _ => false

/-- Carries out a request: its result is kept, and whatever it traced is taken along. -/
def step (r : Request) : Act Step := do
  modify fun w => { w with trace := [] }
  let result ← Act.outcome (run r.command)
  let trace := (← get).trace.reverse
  let kept := match result with
    | .ok (.value v) => v
    | _ => .none
  match r.saveAs with
  | some n => modify fun w => { w with bindings := w.bindings.insert n kept }
  | none => pure ()
  let ended ← match result with
    | .ok (.value v) => do
      let shown := (← store).snapshot v
      if shown.isWritable then pure (Outcome.done (.value shown))
      else outcomeOf call false .valueError
    | .ok (.facts a) => pure (Outcome.done a)
    | .error f => outcomeOf call (showsDetail r.command) f
  return { outcome := ended, trace }

/-- Sets up a session: the services with their root scopes, the well-known keys and the classes. -/
def setUp (config : Config) (style : MetadataStyle) (classes : List ClassDecl) : Act Unit := do
  let service (config : Config) (style : MetadataStyle) (root : Nat) : Service :=
    { config, style, root }
  let resolver (config : Config) : Resolver := { enabled := config.cacheEnabled }
  let mainRoot ← newScope .none (some .main)
  let fallbackRoot ← newScope .none (some .fallback)
  modify fun w =>
    { w with
      main := service config style mainRoot
      mainResolver := resolver config
      fallback := service {} .card fallbackRoot
      fallbackResolver := resolver {} }
  Key.wellKnown.forM fun (n, k) => do
    let v ← newKey k
    modifyStore (·.setClassAttr (.library .key) n v)
  classes.forM fun c => declare call c

end Session

namespace Script

open Run Host Session

/-- The reply to a whole session: one step for each request, unless its settings are refused. -/
def run (s : Script) : Except Outcome (List Step) :=
  match Config.ofDocument (s.config.getD .null) with
  | .error r => .error (.refused r.kind.name r.message none none)
  | .ok config =>
    let style : MetadataStyle := if s.pairMetadata then .pair else .card
    let session : Act (List Step) := do
      setUp config style s.classes
      s.requests.mapM step
    match (session { traceAll := s.traceAll } : Except Fault (List Step) × World) with
    | (.ok steps, _) => .ok steps
    | (.error _, _) => .ok []

end Script

end ScriptBridge
