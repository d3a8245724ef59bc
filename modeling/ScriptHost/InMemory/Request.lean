/-
Direct requests to the host of a machine kept in memory, and to the machine itself.

A `Request` calls one of the callbacks the machine would call from a script, or reaches
past the window's operations.
-/
import ScriptHost.HostState
import ScriptHost.Inspection
import ScriptHost.InMemory.Script

namespace ScriptHost.InMemory

inductive Request where
  | host (call : HostCall)
  | abortMessage
  | setSlot (slot : Nat) (value : Expr)
  | setForeign (slot : Nat) (token : Token)

namespace Request

/-- Makes a callback; the number of the target if it is a request for one. -/
def callHost {H : Type} [Host H] : HostCall → Turn H WindowReply
  | .bindMethod module className isStatic signature =>
    .target <$> Host.bindMethod module className isStatic signature
  | .bindClass module className => .target <$> Host.bindClass module className
  | .invoke id => (fun _ => .nothing) <$> Host.invoke id
  | .allocate id => (fun _ => .nothing) <$> Host.allocate id
  | .finalize token => (fun _ => .nothing) <$> Host.finalize token
  | .write text => (fun _ => .nothing) <$> Host.write text
  | .report event => (fun _ => .nothing) <$> Host.report event

/-- Carries out a request. -/
def perform {H : Type} [Host H] : Request → Turn H WindowReply
  | .host hostCall => callHost hostCall
  | .abortMessage => runMachineStep call .abortMessage
  | .setSlot slot value => do
    let value ← evaluate "main" value
    World.onVm (·.setSlot slot value)
    return .nothing
  | .setForeign slot token => runMachineStep call (.setForeign slot token)

end Request

instance : Inspectable Machine where
  overview m :=
    { released := m.releasedHandles
      freed := m.freed
      leaked := m.leakedHandles
      slots := m.shownSlots
      instances := m.liveInstances
      aborted := m.aborted.map m.shown }
  takeJournal m := (m.journal, { m with journal := [] })

end ScriptHost.InMemory
