/-
Sessions on a machine without a virtual machine around it.

Here the machine's own entry points and window are used directly, with a host that
records what it is called for.  Raw handles are referred to by the order in which they
were got.
-/
import ScriptHost.Backend
import ScriptHost.Inspection
import ScriptHost.RecordingHost

namespace ScriptHost

/-- One step of a direct session. -/
inductive DirectStep where
  | interpret (module source : String)
  | makeCallHandle (signature : String)
  | call (handle : Nat)
  | releaseHandle (handle : Nat)
  | collectGarbage
  | pin (slot : Nat)
  | setPinned (slot handle : Nat)
  | window (step : WindowStep)

/-- What a direct step answers. -/
inductive DirectReply where
  | nothing
  | outcome (value : Except HostError InterpretResult)
  | result (value : InterpretResult)
  | newHandle (value : Except HostError Nat)
  | pinned (handle : Option Nat)
  | window (reply : WindowReply)

/-- A machine with its recording host, and the raw handles got so far. -/
structure DirectSession (B : Type) where
  world : World RecordingHost B
  handles : List RawHandle

namespace DirectSession

variable {B : Type} [Backend B]

/-- Runs something on machine and host. -/
def inside {α : Type} (run : Run (World RecordingHost B) α) : Run (DirectSession B) α := fun s =>
  let (outcome, world) := run s.world
  (outcome, { s with world := world })

/-- Keeps a raw handle: its place among those kept. -/
def keep (handle : RawHandle) : Run (DirectSession B) Nat :=
  modifyGet fun s => (s.handles.length, { s with handles := s.handles ++ [handle] })

/-- Does something with a raw handle, if there is one at that place. -/
def withHandle (place : Nat) (use : RawHandle → Run (DirectSession B) DirectReply) :
    Run (DirectSession B) DirectReply := do
  match (← get).handles[place]? with
  | some handle => use handle
  | none => pure .nothing

/-- Carries out one step. -/
def run : DirectStep → Run (DirectSession B) DirectReply
  | .interpret module source => do
    return .outcome (← inside (Backend.interpret module source))
  | .makeCallHandle signature => do
    match ← inside (World.onVm? (Backend.makeCallHandle · signature)) with
    | .ok handle => return .newHandle (.ok (← keep handle))
    | .error e => return .newHandle (.error e)
  | .call place => withHandle place fun handle => do
    return .result (← inside (Backend.call handle))
  | .releaseHandle place => withHandle place fun handle => do
    inside (World.onVm (Backend.releaseHandle · handle))
    return .nothing
  | .collectGarbage => do
    inside Backend.collectGarbage
    return .nothing
  | .pin slot => do
    let handle ← inside (World.onVm? fun w => pure (Slots.pin w slot))
    match handle with
    | some handle => return .pinned (some (← keep handle))
    | none => return .pinned none
  | .setPinned slot place => withHandle place fun handle => do
    inside (World.onVm (Slots.setPinned · slot handle))
    return .nothing
  | .window step => do
    return .window (← inside (World.onVm? fun w => step.run w))

/-- Frees the machine. -/
def close : Run (DirectSession B) Unit :=
  inside Backend.free

/-- Brings up a machine under a host. -/
def start (host : RecordingHost) (config : Configuration) (machine : B) :
    Except HostError Unit × DirectSession B :=
  let (outcome, machine) := Backend.start config machine
  (outcome, ⟨⟨host, machine⟩, []⟩)

/-- Looks at the machine, whose record starts anew. -/
def look [Inspectable B] (s : DirectSession B) : List Entry × Overview × DirectSession B :=
  let (log, machine) := Inspectable.takeJournal s.world.vm
  (log, Inspectable.overview machine, { s with world := ⟨s.world.host, machine⟩ })

end DirectSession

end ScriptHost
