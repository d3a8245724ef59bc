/-
A host that records what it is called for.

It has no foreign objects and no bindings: which numbers it hands out, what it does with
the window it is given, and which of its callbacks panic is written down beforehand.
-/
import ScriptHost.Host

namespace ScriptHost

/-- One thing a callback does with its window. -/
inductive HostAction where
  | window (step : WindowStep)
  | panic (cause : Panic)

/-- The kinds of callback. -/
inductive CallbackKind where
  | bindMethod | bindClass | invoke | allocate | finalize | write | report
deriving DecidableEq

/-- The name of a kind. -/
def CallbackKind.name : CallbackKind → String
  | .bindMethod => "bind_method"
  | .bindClass => "bind_class"
  | .invoke => "invoke"
  | .allocate => "allocate"
  | .finalize => "finalize"
  | .write => "write"
  | .report => "report"

/-- The kind of a call. -/
def HostCall.kind : HostCall → CallbackKind
  | .bindMethod .. => .bindMethod
  | .bindClass .. => .bindClass
  | .invoke _ => .invoke
  | .allocate _ => .allocate
  | .finalize _ => .finalize
  | .write _ => .write
  | .report _ => .report

/-- What a recording host does when it is called. -/
structure RecordingHost where
  /-- The number of the method bound to a signature. -/
  methods : List (String × Nat)
  /-- The number of a class. -/
  classes : List (String × Nat)
  onInvoke : List (Nat × List HostAction)
  onAllocate : List (Nat × List HostAction)
  /-- The names of the callbacks that panic. -/
  panics : List String

namespace RecordingHost

variable {W : Type} [Slots W] [Chronicle W]

/-- Records a call, and panics if it is to. -/
def record (call : HostCall) : Run (World RecordingHost W) Unit := do
  World.note (.hostCall call)
  if (← get).host.panics.contains call.kind.name then
    throw (.message s!"payload {call.kind.name}")

/-- Carries out actions in order, putting the answer of each on record. -/
def act : List HostAction → Run (World RecordingHost W) Unit
  | [] => pure ()
  | .panic cause :: _ => throw cause
  | .window step :: actions => do
    let reply ← World.onVm? fun w => step.run w
    World.note (.slot reply)
    act actions

instance : Host RecordingHost where
  bindMethod module className isStatic signature := do
    record (.bindMethod module className isStatic signature)
    return (← get).host.methods.lookup signature
  bindClass module className := do
    record (.bindClass module className)
    return (← get).host.classes.lookup className
  invoke id := do
    record (.invoke id)
    act (((← get).host.onInvoke.lookup id).getD [])
  allocate id := do
    record (.allocate id)
    act (((← get).host.onAllocate.lookup id).getD [])
  finalize token := record (.finalize token)
  write text := record (.write text)
  report event := record (.report event)

end RecordingHost

end ScriptHost
