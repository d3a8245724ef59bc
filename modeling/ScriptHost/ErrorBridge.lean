/-
The reports of one run, folded into one error.

A machine reports a compile failure once, and a runtime failure once for the message
and once more for each stack frame.  `ErrorBridge` keeps the error these add up to
until the run is over and `take` collects it.
-/
import ScriptHost.HostError

namespace ScriptHost

/-- The error captured so far. -/
structure ErrorBridge where
  pending : Option VmError
deriving DecidableEq

namespace ErrorBridge

def idle : ErrorBridge :=
  ⟨none⟩

/-- Takes in one report.  The first of several compile errors is kept, a runtime error
replaces what was pending, and a stack frame counts only after a runtime error. -/
def report (b : ErrorBridge) (event : StackFrame) : ErrorBridge :=
  match event.kind, b.pending with
  | .compile, some e => if e.isCompileError then b else ⟨some ⟨event, []⟩⟩
  | .compile, none => ⟨some ⟨event, []⟩⟩
  | .runtime, _ => ⟨some ⟨event, []⟩⟩
  | .stackTrace, some e =>
    if e.isRuntimeError then ⟨some { e with frames := e.frames ++ [event] }⟩ else b
  | .stackTrace, none => b

def hasPending (b : ErrorBridge) : Bool :=
  b.pending.isSome

/-- The error captured since the last time, leaving the bridge idle. -/
def take (b : ErrorBridge) : Option VmError × ErrorBridge :=
  (b.pending, idle)

end ErrorBridge

end ScriptHost
