/-
The machine as the library drives it.

Besides its window a machine offers entry points.  Those that can run scripts work on
the machine together with its host, whatever host that is, and reach the host through
its callbacks only.
-/
import ScriptHost.Configuration

namespace ScriptHost

/-- A machine. -/
class Backend (B : Type) extends Slots B, Chronicle B where
  /-- Brings the machine up. -/
  start : (config : Configuration) → B → Except HostError Unit × B
  /-- Compiles and runs a source text as a module. -/
  interpret : {H : Type} → [Host H] → (module source : String) →
    Run (World H B) (Except HostError InterpretResult)
  makeCallHandle : B → (signature : String) → Except Panic (Except HostError RawHandle × B)
  /-- Calls a method by its handle; the receiver and the arguments are in the window. -/
  call : {H : Type} → [Host H] → (method : RawHandle) → Run (World H B) InterpretResult
  /-- Takes a raw handle back. -/
  releaseHandle : B → RawHandle → B
  collectGarbage : {H : Type} → [Host H] → Run (World H B) Unit
  /-- Frees the machine, finalizing every instance it still knows. -/
  free : {H : Type} → [Host H] → Run (World H B) Unit

end ScriptHost
