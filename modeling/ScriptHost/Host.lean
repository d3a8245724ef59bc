/-
The host as a machine sees it.

While a script runs, the machine calls back into its host.  `Host H` is what it may
call; each callback works on the host and, if the callback gets one, on the window of
the machine that calls, whatever machine that is.  A callback may panic, and what it
did until then stays done: `Run` keeps the state beside the outcome.
-/
import ScriptHost.Journal

namespace ScriptHost

/-- A computation on a state that may panic, the state being kept if it does. -/
abbrev Run (σ : Type) (α : Type) := ExceptT Panic (StateM σ) α

/-- A host and the machine that runs on it. -/
structure World (H W : Type) where
  host : H
  vm : W

namespace World

variable {H W : Type}

/-- Changes the machine. -/
def onVm (f : W → W) : Run (World H W) Unit :=
  modify fun world => { world with vm := f world.vm }

/-- Changes the machine in a way that may panic, in which case it stays as it was. -/
def onVm? {α : Type} (f : W → Except Panic (α × W)) : Run (World H W) α := do
  match f (← get).vm with
  | .ok (a, vm) =>
    modify fun world => { world with vm := vm }
    pure a
  | .error p => throw p

/-- Puts something on record. -/
def note [Chronicle W] (entry : Entry) : Run (World H W) Unit :=
  onVm fun vm => Chronicle.note vm entry

end World

/-- The callbacks a machine makes into its host. -/
class Host (H : Type) where
  bindMethod : {W : Type} → [Slots W] → [Chronicle W] →
    (module className : String) → (isStatic : Bool) → (signature : String) →
    Run (World H W) (Option Nat)
  bindClass : {W : Type} → [Slots W] → [Chronicle W] →
    (module className : String) → Run (World H W) (Option Nat)
  invoke : {W : Type} → [Slots W] → [Chronicle W] → (id : Nat) → Run (World H W) Unit
  /-- Slot 0 holds the class on entry and the new instance on exit. -/
  allocate : {W : Type} → [Slots W] → [Chronicle W] → (id : Nat) → Run (World H W) Unit
  finalize : {W : Type} → [Slots W] → [Chronicle W] → (token : Token) → Run (World H W) Unit
  write : {W : Type} → [Slots W] → [Chronicle W] → (text : String) → Run (World H W) Unit
  report : {W : Type} → [Slots W] → [Chronicle W] → (event : StackFrame) →
    Run (World H W) Unit

end ScriptHost
