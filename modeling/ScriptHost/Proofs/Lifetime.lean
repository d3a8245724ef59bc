/-
The life of one virtual machine.

A program that uses a virtual machine carries out operations on it, drops handles whenever it
likes, and keeps handles by name; `after` is where a number of such steps lead.  The
operations are those of a session, less the requests that go past them.
-/
import ScriptHost.Proofs.OperationLaws

namespace ScriptHost.VirtualMachine

/-- One step of a program that uses a virtual machine. -/
inductive Step where
  /-- An operation, however it ends. -/
  | operate (operation : Operation Empty)
  /-- A handle is dropped; the handles of other machines do not concern this one. -/
  | drop (handle : Handle)
  /-- The program comes to keep other handles. -/
  | lend (keyring : Keyring)

variable {B : Type} [Backend B]

/-- Carries out an operation of the machine. -/
def operate (operation : Operation Empty) : Op B SessionReply :=
  Session.operate (fun request => nomatch request) operation

/-- Where a step leads. -/
def step (vm : VirtualMachine B) : Step → VirtualMachine B
  | .operate operation => (operate operation vm).2
  | .drop handle =>
    if handle.owner = vm.world.host.handles.owner then vm.dropHandle handle else vm
  | .lend keyring =>
    { vm with world := { vm.world with host := { vm.world.host with keyring := keyring } } }

/-- Where several steps lead. -/
def after (vm : VirtualMachine B) (steps : List Step) : VirtualMachine B :=
  steps.foldl step vm

theorem after_append (vm : VirtualMachine B) (steps steps' : List Step) :
    vm.after (steps ++ steps') = (vm.after steps).after steps' :=
  List.foldl_append

/-- What every step keeps, a life keeps. -/
theorem after_induction {P : VirtualMachine B → Prop} (hstep : ∀ vm step, P vm → P (vm.step step))
    {vm : VirtualMachine B} (hvm : P vm) (steps : List Step) : P (vm.after steps) := by
  induction steps generalizing vm with
  | nil => exact hvm
  | cons step steps ih => exact ih (hstep vm step hvm)

end ScriptHost.VirtualMachine
