/-
What host code is told when an operation fails.

A failure reported by the machine during a run is a `VmError`: a primary report and
the stack frames that followed it.  Everything else is a misuse of the host's own
making, one constructor of `HostError` for each cause.  The wording of every cause
stands in `HostError.message`.
-/
import ScriptHost.Kinds

namespace ScriptHost

/-- One report of the machine. -/
structure StackFrame where
  kind : ErrorKind
  module : Option String
  line : Int
  message : String
deriving DecidableEq

def StackFrame.display (f : StackFrame) : String :=
  match f.module with
  | some module => s!"[{module} line {f.line}] {f.message}"
  | none => f.message

/-- The failure of one run: its primary report, then the frames reported after it. -/
structure VmError where
  primary : StackFrame
  frames : List StackFrame
deriving DecidableEq

namespace VmError

/-- All frames, the primary one first. -/
def trace (e : VmError) : List StackFrame :=
  e.primary :: e.frames

def isCompileError (e : VmError) : Bool :=
  e.primary.kind = .compile

def isRuntimeError (e : VmError) : Bool :=
  e.primary.kind = .runtime

def display (e : VmError) : String :=
  e.frames.foldl (fun text frame => text ++ "\n  at " ++ frame.display) e.primary.display

end VmError

/-- Why an operation failed. -/
inductive HostError where
  | vm (error : VmError)
  | slotOutOfRange (slot count : Nat)
  | slotTypeMismatch (slot : Nat) (expected : String) (actual : SlotType)
  | listIndexOutOfRange (index : Int) (count : Nat)
  | allocatorSlot
  | unsupportedValue (kind : String)
  | handleReleased
  | foreignHandle
  | notACallHandle
  | missingCallArguments (arity count : Nat)
  | invalidSignature (signature : String)
  | callHandleFailed (signature : String)
  | alreadyBound (module className : String)
  | duplicateSignature (className signature : String)
  | disposed
  | failedToCreateVm
  | stringConversion (position : Nat)
deriving DecidableEq

namespace HostError

def message : HostError → String
  | .vm error => error.display
  | .slotOutOfRange slot count => s!"slot {slot} is outside the current window of {count} slots"
  | .slotTypeMismatch slot expected actual =>
    s!"slot {slot} holds a {actual.name} value, expected {expected}"
  | .listIndexOutOfRange index count =>
    s!"list index {index} is outside a list of {count} elements"
  | .allocatorSlot =>
    "slot 0 holds the class being allocated and cannot be written by an allocator"
  | .unsupportedValue kind =>
    s!"values of kind {kind} cannot be written through the generic slot writer"
  | .handleReleased => "handle has already been released"
  | .foreignHandle => "handle belongs to a different virtual machine"
  | .notACallHandle =>
    "handle refers to a value, not a method; create one with make_call_handle"
  | .missingCallArguments arity count =>
    s!"call needs the receiver and {arity} arguments in slots, but the window holds {count} slots"
  | .invalidSignature signature => s!"'{signature}' is not a method signature"
  | .callHandleFailed signature => s!"the VM could not create a call handle for '{signature}'"
  | .alreadyBound module className =>
    s!"foreign class '{className}' is already bound in module '{module}'"
  | .duplicateSignature className signature =>
    s!"foreign class '{className}' exposes '{signature}' more than once"
  | .disposed => "virtual machine has been disposed"
  | .failedToCreateVm => "failed to create the virtual machine"
  | .stringConversion position =>
    s!"string conversion error: nul byte found in provided data at position: {position}"

/-- The name of a cause. -/
def name : HostError → String
  | .vm _ => "Vm"
  | .slotOutOfRange .. => "SlotOutOfRange"
  | .slotTypeMismatch .. => "SlotTypeMismatch"
  | .listIndexOutOfRange .. => "ListIndexOutOfRange"
  | .allocatorSlot => "AllocatorSlot"
  | .unsupportedValue _ => "UnsupportedValue"
  | .handleReleased => "HandleReleased"
  | .foreignHandle => "ForeignHandle"
  | .notACallHandle => "NotACallHandle"
  | .missingCallArguments .. => "MissingCallArguments"
  | .invalidSignature _ => "InvalidSignature"
  | .callHandleFailed _ => "CallHandleFailed"
  | .alreadyBound .. => "AlreadyBound"
  | .duplicateSignature .. => "DuplicateSignature"
  | .disposed => "Disposed"
  | .failedToCreateVm => "FailedToCreateVm"
  | .stringConversion _ => "StringConversion"

end HostError

end ScriptHost
