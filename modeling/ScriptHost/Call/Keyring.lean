/-
Handles that host code keeps by name.

Several machines may share a `Keyring`: a handle found there need not belong to the
machine it is used on.  Dropping a handle of another machine is noted, to be passed on
to that machine.
-/
import ScriptHost.HostValue

namespace ScriptHost

/-- Handles and references by name, and the handles dropped so far that have not been passed
on to their machines. -/
structure Keyring where
  handles : List (String × Handle)
  references : List (String × HandleRef)
  dropped : List Handle

/-- A value as host code writes it down: literally, or by the name of a handle. -/
inductive ValueTerm where
  | literal (value : HostValue)
  | handle (name : String)
  | reference (name : String)

namespace Keyring

def empty : Keyring :=
  ⟨[], [], []⟩

def handle? (k : Keyring) (name : String) : Option Handle :=
  k.handles.lookup name

/-- Keeps a handle under a name; the one that had the name is dropped. -/
def keep (k : Keyring) (name : String) (handle : Handle) : Keyring :=
  { k with
    handles := (name, handle) :: k.handles.filter (·.1 ≠ name)
    dropped := k.dropped ++ (k.handle? name).toList }

def keepReference (k : Keyring) (name : String) (reference : HandleRef) : Keyring :=
  { k with references := (name, reference) :: k.references.filter (·.1 ≠ name) }

/-- Drops the handle of a name: whether there was one. -/
def drop (k : Keyring) (name : String) : Bool × Keyring :=
  ((k.handle? name).isSome,
    { k with
      handles := k.handles.filter (·.1 ≠ name)
      dropped := k.dropped ++ (k.handle? name).toList })

/-- The value a term stands for; a name that was never given stands for null. -/
def value (k : Keyring) : ValueTerm → HostValue
  | .literal v => v
  | .handle name => ((k.handle? name).map fun h => .handle h.reference).getD .null
  | .reference name => ((k.references.lookup name).map .handle).getD .null

end Keyring

end ScriptHost
