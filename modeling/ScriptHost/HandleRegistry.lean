/-
Persistent references into a machine.

A machine hands out raw handles, which pin a value until they are given back.  The
`HandleRegistry` of a virtual machine keeps track of the ones it owes: those whose
`Handle` is live, and those dropped since the machine was last entered, which can be
given back only while nothing is running and wait in a queue until then.

A `Handle` names its registry by its owner's number, so a handle that strays to
another machine is recognised there.
-/
import ScriptHost.HostError

namespace ScriptHost

/-- A reference as the machine hands it out; zero is never one. -/
structure RawHandle where
  bits : Nat
deriving DecidableEq

/-- The raw handle of an address, if it is not null. -/
def RawHandle.ofBits? (bits : Nat) : Option RawHandle :=
  if bits = 0 then none else some ⟨bits⟩

/-- Its address in hexadecimal. -/
def RawHandle.summary (h : RawHandle) : String :=
  s!"RawHandle(0x{String.ofList (Nat.toDigits 16 h.bits)})"

/-- What a handle refers to: a value, or a method that takes `arity` arguments after the
receiver. -/
inductive HandleKind where
  | value
  | call (arity : Nat)
deriving DecidableEq

/-- An owned reference, by its owner and its number there. -/
structure Handle where
  owner : Nat
  id : Nat
deriving DecidableEq

/-- A reference to a handle that does not own it. -/
structure HandleRef where
  owner : Nat
  id : Nat
deriving DecidableEq

def Handle.reference (h : Handle) : HandleRef :=
  ⟨h.owner, h.id⟩

def HandleRef.summary (h : HandleRef) : String :=
  s!"HandleRef({h.id})"

/-- A live handle. -/
structure HandleEntry where
  raw : RawHandle
  kind : HandleKind
deriving DecidableEq

/-- The handles of one machine: live ones by number, raw ones waiting to be given back, and
the next number. -/
structure HandleRegistry where
  owner : Nat
  live : List (Nat × HandleEntry)
  pending : List RawHandle
  nextId : Nat

namespace HandleRegistry

def empty (owner : Nat) : HandleRegistry :=
  ⟨owner, [], [], 0⟩

/-- Takes charge of a raw handle. -/
def adopt (r : HandleRegistry) (raw : RawHandle) (kind : HandleKind) : Handle × HandleRegistry :=
  (⟨r.owner, r.nextId⟩,
    { r with live := (r.nextId, ⟨raw, kind⟩) :: r.live, nextId := r.nextId + 1 })

def entry? (r : HandleRegistry) (id : Nat) : Option HandleEntry :=
  r.live.lookup id

def raw? (r : HandleRegistry) (id : Nat) : Option RawHandle :=
  (r.entry? id).map (·.raw)

/-- Forgets a handle without giving it back. -/
def forget (r : HandleRegistry) (id : Nat) : HandleRegistry :=
  { r with live := r.live.filter (·.1 ≠ id) }

/-- Forgets a handle that is about to be given back. -/
def remove (r : HandleRegistry) (id : Nat) : Option RawHandle × HandleRegistry :=
  match r.entry? id with
  | some e => (some e.raw, r.forget id)
  | none => (none, r)

/-- The handle was dropped: if it was live, its raw handle waits to be given back. -/
def queueRelease (r : HandleRegistry) (id : Nat) : HandleRegistry :=
  match r.entry? id with
  | some e => { r.forget id with pending := r.pending ++ [e.raw] }
  | none => r

/-- The raw handles waiting to be given back. -/
def takePending (r : HandleRegistry) : List RawHandle × HandleRegistry :=
  (r.pending, { r with pending := [] })

/-- All raw handles still owed, live or waiting. -/
def drain (r : HandleRegistry) : List RawHandle × HandleRegistry :=
  (r.live.map (·.2.raw) ++ r.pending, { r with live := [], pending := [] })

def liveCount (r : HandleRegistry) : Nat :=
  r.live.length

def pendingCount (r : HandleRegistry) : Nat :=
  r.pending.length

end HandleRegistry

end ScriptHost
