/-
What a hand-written method or allocator works with: the window of the call and the
foreign objects and handles of its machine.

Slot 0 holds the receiver on entry, or the class inside an allocator, and the answer
on exit; arguments start at slot 1.  An allocator answers with its object instead, so
inside one slot 0 cannot be written, except by aborting.
-/
import ScriptHost.ForeignRegistry
import ScriptHost.Marshal

namespace ScriptHost

/-- The surroundings of one call; `F` is the type of finalizers. -/
structure CallContext (F W : Type) where
  window : W
  foreign : ForeignRegistry F
  objects : ObjectStore
  handles : HandleRegistry
  allocating : Bool
  aborted : Bool

namespace CallContext

variable {F W : Type} [Slots W]

def slotCount (c : CallContext F W) : Nat :=
  Slots.count c.window

/-- The number of arguments, not counting slot 0. -/
def argCount (c : CallContext F W) : Nat :=
  Slots.argCount c.window

def slotType (c : CallContext F W) (slot : Nat) : Except HostError SlotType := do
  checkSlot c.window slot
  pure (Slots.type c.window slot)

/-- Reads a slot. -/
def get (c : CallContext F W) (α : Type) [FromSlot α] (slot : Nat) : Except HostError α :=
  FromSlot.read c.window slot

/-- Refuses slot 0 inside an allocator. -/
def checkWritable (c : CallContext F W) (slot : Nat) : Except HostError Unit :=
  if c.allocating ∧ slot = 0 then throw .allocatorSlot else pure ()

/-- Writes a slot by any writer. -/
def setWith (c : CallContext F W) (slot : Nat) (write : W → Except HostError W) :
    Except HostError (CallContext F W) := do
  c.checkWritable slot
  let window ← write c.window
  pure { c with window := window }

/-- Writes a value of a type into a slot. -/
def set {α : Type} [IntoSlot α] (c : CallContext F W) (slot : Nat) (a : α) :
    Except HostError (CallContext F W) :=
  c.setWith slot (IntoSlot.write · slot a)

/-- Writes a dynamically typed value, handles of this machine included. -/
def setValue (c : CallContext F W) (slot : Nat) (value : HostValue) :
    Except HostError (CallContext F W) :=
  c.setWith slot (writeOwnedValue · slot value c.handles)

/-- Writes the answer of the call. -/
def setReturn {α : Type} [IntoSlot α] (c : CallContext F W) (a : α) :
    Except HostError (CallContext F W) :=
  c.set 0 a

/-- The token of the foreign instance in a slot of the window. -/
def token? (c : CallContext F W) (slot : Nat) : Option Token :=
  if slot < c.slotCount then Slots.token c.window slot else none

/-- The object behind the foreign instance in a slot. -/
def foreign? (c : CallContext F W) (slot : Nat) : Option ObjectId :=
  (c.token? slot).bind c.foreign.resolve?

/-- Works on the value behind the foreign instance in a slot; nothing happens if there is no
live value of the type, or if it is in use. -/
def withForeign {α β : Type} [HostType α] (c : CallContext F W) (slot : Nat)
    (work : α → ObjectStore → β × α × ObjectStore) : Option β × CallContext F W :=
  match c.foreign? slot with
  | none => (none, c)
  | some id =>
    let (answer, objects) := c.objects.update id work
    (answer, { c with objects := objects })

/-- Detaches the object from the instance in a slot. -/
def releaseForeign (c : CallContext F W) (slot : Nat) : Option ObjectId × CallContext F W :=
  match c.token? slot with
  | none => (none, c)
  | some token =>
    let (object, foreign) := c.foreign.release token
    (object, { c with foreign := foreign })

/-- Aborts the calling fiber. -/
def abort (c : CallContext F W) (message : String) : CallContext F W :=
  { c with window := Slots.abortWith c.window message, aborted := true }

/-- A one-line summary. -/
def summary (c : CallContext F W) : String :=
  s!"CallContext \x7b slot_count: {c.slotCount}, aborted: {c.aborted} \x7d"

end CallContext

end ScriptHost
