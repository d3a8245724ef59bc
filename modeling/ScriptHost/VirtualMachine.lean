/-
One virtual machine, with everything made against it.

A `VirtualMachine B` is a machine of kind `B`, its host, and whether it has been
disposed of.  Its operations check what they are given: each fails with a `HostError`
or does what it says.  An operation that enters the machine gives back, before
anything else, the handles dropped since the last time.

* **`VirtualMachine.interpret`**, **`VirtualMachine.call`** — run scripts; the errors
  reported meanwhile are folded into one, which is the outcome if so configured.
* **`VirtualMachine.dispose`** — finalizes the foreign objects, forgets the bindings,
  gives back the handles and frees the machine, in this order, unless a finalizer
  panics.  Everything after that fails.
-/
import ScriptHost.Backend
import ScriptHost.HostState

namespace ScriptHost

/-- A machine and its host. -/
structure VirtualMachine (B : Type) where
  world : World HostState B
  disposed : Bool
  raiseOnError : Bool

namespace VirtualMachine

variable {B : Type} [Backend B]

/-- An operation: it may panic, fail with an error, or answer. -/
abbrev Op (B : Type) (α : Type) := ExceptT HostError (Run (VirtualMachine B)) α

/-- Brings up a machine on a fresh host whose handles carry the number `owner`. -/
def new (config : Configuration) (owner : Nat) (machine : B) :
    Except HostError Unit × VirtualMachine B :=
  let (outcome, machine) := Backend.start config machine
  (outcome, ⟨⟨.new config owner, machine⟩, false, config.raiseOnError⟩)

/-- Runs something on machine and host. -/
def inside {α : Type} (run : Run (World HostState B) α) : Op B α := fun vm =>
  let (outcome, world) := run vm.world
  (outcome.map .ok, { vm with world := world })

/-- Fails once the machine is disposed of. -/
def alive : Op B Unit := do
  if (← get).disposed then throw .disposed

/-- A host-side outcome as the outcome of an operation. -/
def ofExcept {α : Type} : Except HostError α → Op B α
  | .ok a => pure a
  | .error e => throw e

/-- Looks at the window. -/
def onWindow {α : Type} (look : B → Except HostError α) : Op B α := do
  alive
  ofExcept (look (← get).world.vm)

/-- Changes the window; a refused change leaves it as it was. -/
def changeWindow (change : B → Except HostError B) : Op B Unit := do
  let machine ← onWindow change
  inside (World.onVm fun _ => machine)

/-- Gives back the raw handles in a list. -/
def giveBack (handles : List RawHandle) : Op B Unit :=
  inside (World.onVm fun machine => handles.foldl Backend.releaseHandle machine)

/-- Enters the machine: the handles dropped since the last time are given back first. -/
def enter : Op B Unit := do
  alive
  giveBack (← inside (HostState.onHost' fun h =>
    (h.handles.takePending.1, { h with handles := h.handles.takePending.2 })))

/-- Takes charge of a raw handle. -/
def adopt (raw : RawHandle) (kind : HandleKind) : Op B Handle :=
  inside (HostState.onHost' fun h =>
    ((h.handles.adopt raw kind).1, { h with handles := (h.handles.adopt raw kind).2 }))

/-- Ends a run: the error captured meanwhile is collected, and is the outcome if errors are
to be raised. -/
def finish (result : InterpretResult) : Op B InterpretResult := do
  let error ← inside (HostState.onHost' fun h =>
    (h.errors.take.1, { h with errors := h.errors.take.2 }))
  match error with
  | some e => if (← get).raiseOnError then throw (.vm e) else pure result
  | none => pure result

/-- Fails for a handle of another machine. -/
def checkOwned (handle : Handle) : Op B Unit := do
  if handle.owner ≠ (← get).world.host.handles.owner then throw .foreignHandle

/-- Exposes a host type to the class declarations of a module. -/
def bindForeign (c : ClassDescription) (module : String) : Op B Unit := do
  alive
  let binding ← ofExcept (ForeignBinding.of c)
  match (← get).world.host.addBinding module binding with
  | some host => inside (HostState.onHost fun _ => host)
  | none => throw (.alreadyBound module c.className)

/-- Compiles and runs a source text as a module. -/
def interpret (module source : String) : Op B InterpretResult := do
  enter
  let result ← ofExcept (← inside (Backend.interpret module source))
  finish result

/-- The entry of a live handle. -/
def liveEntry (handle : Handle) : Op B HandleEntry := do
  match (← get).world.host.handles.entry? handle.id with
  | some entry => pure entry
  | none => throw .handleReleased

/-- Calls a method by its handle; the receiver is in slot 0, the arguments in the slots after
it. -/
def call (method : Handle) : Op B InterpretResult := do
  alive
  checkOwned method
  let entry ← liveEntry method
  match entry.kind with
  | .value => throw .notACallHandle
  | .call arity =>
    enter
    let count := Slots.count (← get).world.vm
    if count ≤ arity then throw (.missingCallArguments arity count)
    let result ← inside (Backend.call entry.raw)
    finish result

/-- A handle for calling methods by a signature. -/
def makeCallHandle (signature : String) : Op B Handle := do
  alive
  if signature = "" then throw (.invalidSignature signature)
  enter
  let raw ← ofExcept (← inside (World.onVm? (Backend.makeCallHandle · signature)))
  adopt raw (.call (callArity signature))

/-- A persistent handle to the value in a slot. -/
def getSlotHandle (slot : Nat) : Op B Handle := do
  onWindow (checkSlot · slot)
  let machine := (← get).world.vm
  let (raw, machine) := Slots.pin machine slot
  inside (World.onVm fun _ => machine)
  match raw with
  | some raw => adopt raw .value
  | none => throw (.slotTypeMismatch slot "a value" (Slots.type machine slot))

/-- Writes a dynamically typed value, handles of this machine included. -/
def setSlotValue (slot : Nat) (value : HostValue) : Op B Unit := do
  let owner := (← get).world.host.handles
  changeWindow (writeOwnedValue · slot value owner)

/-- Writes the value a handle refers to; the handle stays live. -/
def setSlotHandle (slot : Nat) (handle : Handle) : Op B Unit :=
  setSlotValue slot (.handle handle.reference)

/-- Gives a handle back now. -/
def releaseHandle (handle : Handle) : Op B Unit := do
  alive
  checkOwned handle
  let raw ← inside (HostState.onHost' fun h =>
    ((h.handles.remove handle.id).1, { h with handles := (h.handles.remove handle.id).2 }))
  match raw with
  | none => throw .handleReleased
  | some raw =>
    enter
    giveBack [raw]

def ensureSlots (count : Nat) : Op B Unit :=
  changeWindow fun w => pure (Slots.ensure w count)

def slotCount : Op B Nat :=
  onWindow fun w => pure (Slots.count w)

def slotType (slot : Nat) : Op B SlotType :=
  onWindow fun w => do
    checkSlot w slot
    pure (Slots.type w slot)

/-- Reads a slot. -/
def getSlot (α : Type) [FromSlot α] (slot : Nat) : Op B α :=
  onWindow (FromSlot.read · slot)

/-- Writes a slot. -/
def setSlot {α : Type} [IntoSlot α] (slot : Nat) (a : α) : Op B Unit :=
  changeWindow (IntoSlot.write · slot a)

def setNewList (slot : Nat) : Op B Unit :=
  changeWindow fun w => writeChecked w slot (Slots.setNewList · slot)

/-- Refuses a slot outside the window or holding no list. -/
def expectList {W : Type} [Slots W] (w : W) (slot : Nat) : Except HostError Unit :=
  expectType w slot .list "List"

def listCount (slot : Nat) : Op B Nat :=
  onWindow fun w => do
    expectList w slot
    pure (Slots.listCount w slot)

/-- The greatest index that fits a signed word; greater ones are reported as this one. -/
def greatestIndex : Nat := Int64.maxValue.toInt.toNat

/-- Copies an element of a list into a slot. -/
def getListElement (listSlot index elementSlot : Nat) : Op B Unit :=
  changeWindow fun w => do
    expectList w listSlot
    checkSlot w elementSlot
    let count := Slots.listCount w listSlot
    if count ≤ index then throw (.listIndexOutOfRange (min index greatestIndex : Nat) count)
    pure (Slots.getElement w listSlot index elementSlot)

/-- Inserts the value of a slot into a list.  The index runs from `0` to the number of
elements, or from `-1` downward counting from the end, so `-1` appends. -/
def insertInList (listSlot : Nat) (index : Int) (elementSlot : Nat) : Op B Unit := do
  onWindow fun w => do
    expectList w listSlot
    checkSlot w elementSlot
    let count := Slots.listCount w listSlot
    let length : Int := (min count greatestIndex : Nat)
    if length < index ∨ index < -length - 1 then throw (.listIndexOutOfRange index count)
  inside (World.onVm? fun w => do
    pure ((), ← Slots.insertElement w listSlot index elementSlot))

/-- Loads a variable of a module into a slot. -/
def getVariable (module name : String) (slot : Nat) : Op B Unit :=
  changeWindow fun w => do
    checkSlot w slot
    Slots.getVariable w module name slot

/-- Aborts the running fiber with the value in a slot. -/
def abortFiber (slot : Nat) : Op B Unit :=
  changeWindow fun w => writeChecked w slot (Slots.abort · slot)

def collectGarbage : Op B Unit := do
  enter
  inside Backend.collectGarbage

/-- Subscribes to script output. -/
def onWrite (subscriber : Subscriber) : Op B Unit := do
  alive
  inside (HostState.onHost fun h =>
    { h with writeSubscribers := h.writeSubscribers ++ [subscriber] })

/-- Subscribes to error reports. -/
def onError (subscriber : Subscriber) : Op B Unit := do
  alive
  inside (HostState.onHost fun h =>
    { h with errorSubscribers := h.errorSubscribers ++ [subscriber] })

/-- Runs something that holds the machine: if it panics, unwinding frees the machine on the
way out. -/
def holding (run : Run (World HostState B) Unit) : Run (World HostState B) Unit := fun world =>
  match run world with
  | (.ok (), world) => (.ok (), world)
  | (.error p, world) => (.error p, (Backend.free world).2)

/-- Releases everything made against this machine, then the machine itself.  A finalizer that
panics cuts this short: the machine is freed as it is. -/
def dispose : Op B Unit := do
  if (← get).disposed then return
  modify fun vm => { vm with disposed := true }
  inside (holding HostState.clearForeign)
  inside (HostState.onHost (·.clearBindings))
  giveBack (← inside (HostState.onHost' fun h =>
    (h.handles.drain.1, { h with handles := h.handles.drain.2 })))
  inside Backend.free

/-- The number of host objects behind foreign instances. -/
def foreignObjectCount (vm : VirtualMachine B) : Nat :=
  vm.world.host.foreign.size

/-- The number of handles neither released nor dropped. -/
def liveHandleCount (vm : VirtualMachine B) : Nat :=
  vm.world.host.handles.liveCount

/-- The number of foreign methods bound so far. -/
def boundMethodCount (vm : VirtualMachine B) : Nat :=
  vm.world.host.methods.length

/-- A handle of this machine was dropped. -/
def dropHandle (vm : VirtualMachine B) (handle : Handle) : VirtualMachine B :=
  { vm with
    world :=
      { vm.world with
        host :=
          { vm.world.host with handles := vm.world.host.handles.queueRelease handle.id } } }

end VirtualMachine

end ScriptHost
