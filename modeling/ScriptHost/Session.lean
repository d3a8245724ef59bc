/-
Sessions on several virtual machines.

A session is a row of machines and the handles host code keeps by name, which all
machines of the session share.  `Session.run` carries out one step on one of the
machines and says what came of it and what can be seen of the machine afterwards.

Handles are dropped as soon as nobody keeps them: the machine that owns one is told
right after the step in which it was dropped.
-/
import ScriptHost.Inspection
import ScriptHost.VirtualMachine

namespace ScriptHost

/-- One operation on a virtual machine.  Handles go by name, and `K` is the type of requests
that go past the machine's own operations. -/
inductive Operation (K : Type) where
  | bind (c : ClassDescription) (module : String)
  | interpret (module source : String)
  | call (handle : String)
  | makeCallHandle (signature keep : String)
  | getSlotHandle (slot : Nat) (keep : String)
  | setSlotHandle (slot : Nat) (handle : String)
  | releaseHandle (handle : String)
  | ensureSlots (count : Nat)
  | slotCount
  | slotType (slot : Nat)
  | get (slot : Nat) (type : ReadType)
  | set (slot : Nat) (payload : Payload ValueTerm)
  | setValue (slot : Nat) (value : ValueTerm)
  | setNull (slot : Nat)
  | newList (slot : Nat)
  | listCount (slot : Nat)
  | listGet (slot index element : Nat)
  | listInsert (slot : Nat) (index : Int) (element : Nat)
  | getVariable (module name : String) (slot : Nat)
  | abortFiber (slot : Nat)
  | collectGarbage
  | onWrite (subscriber : Subscriber)
  | onError (subscriber : Subscriber)
  | dispose
  | request (request : K)

/-- What is known of a handle. -/
structure HandleInfo where
  id : Nat
  kind : Option HandleKind

/-- A handle reads as released once its machine has forgotten it. -/
def HandleInfo.isReleased (i : HandleInfo) : Bool :=
  i.kind.isNone

/-- A one-line summary. -/
def HandleInfo.summary (i : HandleInfo) : String :=
  s!"Handle \x7b id: {i.id}, released: {i.isReleased} \x7d"

/-- One step of a session. -/
inductive SessionStep (K : Type) where
  | operate (machine : Nat) (operation : Operation K)
  | dropHandle (handle : String)
  | handleInfo (handle : String)
  | reference (handle keep : String)
  | valuesEqual (a b : ValueTerm)
  | display (value : ValueTerm)
  | dropMachine (machine : Nat)

/-- What a step answers. -/
inductive SessionReply where
  | nothing
  | result (value : InterpretResult)
  | handle (info : HandleInfo)
  | natural (value : Nat)
  | type (value : SlotType)
  | reading (value : Reading)
  | window (reply : WindowReply)
  | flag (value : Bool)
  | info (value : Option HandleInfo)
  | text (value : String)
  | freed (overview : Overview) (log : List Entry)

/-- What can be seen of a virtual machine after a step. -/
structure SessionState where
  objects : Nat
  handles : Nat
  methods : Nat
  console : String
  log : List Entry
  disposed : Bool
  overview : Overview

/-- What comes of a step: its outcome, and what can be seen of the machine if the step was an
operation on one. -/
structure SessionAnswer where
  outcome : Except HostError SessionReply
  state : Option SessionState

/-- A session; `log` is what was put on record on any of the machines since it was last looked
at. -/
structure Session (B : Type) where
  machines : List (VirtualMachine B)
  keyring : Keyring
  log : List Entry

namespace Session

section

variable {B K : Type} [Backend B]

open VirtualMachine

/-- The handle of a name; a name nobody keeps reads as a released handle. -/
def named (handle : String) : Op B Handle := do
  match (← get).world.host.keyring.handle? handle with
  | some h => pure h
  | none => throw .handleReleased

/-- Keeps a new handle under a name. -/
def keepHandle (name : String) (h : Handle) : Op B SessionReply := do
  inside (HostState.onHost fun host => { host with keyring := host.keyring.keep name h })
  let entry := (← get).world.host.handles.entry? h.id
  return .handle ⟨h.id, entry.map (·.kind)⟩

/-- The value of a term. -/
def valueOf (value : ValueTerm) : Op B HostValue := do
  return (← get).world.host.keyring.value value

/-- Carries out an operation. -/
def operate (perform : K → Run (World HostState B) WindowReply) :
    Operation K → Op B SessionReply
  | .bind c module => do
    bindForeign c module
    return .nothing
  | .interpret module source => do return .result (← interpret module source)
  | .call handle => do return .result (← call (← named handle))
  | .makeCallHandle signature keep => do
    keepHandle keep (← makeCallHandle signature)
  | .getSlotHandle slot keep => do keepHandle keep (← getSlotHandle slot)
  | .setSlotHandle slot handle => do
    setSlotHandle slot (← named handle)
    return .nothing
  | .releaseHandle handle => do
    releaseHandle (← named handle)
    return .nothing
  | .ensureSlots count => do
    ensureSlots count
    return .nothing
  | .slotCount => do return .natural (← slotCount)
  | .slotType slot => do return .type (← slotType slot)
  | .get slot type => do return .reading (← onWindow (readAs · slot type))
  | .set slot payload => do
    let payload := payload.map (← get).world.host.keyring.value
    changeWindow (writePayload · slot payload)
    return .nothing
  | .setValue slot value => do
    setSlotValue slot (← valueOf value)
    return .nothing
  | .setNull slot => do
    setSlot slot ()
    return .nothing
  | .newList slot => do
    setNewList slot
    return .nothing
  | .listCount slot => do return .natural (← listCount slot)
  | .listGet slot index element => do
    getListElement slot index element
    return .nothing
  | .listInsert slot index element => do
    insertInList slot index element
    return .nothing
  | .getVariable module name slot => do
    getVariable module name slot
    return .nothing
  | .abortFiber slot => do
    abortFiber slot
    return .nothing
  | .collectGarbage => do
    collectGarbage
    return .nothing
  | .onWrite subscriber => do
    onWrite subscriber
    return .nothing
  | .onError subscriber => do
    onError subscriber
    return .nothing
  | .dispose => do
    dispose
    return .nothing
  | .request request => do return .window (← inside (perform request))

end

variable {B K : Type} [Backend B] [Inspectable B]

/-- Moves the record of a machine out of it. -/
def takeJournal (vm : VirtualMachine B) : List Entry × VirtualMachine B :=
  let (log, machine) := Inspectable.takeJournal vm.world.vm
  (log, { vm with world := ⟨vm.world.host, machine⟩ })

/-- Brings up machines in order, the handles of each carrying its place; the first failure is
the outcome. -/
def start (s : Session B) : List (Configuration × B) → Except HostError (Session B)
  | [] => pure s
  | (config, machine) :: specs =>
    match VirtualMachine.new config s.machines.length machine with
    | (.ok (), vm) =>
      let (log, vm) := takeJournal vm
      start { s with machines := s.machines ++ [vm], log := s.log ++ log } specs
    | (.error e, _) => throw e

/-- A session without machines. -/
def empty : Session B :=
  ⟨[], .empty, []⟩

/-- Tells the machines which of their handles have been dropped. -/
def passOnDropped (s : Session B) : Session B :=
  { s with
    machines := s.keyring.dropped.foldl
      (fun machines h => machines.modify h.owner (·.dropHandle h)) s.machines
    keyring := { s.keyring with dropped := [] } }

/-- Runs something on a machine, to which the keyring is lent meanwhile. -/
def onMachine {α : Type} (index : Nat) (run : VirtualMachine.Op B α) :
    Run (Session B) (Except HostError α) := fun s =>
  match s.machines[index]? with
  | none => (.ok (.error .disposed), s)
  | some vm =>
    let lend (keyring : Keyring) (vm : VirtualMachine B) : VirtualMachine B :=
      { vm with world := { vm.world with host := { vm.world.host with keyring := keyring } } }
    let (outcome, vm) := run (lend s.keyring vm)
    let (log, vm) := takeJournal vm
    (outcome, passOnDropped
      { machines := s.machines.set index (lend .empty vm)
        keyring := vm.world.host.keyring
        log := s.log ++ log })

/-- Looks at a machine; the record and the machine's console start anew. -/
def look (index : Nat) : Run (Session B) (Option SessionState) :=
  modifyGet fun s =>
    match s.machines[index]? with
    | none => (none, s)
    | some vm =>
      (some
        { objects := vm.foreignObjectCount
          handles := vm.liveHandleCount
          methods := vm.boundMethodCount
          console := vm.world.host.console
          log := s.log
          disposed := vm.disposed
          overview := Inspectable.overview vm.world.vm },
        { s with
          log := []
          machines := s.machines.set index
            { vm with world := { vm.world with host := { vm.world.host with console := "" } } } })

/-- What is known of the handle of a name. -/
def handleInfo? (s : Session B) (name : String) : Option HandleInfo := do
  let h ← s.keyring.handle? name
  let entry := s.machines[h.owner]?.bind fun vm => vm.world.host.handles.entry? h.id
  pure ⟨h.id, entry.map (·.kind)⟩

/-- Carries out one step. -/
def run (perform : K → Run (World HostState B) WindowReply) :
    SessionStep K → Run (Session B) SessionAnswer
  | .operate index operation => do
    let outcome ← onMachine index (operate perform operation)
    return ⟨outcome, ← look index⟩
  | .dropHandle name => do
    let found ← modifyGet fun s =>
      let (found, keyring) := s.keyring.drop name
      (found, passOnDropped { s with keyring := keyring })
    return ⟨.ok (.flag found), none⟩
  | .handleInfo name => do return ⟨.ok (.info ((← get).handleInfo? name)), none⟩
  | .reference name keep => do
    match (← get).keyring.handle? name with
    | some h =>
      modify fun s => { s with keyring := s.keyring.keepReference keep h.reference }
      return ⟨.ok (.text h.reference.summary), none⟩
    | none => return ⟨.error .handleReleased, none⟩
  | .valuesEqual a b => do
    let k := (← get).keyring
    return ⟨.ok (.flag ((k.value a).equal (k.value b))), none⟩
  | .display value => do
    return ⟨.ok (.text ((← get).keyring.value value).display), none⟩
  | .dropMachine index => do
    let _ ← onMachine index VirtualMachine.dispose
    match ← look index with
    | some state => return ⟨.ok (.freed state.overview state.log), none⟩
    | none => return ⟨.error .disposed, none⟩

end Session

end ScriptHost
