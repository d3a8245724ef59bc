/-
Running programs on an engine that follows scripts.

Constructions and invocations call an entry on a window of their own, after which the
former window is back.  Every step leaves a note of what came of it.
-/
import ScriptHost.Inspection
import ScriptHost.Scripted.Machine

namespace ScriptHost.Scripted

variable {H : Type} [Host H]

instance : Slots Machine := guardedSlots

/-- A computation on a host and an engine that follows scripts. -/
abbrev Turn (H : Type) (α : Type) := Contained H Machine α

/-- Changes the machine. -/
def onMachine (f : Machine → Machine) : Turn H Unit :=
  modify fun world => { world with vm := f world.vm }

def note (entry : Entry) : Turn H Unit :=
  onMachine (·.note entry)

/-- Evaluates an expression. -/
def evaluate (module : String) (e : Expr) : Turn H Value :=
  modifyGet fun world =>
    let (value, vm) := world.vm.eval module e
    (value, { world with vm := vm })

/-- Evaluates expressions in order. -/
def evaluateAll (module : String) (es : List Expr) : Turn H (List Value) :=
  modifyGet fun world =>
    let (values, vm) := Machine.eval.evalAll module world.vm es
    (values, { world with vm := vm })

/-- Calls an entry on a window of its own: its error if it aborted, slot 0 otherwise. -/
def callOn (window : List Value) (entry : Turn H Unit) : Turn H (Except Value Value) := do
  let former := (← get).vm.slots
  onMachine fun m => { m with slots := window }
  entry
  modifyGet fun world =>
    (match world.vm.aborted with
      | some error => .error error
      | none => .ok (world.vm.slot 0),
      { world with vm := { world.vm with slots := former, aborted := none } })

/-- Puts what came of a call on record, and stores its value. -/
def conclude (module : String) (store : Option String) : Except Value Value → Turn H Unit
  | .error error => do note (.aborted ((← get).vm.shown error))
  | .ok value => do
    note (.value ((← get).vm.shown value))
    match store with
    | some name => onMachine (·.defineVariable module name value)
    | none => pure ()

/-- Carries out a request several times; the answers in order. -/
def repeated {α : Type} (request : Turn H α) : (times : Nat) → Turn H (List α)
  | 0 => pure []
  | times + 1 => do
    let answer ← request
    let answers ← repeated request times
    pure (answer :: answers)

/-- Finalizes an instance, if its class asks for that. -/
def finalizeInstance (m : Machine) (id : Nat) : Turn H Unit :=
  match m.instances[id]? with
  | some i => if i.info.entries.finalizes then Callback.finalizer i.memory else pure ()
  | none => pure ()

/-- Finalizes the instances nothing refers to any more. -/
def collectGarbage : Turn H Unit := do
  let m := (← get).vm
  let (dead, live) := m.deadAndLive
  onMachine fun m => { m with tracked := live }
  dead.forM (finalizeInstance m)

/-- Carries out one step of a program; the code it ends the program with, if it does. -/
def runStep (module : String) : Step → Turn H (Option Int32)
  | .bindMethod boundModule className isStatic signature method times => do
    let answers ←
      repeated (Callback.bindMethod boundModule className isStatic signature) times
    note (.bound (answers.countP (·.isSome)))
    onMachine fun m =>
      { m with
        bound := (method, answers.getLast?.join) :: m.bound.filter (·.1 ≠ method) }
    return none
  | .bindClass boundModule className name times => do
    let answers ← repeated (Callback.bindClass boundModule className) times
    note (.boundClass (answers.countP (·.allocator.isSome)) (answers.countP (·.finalizes)))
    let info := ⟨name, answers.getLast?.getD .unbound⟩
    onMachine (·.defineVariable module name (.classOf info))
    return none
  | .construct on args store => do
    let on ← evaluate module on
    match on with
    | .classOf info =>
      match info.entries.allocator with
      | some entry =>
        let args ← evaluateAll module args
        conclude module store (← callOn (on :: args) (Callback.allocator entry))
      | none => note (.remark "no allocator")
    | _ => note (.remark "no class")
    return none
  | .invoke method slots store => do
    match ((← get).vm.bound.lookup method).join with
    | some entry =>
      let window ← evaluateAll module slots
      conclude module store (← callOn window (Callback.method entry))
    | none => note (.remark "no method")
    return none
  | .write text => do
    Callback.write text
    return none
  | .report kind reported line message => do
    Callback.report kind reported line message
    return none
  | .finalize class' memory => do
    let finalizes :=
      match ← evaluate module class' with
      | .classOf info => info.entries.finalizes
      | _ => false
    -- The instance takes a number even if nobody finalizes it.
    let _ ← evaluate module (.alien memory)
    if finalizes then Callback.finalizer memory.memory
    note (.finalizer finalizes)
    return none
  | .define name value => do
    let value ← evaluate module value
    onMachine (·.defineVariable module name value)
    return none
  | .setSlot slot value => do
    let value ← evaluate module value
    onMachine (·.setSlot slot value)
    return none
  | .pretendCount count => do
    onMachine ({ · with pretendedCount := count })
    return none
  | .window => do
    note (.slots (← get).vm.shownSlots)
    return none
  | .collectGarbage => do
    collectGarbage
    return none
  | .finish code => return some code

/-- Runs a program to its end; its code is zero unless it ends with another. -/
def runProgram (module : String) : Program → Turn H Int32
  | [] => pure 0
  | step :: steps => do
    match ← runStep module step with
    | some code => pure code
    | none => runProgram module steps

/-- Runs the program of a source text. -/
def interpret (module source : String) : Turn H Int32 := do
  onMachine fun m => { m with slots := [], aborted := none }
  match (← get).vm.scripts.lookup source with
  | some program =>
    let code ← runProgram module program
    onMachine fun m => { m with slots := [] }
    pure code
  | none => pure 1

/-- Runs the program of a method on the window, which is left with one slot. -/
def call (method : RawHandle) : Turn H Int32 := do
  let m := (← get).vm
  match m.pinned? method with
  | some (.method signature) =>
    match m.methods.lookup signature with
    | some program =>
      let code ← runProgram "main" program
      onMachine fun m => { m with slots := m.slots.take 1 }
      pure code
    | none => pure 2
  | _ => pure 2

/-- Frees the machine: every instance not finalized yet is finalized. -/
def free : Turn H Unit := do
  let m := (← get).vm
  onMachine fun m =>
    { m with
      leakedHandles := m.handles.countP (·.isSome)
      tracked := [] }
  m.tracked.forM (finalizeInstance m)
  onMachine fun m => { m with freed := true }

instance : Engine Machine where
  api := inferInstance
  presets := ⟨10, 20, 30⟩
  create settings m :=
    (!m.refusesToStart,
      m.note (.newVm settings.initialSize settings.minSize settings.growthPercent.toInt))
  interpret := interpret
  makeCallHandle m signature :=
    if m.refusesCallHandles then (none, m)
    else
      let (handle, m) := m.pin (.method signature)
      (some handle, m)
  call := call
  releaseHandle m h :=
    if (m.pinned? h).isSome then
      { m with
        handles := m.handles.set (h.bits - 1) none
        releasedHandles := m.releasedHandles + 1 }
    else m
  collectGarbage := collectGarbage
  free := free

instance : Backend Machine := Engine.backend

instance : Inspectable Machine where
  overview m :=
    { released := m.releasedHandles
      freed := m.freed
      leaked := m.leakedHandles
      slots := m.shownSlots
      instances := m.liveInstances
      aborted := m.aborted.map m.shown }
  takeJournal m := (m.journal, { m with journal := [] })

/-- Carries out one step of a program as a request of its own. -/
def perform (step : Step) : Run (World H Machine) WindowReply := do
  return .code (← Contained.lift (runProgram "main" [step]))

end ScriptHost.Scripted
