/-
The host of one virtual machine.

`HostState` holds everything the callbacks of one machine touch: bound classes, the
targets handed out for methods and allocators, the foreign objects, the handles, the
error of the run so far, and the subscribers.  A target once handed out stays what it
is until all bindings are forgotten.
-/
import ScriptHost.Binder.ForeignBinding
import ScriptHost.Configuration
import ScriptHost.ErrorBridge

namespace ScriptHost

/-- What a method of a declared class designates. -/
inductive MethodTarget where
  | bound (binding : ForeignBinding) (index : Nat)
  | raw (program : List CallAction)

/-- What makes the instances of a declared class. -/
inductive ClassTarget where
  | bound (binding : ForeignBinding)
  | raw (methods : RawClass)

/-- A subscriber: it leaves a note under its label, then possibly panics. -/
structure Subscriber where
  label : String
  panics : Bool

/-- The host of one machine. -/
structure HostState where
  writeToConsole : Bool
  methodBinder : Option MethodBinder
  classBinder : Option ClassBinder
  /-- Bound host types by module and class name. -/
  classes : List ((String × String) × ForeignBinding)
  methods : List MethodTarget
  allocators : List ClassTarget
  foreign : ForeignRegistry Finalizer
  objects : ObjectStore
  handles : HandleRegistry
  errors : ErrorBridge
  writeSubscribers : List Subscriber
  errorSubscribers : List Subscriber
  /-- What has been printed. -/
  console : String
  /-- The handles hand-written members can reach by name. -/
  keyring : Keyring

namespace HostState

/-- A fresh host; `owner` is the number its handles carry. -/
def new (config : Configuration) (owner : Nat) : HostState where
  writeToConsole := config.writeToConsole
  methodBinder := config.methodBinder
  classBinder := config.classBinder
  classes := []
  methods := []
  allocators := []
  foreign := .empty
  objects := .empty
  handles := .empty owner
  errors := .idle
  writeSubscribers := []
  errorSubscribers := []
  console := ""
  keyring := .empty

/-- The host type bound to a class of a module. -/
def binding? (h : HostState) (module className : String) : Option ForeignBinding :=
  h.classes.lookup (module, className)

/-- Binds a host type in a module, unless its name is taken there. -/
def addBinding (h : HostState) (module : String) (b : ForeignBinding) : Option HostState :=
  match h.binding? module b.className with
  | some _ => none
  | none => some { h with classes := ((module, b.className), b) :: h.classes }

/-- Forgets every bound class and every target. -/
def clearBindings (h : HostState) : HostState :=
  { h with methods := [], allocators := [], classes := [] }

def addMethod (h : HostState) (target : MethodTarget) : Nat × HostState :=
  (h.methods.length, { h with methods := h.methods ++ [target] })

def addAllocator (h : HostState) (target : ClassTarget) : Nat × HostState :=
  (h.allocators.length, { h with allocators := h.allocators ++ [target] })

/-- The method of a bound host type that a request designates. -/
def boundMethod? (h : HostState) (module className : String) (isStatic : Bool)
    (signature : String) : Option MethodTarget := do
  let b ← h.binding? module className
  let index ← b.findMethod? isStatic signature
  pure (.bound b index)

section

variable {W : Type}

/-- The window and host parts a call works on. -/
def callState (world : World HostState W) (allocating : Bool) : CallState Finalizer W where
  context :=
    { window := world.vm
      foreign := world.host.foreign
      objects := world.host.objects
      handles := world.host.handles
      allocating := allocating
      aborted := false }
  keyring := world.host.keyring

/-- The world after a call. -/
def afterCall (world : World HostState W) (s : CallState Finalizer W) : World HostState W where
  host :=
    { world.host with
      foreign := s.context.foreign
      objects := s.context.objects
      handles := s.context.handles
      keyring := s.keyring }
  vm := s.context.window

/-- Changes the host. -/
def onHost (f : HostState → HostState) : Run (World HostState W) Unit :=
  modify fun world => { world with host := f world.host }

/-- Changes the host and answers something. -/
def onHost' {α : Type} (f : HostState → α × HostState) : Run (World HostState W) α :=
  modifyGet fun world => ((f world.host).1, { world with host := (f world.host).2 })

variable [Slots W] [Chronicle W]

/-- Runs a hand-written member: whether it aborted. -/
def runMember (allocating : Bool) (program : List CallAction) :
    Run (World HostState W) Bool := fun world =>
  let (outcome, s) := (runActions program).run.run (callState world allocating)
  (outcome.map fun _ => s.context.aborted, afterCall world s)

/-- Puts an object behind a new instance of the class in slot 0.  It is registered before
the machine allocates. -/
def placeForeign (object : HostObject) (finalizer : Option Finalizer) :
    Run (World HostState W) Unit := do
  let token ← onHost' fun h =>
    let (id, objects) := h.objects.place object
    let (token, foreign) := h.foreign.register id finalizer
    (token, { h with objects := objects, foreign := foreign })
  World.onVm? fun vm => do pure ((), ← Slots.setNewForeign vm 0 0 token)

/-- Runs a finalizer that is due; `reenter` is what its asking for another finalization
leads to. -/
def runFinalization (reenter : Token → Run (World HostState W) Unit)
    (due : Finalization Finalizer) : Run (World HostState W) Unit := do
  let world ← get
  match world.host.objects.get? due.object with
  | some object => World.note (.finalized due.finalizer.name object (Chronicle.freed world.vm))
  | none => pure ()
  match due.finalizer.reenter with
  | some token => reenter token
  | none => pure ()
  if due.finalizer.panics then throw (.message "finalizer")

/-- The machine collected the instance of a token.  The table is busy until the finalizer
has run, so a finalization asked for from inside is ignored. -/
def finalize (token : Token) : Run (World HostState W) Unit := do
  let (_, due) ← onHost' fun h =>
    let (answer, foreign) := h.foreign.finalize token
    (answer, { h with foreign := foreign })
  due.forM (runFinalization fun _ => pure ())

/-- Finalizes every object still registered.  The finalizers run with an empty table in
place. -/
def clearForeign : Run (World HostState W) Unit := do
  let due ← onHost' fun h => ((h.foreign.clear).1, { h with foreign := .empty })
  due.forM (runFinalization finalize)

def bindMethod (module className : String) (isStatic : Bool) (signature : String) :
    Run (World HostState W) (Option Nat) := do
  let h := (← get).host
  match h.boundMethod? module className isStatic signature with
  | some target => some <$> onHost' (·.addMethod target)
  | none =>
    match h.methodBinder with
    | none => pure none
    | some binder =>
      match binder module className isStatic signature with
      | .error p => throw p
      | .ok none => pure none
      | .ok (some program) => some <$> onHost' (·.addMethod (.raw program))

def bindClass (module className : String) : Run (World HostState W) (Option Nat) := do
  let h := (← get).host
  match h.binding? module className with
  | some b => some <$> onHost' (·.addAllocator (.bound b))
  | none =>
    match h.classBinder with
    | none => pure none
    | some binder =>
      match binder module className with
      | .error p => throw p
      | .ok none => pure none
      | .ok (some methods) =>
        World.note (.classMethods false)
        if methods.finalizer.isSome then World.note (.classMethods true)
        some <$> onHost' (·.addAllocator (.raw methods))

/-- Runs the target of a method; one that is no longer there does nothing. -/
def invoke (id : Nat) : Run (World HostState W) Unit := do
  let world ← get
  match world.host.methods[id]? with
  | some (.bound b index) =>
    let (vm, objects) := b.invoke index world.vm world.host.foreign world.host.objects
    set { world with vm := vm, host := { world.host with objects := objects } }
  | some (.raw program) => discard (runMember false program)
  | none => pure ()

/-- Makes the instance of a class: places the object its target answers with, unless the
target aborted. -/
def allocate (id : Nat) : Run (World HostState W) Unit := do
  let world ← get
  match world.host.allocators[id]? with
  | some (.bound b) =>
    let (object, vm) := b.allocate world.vm
    set { world with vm := vm }
    match object with
    | some object => placeForeign object none
    | none => pure ()
  | some (.raw methods) =>
    let aborted ← runMember true methods.program
    match methods.object with
    | some object => if aborted then pure () else placeForeign object methods.finalizer
    | none => pure ()
  | none => pure ()

/-- A subscriber is told something. -/
def tell (s : Subscriber) (entry : Entry) : Run (World HostState W) Unit := do
  World.note entry
  if s.panics then throw (.message s.label)

def write (text : String) : Run (World HostState W) Unit := do
  onHost fun h => if h.writeToConsole then { h with console := h.console ++ text } else h
  (← get).host.writeSubscribers.forM fun s => tell s (.onWrite s.label text)

/-- Takes in a report, then tells the subscribers. -/
def report (event : StackFrame) : Run (World HostState W) Unit := do
  onHost fun h => { h with errors := h.errors.report event }
  (← get).host.errorSubscribers.forM fun s => tell s (.onError s.label event)

end

instance : Host HostState where
  bindMethod := bindMethod
  bindClass := bindClass
  invoke := invoke
  allocate := allocate
  finalize := finalize
  write := write
  report := report

end HostState

end ScriptHost
