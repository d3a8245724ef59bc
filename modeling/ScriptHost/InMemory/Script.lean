/-
Running scripts on a machine kept in memory.

A script is a list of steps.  Constructions and invocations replace the window by the
receiver and the arguments, call back into the host, and take slot 0 as the answer,
unless the host aborted.  A script can also call a method by a raw handle; what that
runs may be a script again, and the nesting is bounded by `callDepth`, beyond which
the run panics.
-/
import ScriptHost.InMemory.Liveness
import ScriptHost.Signature

namespace ScriptHost.InMemory

variable {H : Type} [Host H]

/-- A computation on a host and a machine kept in memory. -/
abbrev Turn (H : Type) (α : Type) := Run (World H Machine) α

/-- Reports a runtime error: the message, then one frame for each line of the trace. -/
def raise (error : ScriptValue) (trace : List TraceLine) : Turn H InterpretResult := do
  let message :=
    match error with
    | .string bytes => Utf8.decode bytes
    | _ => "Error"
  Host.report ⟨.runtime, none, -1, message⟩
  trace.forM fun (module, line, function) =>
    Host.report ⟨.stackTrace, some module, line, function⟩
  pure .runtimeError

/-- A text as a value. -/
def text (s : String) : ScriptValue :=
  .string (Utf8.encode s)

/-- Ends a call into the host: the error if it aborted, slot 0 otherwise. -/
def finishCall : Turn H (Except ScriptValue ScriptValue) :=
  modifyGet fun world =>
    (match world.vm.aborted with
      | some error => .error error
      | none => .ok (world.vm.slot 0),
      { world with vm := { world.vm with slots := [], aborted := none } })

/-- Makes an instance of a class: its allocator runs with the arguments. -/
def construct (on : ScriptValue) (args : List ScriptValue) :
    Turn H (Except ScriptValue ScriptValue) := do
  match ((← get).vm.classOf? on).bind (·.allocator) with
  | none => pure (.error (text "Class does not have an allocator."))
  | some allocator =>
    World.onVm fun m => { m with slots := on :: args }
    Host.allocate allocator
    finishCall

/-- The error of a receiver without a method. -/
def notImplemented (signature : String) : ScriptValue :=
  text s!"Receiver does not implement '{signature}'."

/-- Calls a foreign method on an instance, or a static one on a class. -/
def invoke (on : ScriptValue) (isStatic : Bool) (signature : String) (args : List ScriptValue) :
    Turn H (Except ScriptValue ScriptValue) := do
  match ((← get).vm.classOf? on).bind (·.methods.lookup (isStatic, signature)) with
  | none => pure (.error (notImplemented signature))
  | some method =>
    World.onVm fun m => { m with slots := on :: args }
    Host.invoke method
    finishCall

/-- Binds the methods of a class, in order; the signature of the first one the host has no
method for. -/
def bindMethods (module className : String) :
    List (Bool × String) → List ((Bool × String) × Nat) →
      Turn H (Except String (List ((Bool × String) × Nat)))
  | [], bound => pure (.ok bound)
  | (isStatic, signature) :: methods, bound => do
    match ← Host.bindMethod module className isStatic signature with
    | some id => bindMethods module className methods (((isStatic, signature), id) :: bound)
    | none => pure (.error signature)

/-- Declares a foreign class, which fails if the host lacks one of its methods. -/
def declareClass (module className : String) (methods : List (Bool × String)) :
    Turn H (Except InterpretResult ScriptValue) := do
  let allocator ← Host.bindClass module className
  match ← bindMethods module className methods [] with
  | .error signature =>
    let message :=
      s!"Could not find foreign method '{signature}' for class {className} in module '{module}'."
    return .error (← raise (text message) [(module, 1, "(script)")])
  | .ok bound =>
    let value := .classOf ⟨className, allocator, bound⟩
    World.onVm (·.defineVariable module className value)
    return .ok value

/-- Finalizes the instances nothing refers to any more. -/
def collectGarbage : Turn H Unit := do
  let m := (← get).vm
  let (dead, live) := m.deadAndLive
  World.onVm fun m => { m with tracked := live }
  (m.tokens dead).forM Host.finalize

/-- Evaluates an expression. -/
def evaluate (module : String) (e : Expr) : Turn H ScriptValue :=
  modifyGet fun world =>
    let (value, vm) := world.vm.eval module e
    (value, { world with vm := vm })

/-- Evaluates expressions in order. -/
def evaluateAll (module : String) : List Expr → Turn H (List ScriptValue)
  | [] => pure []
  | e :: es => do
    let value ← evaluate module e
    let values ← evaluateAll module es
    pure (value :: values)

/-- Puts a value on record, under some heading. -/
def noteValue (heading : Shown → Entry) (value : ScriptValue) : Turn H Unit := do
  World.note (heading ((← get).vm.shown value))

/-- Goes on after a construction or an invocation: records and stores its value, or raises its
error unless the script catches it. -/
def conclude (module : String) (store : Option String) (catches : Bool) (trace : List TraceLine) :
    Except ScriptValue ScriptValue → Turn H (Option InterpretResult)
  | .ok value => do
    noteValue .value value
    match store with
    | some name => World.onVm (·.defineVariable module name value)
    | none => pure ()
    return none
  | .error error => do
    if catches then
      noteValue .caught error
      return none
    else return some (← raise error trace)

/-- Carries out a step on the machine; `call` is what calling by a raw handle does. -/
def runMachineStep (call : RawHandle → Turn H InterpretResult) : MachineStep → Turn H WindowReply
  | .window step => World.onVm? fun m => step.run m
  | .setForeign slot token => do
    World.onVm (·.setForeign slot token)
    pure .nothing
  | .abortMessage => do
    let m := (← get).vm
    pure (.abortMessage m.aborted.isSome m.abortMessage?)
  | .liveInstances => do pure (.natural (← get).vm.liveInstances)
  | .call handle => do pure (.result (← call handle))

/-- Carries out one step of a script, which may end it. -/
def runStep (call : RawHandle → Turn H InterpretResult) (module : String) :
    ScriptStep → Turn H (Option InterpretResult)
  | .define name e => do
    let value ← evaluate module e
    World.onVm (·.defineVariable module name value)
    return none
  | .declare className methods => do
    match ← declareClass module className methods with
    | .ok value =>
      noteValue .declared value
      return none
    | .error result => return some result
  | .construct on args store catches trace => do
    let on ← evaluate module on
    let args ← evaluateAll module args
    conclude module store catches trace (← construct on args)
  | .invoke on isStatic signature args store catches trace => do
    let on ← evaluate module on
    let args ← evaluateAll module args
    conclude module store catches trace (← invoke on isStatic signature args)
  | .print line => do
    Host.write line
    Host.write "\n"
    return none
  | .raise e trace => do
    let error ← evaluate module e
    return some (← raise error trace)
  | .report event => do
    Host.report event
    return none
  | .collectGarbage => do
    collectGarbage
    return none
  | .window => do
    World.note (.slots (← get).vm.shownSlots)
    return none
  | .slot step => do
    let reply ← runMachineStep call step
    World.note (.slot reply)
    return none
  | .finish result => return some result

/-- Runs a script to its end. -/
def runScript (call : RawHandle → Turn H InterpretResult) (module : String) :
    Script → Turn H InterpretResult
  | [] => pure .success
  | step :: steps => do
    match ← runStep call module step with
    | some result => pure result
    | none => runScript call module steps

/-- How deeply calls by raw handle may nest. -/
def callDepth : Nat := 1000

/-- The method a raw handle names, with the receiver and arguments it finds in the window. -/
def callHandle (call : RawHandle → Turn H InterpretResult) (method : RawHandle) :
    Turn H InterpretResult := do
  let m := (← get).vm
  match m.pinned? method with
  | some (.callHandle signature) =>
    let arity := callArity signature
    if m.slots.length ≤ arity then
      throw (.message s!"call of '{signature}' with {m.slots.length} slots")
    let receiver := m.slot 0
    let args := (m.slots.drop 1).take arity
    if (m.classOf? receiver).isSome then
      let isStatic :=
        match receiver with
        | .classOf _ => true
        | _ => false
      match ← invoke receiver isStatic signature args with
      | .ok value =>
        World.onVm fun m => { m with slots := [value] }
        pure .success
      | .error error => raise error [("main", 1, signature)]
    else
      match m.methods.lookup signature with
      | some script =>
        World.onVm fun m => { m with running := (receiver :: args) :: m.running }
        let result ← runScript call "main" script
        World.onVm fun m => { m with running := m.running.drop 1, slots := m.slots.take 1 }
        pure result
      | none => raise (notImplemented signature) []
  | _ => raise (text "Handle is not a call handle.") []

/-- Calls by raw handle nested at most `depth` deep. -/
def callNested : (depth : Nat) → RawHandle → Turn H InterpretResult
  | 0, _ => throw (.message "calls nest too deeply")
  | depth + 1, method => callHandle (callNested depth) method

/-- Calls a method by its raw handle. -/
def call (method : RawHandle) : Turn H InterpretResult :=
  callNested callDepth method

/-- Runs the script of a source text; a source without one does not compile. -/
def interpret (module source : String) : Turn H (Except HostError InterpretResult) := do
  match refuseNul module, refuseNul source with
  | .error e, _ => pure (.error e)
  | .ok (), .error e => pure (.error e)
  | .ok (), .ok () =>
    World.onVm fun m => { m with slots := [], aborted := none }
    let result ←
      match (← get).vm.scripts.lookup source with
      | some script => runScript call module script
      | none =>
        let message := s!"Error at '{source}': Variable is used but not defined."
        Host.report ⟨.compile, some module, 1, message⟩
        pure .compileError
    World.onVm fun m => { m with slots := [] }
    pure (.ok result)

/-- Makes a handle for calling methods by a signature. -/
def makeCallHandle (m : Machine) (signature : String) :
    Except Panic (Except HostError RawHandle × Machine) :=
  match refuseNul signature with
  | .error e => pure (.error e, m)
  | .ok () =>
    if signature = "" then throw (.message "empty call handle signature")
    else if m.refusesCallHandles then pure (.error (.callHandleFailed signature), m)
    else
      let (handle, m) := m.pin (.callHandle signature)
      pure (.ok handle, m)

/-- Takes a raw handle back. -/
def releaseHandle (m : Machine) (h : RawHandle) : Machine :=
  if h.bits = 0 ∨ m.handles.length < h.bits then m
  else
    { m with
      handles := m.handles.set (h.bits - 1) none
      releasedHandles := m.releasedHandles + 1 }

/-- Frees the machine: every instance it still knows is finalized. -/
def free : Turn H Unit := do
  let m := (← get).vm
  World.onVm fun m =>
    { m with
      leakedHandles := m.handles.countP (·.isSome)
      slots := []
      globals := []
      handles := []
      tracked := [] }
  (m.tokens m.tracked).forM Host.finalize
  World.onVm fun m => { m with freed := true }

instance : Backend Machine where
  start _ m := (if m.refusesToStart then .error .failedToCreateVm else .ok (), m)
  interpret := interpret
  makeCallHandle := makeCallHandle
  call := call
  releaseHandle := releaseHandle
  collectGarbage := collectGarbage
  free := free

end ScriptHost.InMemory
