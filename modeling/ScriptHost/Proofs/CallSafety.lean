/-
Calls that reach the machine.

Calling a method by a raw handle is meant for handles that name a method, with a window that
holds the receiver and the arguments; otherwise the machine kept in memory reports an error of
its own or panics.  Once both are as they should be, **`callHandle_apply`** says what a call
does, and neither of these branches is left: a foreign method runs on a window that holds
exactly the receiver and the arguments.

Since every live handle pins what the registry says it stands for, a virtual machine lets no
other calls through, whatever was done with it before: **`VirtualMachine.callsSafely_after`**.
-/
import ScriptHost.Proofs.OperationEquations
import ScriptHost.Proofs.PinnedHandles

namespace ScriptHost

namespace InMemory

variable {H : Type} [Host H] {nested : RawHandle → Turn H InterpretResult} {method : RawHandle}
  {signature : String}

def ScriptValue.isClass : ScriptValue → Bool
  | .classOf _ => true
  | _ => false

/-- Runs a foreign method on the window as it is; its answer is left alone in the window. -/
def serveForeign (signature : String) (method : Nat) : Turn H InterpretResult := do
  Host.invoke method
  match ← finishCall with
  | .ok value =>
    World.onVm fun m => { m with slots := [value] }
    pure .success
  | .error error => raise error [("main", 1, signature)]

/-- Runs a method written as a script, which keeps receiver and arguments alive meanwhile. -/
def serveScript (nested : RawHandle → Turn H InterpretResult) (script : Script)
    (values : List ScriptValue) : Turn H InterpretResult := do
  World.onVm fun m => { m with running := values :: m.running }
  let result ← runScript nested "main" script
  World.onVm fun m => { m with running := m.running.drop 1, slots := m.slots.take 1 }
  pure result

/-- The method a receiver has for a signature, run with what the window holds for it. -/
def serve (nested : RawHandle → Turn H InterpretResult) (signature : String) :
    Turn H InterpretResult := fun w =>
  let receiver := w.vm.slot 0
  let values := w.vm.slots.take (callArity signature + 1)
  match w.vm.classOf? receiver with
  | some info =>
    match info.methods.lookup (receiver.isClass, signature) with
    | some id => serveForeign signature id { w with vm := { w.vm with slots := values } }
    | none => raise (notImplemented signature) [("main", 1, signature)] w
  | none =>
    match w.vm.methods.lookup signature with
    | some script => serveScript nested script values w
    | none => raise (notImplemented signature) [] w

theorem serve_of_foreign {info : ClassInfo} {id : Nat} {w : World H Machine}
    (hclass : w.vm.classOf? (w.vm.slot 0) = some info)
    (hmethod : info.methods.lookup ((w.vm.slot 0).isClass, signature) = some id) :
    serve nested signature w =
      serveForeign signature id
        { w with vm := { w.vm with slots := w.vm.slots.take (callArity signature + 1) } } := by
  simp only [serve, hclass, hmethod]

/-- Receiver and arguments are the first slots of the window. -/
theorem cons_take_drop {m : Machine} {arity : Nat} (h : arity < m.slots.length) :
    m.slot 0 :: (m.slots.drop 1).take arity = m.slots.take (arity + 1) := by
  unfold Machine.slot
  cases hslots : m.slots with
  | nil =>
    rw [hslots] at h
    exact absurd h (Nat.not_lt_zero _)
  | cons v vs => rfl

/-- Invoking a foreign method runs it on receiver and arguments, and takes its answer. -/
theorem invoke_apply {on : ScriptValue} {info : ClassInfo} {isStatic : Bool} {id : Nat}
    {args : List ScriptValue} {w : World H Machine} (hclass : w.vm.classOf? on = some info)
    (hmethod : info.methods.lookup (isStatic, signature) = some id) :
    invoke on isStatic signature args w =
      (Host.invoke id >>= fun _ => finishCall)
        { w with vm := { w.vm with slots := on :: args } } := by
  unfold invoke
  rw [Run.get_bind_apply, hclass, Option.bind_some, hmethod]
  rfl

theorem invoke_bind_apply {on : ScriptValue} {info : ClassInfo} {isStatic : Bool} {id : Nat}
    {args : List ScriptValue} {w : World H Machine} (hclass : w.vm.classOf? on = some info)
    (hmethod : info.methods.lookup (isStatic, signature) = some id) {α : Type}
    (next : Except ScriptValue ScriptValue → Turn H α) :
    (invoke on isStatic signature args >>= next) w =
      (Host.invoke id >>= fun _ => finishCall >>= next)
        { w with vm := { w.vm with slots := on :: args } } := by
  rw [Run.bind_apply, invoke_apply hclass hmethod, ← Run.bind_apply, bind_assoc]

/-- A receiver whose class lacks the method answers with an error. -/
theorem invoke_of_missing {on : ScriptValue} {info : ClassInfo} {isStatic : Bool}
    {args : List ScriptValue} {w : World H Machine} (hclass : w.vm.classOf? on = some info)
    (hmethod : info.methods.lookup (isStatic, signature) = none) :
    invoke on isStatic signature args w = (.ok (.error (notImplemented signature)), w) := by
  unfold invoke
  rw [Run.get_bind_apply, hclass, Option.bind_some, hmethod]
  rfl

/-- A call by a raw handle that names a method runs that method, if the window is large
enough. -/
theorem callHandle_apply {w : World H Machine}
    (hpinned : w.vm.pinned? method = some (.callHandle signature))
    (hwindow : callArity signature < w.vm.slots.length) :
    callHandle nested method w = serve nested signature w := by
  -- With enough slots, the receiver and the arguments are the front of the window.
  have hvalues := cons_take_drop hwindow
  unfold callHandle serve
  rw [Run.get_bind_apply]
  dsimp only
  rw [hpinned]
  dsimp only
  rw [if_neg (Nat.not_le.mpr hwindow)]
  cases hclass : w.vm.classOf? (w.vm.slot 0) with
  | some info =>
    simp only [Option.isSome_some, ↓reduceIte]
    cases hmethod : info.methods.lookup ((w.vm.slot 0).isClass, signature) with
    | some id =>
      rw [hvalues.symm]
      exact invoke_bind_apply hclass hmethod _
    | none =>
      rw [Run.bind_apply]
      exact invoke_of_missing hclass hmethod ▸ rfl
  | none =>
    simp only [Option.isSome_none, Bool.false_eq_true, ↓reduceIte]
    cases w.vm.methods.lookup signature with
    | none => rfl
    | some script =>
      dsimp only
      rw [hvalues]
      rfl

end InMemory

namespace VirtualMachine

open InMemory

variable {vm : VirtualMachine Machine}

theorem slots_entered (vm : VirtualMachine Machine) :
    vm.entered.world.vm.slots = vm.world.vm.slots := by
  show (vm.world.host.handles.pending.foldl Backend.releaseHandle vm.world.vm).slots = _
  rw [Machine.foldl_releaseHandle]

/-- What a virtual machine over a machine kept in memory does when a method is called. -/
structure CallsSafely (vm : VirtualMachine Machine) (method : Handle) : Prop where
  /-- The causes for a refusal, in the order in which they are looked for. -/
  causes : vm.callCauses method =
    let entry := vm.world.host.handles.entry? method.id
    let arity := entry.bind (·.kind.arity?)
    let count := vm.world.vm.slots.length
    [(vm.disposed, .disposed),
      (method.owner ≠ vm.world.host.handles.owner, .foreignHandle),
      (entry.isNone, .handleReleased),
      (arity.isNone, .notACallHandle),
      (arity.any (count ≤ ·), .missingCallArguments (arity.getD 0) count)]
  /-- A call is refused for the first of them that applies, and nothing runs. -/
  refused : ∀ e, vm.callRefusal? method = some e →
    ∃ vm', call method vm = (.ok (.error e), vm') ∧ (vm' = vm ∨ vm' = vm.entered)
  /-- None applies to a live handle of this machine that stands for a method and finds more
  slots in the window than the method takes arguments. -/
  admitted : vm.callRefusal? method = none ↔
    vm.disposed = false ∧ method.owner = vm.world.host.handles.owner ∧
      ∃ raw arity, vm.world.host.handles.entry? method.id = some ⟨raw, .call arity⟩ ∧
        arity < vm.world.vm.slots.length
  /-- Then the call reaches the machine, where its raw handle names a method that takes as many
  arguments as the registry recorded; it is found, and so are its arguments in the window. -/
  reaches : ∀ raw arity, vm.callRefusal? method = none →
    vm.world.host.handles.entry? method.id = some ⟨raw, .call arity⟩ →
    ∃ signature, callArity signature = arity ∧
      vm.entered.world.vm.pinned? raw = some (.callHandle signature) ∧
      call method vm = vm.judged (serve (callNested (callDepth - 1)) signature vm.entered.world)
  /-- A foreign method finds the receiver and, in slots 1 to its arity, the arguments in its
  window, as they were when the call was made, and nothing else. -/
  receives : ∀ nested signature (info : ClassInfo) id,
    vm.entered.world.vm.classOf? (vm.world.vm.slot 0) = some info →
    info.methods.lookup ((vm.world.vm.slot 0).isClass, signature) = some id →
    serve nested signature vm.entered.world =
      serveForeign signature id
        { vm.entered.world with
          vm := { vm.entered.world.vm with
            slots := vm.world.vm.slots.take (callArity signature + 1) } }
  /-- It never fails with one of the errors calls are refused with. -/
  answers : ∀ e, vm.callRefusal? method = none → (call method vm).1 = .ok (.error e) →
    ∃ error, e = .vm error

theorem CallsSafely.of_pinsHandles (h : vm.PinsHandles) (method : Handle) :
    vm.CallsSafely method := by
  have hcount : Slots.count vm.entered.world.vm = vm.world.vm.slots.length :=
    congrArg List.length (slots_entered vm)
  have hadmitted := callRefusal?_eq_none method vm
  rw [hcount] at hadmitted
  refine ⟨?_, fun e he => ?_, hadmitted, fun raw arity hnone hentry => ?_,
    fun nested signature info id hclass hmethod => ?_, fun e hnone he => ?_⟩
  · unfold callCauses
    rw [hcount]
  · rcases call_apply method vm with ⟨e', vm', he', hcall⟩ | ⟨_, _, hnone, -⟩
    · rw [he, Option.some.injEq] at he'
      exact ⟨vm', he' ▸ hcall⟩
    · rw [he] at hnone
      cases hnone
  · rcases call_apply method vm with
      ⟨e, _, he, -⟩ | ⟨raw', arity', -, halive, -, hentry', hwindow, hcall⟩
    · rw [hnone] at he
      cases he
    · rw [hentry, Option.some.injEq, HandleEntry.mk.injEq, HandleKind.call.injEq] at hentry'
      obtain ⟨rfl, rfl⟩ := hentry'
      -- The entry outlives what waits, so its handle pins a method of the recorded arity.
      have hlive : (method.id, ⟨raw, .call arity⟩) ∈ vm.entered.world.host.handles.live :=
        HandleRegistry.mem_live_of_entry (r := vm.world.host.handles) hentry
      obtain ⟨v, hpinned, signature, rfl, rfl⟩ := (h.pins halive).flush.live _ hlive
      refine ⟨signature, rfl, hpinned, hcall.trans ?_⟩
      exact congrArg vm.judged (callHandle_apply hpinned hwindow)
  · have hslot : vm.entered.world.vm.slot 0 = vm.world.vm.slot 0 := by
      unfold Machine.slot
      rw [slots_entered]
    rw [← hslot] at hclass hmethod
    rw [← slots_entered]
    exact serve_of_foreign hclass hmethod
  · rcases call_apply method vm with ⟨e', _, he', -⟩ | ⟨raw, arity, -, -, -, -, -, hcall⟩
    · rw [hnone] at he'
      cases he'
    · exact exists_vm_of_judged_eq_error (hcall ▸ he)

/-- Whatever was done with a virtual machine before, the calls it lets through are fit for its
machine, and all others fail. -/
theorem callsSafely_after (config : Configuration) (owner : Nat) (machine : Machine)
    (steps : List Step) (method : Handle) :
    CallsSafely ((new config owner machine).2.after steps) method :=
  .of_pinsHandles (pins_after config owner machine steps) method

end VirtualMachine

end ScriptHost
