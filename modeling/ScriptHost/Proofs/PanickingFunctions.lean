/-
Host functions that panic.

A `PanickingHost` is a host whose typed functions are arbitrary, and any of them may panic.  A
method holds its receiver while it runs.  Everything else is as it is in `HostState`, whose
hand-written members, binders, finalizers and subscribers may panic as they are.

Functions that do not panic make it the host it is built on:

* **`PanickingFunctions.call_total`** — a method is called as in its class;
* **`PanickingHost.invoke_of_total`**, **`PanickingHost.allocate_of_total`** — and so the calls and
  the allocations are those of a `HostState`.
-/
import ScriptHost.Proofs.BindingTable
import ScriptHost.Proofs.Dispatch
import ScriptHost.Proofs.DispatchTargets
import ScriptHost.Proofs.HostFunctions
import ScriptHost.Proofs.ObjectsInUse

namespace ScriptHost

open Run

/-! ### The host -/

/-- What the typed functions of a host do, any of which may panic.  A method leaves its receiver as
it is then. -/
structure PanickingFunctions where
  construct : ObjectConstructor → Args → Except Panic (Except ForeignError HostObject)
  onReceiver : BoundMethod → Args → HostObject → Except Panic ForeignReturn × HostObject
  onClass : BoundMethod → Args → Except Panic ForeignReturn

/-- Calls a method on the object behind `receiver`, if it has one. -/
def PanickingFunctions.call (functions : PanickingFunctions) (className : String)
    (bound : BoundMethod) (receiver : Option ObjectId) (args : Args) :
    Run ObjectStore ForeignReturn :=
  match receiver with
  | none => fun objects => (functions.onClass bound args, objects)
  | some id => ObjectStore.hold className id (functions.onReceiver bound args)

/-- A host with functions that may panic. -/
structure PanickingHost where
  state : HostState
  functions : PanickingFunctions

namespace PanickingHost

section

variable {W α : Type}

/-- What a callback does to the state of a host. -/
def onState (run : Run (World HostState W) α) : Run (World PanickingHost W) α := fun w =>
  let (outcome, v) := run ⟨w.host.state, w.vm⟩
  (outcome, ⟨{ w.host with state := v.host }, v.vm⟩)

/-- The world with other objects and another window. -/
def withObjects (w : World PanickingHost W) (objects : ObjectStore) (vm : W) :
    World PanickingHost W :=
  ⟨{ w.host with state := { w.host.state with objects := objects } }, vm⟩

variable [Slots W] [Chronicle W]

/-- Runs the target of a method.  The window is as the function found it, unless it answers. -/
def invoke (id : Nat) : Run (World PanickingHost W) Unit := fun w =>
  match w.host.state.methods[id]? with
  | some (.bound b index) =>
    match b.invokeBy (w.host.functions.call b.className) index w.vm w.host.state.foreign
      w.host.state.objects w.host.state.objects with
    | (.ok vm, objects) => (.ok (), withObjects w objects vm)
    | (.error p, objects) => (.error p, withObjects w objects w.vm)
  | _ => onState (HostState.invoke id) w

/-- Makes the instance of a class. -/
def allocate (id : Nat) : Run (World PanickingHost W) Unit := fun w =>
  match w.host.state.allocators[id]? with
  | some (.bound b) =>
    match b.allocateBy w.host.functions.construct w.vm with
    | .error p => (.error p, w)
    | .ok (none, vm) => (.ok (), { w with vm := vm })
    | .ok (some object, vm) => onState (HostState.placeForeign object none) { w with vm := vm }
  | _ => onState (HostState.allocate id) w

end

instance : Host PanickingHost where
  bindMethod module className isStatic signature :=
    onState (HostState.bindMethod module className isStatic signature)
  bindClass module className := onState (HostState.bindClass module className)
  invoke := invoke
  allocate := allocate
  finalize token := onState (HostState.finalize token)
  write text := onState (HostState.write text)
  report event := onState (HostState.report event)

end PanickingHost

/-! ### Functions that do not panic -/

namespace PanickingFunctions

/-- The functions that classes come with.  What a method does to its receiver is what it does to
the only object there is. -/
def total : PanickingFunctions where
  construct k args := .ok (k.construct args)
  onReceiver bound args object :=
    let (answer, objects) := bound.call (some 0) args ⟨[⟨object, false⟩]⟩
    (.ok answer, (objects.get? 0).getD object)
  onClass bound args := .ok (bound.call none args .empty).1

variable {α : Type} [HostType α] {receiver : Option ObjectId} {objects : ObjectStore}

/-- A method on the only object there is. -/
theorem total_onReceiver (className name : String) (scriptName : Option String)
    (params : List Param) (work : Working α (Option HostValue)) (args : Args) {object : HostObject}
    {a : α} (ha : HostObject.as? α object = some a) :
    total.onReceiver (Method.describe className ⟨name, scriptName, params, .onReceiver work⟩).bind
        args object =
      (.ok (work.answer a args).1, HostObject.of (work.answer a args).2) := by
  have halone : (⟨[⟨object, false⟩]⟩ : ObjectStore).as? α 0 = some a := ha
  have hcall := ForeignBinding.callOnReceiver_eq className work args halone rfl
  show (let (answer, objects) := callOnReceiver className work (some 0) args _
    (Except.ok answer, (objects.get? 0).getD object)) = _
  rw [hcall]
  rfl

/-- A method of a class is called as in the class itself, on a receiver of its type. -/
theorem call_total (className : String) (m : Method α) (args : Args)
    (hstatic : receiver = none → m.invocation.isStatic = true)
    (hreceiver : ∀ id, receiver = some id →
      m.invocation.isStatic = false ∧ ∃ a : α, objects.as? α id = some a) :
    let bound := (m.describe className).bind
    total.call className bound receiver args objects =
      (.ok (bound.call receiver args objects).1, (bound.call receiver args objects).2) := by
  obtain ⟨name, scriptName, params, invocation⟩ := m
  cases receiver with
  | none =>
    cases invocation with
    | onReceiver work => exact Bool.noConfusion (hstatic rfl)
    | onClass work => rfl
  | some id =>
    obtain ⟨hinstance, a, ha⟩ := hreceiver id rfl
    cases invocation with
    | onClass work => cases hinstance
    | onReceiver work =>
      obtain ⟨object, hobject, hvalue⟩ := Option.bind_eq_some_iff.mp ha
      show ObjectStore.hold className id (total.onReceiver (Method.describe className
        ⟨name, scriptName, params, .onReceiver work⟩).bind args) objects =
        (.ok (callOnReceiver className work (some id) args objects).1,
          (callOnReceiver className work (some id) args objects).2)
      -- An object in use is not given to the method; the call is answered for it.
      cases huse : objects.isInUse id with
      | true => simp [ObjectStore.hold, callOnReceiver, hobject, ha, huse]
      | false =>
        rw [ObjectStore.hold_apply hobject huse,
          total_onReceiver className name scriptName params work args hvalue,
          ForeignBinding.callOnReceiver_eq className work args ha huse]

variable {W F : Type} [Slots W] {c : ForeignClass α} {b : ForeignBinding}

/-- A receiver that a method is given is an object of its type. -/
theorem of_receiverFor? {w : W} {registry : ForeignRegistry F} (htyped : objects.WellTyped α)
    (hb : ForeignBinding.of c.describe = .ok b) (m : Method α)
    (hfound : b.receiverFor? (m.describe c.name).bind w registry objects = some receiver) :
    (receiver = none → m.invocation.isStatic = true) ∧
      ∀ id, receiver = some id →
        m.invocation.isStatic = false ∧ ∃ a : α, objects.as? α id = some a := by
  obtain ⟨name, scriptName, params, invocation⟩ := m
  cases invocation with
  | onClass work =>
    cases hfound
    exact ⟨fun _ => rfl, nofun⟩
  | onReceiver work =>
    obtain ⟨id, hid, rfl⟩ := Option.map_eq_some_iff.mp hfound
    obtain ⟨a, ha⟩ := (ForeignBinding.receiver?_eq_some_iff hb htyped id).mp hid
    refine ⟨nofun, ?_⟩
    rintro _ ⟨⟩
    exact ⟨rfl, a, ha.value⟩

/-- A call through the table of a class is the call of the class. -/
theorem invokeBy_total (hb : ForeignBinding.of c.describe = .ok b) (index : Nat) (w : W)
    (registry : ForeignRegistry F) (htyped : objects.WellTyped α) :
    b.invokeBy (total.call b.className) index w registry objects objects =
      (.ok (b.invoke index w registry objects).1, (b.invoke index w registry objects).2) := by
  obtain ⟨hname, -, hmethods⟩ := ForeignBinding.of_eq hb
  unfold ForeignBinding.invokeBy ForeignBinding.invoke
  cases hbound : b.methods[index]? with
  | none => rfl
  | some bound =>
    -- Every bound method is that of one of the methods of the class.
    obtain ⟨m, rfl⟩ : ∃ m : Method α, bound = (m.describe c.name).bind := by
      rw [hmethods, ForeignClass.describe, List.map_map, List.getElem?_map] at hbound
      obtain ⟨m, -, hm⟩ := Option.map_eq_some_iff.mp hbound
      exact ⟨m, hm.symm⟩
    dsimp only
    cases hreceiver : b.receiverFor? (m.describe c.name).bind w registry objects with
    | none => rfl
    | some receiver =>
      dsimp only
      cases coerceAll w 1 (m.describe c.name).bind.params with
      | error found => rfl
      | ok args =>
        obtain ⟨hstatic, hobject⟩ := of_receiverFor? htyped hb m hreceiver
        have hcall := call_total c.name m args hstatic hobject
        dsimp only at hcall ⊢
        rw [hname, map_apply, show c.describe.className = c.name from rfl, hcall]
        rfl

end PanickingFunctions

namespace PanickingHost

variable {W α : Type} [Slots W] [Chronicle W] [HostType α] {c : ForeignClass α}
  {b : ForeignBinding} {w : World PanickingHost W} {id : Nat}

/-- Calls are those of the host it is built on, if the functions are those of the classes. -/
theorem invoke_of_total (htotal : w.host.functions = .total)
    (hb : ForeignBinding.of c.describe = .ok b) {index : Nat}
    (hid : w.host.state.methods[id]? = some (.bound b index))
    (htyped : w.host.state.objects.WellTyped α) :
    invoke id w = onState (HostState.invoke id) w := by
  have hcall := PanickingFunctions.invokeBy_total hb index w.vm w.host.state.foreign htyped
  have hinvoke := HostState.invoke_apply (w := ⟨w.host.state, w.vm⟩) hid
  unfold invoke onState
  rw [hid, htotal, hinvoke]
  dsimp only
  rw [hcall]
  rfl

theorem allocate_of_total (htotal : w.host.functions = .total) :
    allocate id w = onState (HostState.allocate id) w := by
  unfold allocate
  rcases hid : w.host.state.allocators[id]? with _ | b | methods
  · rfl
  -- Constructors that cannot panic make what the class itself makes.
  · have hmade : b.allocateBy w.host.functions.construct w.vm = .ok (b.allocate w.vm) := by
      rw [htotal]
      exact ForeignBinding.allocateBy_pure b w.vm
    have hallocate : HostState.allocate id ⟨w.host.state, w.vm⟩ =
        match b.allocate w.vm with
        | (none, vm) => (.ok (), ⟨w.host.state, vm⟩)
        | (some object, vm) => HostState.placeForeign object none ⟨w.host.state, vm⟩ := by
      unfold HostState.allocate
      rw [get_bind_apply, hid]
      dsimp only
      rcases b.allocate w.vm with ⟨_ | object, vm⟩ <;> rfl
    dsimp only
    unfold onState
    rw [hmade, hallocate]
    rcases b.allocate w.vm with ⟨_ | object, vm⟩ <;> rfl
  · rfl

end PanickingHost

end ScriptHost
