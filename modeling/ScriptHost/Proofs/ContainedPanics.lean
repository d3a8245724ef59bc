/-
Panics that are contained.

An engine must never see a panic, so every function it is given catches what its host does.  A
method or an allocator that panics is answered with an abort of the fiber, a binder that panics
with no binding, and a panic elsewhere is dropped.  What the host did until then stays done, and
nothing stays locked.

* **`PanickingHost.invoke_onReceiver`** — a method runs on a receiver that is free;
* **`Callback.returns`** — what the functions given to an engine come to, by what the host does;
* **`PanickingHost.carriesOn`** — after anything an engine does, the next calls go through;
* **`panicsContained`** — all of it together, for any engine that does what it is documented to do.
-/
import ScriptHost.Proofs.EngineAborts
import ScriptHost.Proofs.Resumption
import ScriptHost.Scripted.Run

namespace ScriptHost

open Run

namespace HostState

variable {W : Type} {w v : World HostState W} {p : Panic}

/-- A binder that panics binds nothing. -/
theorem eq_of_bindMethod_error {module className signature : String} {isStatic : Bool}
    (h : bindMethod module className isStatic signature w = (.error p, v)) : v = w := by
  rw [bindMethod_apply] at h
  rcases hchosen : w.host.chosenMethod? module className isStatic signature with p | _ | target <;>
    rw [hchosen] at h <;> cases h
  rfl

theorem eq_of_bindClass_error [Chronicle W] {module className : String}
    (h : bindClass module className w = (.error p, v)) : v = w := by
  rw [bindClass_apply] at h
  rcases hchosen : w.host.chosenClass? module className with p | _ | target <;>
    rw [hchosen] at h <;> cases h
  rfl

end HostState

namespace PanickingHost

variable {W : Type} {w : World PanickingHost W}

theorem eq_of_onState_error {α : Type} {run : Run (World HostState W) α} {p : Panic}
    {v : World PanickingHost W}
    (hrun : ∀ {v}, run ⟨w.host.state, w.vm⟩ = (.error p, v) → v = ⟨w.host.state, w.vm⟩)
    (h : onState run w = (.error p, v)) : v = w := by
  unfold onState at h
  rcases hstate : run ⟨w.host.state, w.vm⟩ with ⟨outcome, v'⟩
  rw [hstate] at h
  cases h
  rw [hrun hstate]

variable [Slots W] [Chronicle W]

/-- A method that has its receiver and its arguments runs on the receiver, which is left as the
method leaves it, be it with a panic. -/
theorem invoke_onReceiver {id index : Nat} {b : ForeignBinding} {bound : BoundMethod}
    {receiver : ObjectId} {args : Args} (hid : w.host.state.methods[id]? = some (.bound b index))
    (hbound : b.methods[index]? = some bound) (hinstance : bound.isStatic = false)
    (hreceiver : b.receiver? w.vm w.host.state.foreign w.host.state.objects = some receiver)
    (hfree : w.host.state.objects.isInUse receiver = false)
    (hargs : Coerces w.vm 1 bound.params args) :
    ∃ object, w.host.state.objects.get? receiver = some object ∧
      let ran := w.host.functions.onReceiver bound args object
      let objects := w.host.state.objects.put receiver ran.2
      invoke id w = match ran.1 with
        | .ok r => (.ok (), withObjects w objects (ForeignBinding.answer w.vm r))
        | .error p => (.error p, withObjects w objects w.vm) := by
  obtain ⟨object, hobject⟩ : ∃ object, w.host.state.objects.get? receiver = some object := by
    obtain ⟨token, -, hrest⟩ := Option.bind_eq_some_iff.mp hreceiver
    obtain ⟨id', -, hrest⟩ := Option.bind_eq_some_iff.mp hrest
    obtain ⟨object, hobject, hrest⟩ := Option.bind_eq_some_iff.mp hrest
    split at hrest <;> cases hrest
    exact ⟨object, hobject⟩
  refine ⟨object, hobject, ?_⟩
  have hall := (coerceAll_eq_ok_iff w.vm bound.params 1 args).mpr hargs
  have hfor : b.receiverFor? bound w.vm w.host.state.foreign w.host.state.objects =
      some (some receiver) := by
    rw [ForeignBinding.receiverFor?, hinstance, hreceiver]
    rfl
  have hhold := ObjectStore.hold_apply hobject hfree b.className
    (w.host.functions.onReceiver bound args)
  have hcall : w.host.functions.call b.className bound (some receiver) args
      w.host.state.objects = _ := hhold
  dsimp only
  unfold invoke ForeignBinding.invokeBy
  rw [hid]
  simp only [hbound, hfor, hall, map_apply, hcall]
  rcases (w.host.functions.onReceiver bound args object).1 with p | r <;> rfl

end PanickingHost

section

variable {C V : Type} [EngineApi (StateM C)] [Chronicle C]

attribute [local instance] guardedSlots

/-! ### What an engine gets back -/

/-- The engine is as it was, so far as can be told. -/
structure EngineView.Unchanged (view : EngineView C V) (c c' : C) : Prop where
  ready : view.Ready c → view.Ready c'
  slots : view.slots c' = view.slots c
  fault : view.fault c' = view.fault c

/-- What host code can make of the engine through its window, at whatever point it stops. -/
inductive Worked (c : C) : C → Prop
  | start : Worked c c
  | method {c' : C} {α : Type} (method : SlotMethod α) :
    Worked c c' → Worked c (stateAfter method.perform c')
  | ensure {c' : C} (count : Nat) : Worked c c' → Worked c (Slots.ensure c' count)
  | note {c' : C} (entry : Entry) : Worked c c' → Worked c (Chronicle.note c' entry)

/-- What the engine gets back from a method or an allocator: nothing if it answers, and an abort
with what the panic says if it panics. -/
structure Dispatched {H : Type} (view : EngineView C V) (run : Run (World H C) Unit)
    (w : World H C) (back : Unit × World H C) : Prop where
  answers {v : World H C} : run w = (.ok (), v) → back = ((), v)
  panics {p : Panic} {v : World H C} : run w = (.error p, v) →
    ∃ c, back = ((), ⟨v.host, c⟩) ∧ (view.Ready v.vm → view.AbortedWith v.vm c p.report)

/-- What the engine gets back from the functions it is given.  That something comes back of every
one of them is in their type, which has no panics. -/
structure ComesBack {H : Type} [Host H] (view : EngineView C V) (w : World H C) : Prop where
  method (entry : Nat) : Dispatched view (Host.invoke entry) w (Callback.method entry w)
  allocator (entry : Nat) : Dispatched view (Host.allocate entry) w (Callback.allocator entry w)
  /-- A binder that panics binds nothing. -/
  bindMethod (module className : CText) (isStatic : Bool) (signature : CText) :
    Callback.bindMethod module className isStatic signature w =
      match module.read?, className.read?, signature.read? with
      | some m, some c, some s =>
        match (Host.bindMethod m c isStatic s : Run (World H C) _) w with
        | (.ok target, v) => (target.bind (entryOf? methodEntries), v)
        | (.error _, v) => (none, v)
      | _, _, _ => (none, w)
  bindClass (module className : CText) :
    Callback.bindClass module className w =
      match module.read?, className.read? with
      | some m, some c =>
        match (Host.bindClass m c : Run (World H C) _) w with
        | (.ok target, v) => (Callback.entries (target.bind (entryOf? classEntries)), v)
        | (.error _, v) => (.unbound, v)
      | _, _ => (.unbound, w)
  /-- Of the other functions nothing comes back, and what their callbacks left stays. -/
  finalizer (memory : Option Memory) :
    Callback.finalizer memory w = ((),
      match ForeignCell.read? memory with
      | some cell => ((Host.finalize cell.token : Run (World H C) _) w).2
      | none => w)
  write (text : CText) :
    Callback.write text w = ((),
      match text.read? with
      | some text => ((Host.write text : Run (World H C) _) w).2
      | none => w)
  report (code : Int32) (module : CText) (line : Int32) (message : CText) :
    Callback.report code module line message w = ((),
      match ErrorKind.ofCode? code.toInt with
      | some kind => ((Host.report ⟨kind, module.read?, line.toInt, message.read?.getD ""⟩ :
          Run (World H C) _) w).2
      | none => w)

variable {view : EngineView C V}

namespace Callback

variable {H : Type} {w : World H C}

theorem dispatched (laws : EngineLaws view) (run : Run (World H C) Unit) (w : World H C) :
    Dispatched view run w (dispatch run w) where
  answers hrun := by rw [dispatch_apply, hrun]
  panics {p v} hrun := by
    rw [dispatch_apply, hrun]
    exact ⟨_, rfl, fun hready => laws.abortWith hready p.report⟩

variable [Host H]

theorem returns (laws : EngineLaws view) (w : World H C) : ComesBack view w where
  method entry := dispatched laws _ w
  allocator entry := dispatched laws _ w
  bindMethod module className isStatic signature := by
    -- A text that is missing is answered before the host is asked.
    cases hmodule : module.read? with
    | none => exact bindMethod_of_missing (.inl hmodule) isStatic w
    | some m =>
      cases hclass : className.read? with
      | none => exact bindMethod_of_missing (.inr (.inl hclass)) isStatic w
      | some c =>
        cases hsignature : signature.read? with
        | none => exact bindMethod_of_missing (.inr (.inr hsignature)) isStatic w
        | some s =>
          rw [bindMethod_apply hmodule hclass hsignature, caught_apply]
          dsimp only
          rcases (Host.bindMethod m c isStatic s : Run (World H C) _) w with ⟨_ | _, v⟩ <;> rfl
  bindClass module className := by
    cases hmodule : module.read? with
    | none => exact bindClass_of_missing (.inl hmodule) w
    | some m =>
      cases hclass : className.read? with
      | none => exact bindClass_of_missing (.inr hclass) w
      | some c =>
        rw [bindClass_apply hmodule hclass, caught_apply]
        dsimp only
        rcases (Host.bindClass m c : Run (World H C) _) w with ⟨_ | _, v⟩ <;> rfl
  finalizer memory := by
    unfold Callback.finalizer
    cases ForeignCell.read? memory with
    | none => rfl
    | some cell => exact discard_caught_apply _ w
  write text := by
    unfold Callback.write
    cases text.read? with
    | none => rfl
    | some text => exact discard_caught_apply _ w
  report code module line message := by
    unfold Callback.report
    cases ErrorKind.ofCode? code.toInt with
    | none => rfl
    | some kind => exact discard_caught_apply _ w

end Callback

/-! ### Hosts with functions that may panic -/

theorem EngineLaws.windowSafe (laws : EngineLaws view) : WindowSafe view.Ready where
  frame := laws.frame
  note entry := (laws.note entry).1
  make {c c' token} hmade := by
    cases hmade
    exact laws.perform (.setNewForeign 0 0 token)

theorem EngineLaws.ready_of_worked (laws : EngineLaws view) {c c' : C} (h : Worked c c')
    (hready : view.Ready c) : view.Ready c' := by
  induction h with
  | start => exact hready
  | method method _ ih => exact laws.perform method ih
  | ensure count _ ih => exact laws.grow _ ih
  | note entry _ ih => exact (laws.note entry).1 ih

theorem EngineLaws.unchanged_note (laws : EngineLaws view) {c c' : C} (entry : Entry)
    (h : view.Unchanged c c') : view.Unchanged c (Chronicle.note c' entry) := by
  obtain ⟨hready, hslots, hfault⟩ := laws.note (c := c') entry
  exact ⟨fun hc => hready (h.ready hc), hslots.trans h.slots, hfault.trans h.fault⟩

namespace PanickingHost

/-- How calls go in a state `v` that host and engine came to from `w`. -/
structure CarriesOn (view : EngineView C V) (w v : World PanickingHost C) : Prop where
  ready : view.Ready v.vm
  functions : v.host.functions = w.host.functions
  /-- No object is in use that was not, no target was taken back, and handles were dropped at
  most. -/
  use : w.host.state.objects.SameUse v.host.state.objects
  targets : w.host.state.Extends v.host.state
  handles : w.host.state.handles.Queued v.host.state.handles
  /-- A method that has its receiver and its arguments runs on the receiver. -/
  calls {id index : Nat} {b : ForeignBinding} {bound : BoundMethod} {receiver : ObjectId}
    {args : Args} : v.host.state.methods[id]? = some (.bound b index) →
    b.methods[index]? = some bound → bound.isStatic = false →
    b.receiver? v.vm v.host.state.foreign v.host.state.objects = some receiver →
    w.host.state.objects.isInUse receiver = false → Coerces v.vm 1 bound.params args →
    ∃ object, v.host.state.objects.get? receiver = some object ∧
      let ran := v.host.functions.onReceiver bound args object
      ∃ c, Callback.method id v =
          ((), withObjects v (v.host.state.objects.put receiver ran.2) c) ∧
        match ran.1 with
        | .ok r => c = ForeignBinding.answer v.vm r
        | .error p => view.AbortedWith v.vm c p.report
  /-- A hand-written member gets at every object that was free, and frees it again. -/
  works {α β : Type} [HostType α] {id : ObjectId} {a : α}
    (work : α → ObjectStore → Except Panic β × α × ObjectStore) :
    v.host.state.objects.as? α id = some a → w.host.state.objects.isInUse id = false →
    (v.host.state.objects.update id work).1 =
        some (work a (v.host.state.objects.setInUse id true)).1 ∧
      ((∀ a (t : ObjectStore), t.SameUse (work a t).2.2) →
        v.host.state.objects.SameUse (v.host.state.objects.update id work).2)
  /-- An object that is registered is found under its token, and the others under theirs. -/
  registers (object : ObjectId) (finalizer : Option Finalizer) : w.host.state.foreign.Used →
    let (token, registry) := v.host.state.foreign.register object finalizer
    registry.heap.slots.length ≤ UInt32.size →
    v.host.state.foreign.heap.get? token = none ∧
      ∀ t, registry.heap.get? t =
        if t = token then some ⟨object, finalizer⟩ else v.host.state.foreign.heap.get? t
  /-- A member for which there is a target is bound to it. -/
  binds {module className signature : CText} {m c s : String} {isStatic : Bool}
    {target : MethodTarget} : module.read? = some m → className.read? = some c →
    signature.read? = some s →
    v.host.state.chosenMethod? m c isStatic s = .ok (some target) →
    let (entry, v') := Callback.bindMethod module className isStatic signature v
    entry = entryOf? methodEntries v.host.state.methods.length ∧
      v'.host.state.methods[v.host.state.methods.length]? = some target
  bindsClass {module className : CText} {m c : String} {target : ClassTarget} :
    module.read? = some m → className.read? = some c →
    v.host.state.chosenClass? m c = .ok (some target) →
    let (entries, v') := Callback.bindClass module className v
    entries = Callback.entries (entryOf? classEntries v.host.state.allocators.length) ∧
      v'.host.state.allocators[v.host.state.allocators.length]? = some target

omit [EngineApi (StateM C)] [Chronicle C] in
theorem unchanged_of_quiet {w : World PanickingHost C} {α : Type}
    {run : Run (World HostState C) α}
    (h : HostState.Carries (view.Unchanged w.vm) w.host.state ⟨w.host.state, w.vm⟩ →
      Leads run ⟨w.host.state, w.vm⟩
        (fun _ => HostState.Carries (view.Unchanged w.vm) w.host.state)
        (HostState.Carries (view.Unchanged w.vm) w.host.state)) :
    view.Unchanged w.vm (onState run w).2.vm := by
  have hstart : Carries (view.Unchanged w.vm) w.host w := ⟨rfl, .refl _, id, rfl, rfl⟩
  exact (hstart.onState (h hstart.state)).ends.state.window

theorem carriesOn (laws : EngineLaws view) {w : World PanickingHost C}
    (hready : view.Ready w.vm) {moves : List (EngineMove C)}
    (hwork : ∀ change, .work change ∈ moves → ∀ c, view.Ready c → view.Ready (change c)) :
    CarriesOn view w (EngineMove.performAll w moves) := by
  have hstart : Carries view.Ready w.host w := ⟨rfl, .refl _, hready⟩
  have hcarries := hstart.performAll laws.windowSafe hwork
  -- What the moves were does not matter any more, only what they carried over.
  generalize EngineMove.performAll w moves = v at hcarries
  obtain ⟨hfunctions, ⟨huse, htargets, hhandles, hused⟩, hready⟩ := hcarries
  refine ⟨hready, hfunctions, huse, htargets, hhandles, ?_, ?_, ?_, ?_, ?_⟩
  · intro id index b bound receiver args hid hbound hinstance hreceiver hfree hargs
    obtain ⟨object, hobject, hrun⟩ := invoke_onReceiver hid hbound hinstance hreceiver
      ((huse receiver).trans hfree) hargs
    refine ⟨object, hobject, ?_⟩
    have hmethod : Callback.method id v = _ := Callback.dispatch_apply (invoke id) v
    rw [hmethod, hrun]
    dsimp only
    rcases (v.host.functions.onReceiver bound args object).1 with p | r
    · exact ⟨_, rfl, laws.abortWith hready p.report⟩
    · exact ⟨_, rfl, rfl⟩
  · intro α β _ id a work ha hfree
    exact ⟨ObjectStore.update_apply ha ((huse id).trans hfree) work,
      ObjectStore.sameUse_update _ id work⟩
  · intro object finalizer h hfit
    exact (hused h).get?_register object finalizer hfit
  · intro module className signature m c s isStatic target hmodule hclass hsignature hchosen
    have hbound : (Host.bindMethod m c isStatic s : Run (World PanickingHost C) _) v =
        onState (HostState.bindMethod m c isStatic s) v := rfl
    rw [Callback.bindMethod_apply hmodule hclass hsignature, Callback.caught_apply, hbound]
    unfold onState
    rw [HostState.bindMethod_apply, hchosen]
    exact ⟨rfl, HostState.addMethod_methods _ target⟩
  · intro module className m c target hmodule hclass hchosen
    have hbound : (Host.bindClass m c : Run (World PanickingHost C) _) v =
        onState (HostState.bindClass m c) v := rfl
    rw [Callback.bindClass_apply hmodule hclass, Callback.caught_apply, hbound]
    unfold onState
    rw [HostState.bindClass_apply, hchosen]
    exact ⟨rfl, HostState.addAllocator_allocators _ target⟩

end PanickingHost

/-! ### All of it -/

/-- Panics of host code are contained by an engine of that kind. -/
structure PanicsContained (view : EngineView C V) : Prop where
  /-- Whatever the host is and does, every function comes back, and that is what it comes to. -/
  returns {H : Type} [Host H] (w : World H C) : ComesBack view w
  /-- Wherever host code stops, the engine may be called again. -/
  worked {c c' : C} : Worked c c' → view.Ready c → view.Ready c'
  ready {w : World PanickingHost C} {α : Type} (request : HostRequest α) :
    view.Ready w.vm → view.Ready ((request.run : Run (World PanickingHost C) α) w).2.vm
  /-- A binder that panics leaves everything as it was. -/
  bindMethod {w v : World PanickingHost C} {m c s : String} {isStatic : Bool} {p : Panic} :
    Host.bindMethod m c isStatic s w = (.error p, v) → v = w
  bindClass {w v : World PanickingHost C} {m c : String} {p : Panic} :
    Host.bindClass m c w = (.error p, v) → v = w
  /-- Finalizations, output and reports leave the engine alone, whatever becomes of them. -/
  finalizer (w : World PanickingHost C) (memory : Option Memory) :
    view.Unchanged w.vm (Callback.finalizer memory w).2.vm
  write (w : World PanickingHost C) (text : CText) :
    view.Unchanged w.vm (Callback.write text w).2.vm
  report (w : World PanickingHost C) (code : Int32) (module : CText) (line : Int32)
    (message : CText) : view.Unchanged w.vm (Callback.report code module line message w).2.vm
  /-- Afterwards, and after anything that happens then, the next calls go through. -/
  carriesOn {w : World PanickingHost C} (moves : List (EngineMove C)) : view.Ready w.vm →
    (∀ change, .work change ∈ moves → ∀ c, view.Ready c → view.Ready (change c)) →
    PanickingHost.CarriesOn view w (EngineMove.performAll w moves)
  /-- A host whose functions do what classes say and never panic is the host it is built on. -/
  calls {w : World PanickingHost C} {α : Type} [HostType α] {c : ForeignClass α}
    {b : ForeignBinding} {id index : Nat} : w.host.functions = .total →
    ForeignBinding.of c.describe = .ok b → w.host.state.methods[id]? = some (.bound b index) →
    w.host.state.objects.WellTyped α →
    PanickingHost.invoke id w = PanickingHost.onState (HostState.invoke id) w
  allocates {w : World PanickingHost C} (id : Nat) : w.host.functions = .total →
    PanickingHost.allocate id w = PanickingHost.onState (HostState.allocate id) w

theorem panicsContained (laws : EngineLaws view) : PanicsContained view where
  returns w := Callback.returns laws w
  worked := laws.ready_of_worked
  ready {w α} request hready := by
    have hstart : PanickingHost.Carries view.Ready w.host w := ⟨rfl, .refl _, hready⟩
    exact (hstart.run laws.windowSafe request).ends.state.window
  bindMethod h :=
    PanickingHost.eq_of_onState_error (fun hrun => HostState.eq_of_bindMethod_error hrun) h
  bindClass h :=
    PanickingHost.eq_of_onState_error (fun hrun => HostState.eq_of_bindClass_error hrun) h
  finalizer w memory := by
    rw [(Callback.returns laws w).finalizer memory]
    dsimp only
    -- Only the host can panic, and it is asked only where the memory holds a token.
    cases ForeignCell.read? memory with
    | none => exact ⟨id, rfl, rfl⟩
    | some cell =>
      exact PanickingHost.unchanged_of_quiet fun h =>
        h.finalize laws.unchanged_note cell.token
  write w text := by
    rw [(Callback.returns laws w).write text]
    dsimp only
    cases text.read? with
    | none => exact ⟨id, rfl, rfl⟩
    | some text => exact PanickingHost.unchanged_of_quiet fun h => h.write laws.unchanged_note text
  report w code module line message := by
    rw [(Callback.returns laws w).report code module line message]
    dsimp only
    cases ErrorKind.ofCode? code.toInt with
    | none => exact ⟨id, rfl, rfl⟩
    | some kind => exact PanickingHost.unchanged_of_quiet fun h => h.report laws.unchanged_note _
  carriesOn moves hready hwork := PanickingHost.carriesOn laws hready hwork
  calls htotal hb hid htyped := PanickingHost.invoke_of_total htotal hb hid htyped
  allocates _ htotal := PanickingHost.allocate_of_total htotal

/-- A member that panics after it wrote to the slot after the first. -/
theorem panicsContained_written :
    let host : HostState :=
      { HostState.new .default 0 with methods := [.raw [.set 1 (.bool true), .panic .wordless]] }
    let engine : Scripted.Machine :=
      { Scripted.Machine.new ⟨[], [], false, false, false⟩ with slots := [.null, .null] }
    EngineLaws Scripted.machineView ∧
      ∃ v, Callback.method 0 ⟨host, engine⟩ = ((), v) ∧
        let message := Utf8.encode "Foreign method panicked: unknown panic"
        v.vm.slots = [.string message, .bool true] ∧ v.vm.aborted = some (.string message) := by
  intro host engine
  have hreturns : ComesBack Scripted.machineView (⟨host, engine⟩ : World HostState _) :=
    (panicsContained Scripted.engineLaws).returns _
  obtain ⟨c, hback, haborts⟩ := (hreturns.method 0).panics (p := .wordless) rfl
  have haborted := haborts ⟨rfl, by decide⟩
  exact ⟨Scripted.engineLaws, _, hback, haborted.slots, haborted.fault⟩

end

end ScriptHost
