/-
Disposal, and what is left afterwards.

Disposing of a virtual machine goes through four stages: every finalizer still due runs, the
bindings are forgotten, every raw handle still owed is given back, and the machine is freed.
Afterwards the virtual machine is at rest: whatever is attempted is refused and changes nothing,
and so do handles that are dropped late and finalizations that come late.  A finalizer that panics
cuts this short: the machine is freed as it is then.

* **`Attempt.perform_of_disposed`** — every operation looks for disposal first;
* **`Emptied.after`** — a machine with nothing left stays so, whatever is done with it;
* **`stages_cleared`**, **`unwinds_cleared`** — the four stages, one by one, and what a panic
  leaves of them;
* **`endsInOrder_after`** — every machine in use, and everything done with it from then on.
-/
import ScriptHost.Proofs.PinnedHandles
import ScriptHost.Proofs.RegisteredObjects

namespace ScriptHost

open InMemory

namespace InMemory

/-- Giving back raw handles of the table is counted. -/
theorem Machine.releasedHandles_releaseAll {raws : List RawHandle} {m : Machine}
    (hwithin : ∀ raw ∈ raws, raw.bits ≠ 0 ∧ raw.bits ≤ m.handles.length) :
    (raws.foldl Backend.releaseHandle m).releasedHandles = m.releasedHandles + raws.length := by
  induction raws generalizing m with
  | nil => rfl
  | cons raw raws ih =>
    obtain ⟨hbits, hlength⟩ := hwithin raw List.mem_cons_self
    have hfirst : (InMemory.releaseHandle m raw).releasedHandles = m.releasedHandles + 1 := by
      unfold InMemory.releaseHandle
      rw [if_neg (by omega)]
    -- A place of the table is emptied, not taken out, so the others are still within it.
    have hlater : ∀ raw' ∈ raws, raw'.bits ≠ 0 ∧
        raw'.bits ≤ (InMemory.releaseHandle m raw).handles.length := by
      intro raw' hraw'
      rw [length_releaseHandle]
      exact hwithin raw' (List.mem_cons_of_mem _ hraw')
    have hrest := ih hlater
    rw [hfirst] at hrest
    rw [List.length_cons]
    exact hrest.trans (by omega)

end InMemory

/-- If no finalizer panics, all are started. -/
theorem started_eq_self {due : List (Finalization Finalizer)}
    (hcalm : ∀ d ∈ due, d.finalizer.panics = false) : started due = due := by
  rcases started_eq_or_panics due with hall | ⟨last, hlast, hpanics⟩
  · exact hall
  · rw [hcalm last ((prefixOf_started due).subset hlast)] at hpanics
    cases hpanics

namespace VirtualMachine

/-! ### What can be attempted -/

/-- An operation on a virtual machine that may be refused, by what it answers. -/
inductive Attempt : Type → Type 1
  | bindForeign (c : ClassDescription) (module : String) : Attempt Unit
  | interpret (module source : String) : Attempt InterpretResult
  | call (method : Handle) : Attempt InterpretResult
  | makeCallHandle (signature : String) : Attempt Handle
  | getSlotHandle (slot : Nat) : Attempt Handle
  | setSlotHandle (slot : Nat) (handle : Handle) : Attempt Unit
  | releaseHandle (handle : Handle) : Attempt Unit
  | ensureSlots (count : Nat) : Attempt Unit
  | slotCount : Attempt Nat
  | slotType (slot : Nat) : Attempt SlotType
  | getSlot (α : Type) [FromSlot α] (slot : Nat) : Attempt α
  | setSlot {α : Type} [IntoSlot α] (slot : Nat) (a : α) : Attempt Unit
  | setSlotValue (slot : Nat) (value : HostValue) : Attempt Unit
  | setNewList (slot : Nat) : Attempt Unit
  | listCount (slot : Nat) : Attempt Nat
  | getListElement (listSlot index elementSlot : Nat) : Attempt Unit
  | insertInList (listSlot : Nat) (index : Int) (elementSlot : Nat) : Attempt Unit
  | getVariable (module name : String) (slot : Nat) : Attempt Unit
  | abortFiber (slot : Nat) : Attempt Unit
  | collectGarbage : Attempt Unit
  | onWrite (subscriber : Subscriber) : Attempt Unit
  | onError (subscriber : Subscriber) : Attempt Unit

section

variable {B α β : Type} [Backend B] {vm : VirtualMachine B}

/-- The operation itself. -/
def Attempt.perform {α : Type} : Attempt α → Op B α
  | .bindForeign c module => VirtualMachine.bindForeign c module
  | .interpret module source => VirtualMachine.interpret module source
  | .call method => VirtualMachine.call method
  | .makeCallHandle signature => VirtualMachine.makeCallHandle signature
  | .getSlotHandle slot => VirtualMachine.getSlotHandle slot
  | .setSlotHandle slot handle => VirtualMachine.setSlotHandle slot handle
  | .releaseHandle handle => VirtualMachine.releaseHandle handle
  | .ensureSlots count => VirtualMachine.ensureSlots count
  | .slotCount => VirtualMachine.slotCount
  | .slotType slot => VirtualMachine.slotType slot
  | @Attempt.getSlot α _ slot => VirtualMachine.getSlot α slot
  | @Attempt.setSlot _ _ slot a => VirtualMachine.setSlot slot a
  | .setSlotValue slot value => VirtualMachine.setSlotValue slot value
  | .setNewList slot => VirtualMachine.setNewList slot
  | .listCount slot => VirtualMachine.listCount slot
  | .getListElement listSlot index elementSlot =>
    VirtualMachine.getListElement listSlot index elementSlot
  | .insertInList listSlot index elementSlot =>
    VirtualMachine.insertInList listSlot index elementSlot
  | .getVariable module name slot => VirtualMachine.getVariable module name slot
  | .abortFiber slot => VirtualMachine.abortFiber slot
  | .collectGarbage => VirtualMachine.collectGarbage
  | .onWrite subscriber => VirtualMachine.onWrite subscriber
  | .onError subscriber => VirtualMachine.onError subscriber

open Op

omit [Backend B] in
theorem onWindow_of_disposed (h : vm.disposed = true) (look : B → Except HostError α) :
    onWindow look vm = (.ok (.error .disposed), vm) :=
  bind_of_error (alive_of_disposed h) _

omit [Backend B] in
theorem changeWindow_of_disposed (h : vm.disposed = true) (change : B → Except HostError B) :
    changeWindow change vm = (.ok (.error .disposed), vm) :=
  bind_of_error (onWindow_of_disposed h change) _

theorem setSlotValue_of_disposed (h : vm.disposed = true) (slot : Nat) (value : HostValue) :
    VirtualMachine.setSlotValue slot value vm = (.ok (.error .disposed), vm) := by
  show changeWindow (writeOwnedValue · slot value vm.world.host.handles) vm = _
  exact changeWindow_of_disposed h _

theorem dispose_of_disposed (h : vm.disposed = true) : dispose vm = (.ok (.ok ()), vm) := by
  show (if vm.disposed then pure () else _ : Op B Unit) vm = _
  rw [if_pos h]
  rfl

/-- Once the machine is disposed of, every operation is refused for that, whatever else is wrong
with it, and changes nothing. -/
theorem Attempt.perform_of_disposed (h : vm.disposed = true) (attempt : Attempt α) :
    attempt.perform vm = (.ok (.error .disposed), vm) := by
  -- Every operation asks first whether the machine is alive, some through the window.
  have halive := alive_of_disposed h
  cases attempt <;> unfold Attempt.perform
  case bindForeign c module => exact bind_of_error halive _
  case interpret module source => exact interpret_of_disposed module source h
  case call method => exact bind_of_error halive _
  case makeCallHandle signature => exact bind_of_error halive _
  case getSlotHandle slot => exact bind_of_error (onWindow_of_disposed h _) _
  case setSlotHandle slot handle => exact setSlotValue_of_disposed h slot _
  case releaseHandle handle => exact bind_of_error halive _
  case ensureSlots count => exact changeWindow_of_disposed h _
  case slotCount => exact onWindow_of_disposed h _
  case slotType slot => exact onWindow_of_disposed h _
  case getSlot α slot => exact onWindow_of_disposed h _
  case setSlot slot a => exact changeWindow_of_disposed h _
  case setSlotValue slot value => exact setSlotValue_of_disposed h slot value
  case setNewList slot => exact changeWindow_of_disposed h _
  case listCount slot => exact onWindow_of_disposed h _
  case getListElement listSlot index elementSlot => exact changeWindow_of_disposed h _
  case insertInList listSlot index elementSlot => exact bind_of_error (onWindow_of_disposed h _) _
  case getVariable module name slot => exact changeWindow_of_disposed h _
  case abortFiber slot => exact changeWindow_of_disposed h _
  case collectGarbage => exact bind_of_error (enter_of_disposed h) _
  case onWrite subscriber => exact bind_of_error halive _
  case onError subscriber => exact bind_of_error halive _

theorem Attempt.andThen_of_disposed (h : vm.disposed = true) (attempt : Attempt β)
    (next : β → Op B α) : ((attempt.perform >>= next) vm).2 = vm := by
  rw [bind_of_error (attempt.perform_of_disposed h)]

omit [Backend B] in
/-- Looking up a name changes nothing. -/
theorem named_bind_of_disposed {name : String} {next : Handle → Op B α}
    (hnext : ∀ handle, (next handle vm).2 = vm) :
    ((Session.named name >>= next) vm).2 = vm := by
  have hnamed := named_apply name vm
  cases hhandle : vm.world.host.keyring.handle? name with
  | none =>
    rw [hhandle] at hnamed
    rw [bind_of_error hnamed]
  | some handle =>
    rw [hhandle] at hnamed
    rw [bind_of_ok hnamed]
    exact hnext handle

/-- Every operation of a session leaves a machine that is disposed of as it is. -/
theorem operate_of_disposed (h : vm.disposed = true) (operation : Operation Empty) :
    (operate operation vm).2 = vm := by
  cases operation with
  | bind c module => exact Attempt.andThen_of_disposed h (.bindForeign c module) _
  | interpret module source => exact Attempt.andThen_of_disposed h (.interpret module source) _
  | call name =>
    exact named_bind_of_disposed fun handle => Attempt.andThen_of_disposed h (.call handle) _
  | makeCallHandle signature keep =>
    exact Attempt.andThen_of_disposed h (.makeCallHandle signature) _
  | getSlotHandle slot keep => exact Attempt.andThen_of_disposed h (.getSlotHandle slot) _
  | setSlotHandle slot name =>
    exact named_bind_of_disposed fun handle =>
      Attempt.andThen_of_disposed h (.setSlotHandle slot handle) _
  | releaseHandle name =>
    exact named_bind_of_disposed fun handle =>
      Attempt.andThen_of_disposed h (.releaseHandle handle) _
  | ensureSlots count => exact Attempt.andThen_of_disposed h (.ensureSlots count) _
  | slotCount => exact Attempt.andThen_of_disposed h .slotCount _
  | slotType slot => exact Attempt.andThen_of_disposed h (.slotType slot) _
  | get slot type =>
    show ((onWindow (readAs · slot type) >>= _ : Op B SessionReply) vm).2 = vm
    rw [bind_of_error (onWindow_of_disposed h _)]
  -- These two take what they name from the keyring first.
  | set slot payload =>
    let value := payload.map vm.world.host.keyring.value
    show ((changeWindow (writePayload · slot value) >>= _ : Op B SessionReply) vm).2 = vm
    rw [bind_of_error (changeWindow_of_disposed h _)]
  | setValue slot value =>
    exact Attempt.andThen_of_disposed h
      (.setSlotValue slot (vm.world.host.keyring.value value)) _
  | setNull slot => exact Attempt.andThen_of_disposed h (.setSlot slot ()) _
  | newList slot => exact Attempt.andThen_of_disposed h (.setNewList slot) _
  | listCount slot => exact Attempt.andThen_of_disposed h (.listCount slot) _
  | listGet slot index element =>
    exact Attempt.andThen_of_disposed h (.getListElement slot index element) _
  | listInsert slot index element =>
    exact Attempt.andThen_of_disposed h (.insertInList slot index element) _
  | getVariable module name slot =>
    exact Attempt.andThen_of_disposed h (.getVariable module name slot) _
  | abortFiber slot => exact Attempt.andThen_of_disposed h (.abortFiber slot) _
  | collectGarbage => exact Attempt.andThen_of_disposed h .collectGarbage _
  | onWrite subscriber => exact Attempt.andThen_of_disposed h (.onWrite subscriber) _
  | onError subscriber => exact Attempt.andThen_of_disposed h (.onError subscriber) _
  | dispose =>
    show ((dispose >>= _ : Op B SessionReply) vm).2 = vm
    rw [bind_of_ok (dispose_of_disposed h)]
    rfl
  | request request => exact request.elim

theorem disposed_after_of_disposed (h : vm.disposed = true) (steps : List Step) :
    (vm.after steps).disposed = true := by
  refine after_induction (P := fun vm => vm.disposed = true) (fun vm step h => ?_) h steps
  cases step with
  | operate operation =>
    show (operate operation vm).2.disposed = true
    rw [operate_of_disposed h operation]
    exact h
  | drop handle =>
    unfold VirtualMachine.step
    dsimp only
    split <;> exact h
  | lend keyring => exact h

/-! ### A machine with nothing left -/

/-- A machine that is disposed of, of which nothing can be changed or found any more. -/
structure AtRest (vm : VirtualMachine B) : Prop where
  disposed : vm.disposed = true
  /-- Every operation is refused because of that, whatever it is given, and changes nothing. -/
  refuses : ∀ {α : Type} (attempt : Attempt α),
    attempt.perform vm = (.ok (.error .disposed), vm)
  /-- Disposing of it again has no effect. -/
  again : dispose vm = (.ok (.ok ()), vm)
  /-- Handles dropped late change nothing. -/
  drops : ∀ handle, vm.dropHandle handle = vm
  /-- Neither do instances that are finalized late. -/
  finalizes : ∀ token, HostState.finalize token vm.world = (.ok (), vm.world)
  objects : vm.foreignObjectCount = 0
  liveHandles : vm.liveHandleCount = 0
  pendingHandles : vm.world.host.handles.pendingCount = 0
  methods : vm.boundMethodCount = 0
  /-- Every handle of the machine reads as released. -/
  released : ∀ handle : Handle, handle.owner = vm.world.host.handles.owner →
    (HandleInfo.mk handle.id
      ((vm.world.host.handles.entry? handle.id).map (·.kind))).isReleased = true

/-- The machine is disposed of, and there are no objects, handles and methods. -/
structure Emptied (vm : VirtualMachine B) : Prop where
  disposed : vm.disposed = true
  foreign : vm.world.host.foreign = .empty
  live : vm.world.host.handles.live = []
  pending : vm.world.host.handles.pending = []
  methods : vm.world.host.methods = []

namespace Emptied

omit [Backend B] in
theorem entry?_eq_none (h : vm.Emptied) (id : Nat) :
    vm.world.host.handles.entry? id = none := by
  rw [HandleRegistry.entry?, h.live]
  rfl

omit [Backend B] in
theorem dropHandle_eq (h : vm.Emptied) (handle : Handle) : vm.dropHandle handle = vm := by
  have hqueue : vm.world.host.handles.queueRelease handle.id = vm.world.host.handles := by
    rw [HandleRegistry.queueRelease, h.entry?_eq_none]
  rw [dropHandle, hqueue]

theorem finalize_eq (h : vm.Emptied) (token : Token) :
    HostState.finalize token vm.world = (.ok (), vm.world) := by
  have hnone : vm.world.host.foreign.finalize token =
      ((false, []), vm.world.host.foreign) := by
    rw [h.foreign]
    rfl
  show ((vm.world.host.foreign.finalize token).1.2.forM
      (HostState.runFinalization fun _ => pure ()))
    { vm.world with
      host := { vm.world.host with foreign := (vm.world.host.foreign.finalize token).2 } } = _
  rw [hnone]
  rfl

theorem atRest (h : vm.Emptied) : vm.AtRest where
  disposed := h.disposed
  refuses attempt := attempt.perform_of_disposed h.disposed
  again := dispose_of_disposed h.disposed
  drops := h.dropHandle_eq
  finalizes := h.finalize_eq
  objects := by
    rw [foreignObjectCount, h.foreign]
    rfl
  liveHandles := by rw [liveHandleCount, HandleRegistry.liveCount, h.live, List.length_nil]
  pendingHandles := by rw [HandleRegistry.pendingCount, h.pending, List.length_nil]
  methods := by rw [boundMethodCount, h.methods, List.length_nil]
  released handle _ := by
    rw [h.entry?_eq_none]
    rfl

theorem step (h : vm.Emptied) (step : Step) : (vm.step step).Emptied := by
  cases step with
  | operate operation =>
    show (operate operation vm).2.Emptied
    rw [operate_of_disposed h.disposed operation]
    exact h
  | drop handle =>
    unfold VirtualMachine.step
    dsimp only
    rw [h.dropHandle_eq, ite_self]
    exact h
  | lend keyring => exact ⟨h.disposed, h.foreign, h.live, h.pending, h.methods⟩

/-- It stays so, whatever is done with it. -/
theorem after (h : vm.Emptied) (steps : List Step) : (vm.after steps).Emptied :=
  after_induction (fun _ step h => h.step step) h steps

end Emptied

end

/-! ### The stages of disposal -/

/-- What disposal makes of `w`, stage by stage, if no finalizer panics. -/
structure Stages (w finalized forgotten released freed : World HostState Machine)
    (runs : List FinalizerRun) : Prop where
  /-- First the objects still registered are finalized. -/
  clears : HostState.clearForeign w = (.ok (), finalized)
  /-- Every finalizer still due runs, once and in the order of the table. -/
  complete : runs.map (·.due) = w.host.foreign.clear.1
  /-- Each is given its object, on a machine that has not been freed. -/
  given : ∀ r ∈ runs, w.host.objects.get? r.due.object = some r.given ∧ r.freed = false
  /-- They leave notes, and find bindings, handles and machine as they were. -/
  emptied : finalized.host = { w.host with foreign := .empty }
  noted : finalized.vm = w.vm.noted runs
  /-- Then the bindings are forgotten. -/
  forgets : forgotten = { finalized with
    host := { finalized.host with methods := [], allocators := [], classes := [] } }
  /-- Then the raw handles are given back, and none is owed any more. -/
  gives : released.vm = w.host.handles.owed.foldl Backend.releaseHandle forgotten.vm
  settles : released.host = { forgotten.host with
    handles := { w.host.handles with live := [], pending := [] } }
  /-- Each of them is given back once, which the machine counts. -/
  once : w.host.handles.owed.Nodup
  counted : released.vm.releasedHandles =
    w.vm.releasedHandles + w.host.handles.owed.length
  /-- Until then those of live handles pin their values, and afterwards none does. -/
  pinned : ∀ x ∈ w.host.handles.live, (forgotten.vm.pinned? x.2.raw).isSome = true
  unpinned : ∀ raw ∈ w.host.handles.owed, released.vm.pinned? raw = none
  /-- Last the machine is freed, which runs no finalizer. -/
  unfreed : released.vm.freed = false
  frees : InMemory.free released = (.ok (), freed)
  gone : freed.vm.freed = true
  silent : freed.vm.finalizations = released.vm.finalizations
  kept : freed.host = released.host

/-- Disposal goes through its stages wherever the objects are there and the handles pinned. -/
theorem stages_cleared {w : World HostState Machine} (hstocked : Stocked w)
    (hpins : Pins w.vm w.host.handles)
    (hcalm : ∀ due ∈ w.host.foreign.clear.1, due.finalizer.panics = false) :
    Stages w w.cleared { w.cleared with host := w.cleared.host.clearBindings }
      (Op.drained w.cleared) (closed w.cleared) w.clearing := by
  have hstarted := started_eq_self hcalm
  have hruns : w.clearing = finalizerRuns w.host.objects w.vm.freed w.host.foreign.clear.1 := by
    rw [World.clearing, hstarted]
  have howed : w.cleared.host.handles.drain.1 = w.host.handles.owed := rfl
  have hrelease := Machine.foldl_releaseHandle w.host.handles.owed w.cleared.vm
  constructor
  case clears => rw [HostState.clearForeign_apply, finalizersOutcome_eq_ok_iff.mpr hcalm]
  -- Every object that is due is in the store, so every finalizer finds it there.
  case complete =>
    rw [hruns]
    refine map_due_finalizerRuns w.vm.freed fun due hdue => ?_
    have hthere := hstocked.within.clear due hdue
    rw [ObjectStore.get?, List.getElem?_eq_getElem hthere]
    rfl
  case given =>
    intro r hr
    rw [hruns] at hr
    obtain ⟨-, hgiven, hfreed⟩ := mem_finalizerRuns.mp hr
    exact ⟨hgiven, hfreed.trans hstocked.unfreed⟩
  case emptied => rfl
  case noted => rfl
  case forgets => rfl
  case gives => rfl
  case settles => rfl
  case once => exact hpins.nodup
  case counted => exact Machine.releasedHandles_releaseAll (m := w.cleared.vm) hpins.within
  case pinned =>
    intro x hx
    obtain ⟨v, hv, -⟩ := hpins.live x hx
    have hpinned : w.cleared.vm.pinned? x.2.raw = some v := hv
    exact Option.isSome_of_eq_some hpinned
  case unpinned => exact fun raw hraw => Machine.pinned?_releaseAll_of_mem w.cleared.vm hraw
  -- Giving handles back frees nothing.
  case unfreed =>
    show (w.host.handles.owed.foldl Backend.releaseHandle w.cleared.vm).freed = false
    rw [hrelease]
    exact hstocked.unfreed
  case frees => exact free_apply rfl _
  case gone => rfl
  case silent => rfl
  case kept => rfl

/-- What disposal makes of `w` if a finalizer panics. -/
structure Unwinds (w freed : World HostState Machine) (runs : List FinalizerRun) : Prop where
  /-- The finalizers up to the first that panics run, once and in the order of the table; those
  behind it never do. -/
  stops : ∃ ahead last behind, w.host.foreign.clear.1 = ahead ++ last :: behind ∧
    (∀ due ∈ ahead, due.finalizer.panics = false) ∧ last.finalizer.panics = true ∧
    runs.map (·.due) = ahead ++ [last]
  /-- Each is given its object, on a machine that has not been freed. -/
  given : ∀ r ∈ runs, w.host.objects.get? r.due.object = some r.given ∧ r.freed = false
  /-- No object is registered any more.  No binding is forgotten, -/
  host : freed.host = { w.host with foreign := .empty }
  /-- and no raw handle is given back before the machine is freed, which runs no finalizer. -/
  machine : freed.vm = (w.vm.noted runs).released

theorem unwinds_cleared {w : World HostState Machine} (hstocked : Stocked w) {p : Panic}
    (hpanics : finalizersOutcome w.host.foreign.clear.1 = .error p) :
    Unwinds w (cutShort w.cleared) w.clearing := by
  obtain ⟨ahead, last, behind, hdue, hcalm, hlast⟩ := exists_append_of_finalizersOutcome hpanics
  -- Started are those ahead and the one that panics.
  have hstarted : started w.host.foreign.clear.1 = ahead ++ [last] := by
    rw [hdue, started_append_of_calm hcalm, started, if_pos hlast]
  constructor
  case stops =>
    refine ⟨ahead, last, behind, hdue, hcalm, hlast, ?_⟩
    rw [World.clearing, hstarted]
    refine map_due_finalizerRuns w.vm.freed fun due hmem => ?_
    have hthere := hstocked.within.clear due
      ((prefixOf_started _).subset (hstarted.symm ▸ hmem))
    rw [ObjectStore.get?, List.getElem?_eq_getElem hthere]
    rfl
  case given =>
    intro r hr
    obtain ⟨-, hgiven, hfreed⟩ := mem_finalizerRuns.mp hr
    exact ⟨hgiven, hfreed.trans hstocked.unfreed⟩
  case host => rfl
  case machine => rfl

/-! ### After disposal -/

/-- Nothing happened since `vm` but that handles were dropped and names lent. -/
structure Idles (vm vm' : VirtualMachine Machine) : Prop where
  disposed : vm'.disposed = vm.disposed
  machine : vm'.world.vm = vm.world.vm
  host : vm'.world.host =
    { vm.world.host with
      handles := vm'.world.host.handles
      keyring := vm'.world.host.keyring }
  handles : vm.world.host.handles.Queued vm'.world.host.handles

/-- Nothing but idling can happen to a machine that is disposed of. -/
theorem idles_after {vm : VirtualMachine Machine} (hdisposed : vm.disposed = true)
    (steps : List Step) : vm.Idles (vm.after steps) := by
  refine after_induction (P := vm.Idles) (fun vm' step h => ?_) ⟨rfl, rfl, rfl, .refl _⟩ steps
  cases step with
  | operate operation =>
    show vm.Idles (operate operation vm').2
    rw [operate_of_disposed (h.disposed.trans hdisposed) operation]
    exact h
  | drop handle =>
    show vm.Idles
      (if handle.owner = vm'.world.host.handles.owner then vm'.dropHandle handle else vm')
    -- A dropped handle is queued for good, as nothing gives it back any more.
    split
    · refine ⟨h.disposed, h.machine, ?_, h.handles.trans ⟨[handle.id], rfl⟩⟩
      have hhost := congrArg (fun host : HostState =>
        { host with handles := vm'.world.host.handles.queueRelease handle.id }) h.host
      exact hhost
    · exact h
  | lend keyring =>
    exact ⟨h.disposed, h.machine, congrArg ({ · with keyring := keyring }) h.host, h.handles⟩

/-- What disposing of a machine in use comes to. -/
structure EndsInOrder (vm : VirtualMachine Machine) : Prop where
  /-- Disposal never fails; it panics if a finalizer that is due does. -/
  outcome : (dispose vm).1 = (finalizersOutcome vm.world.host.foreign.clear.1).map .ok
  /-- From then on every operation is refused and changes nothing, whatever is done in
  between. -/
  refuses : ∀ (later : List Step) {α : Type} (attempt : Attempt α),
    attempt.perform ((dispose vm).2.after later) =
      (.ok (.error .disposed), (dispose vm).2.after later)
  /-- Disposing of the machine again has no effect. -/
  again : ∀ later : List Step, dispose ((dispose vm).2.after later) =
    (.ok (.ok ()), (dispose vm).2.after later)
  /-- Unless a finalizer panics disposal goes through its stages, -/
  whole : (∀ due ∈ vm.world.host.foreign.clear.1, due.finalizer.panics = false) →
    ∃ runs finalized forgotten released freed,
      Stages vm.world finalized forgotten released freed runs ∧
      dispose vm = (.ok (.ok ()), { vm with world := freed, disposed := true })
  /-- and the machine is at rest for good. -/
  rests : (∀ due ∈ vm.world.host.foreign.clear.1, due.finalizer.panics = false) →
    ∀ later : List Step, ((dispose vm).2.after later).AtRest
  /-- If one panics the machine is freed there and then. -/
  interrupted : ∀ p, finalizersOutcome vm.world.host.foreign.clear.1 = .error p →
    ∃ runs freed, Unwinds vm.world freed runs ∧
      dispose vm = (.error p, { vm with world := freed, disposed := true })
  /-- Either way no object is ever registered again and no finalizer runs, and but for handles
  that are dropped late everything stays as disposal left it. -/
  idles : ∀ later : List Step, (dispose vm).2.Idles ((dispose vm).2.after later)
  objects : ∀ later : List Step, ((dispose vm).2.after later).foreignObjectCount = 0

theorem endsInOrder {vm : VirtualMachine Machine} (halive : vm.disposed = false)
    (hstocked : Stocked vm.world) (hpins : vm.PinsHandles) : vm.EndsInOrder := by
  have hdispose := dispose_apply halive
  have hended : (∀ due ∈ vm.world.host.foreign.clear.1, due.finalizer.panics = false) →
      dispose vm =
        (.ok (.ok ()), { vm with world := closed vm.world.cleared, disposed := true }) := by
    intro hcalm
    rw [hdispose, finalizersOutcome_eq_ok_iff.mpr hcalm]
  have hempty : (dispose vm).2.world.host.foreign = .empty := by
    rw [hdispose]
    cases finalizersOutcome vm.world.host.foreign.clear.1 <;> rfl
  have hdisposed : (dispose vm).2.disposed = true := by
    rw [hdispose]
    cases finalizersOutcome vm.world.host.foreign.clear.1 <;> rfl
  constructor
  case outcome =>
    rw [hdispose]
    cases finalizersOutcome vm.world.host.foreign.clear.1 <;> rfl
  case refuses =>
    intro later α attempt
    exact attempt.perform_of_disposed (disposed_after_of_disposed hdisposed later)
  case again =>
    intro later
    exact dispose_of_disposed (disposed_after_of_disposed hdisposed later)
  case whole =>
    intro hcalm
    exact ⟨_, _, _, _, _, stages_cleared hstocked (hpins.pins halive) hcalm, hended hcalm⟩
  case rests =>
    intro hcalm later
    -- The last stage leaves a machine with nothing, and such a machine stays so.
    have hemptied : (dispose vm).2.Emptied := by
      rw [hended hcalm]
      exact ⟨rfl, rfl, rfl, rfl, rfl⟩
    exact (hemptied.after later).atRest
  case interrupted =>
    intro p hpanics
    refine ⟨_, _, unwinds_cleared hstocked hpanics, ?_⟩
    rw [hdispose, hpanics]
  case idles => exact idles_after hdisposed
  case objects =>
    intro later
    have hhost := (idles_after hdisposed later).host
    rw [foreignObjectCount, hhost, hempty]
    rfl

end VirtualMachine

end ScriptHost
