/-
Properties of a host that hold throughout.

A `HostInvariant P` is a property of the host alone that no callback breaks, and neither does
what operations change of a host by themselves: they bind classes, and change whatever else is
not in its tables.  Such a property holds as long as the machine is not disposed of:

* **`HostInvariant.during`** — in the midst of every run;
* **`HostInvariant.after`** — in every state of every life.
-/
import ScriptHost.Proofs.DuringRuns
import ScriptHost.Proofs.HandleLedger
import ScriptHost.Proofs.OperationInvariant

namespace ScriptHost

namespace HostState

/-- The same tables and the same owner of handles. -/
structure SameTables (h h' : HostState) : Prop where
  foreign : h'.foreign = h.foreign
  objects : h'.objects = h.objects
  classes : h'.classes = h.classes
  methods : h'.methods = h.methods
  allocators : h'.allocators = h.allocators
  owner : h'.handles.owner = h.handles.owner

end HostState

/-- A property of a host that neither callbacks nor operations break. -/
structure HostInvariant (P : HostState → Prop) : Prop where
  callbacks : Host.Keeps P
  change {h h' : HostState} : h.SameTables h' → P h → P h'
  bind {h h' : HostState} {module : String} {b : ForeignBinding} :
    h.addBinding module b = some h' → P h → P h'

namespace HandleRegistry

@[simp] theorem owner_queueRelease (r : HandleRegistry) (id : Nat) :
    (r.queueRelease id).owner = r.owner := by
  unfold queueRelease
  cases r.entry? id <;> rfl

@[simp] theorem owner_remove (r : HandleRegistry) (id : Nat) : (r.remove id).2.owner = r.owner := by
  unfold remove
  cases r.entry? id <;> rfl

end HandleRegistry

namespace HostInvariant

open VirtualMachine

variable {P : HostState → Prop}

theorem during (hP : HostInvariant P) {start w : World HostState InMemory.Machine}
    {held₀ held : List InMemory.ScriptValue} (h : InMemory.Continues held₀ start held w)
    (hstart : P start.host) :
    P w.host :=
  (InMemory.invariant_of_keeps hP.callbacks).during hstart h

theorem withHandles (hP : HostInvariant P) {h : HostState} {r : HandleRegistry}
    (howner : r.owner = h.handles.owner) (hh : P h) : P { h with handles := r } :=
  hP.change (h := h) ⟨rfl, rfl, rfl, rfl, rfl, howner⟩ hh

variable {B : Type} [Backend B] {vm : VirtualMachine B}

theorem upheld (hP : HostInvariant P) : Upheld (fun _ => True) (fun _ _ : B => True)
    fun vm => vm.disposed = false → P vm.world.host where
  frame := slotFrame_true
  window _ h := h
  host hsame h halive := hP.change
    ⟨hsame.foreign, hsame.objects, hsame.classes, hsame.methods, hsame.allocators,
      congrArg HandleRegistry.owner hsame.handles⟩ (h halive)
  bind _ _ hadd h halive := hP.bind hadd (h halive)
  entered _ h halive := hP.withHandles rfl (h halive)
  pin _ _ h halive := hP.withHandles rfl (h halive)
  pinNothing _ h := h
  make _ _ h halive := hP.withHandles rfl (h halive)
  makeNothing _ h := h
  release {vm id _} _ _ h halive :=
    hP.withHandles (h := vm.world.host)
      (r := (vm.world.host.handles.remove id).2.takePending.2)
      (vm.world.host.handles.owner_remove id) (h halive)
  drop {vm} handle h halive :=
    hP.withHandles (vm.world.host.handles.owner_queueRelease handle.id) (h halive)

open Op

/-- An operation that runs something does so through the callbacks. -/
theorem leads_run [CallsBackOnly B] (hP : HostInvariant P) {operation : Operation Empty}
    (hrun : isRun operation = true) (h : vm.disposed = false → P vm.world.host) :
    Leads (operate operation) vm (fun _ vm => vm.disposed = false → P vm.world.host)
      fun vm => vm.disposed = false → P vm.world.host := by
  refine Op.leads_run (Q := fun w => P w.host) hrun h (fun halive => ?_)
    (fun module source _ hw => CallsBackOnly.interpret module source hP.callbacks hw)
    (fun raw _ hw => CallsBackOnly.call raw hP.callbacks hw)
    (fun _ hw => CallsBackOnly.collectGarbage hP.callbacks hw)
    (fun _ world hw => ⟨fun _ => hw,
      fun _ _ => hP.change (h := world.host) ⟨rfl, rfl, rfl, rfl, rfl, rfl⟩ hw⟩) ?_
  · have hentered := hP.upheld.entered halive h
    exact ⟨hentered, hentered halive⟩
  -- A machine that is disposed of has nothing left to claim.
  · let claim (vm : VirtualMachine B) : Prop := vm.disposed = false → P vm.world.host
    have hdisposed : ∀ world, claim { vm with world := world, disposed := true } :=
      fun _ halive => by cases halive
    exact Leads.bind (leads_dispose_of_void h hdisposed) fun _ _ h => h

/-- Until a machine is disposed of, its host is what its host was before. -/
theorem after [CallsBackOnly B] (hP : HostInvariant P) (h : vm.disposed = false → P vm.world.host)
    (steps : List Step) (halive : (vm.after steps).disposed = false) :
    P (vm.after steps).world.host :=
  hP.upheld.after (fun hrun h => hP.leads_run hrun h) (fun _ _ _ => trivial) h halive

end HostInvariant

end ScriptHost
