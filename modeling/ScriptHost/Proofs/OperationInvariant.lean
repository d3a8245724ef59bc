/-
What survives the operations of a virtual machine.

`Upheld fit R P` asks that `P` survives each thing an operation does to a machine that is not
disposed of: changes of the window within a frame `R`, changes of the host that leave objects,
bindings, handles and errors alone, bindings of classes that are `fit`, and the comings and
goings of handles.  Running scripts, collecting garbage and disposing are left to whoever
asks; `Op.leads_run` says what it comes to.  Then `P` survives every operation, however it ends:

* **`Upheld.operate`** — one operation;
* **`Upheld.after`** — a life.
-/
import ScriptHost.Proofs.Lifetime

namespace ScriptHost.VirtualMachine

variable {B : Type} [Backend B]

/-- The operations that run scripts, collect garbage or dispose of the machine. -/
def isRun {K : Type} : Operation K → Bool
  | .interpret .. | .call .. | .collectGarbage | .dispose => true
  | _ => false

open Op in
/-- What survives an operation that runs something: `P`, if `Q` survives the running and gives
back `P`. -/
theorem Op.leads_run {P : VirtualMachine B → Prop} {Q : World HostState B → Prop}
    {vm : VirtualMachine B} {operation : Operation Empty} (hrun : isRun operation = true)
    (h : P vm) (hentered : vm.disposed = false → P vm.entered ∧ Q vm.entered.world)
    (hinterpret : ∀ module source world, Q world →
      Run.Leads (Backend.interpret module source) world (fun _ => Q) Q)
    (hcall : ∀ raw world, Q world → Run.Leads (Backend.call raw) world (fun _ => Q) Q)
    (hcollect : ∀ world, Q world → Run.Leads Backend.collectGarbage world (fun _ => Q) Q)
    (hback : vm.disposed = false → ∀ world, Q world →
      P { vm with world := world } ∧ ∀ errors, P (vm.ranTo world errors))
    (hdispose : Leads (operate .dispose) vm (fun _ => P) P) :
    Leads (operate operation) vm (fun _ => P) P := by
  -- A run comes back to the machine with its errors judged, whatever it answered.
  have hran : ∀ {α : Type} {run : Run (World HostState B) α}, vm.disposed = false →
      Run.Leads run vm.entered.world (fun _ => Q) Q →
      Run.Leads run vm.entered.world
        (fun _ world => ∀ errors, P (vm.ranTo world errors) ∧
          ∀ _ : InterpretResult, P (vm.ranTo world errors))
        (fun world => P { vm with world := world }) := by
    intro α run halive hleads
    refine hleads.mono (fun _ world hQ errors => ?_) fun world hQ => (hback halive world hQ).1
    have hends := (hback halive world hQ).2 errors
    exact ⟨hends, fun _ => hends⟩
  cases operation <;> simp only [isRun, Bool.false_eq_true] at hrun
  case interpret module source =>
    refine Leads.bind (leads_interpret module source (fun _ => h) fun halive => ?_) fun _ _ h => h
    exact hran halive (hinterpret module source _ (hentered halive).2)
  case call name =>
    refine Leads.bind (m := fun _ vm' => vm' = vm) (leads_named name (fun _ _ => rfl) fun _ => h) ?_
    rintro handle vm rfl
    refine Leads.bind (leads_call handle (fun _ => h) (fun halive _ => (hentered halive).1) ?_)
      fun _ _ h => h
    exact fun entry halive _ => hran halive (hcall entry.raw _ (hentered halive).2)
  case collectGarbage =>
    refine Leads.bind (leads_collectGarbage (fun _ => h) fun halive => ?_) fun _ _ h => h
    exact (hcollect _ (hentered halive).2).mono (fun _ world hQ => (hback halive world hQ).1)
      fun world hQ => (hback halive world hQ).1
  case dispose => exact hdispose

/-- The parts of a host that operations change only by running something, by binding a class or
by way of a handle. -/
structure SameStores (h h' : HostState) : Prop where
  foreign : h'.foreign = h.foreign
  objects : h'.objects = h.objects
  handles : h'.handles = h.handles
  errors : h'.errors = h.errors
  classes : h'.classes = h.classes
  methods : h'.methods = h.methods
  allocators : h'.allocators = h.allocators

/-- A property that survives whatever operations do besides running something. -/
structure Upheld (fit : ClassDescription → Prop) (R : B → B → Prop)
    (P : VirtualMachine B → Prop) : Prop where
  frame : SlotFrame R
  window {vm : VirtualMachine B} {machine : B} :
    R vm.world.vm machine → P vm → P (vm.withWindow machine)
  host {vm : VirtualMachine B} {host : HostState} : SameStores vm.world.host host → P vm →
    P { vm with world := { vm.world with host := host } }
  bind {vm : VirtualMachine B} {c : ClassDescription} {b : ForeignBinding} {module : String}
    {host : HostState} : fit c → ForeignBinding.of c = .ok b →
    vm.world.host.addBinding module b = some host → P vm →
    P { vm with world := { vm.world with host := host } }
  entered {vm : VirtualMachine B} : vm.disposed = false → P vm → P vm.entered
  pin {vm : VirtualMachine B} {slot : Nat} {raw : RawHandle} {machine : B} :
    vm.disposed = false → Slots.pin vm.world.vm slot = (some raw, machine) → P vm →
    P ((vm.withWindow machine).adopted raw .value)
  pinNothing {vm : VirtualMachine B} {slot : Nat} {machine : B} :
    Slots.pin vm.world.vm slot = (none, machine) → P vm → P (vm.withWindow machine)
  make {vm : VirtualMachine B} {signature : String} {raw : RawHandle} {machine : B} :
    vm.disposed = false → Backend.makeCallHandle vm.world.vm signature = .ok (.ok raw, machine) →
    P vm → P ((vm.withWindow machine).adopted raw (.call (callArity signature)))
  makeNothing {vm : VirtualMachine B} {signature : String} {e : HostError} {machine : B} :
    Backend.makeCallHandle vm.world.vm signature = .ok (.error e, machine) → P vm →
    P (vm.withWindow machine)
  release {vm : VirtualMachine B} {id : Nat} {entry : HandleEntry} : vm.disposed = false →
    vm.world.host.handles.entry? id = some entry → P vm → P (vm.released id entry.raw)
  drop {vm : VirtualMachine B} (handle : Handle) : P vm → P (vm.dropHandle handle)

namespace Upheld

variable {fit : ClassDescription → Prop} {R : B → B → Prop} {P : VirtualMachine B → Prop}
  {vm : VirtualMachine B}

open Op

theorem keepHandle (hP : Upheld fit R P) (name : String) (handle : Handle) (h : P vm) :
    Leads (Session.keepHandle name handle) vm (fun _ => P) P :=
  leads_keepHandle name handle fun _ _ => hP.host ⟨rfl, rfl, rfl, rfl, rfl, rfl, rfl⟩ h

theorem makeCallHandle (hP : Upheld fit R P) (signature keep : String) (h : P vm) :
    Leads (operate (.makeCallHandle signature keep)) vm (fun _ => P) P := by
  refine Leads.bind (m := fun _ => P) ?_ fun handle _ h => hP.keepHandle keep handle h
  refine leads_makeCallHandle signature (fun _ => h) (fun halive _ => hP.entered halive h) ?_ ?_
  · exact fun e machine halive _ hmade => hP.makeNothing hmade (hP.entered halive h)
  · intro _ raw machine halive _ hmade
    have halive' : vm.entered.disposed = false := halive
    exact hP.make halive' hmade (hP.entered halive h)

theorem getSlotHandle (hP : Upheld fit R P) (slot : Nat) (keep : String) (h : P vm) :
    Leads (operate (.getSlotHandle slot keep)) vm (fun _ => P) P := by
  refine Leads.bind (m := fun _ => P) ?_ fun handle _ h => hP.keepHandle keep handle h
  refine leads_getSlotHandle slot h ?_ ?_
  · exact fun machine _ hpin => hP.pinNothing hpin h
  · exact fun _ raw machine halive hpin => hP.pin halive hpin h

theorem releaseHandle (hP : Upheld fit R P) (name : String) (h : P vm) :
    Leads (operate (.releaseHandle name)) vm (fun _ => P) P := by
  refine Leads.bind (m := fun _ vm' => vm' = vm) (leads_named name (fun _ _ => rfl) fun _ => h) ?_
  rintro handle vm rfl
  refine Leads.bind (leads_releaseHandle handle (fun _ => h) ?_) fun _ _ h => h
  exact fun entry halive hreleasable => hP.release halive hreleasable.2 h

theorem subscribe (hP : Upheld fit R P) {f : HostState → HostState}
    (hf : SameStores vm.world.host (f vm.world.host)) (h : P vm) :
    Leads (do
      alive
      inside (HostState.onHost f)) vm (fun _ => P) P :=
  leads_changeHost h (hP.host hf h)

/-- Every operation keeps `P`, if those do that run something. -/
theorem operate (hP : Upheld fit R P) {operation : Operation Empty}
    (hfit : ∀ c module, operation = .bind c module → fit c)
    (hrun : isRun operation = true → P vm →
      Leads (VirtualMachine.operate operation) vm (fun _ => P) P) (h : P vm) :
    Leads (VirtualMachine.operate operation) vm (fun _ => P) P := by
  by_cases hwindow : isWindowOperation operation = true
  · have hwithin : Leads (VirtualMachine.operate operation) vm (fun _ => Within R vm)
        (Within R vm) := leads_operate_window hP.frame _ hwindow
    have hkept : ∀ vm', Within R vm vm' → P vm' := by
      rintro _ ⟨machine, hmachine, rfl⟩
      exact hP.window hmachine h
    exact hwithin.mono (fun _ => hkept) hkept
  -- Of what is left, four run something, and each of the others does one thing of its own.
  · cases operation <;> simp only [isWindowOperation, not_true_eq_false] at hwindow
    case interpret => exact hrun rfl h
    case call => exact hrun rfl h
    case collectGarbage => exact hrun rfl h
    case dispose => exact hrun rfl h
    case bind c module =>
      refine Leads.bind (leads_bindForeign c module h fun b host hb hadd _ => ?_) fun _ _ h => h
      exact hP.bind (hfit c module rfl) hb hadd h
    case makeCallHandle signature keep => exact hP.makeCallHandle signature keep h
    case getSlotHandle slot keep => exact hP.getSlotHandle slot keep h
    case releaseHandle name => exact hP.releaseHandle name h
    case onWrite subscriber =>
      exact Leads.bind (hP.subscribe ⟨rfl, rfl, rfl, rfl, rfl, rfl, rfl⟩ h) fun _ _ h => h
    case onError subscriber =>
      exact Leads.bind (hP.subscribe ⟨rfl, rfl, rfl, rfl, rfl, rfl, rfl⟩ h) fun _ _ h => h
    case request request => exact request.elim

/-- What survives every run survives a life. -/
theorem after (hP : Upheld fit R P)
    (hrun : ∀ {vm operation}, isRun operation = true → P vm →
      Leads (VirtualMachine.operate operation) vm (fun _ => P) P)
    {steps : List Step} (hfit : ∀ c module, .operate (.bind c module) ∈ steps → fit c)
    (h : P vm) : P (vm.after steps) := by
  induction steps generalizing vm with
  | nil => exact h
  | cons step steps ih =>
    refine ih (fun c module hmem => hfit c module (List.mem_cons_of_mem _ hmem)) ?_
    cases step with
    | operate operation =>
      refine (hP.operate (fun c module hbind => ?_) hrun h).ends
      exact hfit c module (hbind ▸ List.mem_cons_self)
    -- A handle of another machine is no concern of this one.
    | drop handle =>
      unfold VirtualMachine.step
      dsimp only
      split
      · exact hP.drop handle h
      · exact h
    | lend keyring => exact hP.host ⟨rfl, rfl, rfl, rfl, rfl, rfl, rfl⟩ h

end Upheld

end ScriptHost.VirtualMachine
