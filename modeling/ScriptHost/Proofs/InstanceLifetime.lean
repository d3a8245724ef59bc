/-
Foreign instances over the life of a virtual machine.

A virtual machine over a machine kept in memory may be used in any order: scripts, calls,
constructions, handles, drops and collections.  As long as it is not disposed of, what
happened to its foreign instances is a record of the kind `Ownership.Evolves` describes, whose
releases are those that hand-written members left notes of.  So an instance within reach
resolves to its own object until that is released, and to nothing from then on.

* **`Lives.after`** — one operation after the other keeps the instances owned;
* **`instancesResolve_after`** — the result, for every state of every life.
-/
import ScriptHost.Proofs.InstanceOwnership
import ScriptHost.Proofs.OperationInvariant

namespace ScriptHost

open InMemory

namespace InMemory.Machine

variable {m m' : Machine} {held : List ScriptValue}

theorem Moves.releaseHandle (m : Machine) (h : RawHandle) :
    m.Moves held (InMemory.releaseHandle m h) held := by
  unfold InMemory.releaseHandle
  split
  · exact .refl m held
  · refine .giveUp (fun _ hv => hv) (fun v hv => ?_) (fun _ hv => hv) fun _ hv => hv
    rcases List.mem_or_eq_of_mem_set hv with hv | hv
    · exact hv
    · cases hv

theorem Moves.releaseHandles (handles : List RawHandle) (m : Machine) :
    m.Moves held (handles.foldl Backend.releaseHandle m) held := by
  induction handles generalizing m with
  | nil => exact .refl m held
  | cons h handles ih => exact (Moves.releaseHandle m h).trans (ih _)

theorem Moves.makeCallHandle {signature : String} {outcome : Except HostError RawHandle}
    (h : InMemory.makeCallHandle m signature = .ok (outcome, m')) : m.Moves held m' held := by
  unfold InMemory.makeCallHandle at h
  split at h
  · cases h
    exact .refl m held
  · split at h
    · cases h
    · split at h
      · cases h
        exact .refl m held
      · cases h
        exact .pin trivial

/-- Nothing is within reach of a machine just made. -/
theorem not_reaches_new {scripts methods : List (String × Script)}
    {refusesToStart refusesCallHandles : Bool} (v : ScriptValue) :
    ¬(new scripts methods refusesToStart refusesCallHandles).Reaches [] v := by
  intro h
  induction h with
  | root hroot =>
    cases mem_roots.mp hroot with
    | slot h => cases h
    | global h => cases h
    | handle h => cases h
    | aborted h => cases h
    | running hvalues _ => cases hvalues
    | held h => cases h
  | element _ _ _ ih => exact ih

end InMemory.Machine

namespace VirtualMachine

/-- The instances of a machine that is not disposed of are owned. -/
def Lives (start : Ownership) (vm : VirtualMachine Machine) : Prop :=
  vm.disposed = false → Owned start [] vm.world

/-- Classes are bound by describing a host type. -/
def Step.Described : Step → Prop
  | .operate (.bind c _) => ∃ (α : Type) (_ : HostType α) (described : ForeignClass α),
    c = described.describe
  | _ => True

variable {start : Ownership} {vm vm' : VirtualMachine Machine}

theorem Lives.withWindow (h : Lives start vm) {m : Machine} (hm : vm.world.vm.Moves [] m [])
    (hsilent : vm.world.vm.Silent m) : Lives start (vm.withWindow m) :=
  fun halive => (h halive).move hm hsilent.releases

/-- A change of the host that does not touch objects or bindings. -/
theorem Lives.changeHost (h : Lives start vm) {host : HostState}
    (hforeign : host.foreign = vm.world.host.foreign)
    (hobjects : host.objects = vm.world.host.objects)
    (hbindings : host.bindings = vm.world.host.bindings) :
    Lives start { vm with world := { vm.world with host := host } } := by
  intro halive
  have howned := h halive
  refine howned.changeHost hforeign (by rw [hobjects]) ?_
  rw [hbindings]
  exact howned.tame

theorem Lives.entered (h : Lives start vm) : Lives start vm.entered := by
  have hhandles : Lives start (vm.withHandles vm.world.host.handles.takePending.2) :=
    h.changeHost rfl rfl rfl
  exact hhandles.withWindow (.releaseHandles _ _) (.releaseHandles _ _)

/-- A class described by a host type is bound. -/
theorem Lives.bind (h : Lives start vm) {c : ClassDescription} {b : ForeignBinding}
    {module : String} {host : HostState} (hc : Step.Described (.operate (.bind c module)))
    (hb : ForeignBinding.of c = .ok b) (hadd : vm.world.host.addBinding module b = some host) :
    Lives start { vm with world := { vm.world with host := host } } := by
  obtain ⟨α, _, described, rfl⟩ := hc
  intro halive
  have howned := h halive
  have heq := HostState.addBinding_eq hadd
  refine howned.changeHost (by rw [heq]) (by rw [heq]) fun b' hb' => ?_
  -- Only the binding just added is new, and it is that of a described class.
  rcases HostState.mem_bindings_addBinding hadd hb' with rfl | hold
  · exact ForeignBinding.tame_of_describe hb
  · exact howned.tame b' hold

/-- What operations do besides running something keeps the instances owned. -/
theorem upheld_lives (start : Ownership) :
    Upheld (fun c => ∀ module, Step.Described (.operate (.bind c module)))
      (fun m m' : Machine => m.Moves [] m' [] ∧ m.Silent m') (Lives start) where
  frame := (Machine.windowFrame_moves []).toSlotFrame.and Machine.slotFrame_silent
  window hm h := h.withWindow hm.1 hm.2
  host {vm _} hsame h := by
    refine h.changeHost hsame.foreign hsame.objects ?_
    rw [HostState.bindings, hsame.classes, hsame.methods, hsame.allocators]
    rfl
  bind {_ _ _ module _} hc hb hadd h := h.bind (hc module) hb hadd
  entered _ h := h.entered
  pin {_ slot _ _} _ hpin h := by
    cases hpin
    exact (h.withWindow (.pin (.slot slot)) ⟨rfl, rfl, rfl⟩).changeHost rfl rfl rfl
  pinNothing hpin _ := by cases hpin
  make _ hmade h := (h.withWindow (.makeCallHandle hmade) (.makeCallHandle hmade)).changeHost
    rfl rfl rfl
  makeNothing hmade h := h.withWindow (.makeCallHandle hmade) (.makeCallHandle hmade)
  release {vm id _} _ _ h := by
    have hremoved : Lives start
        (vm.withHandles (vm.world.host.handles.remove id).2) := h.changeHost rfl rfl rfl
    exact hremoved.entered.withWindow (.releaseHandle _ _) (.releaseHandle _ _)
  drop handle h := h.changeHost rfl rfl rfl

open Op

theorem lives_dispose (h : Lives start vm) :
    Leads (operate .dispose) vm (fun _ => Lives start) (Lives start) := by
  have hvoid : ∀ world : World HostState Machine,
      Lives start { vm with world := world, disposed := true } := by
    rintro world ⟨⟩
  exact Leads.bind (leads_dispose_of_void h hvoid) fun _ _ h => h

/-- Instances stay accounted for while something runs. -/
theorem lives_run {operation : Operation Empty} (hrun : isRun operation = true)
    (h : Lives start vm) : Leads (operate operation) vm (fun _ => Lives start) (Lives start) := by
  have hinvariant := Owned.invariant start
  refine leads_run hrun h (fun halive => ⟨h.entered, h.entered halive⟩)
    (fun module source _ howned => hinvariant.interpret module source howned)
    (fun raw _ howned => hinvariant.call raw howned) (fun _ howned => howned.collectGarbage)
    (fun _ world howned => ?_) (lives_dispose h)
  exact ⟨fun _ => howned, fun _ _ => howned.changeHost rfl rfl howned.tame⟩

theorem Lives.after (h : Lives start vm) {steps : List Step}
    (hdescribed : ∀ step ∈ steps, step.Described) : Lives start (vm.after steps) :=
  (upheld_lives start).after (fun hrun h => lives_run hrun h)
    (fun c module hbind _ =>
      show Step.Described (.operate (.bind c module)) from hdescribed _ hbind) h

/-- Whatever has happened, one may start counting from here. -/
theorem Lives.rebase (h : Lives start vm) : Lives vm.world.ownership vm := fun halive =>
  ⟨(h halive).unforged, (h halive).tame, (h halive).rooted, [], .refl⟩

/-- `events` is a record of all that happened to the instances of a machine. -/
def OnRecord (events : List Ownership.Event) (vm : VirtualMachine Machine) : Prop :=
  Ownership.fresh.Evolves events vm.world.ownership

/-- What the instances of a machine resolve to, by a record of all that happened to them. -/
structure InstancesResolve (events : List Ownership.Event) (vm : VirtualMachine Machine) :
    Prop where
  /-- Instances are numbered in the order of their allocations. -/
  numbered : events.filterMap Ownership.Event.number? = List.range vm.world.vm.instances.length
  /-- Every registration is that of an object of its own. -/
  objects : (Ownership.registrations events).map (·.2.object) =
    List.range vm.world.host.objects.cells.length
  /-- No token was issued twice. -/
  tokens : ((Ownership.registrations events).map (·.1)).Nodup
  /-- The releases on record are those that hand-written members carried out, in order. -/
  releases : events.filterMap Ownership.Event.release? = vm.world.vm.releases
  /-- An instance within reach resolves to the object its own allocation registered, unless
  a hand-written member released that. -/
  resolves : ∀ i, vm.world.vm.Reaches [] (.instanceOf i) →
    ∃ inst, vm.world.vm.instances[i]? = some inst ∧
      (inst.token ∉ vm.world.vm.releases → ∃ entry, .allocated i inst.token entry ∈ events ∧
        vm.world.host.foreign.resolve? inst.token = some entry.object)
  /-- From its release on an object is resolved to by no token, and finalizing its instance
  takes nothing out of the table. -/
  released : ∀ past later s token, events = past ++ later → Ownership.fresh.Evolves past s →
    token ∈ s.releases → s.table.resolve? token = none ∧ (s.table.finalize token).2 = s.table

/-- As long as no token repeats, instances within reach resolve to their own objects. -/
theorem Lives.instancesResolve (h : Lives start vm) (halive : vm.disposed = false)
    {events : List Ownership.Event} (hevents : OnRecord events vm)
    (hbound : Ownership.Bounded events) : InstancesResolve events vm := by
  have ha := Ownership.Accounted.of_evolves hevents
  refine ⟨ha.numbered, ha.objects, (Ownership.Resolved.of_evolves hevents hbound).tokens,
    ha.releases, fun i hreach => ?_, ?_⟩
  · -- What is within reach has not been given up, hence has not been finalized.
    have htracked : i ∈ vm.world.vm.tracked := (h halive).rooted i hreach
    have hlt : i < vm.world.vm.instances.length := ha.tracked i htracked
    have hinst := List.getElem?_eq_getElem hlt
    refine ⟨_, hinst, fun hkept => hevents.resolve?_of_tracked hbound hinst htracked ?_⟩
    exact fun hreleased => hkept (ha.mem_released_iff.mp hreleased)
  · rintro past later s token rfl hpast hreleased
    exact hpast.resolve?_of_released hbound.of_append
      ((Ownership.Accounted.of_evolves hpast).mem_released_iff.mpr hreleased)

theorem lives_new (config : Configuration) (owner : Nat) (scripts methods : List (String × Script))
    (refusesToStart refusesCallHandles : Bool)
    (hunforged : (Machine.new scripts methods refusesToStart refusesCallHandles).forged = []) :
    Lives .fresh
      (new config owner (Machine.new scripts methods refusesToStart refusesCallHandles)).2 := by
  intro _
  refine ⟨hunforged, fun b hb => ?_, fun i hreach => ?_, [], .refl⟩
  · have hnone : (HostState.new config owner).bindings = [] := rfl
    rw [show (new config owner _).2.world.host = HostState.new config owner from rfl, hnone] at hb
    cases hb
  · exact (Machine.not_reaches_new _ hreach).elim

end VirtualMachine

end ScriptHost
