/-
Finalizers over the life of a virtual machine.

Whatever is done with a virtual machine over a machine kept in memory, its disposal included,
there is a record of what happened to its foreign objects and of the finalizers that ran.  By
that record each object's finalizer ran once if the object left the table because its instance
was collected, or because the machine was disposed of with the object still registered, unless
a finalizer ahead of it panicked then; it did not run otherwise.

* **`Remembers.after`** — the record, from one operation to the next;
* **`finalizersRun_after`** — what it says, for every state of every life.
-/
import ScriptHost.Proofs.FinalizerWatch
import ScriptHost.Proofs.InstanceLifetime

namespace ScriptHost

open InMemory

/-- The same objects and table, and nothing more was released and no more finalizers ran. -/
structure World.Unchanged (w w' : World HostState Machine) : Prop where
  foreign : w'.host.foreign = w.host.foreign
  objects : w'.host.objects = w.host.objects
  finalizations : w'.vm.finalizations = w.vm.finalizations
  releases : w'.vm.releases = w.vm.releases

theorem World.Unchanged.trans {w w' w'' : World HostState Machine} (h : w.Unchanged w')
    (h' : w'.Unchanged w'') : w.Unchanged w'' :=
  ⟨h'.foreign.trans h.foreign, h'.objects.trans h.objects,
    h'.finalizations.trans h.finalizations, h'.releases.trans h.releases⟩

namespace VirtualMachine

variable {start : World HostState Machine} {vm : VirtualMachine Machine}

/-- Disposal runs no finalizer once those of the objects still registered have run. -/
theorem unchanged_closed (w : World HostState Machine) : w.Unchanged (closed w) :=
  have hsilent := Machine.Silent.releaseHandles w.host.handles.drain.1 w.vm
  ⟨rfl, rfl, hsilent.finalizations, hsilent.releases⟩

theorem unchanged_cutShort (w : World HostState Machine) : w.Unchanged (cutShort w) :=
  ⟨rfl, rfl, rfl, rfl⟩

/-- There is a record of the finalizers that ran since `start`.  Once the machine is disposed of
it ends with those that ran for what was registered until then. -/
structure Remembers (start : World HostState Machine) (vm : VirtualMachine Machine) : Prop where
  alive : vm.disposed = false → Watched start [] vm.world
  disposed : vm.disposed = true → ∃ w, Watched start [] w ∧ w.cleared.Unchanged vm.world

/-- A change of host and machine that keeps what is on record. -/
theorem Remembers.change (h : Remembers start vm) {world : World HostState Machine}
    (hwatched : Watched start [] vm.world → Watched start [] world)
    (hunchanged : vm.world.Unchanged world) : Remembers start { vm with world := world } := by
  refine ⟨fun halive => hwatched (h.alive halive), fun hdisposed => ?_⟩
  obtain ⟨w, hw, hcleared⟩ := h.disposed hdisposed
  exact ⟨w, hw, hcleared.trans hunchanged⟩

theorem Remembers.withWindow (h : Remembers start vm) {m : Machine}
    (hm : vm.world.vm.Moves [] m []) (hsilent : vm.world.vm.Silent m) :
    Remembers start (vm.withWindow m) :=
  h.change (fun hw => hw.move hm hsilent) ⟨rfl, rfl, hsilent.finalizations, hsilent.releases⟩

/-- A change of the host that does not touch objects or bindings. -/
theorem Remembers.changeHost (h : Remembers start vm) {host : HostState}
    (hforeign : host.foreign = vm.world.host.foreign)
    (hobjects : host.objects = vm.world.host.objects)
    (hbindings : host.bindings = vm.world.host.bindings) :
    Remembers start { vm with world := { vm.world with host := host } } := by
  refine h.change (fun hw => ?_) ⟨hforeign, hobjects, rfl, rfl⟩
  refine hw.changeHost hforeign (by rw [hobjects]) ?_ ?_
  · rw [hobjects]
    exact .refl _ _
  · rw [hbindings]
    exact hw.bindings

theorem Remembers.entered (h : Remembers start vm) : Remembers start vm.entered := by
  have hhandles : Remembers start (vm.withHandles vm.world.host.handles.takePending.2) :=
    h.changeHost rfl rfl rfl
  exact hhandles.withWindow (.releaseHandles _ _) (.releaseHandles _ _)

/-- A class described by a host type is bound. -/
theorem Remembers.bind (h : Remembers start vm) {c : ClassDescription} {b : ForeignBinding}
    {module : String} {host : HostState} (hc : Step.Described (.operate (.bind c module)))
    (hb : ForeignBinding.of c = .ok b) (hadd : vm.world.host.addBinding module b = some host) :
    Remembers start { vm with world := { vm.world with host := host } } := by
  obtain ⟨α, _, described, rfl⟩ := hc
  have heq := HostState.addBinding_eq hadd
  have hforeign : host.foreign = vm.world.host.foreign := by rw [heq]
  have hobjects : host.objects = vm.world.host.objects := by rw [heq]
  refine h.change (fun hw => hw.changeHost hforeign (by rw [hobjects]) ?_ fun b' hb' => ?_)
    ⟨hforeign, hobjects, rfl, rfl⟩
  · rw [hobjects]
    exact .refl _ _
  -- The binding just added comes from typed functions, which keep to the objects they are given.
  · rcases HostState.mem_bindings_addBinding hadd hb' with rfl | hold
    · exact ⟨ForeignBinding.tame_of_describe hb, ForeignBinding.discreet_of_describe hb⟩
    · exact hw.bindings b' hold

/-- What operations do besides running something keeps the record. -/
theorem upheld_remembers (start : World HostState Machine) :
    Upheld (fun c => ∀ module, Step.Described (.operate (.bind c module)))
      (fun m m' : Machine => m.Moves [] m' [] ∧ m.Silent m') (Remembers start) where
  frame := (Machine.windowFrame_moves []).toSlotFrame.and Machine.slotFrame_silent
  window hm h := h.withWindow hm.1 hm.2
  host {vm _} hsame h := by
    refine h.changeHost hsame.foreign hsame.objects ?_
    rw [HostState.bindings, hsame.classes, hsame.methods, hsame.allocators]
    rfl
  bind {_ _ _ module _} hc hb hadd h := h.bind (hc module) hb hadd
  entered _ h := h.entered
  pin {_ slot _ _} _ hpin h := by
    cases hpin
    exact (h.withWindow (.pin (.slot slot)) ⟨rfl, rfl, rfl⟩).changeHost rfl rfl rfl
  pinNothing hpin _ := by cases hpin
  make _ hmade h := (h.withWindow (.makeCallHandle hmade) (.makeCallHandle hmade)).changeHost
    rfl rfl rfl
  makeNothing hmade h := h.withWindow (.makeCallHandle hmade) (.makeCallHandle hmade)
  release {vm id _} _ _ h := by
    have hremoved : Remembers start
        (vm.withHandles (vm.world.host.handles.remove id).2) := h.changeHost rfl rfl rfl
    exact hremoved.entered.withWindow (.releaseHandle _ _) (.releaseHandle _ _)
  drop handle h := h.changeHost rfl rfl rfl

open Op

/-- Disposal ends the record. -/
theorem remembers_dispose (h : Remembers start vm) :
    Leads (operate .dispose) vm (fun _ => Remembers start) (Remembers start) := by
  refine Leads.bind (m := fun _ => Remembers start) ?_ fun _ _ h => h
  cases hdisposed : vm.disposed with
  | true => exact leads_dispose (fun _ => h) fun halive => by rw [hdisposed] at halive; cases halive
  | false =>
    have hended : ∀ world, vm.world.cleared.Unchanged world →
        Remembers start { vm with world := world, disposed := true } :=
      fun world hworld => ⟨by rintro ⟨⟩, fun _ => ⟨vm.world, h.alive hdisposed, hworld⟩⟩
    unfold Leads
    rw [dispose_apply hdisposed]
    cases finalizersOutcome vm.world.host.foreign.clear.1 with
    | ok _ => exact hended _ (unchanged_closed vm.world.cleared)
    | error p => exact hended _ (unchanged_cutShort vm.world.cleared)

/-- What runs something goes on with the account; disposal closes it. -/
theorem remembers_run {operation : Operation Empty} (hrun : isRun operation = true)
    (h : Remembers start vm) :
    Leads (operate operation) vm (fun _ => Remembers start) (Remembers start) := by
  have hinvariant := Watched.invariant start
  refine leads_run hrun h (fun halive => ⟨h.entered, h.entered.alive halive⟩)
    (fun module source _ hw => hinvariant.interpret module source hw)
    (fun raw _ hw => hinvariant.call raw hw) (fun _ hw => hw.collectGarbage)
    (fun halive world hw => ?_) (remembers_dispose h)
  have hends : ∀ world, Watched start [] world → Remembers start { vm with world := world } :=
    fun world hw => ⟨fun _ => hw, fun hdisposed => by rw [halive] at hdisposed; cases hdisposed⟩
  exact ⟨hends world hw,
    fun errors => hends _ (hw.changeHost rfl rfl (.refl _ _) hw.bindings)⟩

/-- Every life keeps a record. -/
theorem Remembers.after (h : Remembers start vm) {steps : List Step}
    (hdescribed : ∀ step ∈ steps, step.Described) : Remembers start (vm.after steps) :=
  (upheld_remembers start).after (fun hrun h => remembers_run hrun h)
    (fun c module hbind _ =>
      show Step.Described (.operate (.bind c module)) from hdescribed _ hbind) h

/-! ### After disposal -/

/-- A machine disposed of stays so, and none of its finalizers runs any more. -/
structure Rests (world : World HostState Machine) (vm : VirtualMachine Machine) : Prop where
  disposed : vm.disposed = true
  unchanged : world.Unchanged vm.world

theorem Rests.change {world : World HostState Machine} (h : Rests world vm)
    {world' : World HostState Machine} (hunchanged : vm.world.Unchanged world') :
    Rests world { vm with world := world' } :=
  ⟨h.disposed, h.unchanged.trans hunchanged⟩

theorem Rests.not_alive {world : World HostState Machine} {P : Prop} (h : Rests world vm)
    (halive : vm.disposed = false) : P := by
  rw [h.disposed] at halive
  cases halive

theorem upheld_rests (world : World HostState Machine) :
    Upheld (fun _ => True) Machine.Silent (Rests world) where
  frame := Machine.slotFrame_silent
  window hm h := h.change ⟨rfl, rfl, hm.finalizations, hm.releases⟩
  host hsame h := h.change ⟨hsame.foreign, hsame.objects, rfl, rfl⟩
  bind _ _ hadd h := by
    rw [HostState.addBinding_eq hadd]
    exact h.change ⟨rfl, rfl, rfl, rfl⟩
  entered halive h := h.not_alive halive
  pin halive _ h := h.not_alive halive
  pinNothing hpin _ := by cases hpin
  make halive _ h := h.not_alive halive
  makeNothing hmade h :=
    have hsilent := Machine.Silent.makeCallHandle hmade
    h.change ⟨rfl, rfl, hsilent.finalizations, hsilent.releases⟩
  release halive _ h := h.not_alive halive
  drop _ h := h.change ⟨rfl, rfl, rfl, rfl⟩

theorem Rests.after {world : World HostState Machine} (h : Rests world vm) (steps : List Step) :
    Rests world (vm.after steps) := by
  refine (upheld_rests world).after (fun hrun h => ?_) (fun _ _ _ => trivial) h
  exact leads_run (Q := fun _ => False) hrun h (fun halive => h.not_alive halive)
    (fun _ _ _ hw => hw.elim) (fun _ _ hw => hw.elim) (fun _ hw => hw.elim)
    (fun _ _ hw => hw.elim) (Leads.bind (m := fun _ => Rests _)
      (leads_dispose (fun _ => h) fun halive => h.not_alive halive) fun _ _ h => h)

/-! ### What the record says -/

/-- `events` and `runs` are a record of what happened to foreign objects since `start` and of
the finalizers that ran, `last` being those that ran as the machine was disposed of. -/
inductive OnLedger (start : World HostState Machine) (events : List Ownership.Event)
    (runs : List FinalizerRun) : List FinalizerRun → VirtualMachine Machine → Prop
  | alive {vm : VirtualMachine Machine} : vm.disposed = false →
    start.Recounts events runs vm.world → OnLedger start events runs [] vm
  /-- Disposal finalized what was registered until then. -/
  | disposed {vm : VirtualMachine Machine} {w : World HostState Machine} : vm.disposed = true →
    start.Recounts events runs w → w.cleared.Unchanged vm.world →
    OnLedger start events runs w.clearing vm

/-- What a record of everything says of the finalizers that ran. -/
structure FinalizersRun (events : List Ownership.Event) (runs last : List FinalizerRun)
    (vm : VirtualMachine Machine) : Prop where
  /-- They left their notes in this order, and no others left any. -/
  notes : vm.world.vm.finalizations = (runs ++ last).map (·.note)
  /-- The releases on record are those that hand-written members carried out, in order. -/
  releases : events.filterMap Ownership.Event.release? = vm.world.vm.releases
  /-- Every registration is that of an object of its own. -/
  objects : (Ownership.registrations events).map (·.2.object) =
    List.range vm.world.host.objects.cells.length
  /-- No token was issued twice. -/
  tokens : ((Ownership.registrations events).map (·.1)).Nodup
  /-- Each was registered with the object it was due for. -/
  registered : ∀ r ∈ runs ++ last, ∃ token entry,
    (token, entry) ∈ Ownership.registrations events ∧ r.due ∈ entry.finalizations
  /-- Each was given that object, as it still is. -/
  given : ∀ r ∈ runs ++ last, vm.world.host.objects.get? r.due.object = some r.given
  /-- No object had its finalizer run twice. -/
  once : ((runs ++ last).map (·.due.object)).Nodup
  /-- None ran on a machine that had been freed. -/
  unfreed : ∀ r ∈ runs ++ last, r.freed = false
  /-- That of an object released early never ran. -/
  released : ∀ token entry, (token, entry) ∈ Ownership.registrations events →
    token ∈ vm.world.vm.releases → ranFor (runs ++ last) entry.object = []
  /-- That of an object whose instance was collected first ran once. -/
  collected : ∀ token entry, (token, entry) ∈ Ownership.registrations events →
    token ∉ vm.world.vm.releases → .finalized token ∈ events →
    ranFor (runs ++ last) entry.object = entry.finalizations
  /-- Until disposal everything else stays registered. -/
  remaining : ∀ token entry, (token, entry) ∈ Ownership.registrations events →
    token ∉ vm.world.vm.releases → .finalized token ∉ events → vm.disposed = false →
    ranFor (runs ++ last) entry.object = [] ∧
      vm.world.host.foreign.heap.get? token = some entry
  /-- Then its finalizer ran once, unless one ahead of it panicked, which ended disposal. -/
  disposed : ∀ token entry, (token, entry) ∈ Ownership.registrations events →
    token ∉ vm.world.vm.releases → .finalized token ∉ events → vm.disposed = true →
    (¬Ownership.Forestalled events token →
      ranFor (runs ++ last) entry.object = entry.finalizations) ∧
    (Ownership.Forestalled events token → ranFor (runs ++ last) entry.object = [])

/-- No finalizer runs twice for an object, if those that ran for it are none or all of those its
entry asks for. -/
theorem once_of_ranFor {events : List Ownership.Event} {runs : List FinalizerRun}
    (hregistered : ∀ r ∈ runs, ∃ token entry,
      (token, entry) ∈ Ownership.registrations events ∧ r.due ∈ entry.finalizations)
    (hran : ∀ token entry, (token, entry) ∈ Ownership.registrations events →
      ranFor runs entry.object = [] ∨ ranFor runs entry.object = entry.finalizations) :
    (runs.map (·.due.object)).Nodup := by
  refine nodup_of_length_ranFor_le fun r hr => ?_
  obtain ⟨token, entry, hentry, hdue⟩ := hregistered r hr
  rw [ForeignEntry.object_of_mem hdue]
  rcases hran token entry hentry with hnone | hall
  · rw [hnone]
    exact Nat.zero_le _
  · rw [hall]
    exact entry.length_finalizations_le

section

variable {events : List Ownership.Event} {runs : List FinalizerRun} {w : World HostState Machine}

/-- `vm` is a machine as it was in `w`, or disposed of from there on; then `last` are the
finalizers that ran for what was still registered. -/
structure Concludes (events : List Ownership.Event) (last : List FinalizerRun)
    (w : World HostState Machine) (vm : VirtualMachine Machine) : Prop where
  due : last ⊆ w.clearing
  objects : vm.world.host.objects = w.host.objects
  releases : vm.world.vm.releases = w.vm.releases
  notes : vm.world.vm.finalizations = w.vm.finalizations ++ last.map (·.note)
  alive : vm.disposed = false → ∀ token entry, w.host.foreign.heap.get? token = some entry →
    ranFor last entry.object = [] ∧ vm.world.host.foreign.heap.get? token = some entry
  disposed : vm.disposed = true → ∀ token entry, w.host.foreign.heap.get? token = some entry →
    (¬Ownership.Forestalled events token → ranFor last entry.object = entry.finalizations) ∧
    (Ownership.Forestalled events token → ranFor last entry.object = [])

theorem Concludes.ranFor_cases {last : List FinalizerRun} (h : Concludes events last w vm)
    {token : Token} {entry : ForeignEntry Finalizer}
    (hget : w.host.foreign.heap.get? token = some entry) :
    ranFor last entry.object = [] ∨ ranFor last entry.object = entry.finalizations := by
  cases hstage : vm.disposed with
  | false => exact .inl (h.alive hstage token entry hget).1
  | true =>
    obtain ⟨hcalm, hpanics⟩ := h.disposed hstage token entry hget
    by_cases hforestalled : Ownership.Forestalled events token
    · exact .inl (hpanics hforestalled)
    · exact .inr (hcalm hforestalled)

/-- The finalizers that ran by the end are those that ran until then and the last ones. -/
theorem Concludes.finalizersRun {last : List FinalizerRun} (h : Concludes events last w vm)
    (hrecounts : start.Recounts events runs w) (hstart : start.ownership = .fresh)
    (hsilent : start.vm.finalizations = []) (hunfreed : start.vm.freed = false)
    (hbound : Ownership.Bounded events) : FinalizersRun events runs last vm := by
  have hevolves := hstart ▸ hrecounts.evolves
  have ha := Ownership.Accounted.of_evolves hevolves
  have hr := Ownership.Resolved.of_evolves hevolves hbound
  have hs := hrecounts.settled hstart hbound
  have hreleased : ∀ token, token ∈ vm.world.vm.releases ↔ .released token ∈ events := by
    intro token
    rw [h.releases]
    exact ha.mem_released_iff.symm
  -- For what is neither released nor collected only the last ones can have run.
  have hkept : ∀ {token entry}, (token, entry) ∈ Ownership.registrations events →
      .released token ∉ events → .finalized token ∉ events →
      ranFor (runs ++ last) entry.object = ranFor last entry.object ∧
        w.host.foreign.heap.get? token = some entry :=
    fun hentry hnot hnot' =>
      ⟨hs.ranFor_append_of_kept ha hentry hnot', hr.kept _ _ hentry hnot hnot'⟩
  constructor <;> (try simp only [hreleased])
  case notes => rw [h.notes, hrecounts.finalizations, hsilent, List.map_append, List.nil_append]
  case releases => rw [h.releases, ha.releases, World.ownership]
  case objects =>
    rw [h.objects]
    exact ha.objects
  case tokens => exact hr.tokens
  case registered => exact hs.registered_append hr ha hbound h.due
  case given =>
    rw [h.objects]
    exact hs.given_append h.due
  case once =>
    exact once_of_ranFor (hs.registered_append hr ha hbound h.due) fun _ _ =>
      hs.ranFor_append_cases hr ha hbound h.due fun _ _ => h.ranFor_cases
  case unfreed =>
    intro r hmem
    rcases List.mem_append.mp hmem with hold | hnew
    · exact (hrecounts.freed_of_mem hold).trans hunfreed
    · exact (mem_finalizerRuns.mp (h.due hnew)).2.2.trans (hrecounts.freed.trans hunfreed)
  case released => exact fun _ _ => hs.ranFor_append_of_released hr ha hbound h.due
  case collected => exact fun _ _ => hs.ranFor_append_of_finalized hr ha hbound h.due
  case remaining =>
    intro token entry hentry hnot hnot' halive
    obtain ⟨hran, hget⟩ := hkept hentry hnot hnot'
    rw [hran]
    exact h.alive halive token entry hget
  case disposed =>
    intro token entry hentry hnot hnot' hdisposed
    obtain ⟨hran, hget⟩ := hkept hentry hnot hnot'
    rw [hran]
    exact h.disposed hdisposed token entry hget

theorem OnLedger.concludes {last : List FinalizerRun} (h : OnLedger start events runs last vm)
    (hstart : start.ownership = .fresh) (hbound : Ownership.Bounded events) :
    ∃ w, start.Recounts events runs w ∧ Concludes events last w vm := by
  cases h with
  | alive halive hrecounts =>
    refine ⟨vm.world, hrecounts, List.nil_subset _, rfl, rfl, by simp,
      fun _ token entry hget => ⟨rfl, hget⟩, fun hdisposed => ?_⟩
    rw [halive] at hdisposed
    cases hdisposed
  | @disposed _ w hdisposed hrecounts hcleared =>
    have hevolves := hstart ▸ hrecounts.evolves
    refine ⟨w, hrecounts, List.Subset.refl _, hcleared.objects, ?_, ?_, fun halive => ?_,
      fun _ token entry hget => ?_⟩
    · rw [hcleared.releases, World.cleared, Machine.releases_noted]
    · rw [hcleared.finalizations, World.cleared, Machine.finalizations_noted]
    · rw [hdisposed] at halive
      cases halive
    · exact Settled.ranFor_clearing_of_get? (.of_evolves hevolves hbound) (.of_evolves hevolves)
        hbound hget

/-- The record of everything says which finalizers ran, as long as no token repeats. -/
theorem OnLedger.finalizersRun {last : List FinalizerRun}
    (h : OnLedger start events runs last vm) (hstart : start.ownership = .fresh)
    (hsilent : start.vm.finalizations = []) (hunfreed : start.vm.freed = false)
    (hbound : Ownership.Bounded events) : FinalizersRun events runs last vm := by
  obtain ⟨w, hrecounts, hconcludes⟩ := h.concludes hstart hbound
  exact hconcludes.finalizersRun hrecounts hstart hsilent hunfreed hbound

end

/-- What disposing of a machine comes to. -/
structure Disposes (vm : VirtualMachine Machine) : Prop where
  /-- First the finalizers of what is still registered run, until one panics. -/
  clears : HostState.clearForeign vm.world =
    (finalizersOutcome vm.world.host.foreign.clear.1, vm.world.cleared)
  /-- They find the machine as it was: with all its handles, and not freed. -/
  untouched : vm.world.cleared.vm =
    { vm.world.vm with
      journal := vm.world.vm.journal ++ vm.world.clearing.map (·.entry) }
  unfreed : vm.world.vm.freed = false
  /-- Unless one panicked, the handles are given back next; the machine is freed last. -/
  whole : dispose vm =
    match finalizersOutcome vm.world.host.foreign.clear.1 with
    | .ok () => (.ok (.ok ()), { vm with world := closed vm.world.cleared, disposed := true })
    | .error p => (.error p, { vm with world := cutShort vm.world.cleared, disposed := true })
  /-- Freeing it finalizes every instance it still knows, and runs no finalizer. -/
  frees : InMemory.free (Op.drained vm.world.cleared) = (.ok (), closed vm.world.cleared) ∧
    InMemory.free vm.world.cleared = (.ok (), cutShort vm.world.cleared)
  silent : (closed vm.world.cleared).vm.finalizations = vm.world.cleared.vm.finalizations ∧
    (cutShort vm.world.cleared).vm.finalizations = vm.world.cleared.vm.finalizations

theorem disposes (halive : vm.disposed = false) (hunfreed : vm.world.vm.freed = false) :
    Disposes vm where
  clears := HostState.clearForeign_apply vm.world
  untouched := rfl
  unfreed := hunfreed
  whole := dispose_apply halive
  frees := ⟨free_apply rfl _, free_apply rfl _⟩
  silent := ⟨(unchanged_closed vm.world.cleared).finalizations, rfl⟩

/-- A machine just brought up has nothing on record. -/
theorem remembers_new (config : Configuration) (owner : Nat)
    (scripts methods : List (String × Script)) (refusesToStart refusesCallHandles : Bool)
    (hunforged : (Machine.new scripts methods refusesToStart refusesCallHandles).forged = []) :
    let born := (new config owner (Machine.new scripts methods refusesToStart refusesCallHandles)).2
    Remembers born.world born := by
  intro born
  refine ⟨fun _ => ⟨?_, fun b hb => ?_, [], [], .start⟩, by rintro ⟨⟩⟩
  · exact lives_new config owner scripts methods refusesToStart refusesCallHandles hunforged rfl
  · have hnone : (HostState.new config owner).bindings = [] := rfl
    rw [show born.world.host = HostState.new config owner from rfl, hnone] at hb
    cases hb

/-- Whatever has happened, one may start the record here. -/
theorem Remembers.rebase (h : Remembers start vm) (halive : vm.disposed = false) :
    Remembers vm.world vm := by
  have hwatched := h.alive halive
  refine ⟨fun _ => ⟨?_, hwatched.discreet, [], [], .start⟩, fun hdisposed => ?_⟩
  · exact ⟨hwatched.owned.unforged, hwatched.owned.tame, hwatched.owned.rooted, [], .refl⟩
  · rw [halive] at hdisposed
    cases hdisposed

theorem Remembers.onLedger (h : Remembers start vm) :
    ∃ events runs last, OnLedger start events runs last vm := by
  cases hdisposed : vm.disposed with
  | false =>
    obtain ⟨events, runs, hrecounts⟩ := (h.alive hdisposed).recounted
    exact ⟨events, runs, [], .alive hdisposed hrecounts⟩
  | true =>
    obtain ⟨w, hw, hcleared⟩ := h.disposed hdisposed
    obtain ⟨events, runs, hrecounts⟩ := hw.recounted
    exact ⟨events, runs, w.clearing, .disposed hdisposed hrecounts hcleared⟩

/-- A record goes on from any moment, and has come to its end once the machine is disposed of. -/
theorem OnLedger.after {events : List Ownership.Event} {runs last : List FinalizerRun}
    (h : OnLedger start events runs last vm) (hremembers : vm.disposed = false →
      Remembers vm.world vm) {steps : List Step} (hdescribed : ∀ step ∈ steps, step.Described) :
    ∃ events' runs' last',
      OnLedger start (events ++ events') (runs ++ runs') (last ++ last') (vm.after steps) ∧
      (vm.disposed = true → events' = [] ∧ runs' = [] ∧ last' = []) := by
  cases h with
  | alive halive hrecounts =>
    obtain ⟨events', runs', last', hmore⟩ := ((hremembers halive).after hdescribed).onLedger
    refine ⟨events', runs', last', ?_, fun hdisposed => ?_⟩
    · cases hmore with
      | alive halive' hrecounts' => exact .alive halive' (hrecounts.trans hrecounts')
      | disposed hdisposed' hrecounts' hcleared =>
        exact .disposed hdisposed' (hrecounts.trans hrecounts') hcleared
    · rw [halive] at hdisposed
      cases hdisposed
  | @disposed _ w hdisposed hrecounts hcleared =>
    -- Nothing happens to objects any more, so the record is at its end.
    have hrests := Rests.after ⟨hdisposed, hcleared⟩ steps
    refine ⟨[], [], [], ?_, fun _ => ⟨rfl, rfl, rfl⟩⟩
    rw [List.append_nil, List.append_nil, List.append_nil]
    exact .disposed hrests.disposed hrecounts hrests.unchanged

end VirtualMachine

end ScriptHost
