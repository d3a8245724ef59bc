/-
Objects registered with a machine that is in use.

`Stocked w` says that every object of the table is in the store, where nothing ever leaves, and
that the machine has not been freed.  No script breaks this, whatever tokens it forges, since
objects come into the table as they are placed in the store and host functions lose none; and no
operation does until the machine is disposed of:

* **`ForeignRegistry.Within`** — the numbers of the objects in a table, and what registering and
  taking out do to them;
* **`Stocked.unbroken`**, **`Stocked.invariant`** — callbacks and scripts;
* **`VirtualMachine.Stocks.after`** — every state of every life up to disposal.
-/
import ScriptHost.Proofs.FinalizerLifetime

namespace ScriptHost

open InMemory

namespace ObjectHeap

variable {α : Type} {h : ObjectHeap α} {value : α}

/-- The entries, in the order of their places. -/
def values (h : ObjectHeap α) : List α :=
  h.slots.filterMap (·.value)

theorem mem_values : value ∈ h.values ↔ ∃ slot ∈ h.slots, slot.value = some value :=
  List.mem_filterMap

/-- Nothing but the entry put in is new. -/
theorem mem_values_insert {entry : α} (hmem : value ∈ (h.insert entry).2.values) :
    value = entry ∨ value ∈ h.values := by
  obtain ⟨slot, hslot, hvalue⟩ := mem_values.mp hmem
  rw [insert] at hslot
  -- The entry goes behind the last place or into one that was empty.
  cases hfree : h.freeList with
  | nil =>
    rw [hfree] at hslot
    rcases List.mem_append.mp hslot with hold | hnew
    · exact .inr (mem_values.mpr ⟨slot, hold, hvalue⟩)
    · obtain rfl := List.mem_singleton.mp hnew
      exact .inl (Option.some.inj hvalue).symm
  | cons index free =>
    rw [hfree] at hslot
    rcases List.mem_or_eq_of_mem_set hslot with hold | rfl
    · exact .inr (mem_values.mpr ⟨slot, hold, hvalue⟩)
    · exact .inl (Option.some.inj hvalue).symm

/-- Taking an entry out brings in none. -/
theorem mem_values_remove {token : Token} (hmem : value ∈ (h.remove token).2.values) :
    value ∈ h.values := by
  rw [remove] at hmem
  cases hget : h.get? token with
  | none =>
    rw [hget] at hmem
    exact hmem
  | some entry =>
    rw [hget] at hmem
    obtain ⟨slot, hslot, hvalue⟩ := mem_values.mp hmem
    rcases List.mem_or_eq_of_mem_set hslot with hold | rfl
    · exact mem_values.mpr ⟨slot, hold, hvalue⟩
    · cases hvalue

end ObjectHeap

namespace ForeignRegistry

variable {F : Type} {r : ForeignRegistry F} {n : Nat}

/-- The objects in the table have numbers below `n`. -/
def Within (r : ForeignRegistry F) (n : Nat) : Prop :=
  ∀ entry ∈ r.heap.values, entry.object < n

theorem within_empty (n : Nat) : (empty : ForeignRegistry F).Within n := by
  intro entry hentry
  cases hentry

theorem Within.register (h : r.Within n) (finalizer : Option F) :
    (r.register n finalizer).2.Within (n + 1) := by
  intro entry hentry
  rcases ObjectHeap.mem_values_insert hentry with rfl | hold
  · exact Nat.lt_succ_self n
  · exact Nat.lt_succ_of_lt (h entry hold)

theorem Within.release (h : r.Within n) (token : Token) : (r.release token).2.Within n :=
  fun entry hentry => h entry (ObjectHeap.mem_values_remove hentry)

theorem Within.finalize (h : r.Within n) (token : Token) : (r.finalize token).2.Within n := by
  intro entry hentry
  have hkept : entry ∈ (r.heap.remove token).2.values := by
    rw [ForeignRegistry.finalize] at hentry
    rcases hremove : r.heap.remove token with ⟨_ | taken, heap⟩ <;> rw [hremove] at hentry <;>
      exact hentry
  exact h entry (ObjectHeap.mem_values_remove hkept)

/-- What is due when everything is cleared is due for an object in the table. -/
theorem Within.clear {r : ForeignRegistry Finalizer} (h : r.Within n) :
    ∀ due ∈ r.clear.1, due.object < n := by
  intro due hdue
  obtain ⟨entry, hentry, hmem⟩ := List.mem_flatMap.mp hdue
  rw [ForeignEntry.object_of_mem hmem]
  exact h entry hentry

end ForeignRegistry

/-- Every registered object is in the store, and the machine has not been freed. -/
structure Stocked (w : World HostState Machine) : Prop where
  tame : ∀ b ∈ w.host.bindings, b.Tame
  within : w.host.foreign.Within w.host.objects.cells.length
  unfreed : w.vm.freed = false

namespace Stocked

open Run

variable {w : World HostState Machine}

theorem onMachine (h : Stocked w) {m : Machine} (hm : w.vm.Silent m) :
    Stocked { w with vm := m } :=
  ⟨h.tame, h.within, hm.freed.trans h.unfreed⟩

/-- A change of the host that keeps the table and loses no object. -/
theorem changeHost (h : Stocked w) {host : HostState} (hforeign : host.foreign = w.host.foreign)
    (hobjects : host.objects.cells.length = w.host.objects.cells.length)
    (htame : ∀ b ∈ host.bindings, b.Tame) : Stocked { w with host := host } := by
  refine ⟨htame, ?_, h.unfreed⟩
  show host.foreign.Within host.objects.cells.length
  rw [hforeign, hobjects]
  exact h.within

/-- An object is placed in the store and registered. -/
theorem registered (h : Stocked w) (object : HostObject) (finalizer : Option Finalizer) :
    Stocked { w with host := (w.host.registered object finalizer).2 } := by
  refine ⟨h.tame, ?_, h.unfreed⟩
  show (w.host.foreign.register w.host.objects.cells.length finalizer).2.Within
    (w.host.objects.place object).2.cells.length
  rw [ObjectStore.place, List.length_append]
  exact h.within.register finalizer

theorem finalized (h : Stocked w) (token : Token) :
    Stocked { w with host := { w.host with foreign := (w.host.foreign.finalize token).2 } } :=
  ⟨h.tame, h.within.finalize token, h.unfreed⟩

/-- Callbacks keep every registered object in the store. -/
theorem unbroken : Unbroken Machine.Silent Stocked where
  frame := Machine.slotFrame_silent
  window hm h := h.onMachine hm
  note {_ entry} hplain h :=
    h.onMachine (.note _ (entry.finalization?_of_isPlain hplain) (entry.release?_of_isPlain hplain))
  host halike h := h.changeHost halike.foreign halike.objects fun b hb =>
    h.tame b (halike.bindings b hb)
  method index hb h := h.changeHost rfl ((h.tame _ hb).length_invoke ..) h.tame
  release _ _ h := ⟨h.tame, h.within.release _, h.unfreed⟩
  strand object finalizer h := h.registered object finalizer
  -- An instance is made beside what there is, and a failure to make one is a panic.
  place {w object finalizer m} hm h := by
    have hm' : w.vm.Silent m := by
      simp only [Slots.setNewForeign] at hm
      split at hm
      · cases hm
        exact ⟨rfl, rfl, rfl⟩
      · cases hm
    have hplaced := h.registered object finalizer
    exact hplaced.onMachine hm'

theorem noted (h : Stocked w) (runs : List FinalizerRun) :
    Stocked { w with vm := w.vm.noted runs } :=
  ⟨h.tame, h.within, h.unfreed⟩

/-- A collection takes out the entries of what it finalizes. -/
theorem collectGarbage (h : Stocked w) :
    Leads (InMemory.collectGarbage : Turn HostState Unit) w (fun _ => Stocked) Stocked := by
  unfold InMemory.collectGarbage
  refine Leads.get_bind ?_
  refine Leads.bind (m := fun _ => Stocked) (Leads.modify ?_) fun _ v hv => ?_
  · exact ⟨h.tame, h.within, h.unfreed⟩
  · -- What a finalizer leaves behind is on record only, so one round is as good as another.
    refine Leads.forM (fun token _ v hv => ?_) hv
    have hfinalized := hv.finalized token
    exact HostState.leads_finalize_iff.mpr (hfinalized.noted (v.finalizing token))

/-- Scripts keep every registered object in the store, whatever they forge. -/
theorem invariant : Invariant (fun _ => True) fun _ => Stocked where
  scripts _ _ _ := trivial
  move _ hadds h := h.onMachine hadds.silent
  forge _ _ h := h.onMachine ⟨rfl, rfl, rfl⟩
  bindMethod module className isStatic signature h :=
    unbroken.bindMethod module className isStatic signature h
  bindClass module className h := unbroken.bindClass module className h
  invoke id h := unbroken.invoke id h
  allocate id h := unbroken.allocate id h
  write text h := unbroken.write text h
  report event h := HostState.leads_report event (fun _ _ h => h.onMachine (.note _ rfl rfl))
    (h.changeHost rfl rfl h.tame)
  collect h := h.collectGarbage

end Stocked

namespace VirtualMachine

variable {vm : VirtualMachine Machine}

/-- Until it is disposed of, a machine is not freed and has every registered object. -/
def Stocks (vm : VirtualMachine Machine) : Prop :=
  vm.disposed = false → Stocked vm.world

theorem Stocks.withWindow (h : Stocks vm) {m : Machine} (hm : vm.world.vm.Silent m) :
    Stocks (vm.withWindow m) :=
  fun halive => (h halive).onMachine hm

theorem Stocks.changeHost (h : Stocks vm) {host : HostState}
    (hforeign : host.foreign = vm.world.host.foreign)
    (hobjects : host.objects = vm.world.host.objects)
    (htame : ∀ b ∈ host.bindings, b.Tame ∨ b ∈ vm.world.host.bindings) :
    Stocks { vm with world := { vm.world with host := host } } := by
  intro halive
  have hstocked := h halive
  refine hstocked.changeHost hforeign (by rw [hobjects]) fun b hb => ?_
  rcases htame b hb with hnew | hold
  · exact hnew
  · exact hstocked.tame b hold

theorem Stocks.entered (h : Stocks vm) : Stocks vm.entered := by
  have hhandles : Stocks (vm.withHandles vm.world.host.handles.takePending.2) :=
    h.changeHost rfl rfl fun _ hb => .inr hb
  exact hhandles.withWindow (.releaseHandles _ _)

/-- What operations do besides running something leaves the objects in the store. -/
theorem upheld_stocks : Upheld (fun c => ∀ module, Step.Described (.operate (.bind c module)))
    Machine.Silent Stocks where
  frame := Machine.slotFrame_silent
  window hm h := h.withWindow hm
  host {vm host} hsame h := by
    have hbindings : host.bindings = vm.world.host.bindings := by
      rw [HostState.bindings, hsame.classes, hsame.methods, hsame.allocators]
      rfl
    refine h.changeHost hsame.foreign hsame.objects fun b hb => ?_
    rw [hbindings] at hb
    exact .inr hb
  bind {vm c b module host} hc hb hadd h := by
    obtain ⟨α, _, described, rfl⟩ := hc module
    have heq := HostState.addBinding_eq hadd
    refine h.changeHost (by rw [heq]) (by rw [heq]) fun b' hb' => ?_
    -- A described class never shrinks the store.
    rcases HostState.mem_bindings_addBinding hadd hb' with rfl | hold
    · exact .inl (ForeignBinding.tame_of_describe hb)
    · exact .inr hold
  entered _ h := h.entered
  pin {_ slot _ _} _ hpin h := by
    cases hpin
    have hpinned := h.withWindow (m := (Slots.pin _ slot).2) ⟨rfl, rfl, rfl⟩
    exact hpinned.changeHost rfl rfl fun _ hb => .inr hb
  pinNothing hpin _ := by cases hpin
  make _ hmade h :=
    (h.withWindow (.makeCallHandle hmade)).changeHost rfl rfl fun _ hb => .inr hb
  makeNothing hmade h := h.withWindow (.makeCallHandle hmade)
  release {vm id _} _ _ h := by
    have hremoved : Stocks (vm.withHandles (vm.world.host.handles.remove id).2) :=
      h.changeHost rfl rfl fun _ hb => .inr hb
    exact hremoved.entered.withWindow (.releaseHandle _ _)
  drop _ h := h.changeHost rfl rfl fun _ hb => .inr hb

open Op

/-- What runs something registers bound objects only, up to disposal. -/
theorem stocks_run {operation : Operation Empty} (hrun : isRun operation = true)
    (h : Stocks vm) :
    Leads (operate operation) vm (fun _ => Stocks) Stocks := by
  refine leads_run (Q := Stocked) hrun h (fun halive => ⟨h.entered, h.entered halive⟩)
    (fun module source _ hw => Stocked.invariant.interpret module source hw)
    (fun raw _ hw => Stocked.invariant.call raw hw) (fun _ hw => hw.collectGarbage)
    (fun _ world hw => ⟨fun _ => hw, fun _ _ => ⟨hw.tame, hw.within, hw.unfreed⟩⟩) ?_
  have hdisposed : ∀ world, Stocks { vm with world := world, disposed := true } :=
    fun _ halive => by cases halive
  exact Leads.bind (leads_dispose_of_void h hdisposed) fun _ _ h => h

/-- Whatever is done with a machine, until it is disposed of it is not freed and has every
registered object. -/
theorem Stocks.after (h : Stocks vm) {steps : List Step}
    (hdescribed : ∀ step ∈ steps, step.Described) : Stocks (vm.after steps) :=
  upheld_stocks.after (fun hrun h => stocks_run hrun h)
    (fun c module hbind _ =>
      show Step.Described (.operate (.bind c module)) from hdescribed _ hbind) h

theorem stocks_new (config : Configuration) (owner : Nat)
    (scripts methods : List (String × Script)) (refusesToStart refusesCallHandles : Bool) :
    Stocks (new config owner
      (Machine.new scripts methods refusesToStart refusesCallHandles)).2 :=
  fun _ => ⟨by rintro b ⟨⟩, ForeignRegistry.within_empty _, rfl⟩

end VirtualMachine

end ScriptHost
