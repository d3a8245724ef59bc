/-
How long a handle lives, and what it stands for meanwhile.

A handle is given up by a step that releases it by name or drops it, or by a run in which a member
drops it.  No other step ends its life, numbers are not given twice, and nothing a machine is asked
to do changes what a live handle pins:

* **`Recalls`** — what is known of a handle for good once it was acquired;
* **`VirtualMachine.Recalls.holds_step`** — a live handle is live after a step unless that gives it
  up;
* **`VirtualMachine.Recalls.holds_after`** — so are live handles that no step of a life gives up.
-/
import ScriptHost.Proofs.Disposal
import ScriptHost.Proofs.HandleDrops
import ScriptHost.Proofs.Refusals

namespace ScriptHost

open InMemory

namespace InMemory

variable {m m' : Machine} {r r' : HandleRegistry}

/-- What is known of a handle once it was acquired: its number is not given again, and as long as it
is live it has its raw handle and pins the value it was acquired for. -/
structure Recalls (h : Handle) (raw : RawHandle) (v : ScriptValue) (m : Machine)
    (r : HandleRegistry) : Prop where
  pins : Pins m r
  owner : h.owner = r.owner
  numbered : h.id < r.nextId
  live : ∀ entry, r.entry? h.id = some entry → entry = ⟨raw, .value⟩ ∧ m.pinned? raw = some v

namespace Recalls

variable {h : Handle} {raw : RawHandle} {v : ScriptValue}

/-- The machine goes on pinning what it pinned for a live handle. -/
theorem changeMachine (hk : Recalls h raw v m r) (hpins : Pins m' r)
    (hpinned : r.entry? h.id = some ⟨raw, .value⟩ → m.pinned? raw = some v →
      m'.pinned? raw = some v) : Recalls h raw v m' r where
  pins := hpins
  owner := hk.owner
  numbered := hk.numbered
  live entry hentry := by
    obtain ⟨rfl, hv⟩ := hk.live entry hentry
    exact ⟨rfl, hpinned hentry hv⟩

/-- Entries are forgotten at most. -/
theorem changeRegistry (hk : Recalls h raw v m r) (hpins : Pins m r') (howner : r'.owner = r.owner)
    (hnext : r'.nextId = r.nextId)
    (hentries : r'.entry? h.id = none ∨ r'.entry? h.id = r.entry? h.id) : Recalls h raw v m r' where
  pins := hpins
  owner := hk.owner.trans howner.symm
  numbered := hnext ▸ hk.numbered
  live entry hentry := by
    rcases hentries with hnone | hsame
    · rw [hnone] at hentry
      cases hentry
    · exact hk.live entry (hsame ▸ hentry)

theorem extend (hk : Recalls h raw v m r) (hm : m.handles <+: m'.handles) : Recalls h raw v m' r :=
  hk.changeMachine (hk.pins.extend hm) fun _ hv => Machine.pinned?_of_prefix hm hv

theorem queued (hk : Recalls h raw v m r) (hr : r.Queued r') : Recalls h raw v m r' :=
  hk.changeRegistry (hk.pins.queued hr) hr.owner hr.nextId (hr.entry? h.id)

theorem forget (hk : Recalls h raw v m r) (id : Nat) : Recalls h raw v m (r.forget id) :=
  hk.changeRegistry (hk.pins.forget id) rfl rfl (r.entry?_forget_cases h.id id)

theorem adopt (hk : Recalls h raw v m r) {u : ScriptValue} {kind : HandleKind}
    (hfits : kind.Fits u) : Recalls h raw v (m.pin u).2 (r.adopt (m.pin u).1 kind).2 where
  pins := hk.pins.adopt hfits
  owner := hk.owner
  numbered := Nat.lt_succ_of_lt hk.numbered
  live entry hentry := by
    rw [HandleRegistry.entry?_adopt_of_lt hk.numbered] at hentry
    obtain ⟨rfl, hv⟩ := hk.live entry hentry
    exact ⟨rfl, Machine.pinned?_of_prefix (List.prefix_append _ _) hv⟩

theorem release (hk : Recalls h raw v m r) {raw' : RawHandle} (hraw : raw' ∉ r.owed) :
    Recalls h raw v (InMemory.releaseHandle m raw') r := by
  refine hk.changeMachine (hk.pins.release hraw) fun hentry hv => ?_
  have howed : raw ∈ r.owed :=
    List.mem_append_left _ (List.mem_map_of_mem (HandleRegistry.mem_live_of_entry hentry))
  have hne : raw ≠ raw' := fun heq => hraw (heq ▸ howed)
  rw [Machine.pinned?_releaseHandle m hne]
  exact hv

theorem flush (hk : Recalls h raw v m r) :
    Recalls h raw v (r.pending.foldl Backend.releaseHandle m) r.takePending.2 where
  pins := hk.pins.flush
  owner := hk.owner
  numbered := hk.numbered
  live entry hentry := by
    obtain ⟨rfl, hv⟩ := hk.live entry hentry
    refine ⟨rfl, ?_⟩
    have hnot := hk.pins.not_mem_pending (HandleRegistry.mem_live_of_entry hentry)
    rw [Machine.pinned?_releaseAll m hnot]
    exact hv

/-- A handle just acquired. -/
theorem of_adopt (hpins : Pins m r) (v : ScriptValue) :
    Recalls (r.adopt (m.pin v).1 .value).1 (m.pin v).1 v (m.pin v).2
      (r.adopt (m.pin v).1 .value).2 where
  pins := hpins.adopt trivial
  owner := rfl
  numbered := Nat.lt_succ_self _
  live entry hentry := by
    simp only [HandleRegistry.adopt, HandleRegistry.entry?, List.lookup_cons_self,
      Option.some.injEq] at hentry
    exact ⟨hentry.symm, Machine.pinned?_pin m v⟩

end Recalls

end InMemory

namespace VirtualMachine

variable {vm : VirtualMachine Machine} {h : Handle} {raw : RawHandle} {v : ScriptValue}

/-- What a virtual machine knows of a handle it gave out, until it is disposed of. -/
structure Recalls (vm : VirtualMachine Machine) (h : Handle) (raw : RawHandle) (v : ScriptValue) :
    Prop where
  owner : h.owner = vm.world.host.handles.owner
  known : vm.disposed = false → InMemory.Recalls h raw v vm.world.vm vm.world.host.handles

theorem Recalls.of_known (hk : InMemory.Recalls h raw v vm.world.vm vm.world.host.handles) :
    vm.Recalls h raw v :=
  ⟨hk.owner, fun _ => hk⟩

theorem upheld_recalls (h : Handle) (raw : RawHandle) (v : ScriptValue) :
    Upheld (fun _ => True) (fun m m' : Machine => m'.handles = m.handles)
      fun vm => vm.Recalls h raw v where
  frame := Machine.slotFrame_handles
  window hm hk := ⟨hk.owner, fun halive => (hk.known halive).extend (hm ▸ List.prefix_refl _)⟩
  host hsame hk := ⟨hsame.handles ▸ hk.owner, fun halive => hsame.handles ▸ hk.known halive⟩
  bind _ _ hadd hk := by
    rw [HostState.addBinding_eq hadd]
    exact ⟨hk.owner, hk.known⟩
  entered halive hk := .of_known (hk.known halive).flush
  pin halive hpin hk := by
    cases hpin
    exact .of_known ((hk.known halive).adopt trivial)
  pinNothing hpin _ := by cases hpin
  make halive hmade hk := by
    simp only [Backend.makeCallHandle, InMemory.makeCallHandle] at hmade
    split at hmade
    · cases hmade
    · split at hmade
      · cases hmade
      · split at hmade <;> cases hmade
        exact .of_known ((hk.known halive).adopt ⟨_, rfl, rfl⟩)
  makeNothing hmade hk := by
    rw [InMemory.eq_of_makeCallHandle_refused hmade]
    exact hk
  release {vm id entry} halive hentry hk := by
    have hknown := hk.known halive
    have hforgotten :
        InMemory.Recalls h raw v vm.world.vm (vm.world.host.handles.remove id).2 := by
      rw [HandleRegistry.remove_of_entry hentry]
      exact hknown.forget id
    exact .of_known (hforgotten.flush.release (hknown.pins.not_mem_owed_remove hentry))
  drop {vm} handle hk := by
    have hqueued : vm.world.host.handles.Queued (vm.world.host.handles.queueRelease handle.id) :=
      ⟨[handle.id], rfl⟩
    exact ⟨hk.owner.trans hqueued.owner.symm, fun halive => (hk.known halive).queued hqueued⟩

open Op

/-- Disposal leaves nothing to be known but the machine a handle came from. -/
theorem recalls_dispose (hk : vm.Recalls h raw v) :
    Leads (operate .dispose) vm (fun _ vm => vm.Recalls h raw v) fun vm => vm.Recalls h raw v := by
  refine Leads.bind (leads_dispose (fun _ => hk) fun _ => ?_) fun _ _ h => h
  have hclear : Run.Leads HostState.clearForeign vm.world
      (fun _ w => w.host.handles = vm.world.host.handles)
      fun w => w.host.handles = vm.world.host.handles :=
    HostState.leads_clearForeign (fun _ _ _ _ h => h) (fun _ _ h => h) rfl
  have hfree : ∀ w : World HostState Machine, h.owner = w.host.handles.owner →
      Run.Leads Backend.free w
        (fun _ world => Recalls { vm with world := world, disposed := true } h raw v)
        fun world => Recalls { vm with world := world, disposed := true } h raw v := by
    intro w howner
    have hdisposed : ∀ world : World HostState Machine,
        w.host.handles.Queued world.host.handles →
          Recalls { vm with world := world, disposed := true } h raw v :=
      fun world hqueued => ⟨howner.trans hqueued.owner.symm, fun halive => by cases halive⟩
    exact (InMemory.leads_free (HostState.keeps_queued w.host.handles) (.refl _)).mono
      (fun _ => hdisposed) hdisposed
  -- The registry is the machine's own whether it was drained or not.
  refine hclear.mono (fun _ w hw => hfree (drained w) ?_) fun w hw => hfree w ?_
  · exact hk.owner.trans (congrArg HandleRegistry.owner hw).symm
  · exact hk.owner.trans (congrArg HandleRegistry.owner hw).symm

/-- Everything that runs something leaves a handle to what it pins. -/
theorem recalls_run {operation : Operation Empty} (hrun : isRun operation = true)
    (hk : vm.Recalls h raw v) :
    Leads (operate operation) vm (fun _ vm => vm.Recalls h raw v) fun vm => vm.Recalls h raw v := by
  have hgrows := invariant_grows vm.entered.world.vm vm.entered.world.host.handles
  have hback : vm.disposed = false →
      ∀ w, Grows vm.entered.world.vm vm.entered.world.host.handles w →
        InMemory.Recalls h raw v w.vm w.host.handles :=
    fun halive w hw => ((hk.known halive).flush.extend hw.1).queued hw.2
  refine leads_run hrun hk
    (fun halive => ⟨.of_known (hk.known halive).flush, List.prefix_refl _, .refl _⟩)
    (fun module source _ hw => hgrows.interpret module source hw)
    (fun raw _ hw => hgrows.call raw hw) (fun _ hw => grows_collectGarbage hw)
    (fun halive w hw => ⟨.of_known (hback halive w hw), fun _ => .of_known (hback halive w hw)⟩)
    (recalls_dispose hk)

theorem Recalls.after (hk : vm.Recalls h raw v) (steps : List Step) :
    (vm.after steps).Recalls h raw v :=
  (upheld_recalls h raw v).after recalls_run (fun _ _ _ => trivial) hk

/-! ### The end of a life -/

/-- A handle is live. -/
def Holds (vm : VirtualMachine Machine) (h : Handle) : Prop :=
  ∃ entry, vm.world.host.handles.entry? h.id = some entry

/-- A step gives a handle up: it is dropped or released by name, or a member drops it while
something runs. -/
def GivesUp (vm : VirtualMachine Machine) (h : Handle) : Step → Prop
  | .drop handle => handle = h
  | .lend _ => False
  | .operate (.releaseHandle name) => vm.world.host.keyring.handle? name = some h
  | .operate operation => isRun operation = true ∧
    vm.world.host.keyring.Dropped (operate operation vm).2.world.host.keyring h

/-- No step gives a handle up. -/
def Keeps (vm : VirtualMachine Machine) (h : Handle) : List Step → Prop
  | [] => True
  | step :: steps => ¬vm.GivesUp h step ∧ (vm.step step).Keeps h steps

/-- Until a machine is disposed of, what runs something ends the lives of the handles that were
dropped meanwhile, and no others. -/
theorem sheds_operate {operation : Operation Empty} (hrun : isRun operation = true)
    (halive : (operate operation vm).2.disposed = false) :
    Sheds vm.world.host.keyring vm.world.host.handles
      (operate operation vm).2.world.host.keyring (operate operation vm).2.world.host.handles := by
  let sheds (w : World HostState Machine) : Prop :=
    Sheds vm.world.host.keyring vm.world.host.handles w.host.keyring w.host.handles
  let claim (vm' : VirtualMachine Machine) : Prop := vm'.disposed = false → sheds vm'.world
  have hkeeps := HostState.keeps_sheds vm.world.host.keyring vm.world.host.handles
  have hstart : sheds vm.world := .refl _ _
  -- Entering the machine empties the queue, and nothing else in the registry.
  have hentered : sheds vm.entered.world :=
    ⟨hstart.owner, hstart.names, hstart.waiting, hstart.ended, hstart.kept⟩
  have hdisposed : ∀ world, claim { vm with world := world, disposed := true } :=
    fun _ halive => by cases halive
  have hleads : Leads (operate operation) vm (fun _ => claim) claim :=
    leads_run (Q := sheds) hrun (fun _ => hstart) (fun _ => ⟨fun _ => hentered, hentered⟩)
      (fun module source _ hw => CallsBackOnly.interpret module source hkeeps hw)
      (fun raw _ hw => CallsBackOnly.call raw hkeeps hw)
      (fun _ hw => CallsBackOnly.collectGarbage hkeeps hw)
      (fun _ _ hw => ⟨fun _ => hw, fun _ _ => hw⟩)
      (Leads.bind (leads_dispose_of_void (fun _ => hstart) hdisposed) fun _ _ h => h)
  exact hleads.ends halive

/-- Where handles were dropped at most, a handle is live that was live and was not dropped. -/
theorem Holds.iff_of_sheds {k : Keyring} {r : HandleRegistry} (hlive : vm.Holds h)
    (howner : h.owner = vm.world.host.handles.owner)
    (hs : Sheds vm.world.host.keyring vm.world.host.handles k r) :
    (∃ entry, r.entry? h.id = some entry) ↔ ¬vm.world.host.keyring.Dropped k h := by
  constructor
  · rintro ⟨entry, hentry⟩ hdropped
    rw [hs.ended h howner hdropped] at hentry
    cases hentry
  · intro hkept
    rw [hs.kept h howner hkept]
    exact hlive

/-- What neither runs something nor releases a handle leaves the handles acquired before alone. -/
theorem entry?_operate {operation : Operation Empty} (hrun : isRun operation = false)
    (hrelease : ∀ name, operation ≠ .releaseHandle name) {id : Nat}
    (hid : id < vm.world.host.handles.nextId) :
    HandleRegistry.entry? (operate operation vm).2.world.host.handles id =
      vm.world.host.handles.entry? id := by
  let same (vm' : VirtualMachine Machine) : Prop :=
    vm'.world.host.handles.entry? id = vm.world.host.handles.entry? id
  suffices hleads : Leads (operate operation) vm (fun _ => same) same from hleads.ends
  have hadopt : ∀ raw kind,
      HandleRegistry.entry? (vm.world.host.handles.adopt raw kind).2 id =
        vm.world.host.handles.entry? id := HandleRegistry.entry?_adopt_of_lt hid
  by_cases hwindow : isWindowOperation operation = true
  · have hsame : ∀ vm', Within (fun _ _ => True) vm vm' → same vm' := by
      rintro _ ⟨machine, -, rfl⟩
      rfl
    exact (leads_operate_window slotFrame_true _ hwindow).mono (fun _ => hsame) hsame
  · cases operation <;> simp only [isWindowOperation, not_true_eq_false] at hwindow <;>
      simp only [isRun, reduceCtorEq] at hrun
    case bind c module =>
      refine Leads.bind (m := fun _ => same)
        (leads_bindForeign c module rfl fun b host _ hadd _ => ?_) fun _ _ h => h
      show host.handles.entry? id = _
      rw [HostState.addBinding_eq hadd]
    case makeCallHandle signature keep =>
      refine Leads.bind (m := fun _ => same) ?_ fun handle vm' h =>
        leads_keepHandle keep handle fun _ _ => h
      exact leads_makeCallHandle signature (fun _ => rfl) (fun _ _ => rfl) (fun _ _ _ _ _ => rfl)
        fun _ raw _ _ _ _ => hadopt raw _
    case getSlotHandle slot keep =>
      refine Leads.bind (m := fun _ => same) ?_ fun handle vm' h =>
        leads_keepHandle keep handle fun _ _ => h
      exact leads_getSlotHandle slot rfl (fun _ _ _ => rfl) fun _ raw _ _ _ => hadopt raw _
    case releaseHandle name => exact absurd rfl (hrelease name)
    case onWrite subscriber => exact Leads.bind (leads_changeHost rfl rfl) fun _ _ h => h
    case onError subscriber => exact Leads.bind (leads_changeHost rfl rfl) fun _ _ h => h
    case request request => exact request.elim

/-- Releasing by name ends the life of the handle of that name and of no other. -/
theorem Recalls.holds_release (hk : vm.Recalls h raw v) (hlive : vm.Holds h)
    (halive : vm.disposed = false) (name : String) :
    (operate (.releaseHandle name) vm).2.Holds h ↔
      vm.world.host.keyring.handle? name ≠ some h := by
  obtain ⟨entry, hentry⟩ := hlive
  let spares (vm' : VirtualMachine Machine) : Prop :=
    vm'.Holds h ↔ vm.world.host.keyring.handle? name ≠ some h
  suffices hleads : Leads (operate (.releaseHandle name)) vm (fun _ => spares) spares from
    hleads.ends
  refine Leads.bind (m := fun handle vm' => vm' = vm ∧
      vm.world.host.keyring.handle? name = some handle)
    (leads_named name (fun handle hname => ⟨rfl, hname⟩) fun hname => ?_) ?_
  · exact iff_of_true ⟨entry, hentry⟩ (by rw [hname]; rintro ⟨⟩)
  · rintro handle vm ⟨rfl, hname⟩
    refine Leads.bind (leads_releaseHandle handle (fun hidle => ?_) fun released _ hr => ?_)
      fun _ _ h => h
    · -- A live handle of this machine would have been released, so the name is another one's.
      refine iff_of_true ⟨entry, hentry⟩ fun hsame => ?_
      obtain rfl : handle = h := Option.some.inj (hname.symm.trans hsame)
      exact hidle halive entry ⟨hk.owner, hentry⟩
    · have hforget := vm.world.host.handles.entry?_forget h.id handle.id
      rw [← HandleRegistry.remove_of_entry hr.2] at hforget
      show (vm.released handle.id released.raw).Holds h ↔
        vm.world.host.keyring.handle? name ≠ some h
      rw [hname, ne_eq, Option.some.injEq]
      exact HandleRegistry.lives_iff_ne ⟨entry, hentry⟩ (hr.1.trans hk.owner.symm) hforget

/-- A machine that is not disposed of after some steps was not before. -/
theorem alive_of_alive_after {steps : List Step} (halive : (vm.after steps).disposed = false) :
    vm.disposed = false := by
  by_contra hdisposed
  have hstays := disposed_after_of_disposed (by simpa using hdisposed) steps
  rw [halive] at hstays
  cases hstays

/-- A live handle is live after a step unless the step gives it up or the machine is disposed of. -/
theorem Recalls.holds_step (hk : vm.Recalls h raw v) (hlive : vm.Holds h) (step : Step)
    (halive : (vm.step step).disposed = false) :
    (vm.step step).Holds h ↔ ¬vm.GivesUp h step := by
  have hrun : (vm.after [step]).disposed = false := halive
  have hbefore : vm.disposed = false := alive_of_alive_after hrun
  cases step with
  | lend keyring => exact iff_of_true hlive id
  | drop handle =>
    show (if handle.owner = vm.world.host.handles.owner then vm.dropHandle handle else vm).Holds h ↔
      ¬handle = h
    by_cases howner : handle.owner = vm.world.host.handles.owner
    · rw [if_pos howner]
      exact HandleRegistry.lives_iff_ne hlive (howner.trans hk.owner.symm)
        (vm.world.host.handles.entry?_queueRelease h.id handle.id)
    · rw [if_neg howner]
      exact iff_of_true hlive fun heq => howner (heq ▸ hk.owner)
  | operate operation =>
    by_cases hrun : isRun operation = true
    · have hgives : vm.GivesUp h (.operate operation) ↔
          vm.world.host.keyring.Dropped (operate operation vm).2.world.host.keyring h := by
        cases operation <;> simp_all [GivesUp, isRun]
      rw [hgives]
      exact hlive.iff_of_sheds hk.owner (sheds_operate hrun halive)
    · by_cases hrelease : ∃ name, operation = .releaseHandle name
      · obtain ⟨name, rfl⟩ := hrelease
        exact hk.holds_release hlive hbefore name
      · have hnot : ¬vm.GivesUp h (.operate operation) := by
          cases operation <;> simp_all [GivesUp, isRun]
        refine iff_of_true ?_ hnot
        obtain ⟨entry, hentry⟩ := hlive
        refine ⟨entry, ?_⟩
        show HandleRegistry.entry? (operate operation vm).2.world.host.handles h.id = some entry
        rw [entry?_operate (by simpa using hrun) (fun name heq => hrelease ⟨name, heq⟩)
          (hk.known hbefore).numbered]
        exact hentry

/-- A handle whose life has ended does not come back. -/
theorem Recalls.not_holds_after (hk : vm.Recalls h raw v) (hgone : ¬vm.Holds h)
    {steps : List Step} (halive : (vm.after steps).disposed = false) :
    ¬(vm.after steps).Holds h := by
  have hknown := hk.known (alive_of_alive_after halive)
  -- Where nothing is live, it may stand for any raw handle, which no handle ever will.
  have hany : ∀ raw', vm.Recalls h raw' v := fun raw' => .of_known
    ⟨hknown.pins, hknown.owner, hknown.numbered, fun entry hentry => absurd ⟨entry, hentry⟩ hgone⟩
  rintro ⟨entry, hentry⟩
  have hzero := ((((hany ⟨0⟩).after steps).known halive).live entry hentry).1
  have hone := ((((hany ⟨1⟩).after steps).known halive).live entry hentry).1
  rw [hzero] at hone
  cases hone

/-- Until the machine is disposed of, the handles live on that no step gave up. -/
theorem Recalls.holds_after (hk : vm.Recalls h raw v) (hlive : vm.Holds h) {steps : List Step}
    (halive : (vm.after steps).disposed = false) : (vm.after steps).Holds h ↔ vm.Keeps h steps := by
  -- The first step that gives the handle up decides: from there on it does not come back.
  induction steps generalizing vm with
  | nil => exact iff_of_true hlive trivial
  | cons step steps ih =>
    have halive' : ((vm.step step).after steps).disposed = false := halive
    have hk' : (vm.step step).Recalls h raw v := hk.after [step]
    have hstep := hk.holds_step hlive step (alive_of_alive_after halive')
    show ((vm.step step).after steps).Holds h ↔ ¬vm.GivesUp h step ∧ (vm.step step).Keeps h steps
    by_cases hgives : vm.GivesUp h step
    · exact iff_of_false (hk'.not_holds_after (fun hholds => hstep.mp hholds hgives) halive')
        fun hkeeps => hkeeps.1 hgives
    · rw [ih hk' (hstep.mpr hgives) halive', and_iff_right hgives]

end VirtualMachine

end ScriptHost
