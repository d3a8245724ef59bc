/-
What operations do to the account of raw handles.

A raw handle leaves the registry by one of four ways: it is released by name, its handle is
dropped and the machine is entered afterwards, it waits while another handle is released, or
the machine is disposed of.

* **`Op.accounts_operate`** — an operation settles the account if it enters the machine, and
  otherwise takes charge of a raw handle at most;
* **`Op.drains_dispose`** — disposal drains the account, unless a finalizer panics.
-/
import ScriptHost.Proofs.Finalizers
import ScriptHost.Proofs.HandleAccounts
import ScriptHost.Proofs.Lifetime

namespace ScriptHost.VirtualMachine

variable {B : Type}

/-- The operations that enter the machine: running a script, collecting garbage, asking for a
handle for a signature that is not empty, and releasing or calling a live handle of this
machine. -/
def Enters (vm : VirtualMachine B) (operation : Operation Empty) : Prop :=
  vm.disposed = false ∧
    match operation with
    | .interpret .. | .collectGarbage => True
    | .makeCallHandle signature _ => signature ≠ ""
    | .releaseHandle name => ∃ handle entry,
      vm.world.host.keyring.handle? name = some handle ∧ vm.Releasable handle entry
    | .call name => ∃ handle entry,
      vm.world.host.keyring.handle? name = some handle ∧ vm.Callable handle entry
    | _ => False

/-- The raw handle an operation releases by name, if it does. -/
def releasedBy (vm : VirtualMachine B) : Operation Empty → List RawHandle
  | .releaseHandle name =>
    match vm.world.host.keyring.handle? name with
    | some handle =>
      if handle.owner = vm.world.host.handles.owner then
        (vm.world.host.handles.raw? handle.id).toList
      else []
    | none => []
  | _ => []

/-- The account of raw handles of a machine that keeps a record of them. -/
def account (vm : VirtualMachine (Ledger B)) : Account :=
  ⟨vm.world.host.handles, vm.world.vm.entries⟩

/-- What an operation other than disposal does to the account. -/
structure Accounts (vm : VirtualMachine (Ledger B)) (operation : Operation Empty)
    (vm' : VirtualMachine (Ledger B)) : Prop where
  disposed : vm'.disposed = vm.disposed
  enters : vm.Enters operation → vm.account.Entered (vm.releasedBy operation) vm'.account
  stays : ¬vm.Enters operation →
    vm'.account = vm.account ∨
      vm.disposed = false ∧ ∃ raw, vm'.account = vm.account.adopted raw .value

variable {vm vm' : VirtualMachine (Ledger B)}

/-- What disposal does to the account of a machine that was not disposed of. -/
structure Drains (vm vm' : VirtualMachine (Ledger B)) : Prop where
  alive : vm.disposed = false
  disposed : vm'.disposed = true
  calm : (∀ due ∈ vm.world.host.foreign.clear.1, due.finalizer.panics = false) →
    vm'.account = vm.account.drained
  /-- A finalizer that panics ends it, and unwinding frees the machine. -/
  panics : (∃ due ∈ vm.world.host.foreign.clear.1, due.finalizer.panics = true) →
    vm.account.Abandoned vm'.account

/-- A finalizer panics, or none does. -/
theorem Drains.cases {vm vm' : VirtualMachine (Ledger B)} (h : vm.Drains vm') :
    vm'.account = vm.account.drained ∨ vm.account.Abandoned vm'.account := by
  by_cases hcalm : ∀ due ∈ vm.world.host.foreign.clear.1, due.finalizer.panics = false
  · exact .inl (h.calm hcalm)
  · simp only [not_forall, Bool.not_eq_false] at hcalm
    obtain ⟨due, hdue, hpanics⟩ := hcalm
    exact .inr (h.panics ⟨due, hdue, hpanics⟩)

theorem Accounts.of_same {operation : Operation Empty} (hidle : ¬vm.Enters operation)
    (hdisposed : vm'.disposed = vm.disposed) (h : vm'.account = vm.account) :
    vm.Accounts operation vm' :=
  ⟨hdisposed, fun henters => absurd henters hidle, fun _ => .inl h⟩

theorem Accounts.of_entered {operation : Operation Empty} (henters : vm.Enters operation)
    (hdisposed : vm'.disposed = vm.disposed)
    (h : vm.account.Entered (vm.releasedBy operation) vm'.account) :
    vm.Accounts operation vm' :=
  ⟨hdisposed, fun _ => h, fun hidle => absurd henters hidle⟩

/-- What scripts leave of the handles after the machine was entered. -/
theorem entered_of_queued {world : World HostState (Ledger B)} {errors : ErrorBridge}
    (hqueued : vm.account.flushed.registry.Queued world.host.handles)
    (hentries : world.vm.entries = vm.account.flushed.entries) :
    vm.account.Entered [] (vm.ranTo world errors).account := by
  have h := Account.Entered.ran hqueued
  rw [← hentries] at h
  exact h

variable [Backend B]

theorem account_entered (vm : VirtualMachine (Ledger B)) :
    vm.entered.account = vm.account.flushed := by
  simp [account, entered, Account.flushed]

theorem account_released (vm : VirtualMachine (Ledger B)) {id : Nat} {entry : HandleEntry}
    (h : vm.world.host.handles.entry? id = some entry) :
    (vm.released id entry.raw).account = vm.account.flushed.released id entry.raw := by
  have hremove : vm.world.host.handles.remove id =
      (some entry.raw, vm.world.host.handles.forget id) := by
    simp [HandleRegistry.remove, h]
  simp [account, released, entered, withHandles, withWindow, hremove, Account.flushed,
    Account.released, HandleRegistry.forget, HandleRegistry.takePending]

/-- Where a run of scripts may lead from the machine just entered. -/
def Ran (vm : VirtualMachine (Ledger B)) (world : World HostState (Ledger B)) : Prop :=
  vm.entered.world.host.handles.Queued world.host.handles ∧
    world.vm.entries = vm.entered.world.vm.entries

omit [Backend B] in
theorem not_enters_of_isWindowOperation {operation : Operation Empty}
    (h : isWindowOperation operation = true) : ¬vm.Enters operation := by
  rintro ⟨-, henters⟩
  cases operation <;> simp [isWindowOperation] at h henters

namespace Op

theorem accounts_bind (c : ClassDescription) (module : String) :
    Leads (operate (.bind c module)) vm (fun _ => vm.Accounts (.bind c module))
      (vm.Accounts (.bind c module)) := by
  have hidle : ¬vm.Enters (.bind c module) := fun henters => henters.2
  have hsame : vm.Accounts (.bind c module) vm := .of_same hidle rfl rfl
  refine Leads.bind (leads_bindForeign c module hsame ?_) fun _ _ h => h
  intro b host _ hadd _
  refine .of_same hidle rfl ?_
  simp [account, HostState.addBinding_eq hadd]

omit [Backend B] in
theorem accounts_subscribe {operation : Operation Empty} {f : HostState → HostState}
    (hidle : ¬vm.Enters operation) (hf : (f vm.world.host).handles = vm.world.host.handles) :
    Leads (do
      alive
      inside (HostState.onHost f)) vm (fun _ => vm.Accounts operation)
      (vm.Accounts operation) := by
  refine leads_changeHost (.of_same hidle rfl rfl) (.of_same hidle rfl ?_)
  simp [account, hf]

theorem accounts_getSlotHandle (slot : Nat) (keep : String) :
    Leads (operate (.getSlotHandle slot keep)) vm (fun _ => vm.Accounts (.getSlotHandle slot keep))
      (vm.Accounts (.getSlotHandle slot keep)) := by
  have hidle : ¬vm.Enters (.getSlotHandle slot keep) := fun henters => henters.2
  refine Leads.bind (m := fun _ => vm.Accounts (.getSlotHandle slot keep))
    (leads_getSlotHandle slot (.of_same hidle rfl rfl) ?_ ?_) ?_
  · intro machine _ hpin
    refine .of_same hidle rfl ?_
    simp only [Slots.pin] at hpin
    split at hpin <;> cases hpin
    rfl
  · -- The machine puts the raw handle on record as the registry takes charge of it.
    intro handle raw machine halive hpin
    refine ⟨rfl, fun henters => absurd henters hidle, fun _ => .inr ⟨halive, raw, ?_⟩⟩
    simp only [Slots.pin] at hpin
    split at hpin <;> cases hpin
    rfl
  · intro handle vm' h
    refine leads_keepHandle keep handle fun _ keyring => ?_
    exact ⟨h.disposed, h.enters, h.stays⟩

theorem accounts_makeCallHandle (signature keep : String) :
    Leads (operate (.makeCallHandle signature keep)) vm
      (fun _ => vm.Accounts (.makeCallHandle signature keep))
      (vm.Accounts (.makeCallHandle signature keep)) := by
  have hsettled : vm.account.Entered [] vm.entered.account := by
    rw [account_entered]
    exact .ran (.refl _)
  refine Leads.bind (m := fun _ => vm.Accounts (.makeCallHandle signature keep))
    (leads_makeCallHandle signature ?_ ?_ ?_ ?_) ?_
  -- What waits is settled whether or not a handle comes of it.
  · intro hstop
    exact .of_same (fun henters => henters.2 (hstop henters.1)) rfl rfl
  · intro halive hsignature
    exact .of_entered ⟨halive, hsignature⟩ rfl hsettled
  · intro e machine halive hsignature hmade
    refine .of_entered ⟨halive, hsignature⟩ rfl ?_
    simp only [Backend.makeCallHandle] at hmade
    split at hmade <;> cases hmade
    exact hsettled
  · intro handle raw machine halive hsignature hmade
    refine .of_entered ⟨halive, hsignature⟩ rfl ?_
    simp only [Backend.makeCallHandle] at hmade
    split at hmade <;> cases hmade
    have hadopted := Account.Entered.adopted (a := vm.account) raw
      (.call (callArity signature))
    rw [← account_entered] at hadopted
    exact hadopted
  · intro handle vm' h
    refine leads_keepHandle keep handle fun _ keyring => ?_
    exact ⟨h.disposed, h.enters, h.stays⟩

theorem accounts_releaseHandle (name : String) :
    Leads (operate (.releaseHandle name)) vm (fun _ => vm.Accounts (.releaseHandle name))
      (vm.Accounts (.releaseHandle name)) := by
  refine Leads.bind
    (m := fun handle vm' => vm' = vm ∧ vm.world.host.keyring.handle? name = some handle)
    (leads_named name (fun _ h => ⟨rfl, h⟩) fun hname => .of_same ?_ rfl rfl) ?_
  · rintro ⟨-, handle, entry, hhandle, -⟩
    rw [hname] at hhandle
    cases hhandle
  · rintro handle vm ⟨rfl, hname⟩
    refine Leads.bind (m := fun _ => vm.Accounts (.releaseHandle name))
      (leads_releaseHandle handle ?_ ?_) fun _ _ h => h
    · intro hstop
      refine .of_same ?_ rfl rfl
      rintro ⟨halive, handle', entry, hhandle, hreleasable⟩
      rw [hname, Option.some.injEq] at hhandle
      subst hhandle
      exact hstop halive entry hreleasable
    · intro entry halive hreleasable
      have hreleased : vm.releasedBy (.releaseHandle name) = [entry.raw] := by
        simp [releasedBy, hname, hreleasable.1, HandleRegistry.raw?, hreleasable.2]
      refine .of_entered ⟨halive, handle, entry, hname, hreleasable⟩ rfl ?_
      rw [hreleased, account_released vm hreleasable.2]
      exact .released hreleasable.2

omit [Backend B] in
/-- A run drops handles and does nothing else to the account. -/
theorem leads_lift_queued {α : Type} {run : Run (World HostState B) α}
    {w : World HostState (Ledger B)}
    (hrun : ∀ {P : HostState → Prop} {w : World HostState B}, Host.Keeps P → P w.host →
      Run.Leads run w (fun _ v => P v.host) fun v => P v.host) :
    Run.Leads (Ledger.lift run) w
      (fun _ v => w.host.handles.Queued v.host.handles ∧ v.vm.entries = w.vm.entries)
      fun v => w.host.handles.Queued v.host.handles ∧ v.vm.entries = w.vm.entries :=
  Ledger.leads_lift (hrun (HostState.keeps_queued w.host.handles) (.refl _))

/-- After the machine was entered, a run leaves an account entered. -/
theorem accounts_ran {operation : Operation Empty} (henters : vm.Enters operation)
    (hnone : vm.releasedBy operation = []) {world : World HostState (Ledger B)}
    (hran : vm.Ran world) (errors : ErrorBridge) :
    vm.Accounts operation (vm.ranTo world errors) := by
  refine .of_entered henters rfl ?_
  rw [hnone]
  refine entered_of_queued hran.1 ?_
  rw [hran.2, ← account_entered]
  rfl

variable [CallsBackOnly B]

theorem accounts_interpret (module source : String) :
    Leads (operate (.interpret module source)) vm
      (fun _ => vm.Accounts (.interpret module source))
      (vm.Accounts (.interpret module source)) := by
  refine Leads.bind (leads_interpret module source (fun hdisposed => ?_) fun halive => ?_)
    fun _ _ h => h
  · refine .of_same (fun henters => ?_) rfl rfl
    rw [henters.1] at hdisposed
    cases hdisposed
  · have hran : ∀ world, vm.Ran world → ∀ errors,
        vm.Accounts (.interpret module source) (vm.ranTo world errors) :=
      fun _ hworld errors => accounts_ran ⟨halive, trivial⟩ rfl hworld errors
    refine (leads_lift_queued (CallsBackOnly.interpret module source)).mono ?_ ?_
    · exact fun _ world hworld errors =>
        ⟨hran world hworld errors, fun _ => hran world hworld errors⟩
    · exact fun world hworld => hran world hworld world.host.errors

theorem accounts_collectGarbage :
    Leads (operate .collectGarbage) vm (fun _ => vm.Accounts .collectGarbage)
      (vm.Accounts .collectGarbage) := by
  refine Leads.bind (leads_collectGarbage (fun hdisposed => ?_) fun halive => ?_) fun _ _ h => h
  · refine .of_same (fun henters => ?_) rfl rfl
    rw [henters.1] at hdisposed
    cases hdisposed
  · have hran : ∀ world, vm.Ran world →
        vm.Accounts .collectGarbage (vm.ranTo world world.host.errors) :=
      fun world hworld => accounts_ran ⟨halive, trivial⟩ rfl hworld world.host.errors
    exact (leads_lift_queued CallsBackOnly.collectGarbage).mono (fun _ => hran) hran

theorem accounts_call (name : String) :
    Leads (operate (.call name)) vm (fun _ => vm.Accounts (.call name))
      (vm.Accounts (.call name)) := by
  refine Leads.bind
    (m := fun handle vm' => vm' = vm ∧ vm.world.host.keyring.handle? name = some handle)
    (leads_named name (fun _ h => ⟨rfl, h⟩) fun hname => .of_same ?_ rfl rfl) ?_
  · rintro ⟨-, handle, entry, hhandle, -⟩
    rw [hname] at hhandle
    cases hhandle
  · rintro handle vm ⟨rfl, hname⟩
    refine Leads.bind (m := fun _ => vm.Accounts (.call name)) (leads_call handle ?_ ?_ ?_)
      fun _ _ h => h
    · intro hstop
      refine .of_same ?_ rfl rfl
      rintro ⟨halive, handle', entry, hhandle, hcallable⟩
      rw [hname, Option.some.injEq] at hhandle
      subst hhandle
      exact hstop halive entry hcallable
    · -- The window is too small for the call, but by then the machine was entered.
      rintro halive ⟨entry, hcallable⟩
      have henters : vm.Enters (.call name) := ⟨halive, handle, entry, hname, hcallable⟩
      exact accounts_ran henters rfl ⟨.refl _, rfl⟩ vm.world.host.errors
    · intro entry halive hcallable
      have henters : vm.Enters (.call name) := ⟨halive, handle, entry, hname, hcallable⟩
      have hran : ∀ world, vm.Ran world → ∀ errors,
          vm.Accounts (.call name) (vm.ranTo world errors) :=
        fun _ hworld errors => accounts_ran henters rfl hworld errors
      refine (leads_lift_queued (CallsBackOnly.call entry.raw)).mono ?_ ?_
      · exact fun _ world hworld errors =>
          ⟨hran world hworld errors, fun _ => hran world hworld errors⟩
      · exact fun world hworld => hran world hworld world.host.errors

/-- An operation that does not dispose of the machine settles its account if it enters the
machine, and otherwise takes charge of a raw handle at most. -/
theorem accounts_operate {operation : Operation Empty} (hdispose : operation ≠ .dispose) :
    Leads (operate operation) vm (fun _ => vm.Accounts operation) (vm.Accounts operation) := by
  by_cases hwindow : isWindowOperation operation = true
  · -- Reading and writing the window leaves nothing on record.
    have hwithin : Leads (operate operation) vm
        (fun _ => Within (fun l l' => l'.entries = l.entries) vm)
        (Within (fun l l' => l'.entries = l.entries) vm) :=
      leads_operate_window Ledger.windowFrame_entries.toSlotFrame _ hwindow
    have haccounts : ∀ vm', Within (fun l l' => l'.entries = l.entries) vm vm' →
        vm.Accounts operation vm' := by
      rintro _ ⟨machine, hentries, rfl⟩
      refine .of_same (not_enters_of_isWindowOperation hwindow) rfl ?_
      simp [account, hentries]
    exact hwithin.mono (fun _ => haccounts) haccounts
  · cases operation <;> simp only [isWindowOperation, not_true_eq_false] at hwindow
    case bind c module => exact accounts_bind c module
    case interpret module source => exact accounts_interpret module source
    case call name => exact accounts_call name
    case makeCallHandle signature keep => exact accounts_makeCallHandle signature keep
    case getSlotHandle slot keep => exact accounts_getSlotHandle slot keep
    case releaseHandle name => exact accounts_releaseHandle name
    case collectGarbage => exact accounts_collectGarbage
    case onWrite subscriber =>
      exact Leads.bind (accounts_subscribe (fun henters => henters.2) rfl) fun _ _ h => h
    case onError subscriber =>
      exact Leads.bind (accounts_subscribe (fun henters => henters.2) rfl) fun _ _ h => h
    case dispose => exact absurd rfl hdispose
    case request request => exact request.elim

omit [CallsBackOnly B] in
/-- The finalizers that run at disposal do not touch the account, and a panic is that of one of
them. -/
theorem leads_clearForeign (world : World HostState (Ledger B)) :
    Run.Leads HostState.clearForeign world
      (fun _ v => (v.host.handles = world.host.handles ∧ v.vm.entries = world.vm.entries) ∧
        ∀ due ∈ world.host.foreign.clear.1, due.finalizer.panics = false)
      fun v => (v.host.handles = world.host.handles ∧ v.vm.entries = world.vm.entries) ∧
        ∃ due ∈ world.host.foreign.clear.1, due.finalizer.panics = true := by
  have hsame : Run.Leads HostState.clearForeign world
      (fun _ v => v.host.handles = world.host.handles ∧ v.vm.entries = world.vm.entries)
      fun v => v.host.handles = world.host.handles ∧ v.vm.entries = world.vm.entries :=
    HostState.leads_clearForeign (fun _ _ _ _ h => h) (fun _ _ h => h) ⟨rfl, rfl⟩
  obtain ⟨m, hclear⟩ := HostState.exists_clearForeign_eq world
  unfold Run.Leads at hsame ⊢
  rw [hclear] at hsame ⊢
  cases houtcome : finalizersOutcome world.host.foreign.clear.1 with
  | ok _ =>
    rw [houtcome] at hsame
    exact ⟨hsame, finalizersOutcome_eq_ok_iff.mp houtcome⟩
  | error p =>
    rw [houtcome] at hsame
    obtain ⟨ahead, last, behind, hdue, -, hlast⟩ := exists_append_of_finalizersOutcome houtcome
    exact ⟨hsame, last, by simp [hdue], hlast⟩

/-- Freeing the machine puts that on record, and drops handles at most, however it ends. -/
theorem leads_free (world : World HostState (Ledger B)) :
    Run.Leads Backend.free world
      (fun _ v => world.host.handles.Queued v.host.handles ∧
        v.vm.entries = world.vm.entries ++ [.freed])
      fun v => world.host.handles.Queued v.host.handles ∧
        v.vm.entries = world.vm.entries ++ [.freed] :=
  Run.Leads.bind (m := fun _ v => v = { world with vm := world.vm.write .freed })
    (Run.Leads.modify rfl) fun _ _ hv => hv ▸ leads_lift_queued CallsBackOnly.free

/-- Disposal gives back everything owed and frees the machine; if a finalizer panics, it frees the
machine and gives nothing back. -/
theorem drains_dispose :
    Leads (operate .dispose) vm (fun _ vm' => (vm.disposed = true ∧ vm' = vm) ∨ vm.Drains vm')
      vm.Drains := by
  refine Leads.bind (leads_dispose (fun h => .inl ⟨h, rfl⟩) fun halive => ?_) fun _ _ h => h
  refine (leads_clearForeign vm.world).mono ?_ ?_
  · rintro _ world ⟨⟨hhandles, hentries⟩, hcalm⟩
    -- No handle is live any more when the machine is freed, so none can be dropped then.
    have hdrains : ∀ world' : World HostState (Ledger B),
        (drained world).host.handles.Queued world'.host.handles ∧
          world'.vm.entries = (drained world).vm.entries ++ [.freed] →
        vm.Drains { vm with world := world', disposed := true } := by
      rintro world' ⟨hqueued, hfreed⟩
      refine ⟨halive, rfl, fun _ => ?_, fun ⟨due, hdue, hpanics⟩ => ?_⟩
      · rw [account, hqueued.eq_of_live_eq_nil rfl, hfreed]
        simp [drained, account, Account.drained, hhandles, hentries, HandleRegistry.drain,
          HandleRegistry.owed]
      · rw [hcalm due hdue] at hpanics
        cases hpanics
    exact (leads_free (drained world)).mono (fun _ world' h => .inr (hdrains world' h)) hdrains
  · rintro world ⟨⟨hhandles, hentries⟩, due, hdue, hpanics⟩
    have hdrains : ∀ world' : World HostState (Ledger B),
        world.host.handles.Queued world'.host.handles ∧
          world'.vm.entries = world.vm.entries ++ [.freed] →
        vm.Drains { vm with world := world', disposed := true } := by
      rintro world' ⟨hqueued, hfreed⟩
      rw [hhandles] at hqueued
      rw [hentries] at hfreed
      refine ⟨halive, rfl, fun hcalm => ?_, fun _ => ⟨hqueued, hfreed⟩⟩
      rw [hcalm due hdue] at hpanics
      cases hpanics
    exact (leads_free world).mono (fun _ => hdrains) hdrains

end Op

end ScriptHost.VirtualMachine
