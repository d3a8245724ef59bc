/-
Raw handles are given back exactly once.

Over the whole life of a virtual machine, whatever machine it drives and in whatever order
operations and drops come, the raw handles balance.  `HandlesBalance vm` says what this comes
to in one state: where every raw handle is, and what the next steps do to it.

* **`handlesBalance_after`** — every state of every life is one in which the handles balance.
-/
import ScriptHost.Proofs.OperationAccounts

namespace ScriptHost.VirtualMachine

variable {B : Type}

/-- The raw handles handed out so far. -/
def handedOut (vm : VirtualMachine (Ledger B)) : List RawHandle :=
  Ledger.handedOut vm.world.vm.entries

/-- The raw handles given back so far. -/
def givenBack (vm : VirtualMachine (Ledger B)) : List RawHandle :=
  Ledger.givenBack vm.world.vm.entries

/-- The raw handles of live handles. -/
def inUse (vm : VirtualMachine (Ledger B)) : List RawHandle :=
  vm.world.host.handles.live.map (·.2.raw)

/-- The raw handles of dropped handles, waiting for the machine to be entered. -/
def waiting (vm : VirtualMachine (Ledger B)) : List RawHandle :=
  vm.world.host.handles.pending

variable [Backend B]

/-- A step that neither enters the machine nor disposes of it. -/
def Passes (vm : VirtualMachine (Ledger B)) (step : Step) : Prop :=
  ∀ operation, step = .operate operation → ¬vm.Enters operation ∧ operation ≠ .dispose

/-- Several such steps. -/
def Idle (vm : VirtualMachine (Ledger B)) : List Step → Prop
  | [] => True
  | step :: steps => vm.Passes step ∧ (vm.step step).Idle steps

/-- The raw handles of a machine are accounted for, and whatever is done next keeps it so. -/
structure HandlesBalance (vm : VirtualMachine (Ledger B)) : Prop where
  /-- What was handed out was given back, or is in use, or waits. -/
  balance : vm.handedOut.Perm (vm.givenBack ++ (vm.inUse ++ vm.waiting))
  /-- Nothing is given back more often than it was handed out. -/
  once : ∀ raw, vm.givenBack.count raw ≤ vm.handedOut.count raw
  /-- It is given back less often as long as it is in use. -/
  pinned : ∀ raw ∈ vm.inUse, vm.givenBack.count raw < vm.handedOut.count raw
  /-- What is handed out is taken charge of, under a new number. -/
  takes : ∀ step, vm.account.Takes (vm.step step).account
  /-- A live handle stays live until it is dropped, released by name, or the machine is
  disposed of. -/
  leaves : ∀ step, ∀ x ∈ vm.world.host.handles.live,
    x ∈ (vm.step step).world.host.handles.live ∨ x.2.raw ∈ (vm.step step).waiting ∨
      (∃ operation, step = .operate operation ∧ vm.Enters operation ∧
        x.2.raw ∈ vm.releasedBy operation) ∨
      step = .operate .dispose
  /-- An operation that enters the machine gives back what waits, then what it releases, and
  nothing else, however it ends. -/
  enters : ∀ operation, vm.Enters operation →
    (vm.step (.operate operation)).givenBack =
      vm.givenBack ++ vm.waiting ++ vm.releasedBy operation
  /-- Any other step gives nothing back, and what waits goes on waiting. -/
  waits : ∀ step, vm.Passes step →
    (vm.step step).givenBack = vm.givenBack ∧ vm.waiting <+: (vm.step step).waiting
  /-- The raw handle of a dropped handle waits behind the others, until the machine is entered
  and not any longer. -/
  drops : ∀ handle entry, vm.Releasable handle entry → ∀ steps,
    (vm.step (.drop handle)).Idle steps →
    ((vm.step (.drop handle)).after steps).givenBack = vm.givenBack ∧
      ∀ operation, ((vm.step (.drop handle)).after steps).Enters operation → ∃ later,
        (((vm.step (.drop handle)).after steps).step (.operate operation)).givenBack =
          vm.givenBack ++ vm.waiting ++ entry.raw :: later
  /-- Where no finalizer panics, disposal gives everything back, then frees the machine, which
  was not freed before. -/
  disposal : vm.disposed = false →
    (∀ due ∈ vm.world.host.foreign.clear.1, due.finalizer.panics = false) →
    .freed ∉ vm.world.vm.entries ∧
    (vm.step (.operate .dispose)).world.vm.entries =
      vm.world.vm.entries ++ (vm.inUse ++ vm.waiting).map .givenBack ++ [.freed] ∧
    (vm.step (.operate .dispose)).handedOut.Perm (vm.step (.operate .dispose)).givenBack
  /-- Where one panics, disposal frees the machine and gives nothing back. -/
  unwinding : vm.disposed = false →
    (∃ due ∈ vm.world.host.foreign.clear.1, due.finalizer.panics = true) →
    .freed ∉ vm.world.vm.entries ∧
    (vm.step (.operate .dispose)).world.vm.entries = vm.world.vm.entries ++ [.freed]
  /-- After disposal nothing is handed out or given back any more. -/
  ended : vm.disposed = true → ∀ steps, (vm.after steps).world.vm.entries = vm.world.vm.entries

/-- What every state of a life satisfies. -/
structure SoundHandles (vm : VirtualMachine (Ledger B)) : Prop where
  valid : vm.account.registry.Valid
  balanced : vm.account.Balanced
  unfreed : vm.disposed = false → .freed ∉ vm.account.entries

section

omit [Backend B]

variable {vm : VirtualMachine (Ledger B)}

theorem SoundHandles.of_new [Backend B] (config : Configuration) (owner : Nat) (machine : B) :
    SoundHandles (new config owner (⟨machine, []⟩ : Ledger B)).2 where
  valid := HandleRegistry.valid_empty owner
  balanced := List.Perm.refl _
  unfreed _ h := by cases h

end

variable [CallsBackOnly B] {vm : VirtualMachine (Ledger B)}

theorem accounts_step {operation : Operation Empty} (hdispose : operation ≠ .dispose) :
    vm.Accounts operation (vm.step (.operate operation)) :=
  (Op.accounts_operate hdispose).ends

omit [CallsBackOnly B] in
theorem queued_drop (vm : VirtualMachine (Ledger B)) (handle : Handle) :
    vm.account.registry.Queued (vm.step (.drop handle)).account.registry ∧
      (vm.step (.drop handle)).account.entries = vm.account.entries ∧
      (vm.step (.drop handle)).disposed = vm.disposed := by
  unfold step
  dsimp only
  split
  · exact ⟨⟨[handle.id], rfl⟩, rfl, rfl⟩
  · exact ⟨.refl _, rfl, rfl⟩

/-- A second disposal changes nothing. -/
theorem dispose_step (vm : VirtualMachine (Ledger B)) :
    (vm.disposed = true ∧ vm.step (.operate .dispose) = vm) ∨
      vm.Drains (vm.step (.operate .dispose)) := by
  have hrun : Op.Leads (operate .dispose) vm
      (fun _ vm' => (vm.disposed = true ∧ vm' = vm) ∨ vm.Drains vm')
      (fun vm' => (vm.disposed = true ∧ vm' = vm) ∨ vm.Drains vm') :=
    Op.drains_dispose.mono (fun _ _ h => h) fun _ h => .inr h
  exact hrun.ends

namespace SoundHandles

omit [Backend B] [CallsBackOnly B] in
theorem of_same {vm' : VirtualMachine (Ledger B)} (h : SoundHandles vm)
    (hsame : vm'.account = vm.account) (halive : vm'.disposed = false → vm.disposed = false) :
    SoundHandles vm' :=
  ⟨hsame ▸ h.valid, hsame ▸ h.balanced, fun h' => hsame ▸ h.unfreed (halive h')⟩

omit [Backend B] [CallsBackOnly B] in
theorem drains {vm' : VirtualMachine (Ledger B)} (h : SoundHandles vm) (hdrains : vm.Drains vm') :
    SoundHandles vm' := by
  have hdead : vm'.disposed = false → .freed ∉ vm'.account.entries := by
    rw [hdrains.disposed]
    rintro ⟨⟩
  rcases hdrains.cases with hdrained | habandoned
  · refine ⟨?_, hdrained ▸ h.balanced.drained, hdead⟩
    rw [hdrained]
    exact ⟨List.nodup_nil, fun _ hid => by cases hid⟩
  · obtain ⟨raws, hdropped⟩ := habandoned.1.dropped h.valid
    exact ⟨hdropped.valid h.valid, h.balanced.abandoned h.valid habandoned, hdead⟩

theorem step (h : SoundHandles vm) (step : Step) : SoundHandles (vm.step step) := by
  cases step with
  | operate operation =>
    by_cases hdispose : operation = .dispose
    · subst hdispose
      rcases dispose_step vm with ⟨-, hsame⟩ | hdrains
      · rw [hsame]
        exact h
      · exact h.drains hdrains
    · have haccounts : vm.Accounts operation (vm.step (.operate operation)) :=
        accounts_step hdispose
      by_cases henters : vm.Enters operation
      · have hentered := haccounts.enters henters
        exact ⟨hentered.valid h.valid, h.balanced.entered h.valid hentered,
          fun halive => hentered.freed (h.unfreed (haccounts.disposed ▸ halive))⟩
      · rcases haccounts.stays henters with hsame | ⟨halive, raw, hadopted⟩
        · exact h.of_same hsame fun halive => haccounts.disposed ▸ halive
        · refine ⟨?_, ?_, fun _ => ?_⟩
          · rw [hadopted]
            exact h.valid.adopt raw .value
          · rw [hadopted]
            exact h.balanced.adopted raw .value
          · rw [hadopted]
            simpa [Account.adopted] using h.unfreed halive
  | drop handle =>
    obtain ⟨hqueued, hentries, hdisposed⟩ := queued_drop vm handle
    obtain ⟨raws, hdropped⟩ := hqueued.dropped h.valid
    have hbalanced := h.balanced.queued h.valid hqueued
    rw [← hentries] at hbalanced
    refine ⟨hdropped.valid h.valid, hbalanced, fun halive => ?_⟩
    rw [hentries]
    exact h.unfreed (hdisposed ▸ halive)
  | lend keyring => exact ⟨h.valid, h.balanced, h.unfreed⟩

theorem after (h : SoundHandles vm) (steps : List Step) : SoundHandles (vm.after steps) :=
  after_induction (fun _ step h => h.step step) h steps

theorem takes (h : SoundHandles vm) (step : Step) : vm.account.Takes (vm.step step).account := by
  cases step with
  | operate operation =>
    by_cases hdispose : operation = .dispose
    · subst hdispose
      rcases dispose_step vm with ⟨-, hsame⟩ | hdrains
      · rw [hsame]
        exact .same _
      · rcases hdrains.cases with hdrained | habandoned
        · rw [hdrained]
          exact vm.account.takes_drained
        · exact habandoned.takes h.valid
    · have haccounts : vm.Accounts operation (vm.step (.operate operation)) :=
        accounts_step hdispose
      by_cases henters : vm.Enters operation
      · exact (haccounts.enters henters).takes h.valid
      · rcases haccounts.stays henters with hsame | ⟨-, raw, hadopted⟩
        · rw [hsame]
          exact .same _
        · rw [hadopted]
          exact .inr ⟨raw, .value, by simp [Account.adopted], rfl⟩
  | drop handle =>
    obtain ⟨hqueued, hentries, -⟩ := queued_drop vm handle
    obtain ⟨raws, hdropped⟩ := hqueued.dropped h.valid
    exact .inl ⟨by rw [hentries], hdropped.live⟩
  | lend keyring => exact .same _

theorem leaves (h : SoundHandles vm) (step : Step) {x : Nat × HandleEntry}
    (hx : x ∈ vm.world.host.handles.live) :
    x ∈ (vm.step step).world.host.handles.live ∨ x.2.raw ∈ (vm.step step).waiting ∨
      (∃ operation, step = .operate operation ∧ vm.Enters operation ∧
        x.2.raw ∈ vm.releasedBy operation) ∨
      step = .operate .dispose := by
  cases step with
  | operate operation =>
    by_cases hdispose : operation = .dispose
    · exact .inr (.inr (.inr (by rw [hdispose])))
    · have haccounts : vm.Accounts operation (vm.step (.operate operation)) :=
        accounts_step hdispose
      by_cases henters : vm.Enters operation
      · rcases (haccounts.enters henters).leaves h.valid hx with hlive | hwaits | hreleased
        · exact .inl hlive
        · exact .inr (.inl hwaits)
        · exact .inr (.inr (.inl ⟨operation, rfl, henters, hreleased⟩))
      · refine .inl ?_
        show x ∈ (vm.step (.operate operation)).account.registry.live
        rcases haccounts.stays henters with hsame | ⟨-, raw, hadopted⟩
        · rw [hsame]
          exact hx
        · rw [hadopted]
          exact List.mem_cons_of_mem _ hx
  | drop handle =>
    obtain ⟨hqueued, -, -⟩ := queued_drop vm handle
    obtain ⟨raws, hdropped⟩ := hqueued.dropped h.valid
    by_cases hlive : x ∈ (vm.step (.drop handle)).world.host.handles.live
    · exact .inl hlive
    · refine .inr (.inl ?_)
      show x.2.raw ∈ (vm.step (.drop handle)).account.registry.pending
      rw [hdropped.pending]
      exact List.mem_append_right _ (hdropped.gone x hx hlive)
  | lend keyring => exact .inl hx

end SoundHandles

/-- Entering the machine settles what waits. -/
theorem givenBack_step_of_enters {operation : Operation Empty} (henters : vm.Enters operation) :
    (vm.step (.operate operation)).givenBack =
      vm.givenBack ++ vm.waiting ++ vm.releasedBy operation := by
  have hdispose : operation ≠ .dispose := by
    rintro rfl
    exact henters.2
  have haccounts : vm.Accounts operation (vm.step (.operate operation)) := accounts_step hdispose
  exact (haccounts.enters henters).givenBack_eq

/-- A step that passes gives nothing back, and what waits goes on waiting. -/
theorem waiting_step_of_passes (h : SoundHandles vm) {step : Step} (hpasses : vm.Passes step) :
    (vm.step step).givenBack = vm.givenBack ∧ vm.waiting <+: (vm.step step).waiting := by
  cases step with
  | operate operation =>
    obtain ⟨hidle, hdispose⟩ := hpasses operation rfl
    have haccounts : vm.Accounts operation (vm.step (.operate operation)) := accounts_step hdispose
    show Ledger.givenBack (vm.step (.operate operation)).account.entries = _ ∧
      _ <+: (vm.step (.operate operation)).account.registry.pending
    rcases haccounts.stays hidle with hsame | ⟨-, raw, hadopted⟩
    · rw [hsame]
      exact ⟨rfl, List.prefix_refl _⟩
    · rw [hadopted]
      exact ⟨by simp [Account.adopted, givenBack, account], List.prefix_refl _⟩
  | drop handle =>
    obtain ⟨hqueued, hentries, -⟩ := queued_drop vm handle
    obtain ⟨raws, hdropped⟩ := hqueued.dropped h.valid
    exact ⟨congrArg Ledger.givenBack hentries, raws, hdropped.pending.symm⟩
  | lend keyring => exact ⟨rfl, List.prefix_refl _⟩

/-- Idle steps give no handle back and leave what waits waiting. -/
theorem waiting_after_of_idle (h : SoundHandles vm) {steps : List Step} (hidle : vm.Idle steps) :
    (vm.after steps).givenBack = vm.givenBack ∧ vm.waiting <+: (vm.after steps).waiting := by
  induction steps generalizing vm with
  | nil => exact ⟨rfl, List.prefix_refl _⟩
  | cons step steps ih =>
    obtain ⟨hback, hwaiting⟩ := waiting_step_of_passes h hidle.1
    obtain ⟨hback', hwaiting'⟩ := ih (h.step step) hidle.2
    exact ⟨hback'.trans hback, hwaiting.trans hwaiting'⟩

omit [CallsBackOnly B] in
theorem waiting_drop {handle : Handle} {entry : HandleEntry} (h : vm.Releasable handle entry) :
    (vm.step (.drop handle)).waiting = vm.waiting ++ [entry.raw] := by
  simp [step, h.1, dropHandle, waiting, HandleRegistry.queueRelease, h.2]

omit [CallsBackOnly B] in
theorem givenBack_drop (vm : VirtualMachine (Ledger B)) (handle : Handle) :
    (vm.step (.drop handle)).givenBack = vm.givenBack :=
  congrArg Ledger.givenBack (queued_drop vm handle).2.1

/-- A dropped handle is settled by the first operation that enters the machine. -/
theorem settled_of_drop (h : SoundHandles vm) {handle : Handle} {entry : HandleEntry}
    (hhandle : vm.Releasable handle entry) {steps : List Step}
    (hidle : (vm.step (.drop handle)).Idle steps) :
    ((vm.step (.drop handle)).after steps).givenBack = vm.givenBack ∧
      ∀ operation, ((vm.step (.drop handle)).after steps).Enters operation → ∃ later,
        (((vm.step (.drop handle)).after steps).step (.operate operation)).givenBack =
          vm.givenBack ++ vm.waiting ++ entry.raw :: later := by
  -- The raw handle is last in the queue, and the queue only grows until it is settled.
  obtain ⟨hback, waiting, hwaiting⟩ := waiting_after_of_idle (h.step (.drop handle)) hidle
  rw [givenBack_drop] at hback
  refine ⟨hback, fun operation henters => ?_⟩
  refine ⟨waiting ++ ((vm.step (.drop handle)).after steps).releasedBy operation, ?_⟩
  rw [givenBack_step_of_enters henters, hback, ← hwaiting, waiting_drop hhandle]
  simp

/-- Nothing is put on record after disposal. -/
theorem entries_after_of_disposed (hdisposed : vm.disposed = true) (steps : List Step) :
    (vm.after steps).disposed = true ∧ (vm.after steps).world.vm.entries = vm.world.vm.entries := by
  have hstep : ∀ (vm' : VirtualMachine (Ledger B)) (step : Step),
      vm'.disposed = true ∧ vm'.world.vm.entries = vm.world.vm.entries →
      (vm'.step step).disposed = true ∧
        (vm'.step step).world.vm.entries = vm.world.vm.entries := by
    rintro vm' step ⟨hdisposed', hentries⟩
    cases step with
    | operate operation =>
      by_cases hdispose : operation = .dispose
      · subst hdispose
        rcases dispose_step vm' with ⟨-, hsame⟩ | hdrains
        · rw [hsame]
          exact ⟨hdisposed', hentries⟩
        · have halive := hdrains.alive
          simp [hdisposed'] at halive
      · have haccounts : vm'.Accounts operation (vm'.step (.operate operation)) :=
          accounts_step hdispose
        refine ⟨haccounts.disposed.trans hdisposed', ?_⟩
        -- Nothing enters a machine that is disposed of.
        have hidle : ¬vm'.Enters operation := fun henters => by
          simp [henters.1] at hdisposed'
        rcases haccounts.stays hidle with hsame | ⟨halive, -⟩
        · exact (congrArg Account.entries hsame).trans hentries
        · simp [hdisposed'] at halive
    | drop handle =>
      obtain ⟨-, hsame, hstays⟩ := queued_drop vm' handle
      exact ⟨hstays.trans hdisposed', hsame.trans hentries⟩
    | lend keyring => exact ⟨hdisposed', hentries⟩
  exact after_induction hstep ⟨hdisposed, rfl⟩ steps

theorem drains_step (halive : vm.disposed = false) : vm.Drains (vm.step (.operate .dispose)) := by
  rcases dispose_step vm with ⟨hdisposed, -⟩ | hdrains
  · simp [halive] at hdisposed
  · exact hdrains

omit [Backend B] [CallsBackOnly B] in
/-- What was handed out and not given back is in use or waits. -/
theorem SoundHandles.count_handedOut (h : SoundHandles vm) (raw : RawHandle) :
    vm.handedOut.count raw =
      vm.givenBack.count raw + (vm.inUse.count raw + vm.waiting.count raw) := by
  have hcount := h.balanced.count_eq raw
  rw [HandleRegistry.owed, List.count_append, List.count_append] at hcount
  exact hcount

theorem SoundHandles.handlesBalance (h : SoundHandles vm) : HandlesBalance vm where
  balance := h.balanced
  once raw := by
    have hcount := h.count_handedOut raw
    omega
  pinned raw hraw := by
    have hcount := h.count_handedOut raw
    have hinUse : 0 < vm.inUse.count raw := List.count_pos_iff.mpr hraw
    omega
  takes := h.takes
  leaves step x hx := h.leaves step hx
  enters _ henters := givenBack_step_of_enters henters
  waits _ hpasses := waiting_step_of_passes h hpasses
  drops _ _ hhandle _ hidle := settled_of_drop h hhandle hidle
  disposal halive hcalm := by
    have hdrained := (drains_step halive).calm hcalm
    have hbalanced := h.balanced.drained
    rw [← hdrained] at hbalanced
    refine ⟨h.unfreed halive, congrArg Account.entries hdrained, ?_⟩
    have howed : (vm.step (.operate .dispose)).account.registry.owed = [] := by
      rw [hdrained]
      rfl
    rw [Account.Balanced, howed, List.append_nil] at hbalanced
    exact hbalanced
  unwinding halive hpanics := ⟨h.unfreed halive, ((drains_step halive).panics hpanics).2⟩
  ended hdisposed steps := (entries_after_of_disposed hdisposed steps).2

end ScriptHost.VirtualMachine
