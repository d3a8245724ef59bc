/-
Machines that keep to their own handles.

A host is `Tidy` for an owner if its handles carry that owner's number, and so do all handles that
its hand-written members can reach by name, none of which is waiting to be passed on.  Members drop
their own handles then, and nothing is ever left over for another machine:

* **`HostState.keeps_tidy`** — no callback breaks that;
* **`VirtualMachine.Attempt.tidy`**, **`VirtualMachine.tidy_dispose`** — neither does an operation,
  whatever comes of it;
* **`VirtualMachine.Attempt.perform_of_foreign`** — an operation that is given the handle of
  another machine is refused and changes nothing.
-/
import ScriptHost.Proofs.Disposal
import ScriptHost.Proofs.HandleDrops

namespace ScriptHost

/-- Only handles of one owner are kept by name, and none waits to be passed on. -/
structure Keyring.KeptBy (k : Keyring) (owner : Nat) : Prop where
  handles : ∀ x ∈ k.handles, x.2.owner = owner
  dropped : k.dropped = []

/-- A host that keeps to the handles of its owner. -/
structure HostState.Tidy (owner : Nat) (h : HostState) : Prop where
  owned : h.handles.owner = owner
  keyring : h.keyring.KeptBy owner

variable {owner : Nat}

/-! ### Members -/

/-- A member that reaches the handles of its own machine only. -/
structure CallState.Tidy {W : Type} (owner : Nat) (s : CallState Finalizer W) : Prop where
  owned : s.context.handles.owner = owner
  keyring : s.keyring.KeptBy owner

theorem CallState.Tidy.run {W : Type} [Slots W] {s s' : CallState Finalizer W}
    {action : CallAction} {reply : CallReply} (hs : s.Tidy owner)
    (hrun : action.run s = .ok (reply, s')) : s'.Tidy owner := by
  have hqueued := (CallAction.effect_run slotFrame_true hrun).handles
  refine ⟨hqueued.owner.trans hs.owned, ?_⟩
  by_cases hdrop : ∃ name, action = .dropHandle name
  · obtain ⟨name, rfl⟩ := hdrop
    obtain ⟨hkeyring, -⟩ := CallAction.reach_dropHandle hrun
    rw [hkeyring]
    refine ⟨fun x hx => hs.keyring.handles x (List.mem_of_mem_filter hx), ?_⟩
    -- What was dropped is one of the machine's own, so nothing is left to be passed on.
    refine List.filter_eq_nil_iff.mpr fun handle hhandle hforeign => ?_
    change handle ∈ s.keyring.dropped ++ (s.keyring.handle? name).toList at hhandle
    rw [hs.keyring.dropped, List.nil_append, Option.mem_toList] at hhandle
    obtain ⟨before, after, hlist, -⟩ := List.lookup_eq_some_iff.mp hhandle
    have hown : handle.owner = owner := hs.keyring.handles (name, handle) (by rw [hlist]; simp)
    exact of_decide_eq_true hforeign (hown.trans hs.owned.symm)
  · rw [(CallAction.reach_run hrun fun name h => hdrop ⟨name, h⟩).1]
    exact hs.keyring

namespace HostState

theorem keeps_tidy (owner : Nat) : Host.Keeps (Tidy owner) := by
  refine keeps_of_members (fun hsame h => ?_) (fun _ h => ⟨h.owned, h.keyring⟩)
    (fun _ h => ⟨h.owned, h.keyring⟩) fun {W} _ _ w allocating program hw => ?_
  · exact ⟨hsame.handles ▸ h.owned, hsame.keyring ▸ h.keyring⟩
  · have hstart : CallState.Tidy owner (callState w allocating) := ⟨hw.owned, hw.keyring⟩
    have hleads := Run.Leads.runActions_of_run (P := CallState.Tidy owner)
      (fun _ _ _ _ hs hrun => ⟨(hs.run hrun).owned, (hs.run hrun).keyring⟩) program _ hstart
    exact hleads.mono (fun _ s hs => ⟨hs.owned, hs.keyring⟩) fun s hs => ⟨hs.owned, hs.keyring⟩

end HostState

namespace VirtualMachine

variable {B : Type} [Backend B] {vm : VirtualMachine B}

/-- A virtual machine whose host keeps to the handles of its owner. -/
def Tidy (owner : Nat) (vm : VirtualMachine B) : Prop :=
  vm.world.host.Tidy owner

omit [Backend B] in
theorem Tidy.withHandles (h : vm.Tidy owner) {r : HandleRegistry}
    (howner : r.owner = vm.world.host.handles.owner) : (vm.withHandles r).Tidy owner :=
  ⟨howner.trans h.owned, h.keyring⟩

theorem Tidy.entered (h : vm.Tidy owner) : vm.entered.Tidy owner :=
  ⟨h.owned, h.keyring⟩

theorem tidy_new (config : Configuration) (owner : Nat) (machine : B) :
    (new config owner machine).2.Tidy owner :=
  ⟨rfl, fun _ hx => (List.not_mem_nil hx).elim, rfl⟩

open Op

/-- Whatever comes of an operation, the machine keeps to its own handles. -/
theorem Attempt.tidy [CallsBackOnly B] {α : Type} (attempt : Attempt α) (h : vm.Tidy owner) :
    (attempt.perform vm).2.Tidy owner := by
  -- Most operations get to the window only.
  have hwithin : ∀ {op : Op B α},
      Leads op vm (fun _ => Within (fun _ _ => True) vm) (Within (fun _ _ => True) vm) →
        Leads op vm (fun _ vm' => vm'.Tidy owner) fun vm' => vm'.Tidy owner := by
    have htidy : ∀ vm', Within (fun _ _ => True) vm vm' → vm'.Tidy owner := by
      rintro _ ⟨_, -, rfl⟩
      exact h
    intro op hop
    exact hop.mono (fun _ => htidy) htidy
  have hkeeps := HostState.keeps_tidy owner
  have hran : ∀ {β : Type} {run : Run (World HostState B) β},
      Run.Leads run vm.entered.world (fun _ w => w.host.Tidy owner) (fun w => w.host.Tidy owner) →
        Run.Leads run vm.entered.world
          (fun _ w => ∀ errors, (vm.ranTo w errors).Tidy owner ∧
            ∀ _ : InterpretResult, (vm.ranTo w errors).Tidy owner)
          (fun w => ({ vm with world := w } : VirtualMachine B).Tidy owner) := by
    intro β run hrun
    refine hrun.mono (fun _ w hw errors => ?_) fun w hw => hw
    have hends : (vm.ranTo w errors).Tidy owner := ⟨hw.owned, hw.keyring⟩
    exact ⟨hends, fun _ => hends⟩
  suffices hleads : Leads attempt.perform vm (fun _ vm' => vm'.Tidy owner)
      (fun vm' => vm'.Tidy owner) from hleads.ends
  cases attempt <;> unfold Attempt.perform
  case bindForeign c module =>
    refine leads_bindForeign c module h fun b host _ hadd _ => ?_
    rw [HostState.addBinding_eq hadd]
    exact ⟨h.owned, h.keyring⟩
  case interpret module source =>
    exact leads_interpret module source (fun _ => h) fun _ =>
      hran (CallsBackOnly.interpret module source hkeeps h.entered)
  case call method =>
    exact leads_call method (fun _ => h) (fun _ _ => h.entered) fun entry _ _ =>
      hran (CallsBackOnly.call entry.raw hkeeps h.entered)
  case makeCallHandle signature =>
    exact leads_makeCallHandle signature (fun _ => h) (fun _ _ => h.entered)
      (fun _ _ _ _ _ => h.entered) fun _ _ _ _ _ _ => ⟨h.owned, h.keyring⟩
  case getSlotHandle slot =>
    exact leads_getSlotHandle slot h (fun _ _ _ => h) fun _ _ _ _ _ => ⟨h.owned, h.keyring⟩
  case releaseHandle handle =>
    refine leads_releaseHandle handle (fun _ => h) fun entry _ _ => ?_
    exact (h.withHandles (vm.world.host.handles.owner_remove handle.id)).entered
  case collectGarbage =>
    exact leads_collectGarbage (fun _ => h) fun _ =>
      CallsBackOnly.collectGarbage hkeeps h.entered
  case onWrite subscriber => exact leads_changeHost h ⟨h.owned, h.keyring⟩
  case onError subscriber => exact leads_changeHost h ⟨h.owned, h.keyring⟩
  case slotCount => exact hwithin (leads_onWindow_within slotFrame_true)
  case slotType slot => exact hwithin (leads_onWindow_within slotFrame_true)
  case getSlot _ slot => exact hwithin (leads_onWindow_within slotFrame_true)
  case listCount slot => exact hwithin (leads_onWindow_within slotFrame_true)
  case setSlotHandle slot handle => exact hwithin (leads_setSlotValue_within slotFrame_true slot _)
  case setSlotValue slot value =>
    exact hwithin (leads_setSlotValue_within slotFrame_true slot value)
  case getListElement listSlot index elementSlot =>
    exact hwithin (leads_getListElement_within slotFrame_true listSlot index elementSlot)
  case insertInList listSlot index elementSlot =>
    exact hwithin (leads_insertInList_within slotFrame_true listSlot index elementSlot)
  case getVariable module name slot =>
    exact hwithin (leads_getVariable_within slotFrame_true module name slot)
  all_goals exact hwithin (leads_changeWindow_within slotFrame_true fun _ _ => trivial)

/-- Disposal gives the handles back, if it gets as far, and keeps the keyring as it is. -/
theorem tidy_dispose [CallsBackOnly B] (h : vm.Tidy owner) : (dispose vm).2.Tidy owner := by
  suffices hleads : Leads dispose vm (fun _ vm' => vm'.Tidy owner) (fun vm' => vm'.Tidy owner) from
    hleads.ends
  refine leads_dispose (fun _ => h) fun _ => ?_
  have hclear : Run.Leads HostState.clearForeign vm.world (fun _ w => w.host.Tidy owner)
      fun w => w.host.Tidy owner :=
    HostState.leads_clearForeign (fun _ _ _ _ h => h) (fun _ _ h => ⟨h.owned, h.keyring⟩)
      ⟨h.owned, h.keyring⟩
  refine hclear.mono (fun _ w hw => ?_) fun _ hw => ?_
  · exact CallsBackOnly.free (HostState.keeps_tidy owner) (w := drained w) ⟨hw.owned, hw.keyring⟩
  · exact CallsBackOnly.free (HostState.keeps_tidy owner) hw

/-! ### Whose handles -/

omit [Backend B] in
theorem leads_adopt (h : vm.Tidy owner) (raw : RawHandle) (kind : HandleKind) :
    Leads (adopt raw kind) vm (fun handle _ => handle.owner = owner) fun _ => True :=
  h.owned

/-- A handle to a value carries the number of its machine's owner. -/
theorem owner_of_getSlotHandle {slot : Nat} {handle : Handle} (h : vm.Tidy owner)
    (hgot : (getSlotHandle slot vm).1 = .ok (.ok handle)) : handle.owner = owner := by
  suffices hleads : Leads (getSlotHandle slot) vm (fun handle _ => handle.owner = owner)
      fun _ => True from hleads.of_ok hgot
  unfold getSlotHandle
  refine Leads.bind (m := fun _ vm' => vm' = vm) (Leads.onWindow (fun _ _ _ => rfl) trivial) ?_
  rintro _ vm rfl
  refine Leads.get_bind ?_
  dsimp only
  cases Slots.pin vm.world.vm slot with
  | mk raw machine =>
    refine Leads.bind (m := fun _ vm' => vm'.Tidy owner) (Leads.inside (Run.Leads.modify h))
      fun _ vm' h' => ?_
    cases raw with
    | none => exact trivial
    | some raw => exact leads_adopt h' raw .value

theorem owner_of_makeCallHandle {signature : String} {handle : Handle} (h : vm.Tidy owner)
    (hmade : (makeCallHandle signature vm).1 = .ok (.ok handle)) : handle.owner = owner := by
  suffices hleads : Leads (makeCallHandle signature) vm (fun handle _ => handle.owner = owner)
      fun _ => True from hleads.of_ok hmade
  unfold makeCallHandle
  refine Leads.bind (m := fun _ vm' => vm' = vm) (Leads.alive (fun _ => trivial) fun _ => rfl) ?_
  rintro _ _ rfl
  dsimp only
  split
  · exact Leads.throw trivial
  · refine Leads.bind (m := fun _ vm' => vm'.Tidy owner)
      (leads_enter (fun _ => trivial) fun _ => h.entered) fun _ vm' h' => ?_
    refine Leads.bind (m := fun _ vm' => vm'.Tidy owner)
      (Leads.inside (Run.Leads.onVm? (fun _ _ _ => h') fun _ _ => trivial)) fun outcome vm' h' => ?_
    refine Leads.bind (m := fun _ vm' => vm'.Tidy owner)
      (Leads.ofExcept (fun _ _ => h') trivial) fun raw vm' h' => ?_
    exact leads_adopt h' raw _

/-- The handle an operation is given. -/
def Attempt.handle? {α : Type} : Attempt α → Option Handle
  | .call method => some method
  | .releaseHandle handle => some handle
  | .setSlotHandle _ handle => some handle
  | .setSlotValue _ (.handle r) => some ⟨r.owner, r.id⟩
  | _ => none

/-- The handle of another machine is not written, whatever its number stands for here. -/
theorem setSlotValue_of_foreign (halive : vm.disposed = false) (slot : Nat) {r : HandleRef}
    (hforeign : r.owner ≠ vm.world.host.handles.owner) :
    setSlotValue slot (.handle r) vm = (.ok (.error .foreignHandle), vm) := by
  let change (w : B) : Except HostError B :=
    writeOwnedValue w slot (.handle r) vm.world.host.handles
  show changeWindow change vm = _
  have hrefused : change vm.world.vm = .error .foreignHandle := by
    show writeOwnedValue vm.world.vm slot (.handle r) vm.world.host.handles = _
    simp only [writeOwnedValue, if_pos hforeign]
    rfl
  refine bind_of_error ?_ _
  rw [onWindow_of_alive halive, hrefused]
  rfl

/-- An operation that is given the handle of another machine is refused and changes nothing,
whether or not the handle is live and whatever its number stands for here. -/
theorem Attempt.perform_of_foreign {α : Type} (attempt : Attempt α) {handle : Handle}
    (hgiven : attempt.handle? = some handle)
    (hforeign : handle.owner ≠ vm.world.host.handles.owner) :
    attempt.perform vm =
      (.ok (.error (if vm.disposed then .disposed else .foreignHandle)), vm) := by
  cases hdisposed : vm.disposed with
  | true => exact attempt.perform_of_disposed hdisposed
  | false =>
    have halive := alive_of_alive hdisposed
    have howned := checkOwned_of_foreign hforeign
    cases attempt
    case call method =>
      cases hgiven
      exact (bind_of_ok halive _).trans (bind_of_error howned _)
    case releaseHandle handle =>
      cases hgiven
      exact (bind_of_ok halive _).trans (bind_of_error howned _)
    case setSlotHandle slot handle =>
      cases hgiven
      exact setSlotValue_of_foreign hdisposed slot hforeign
    case setSlotValue slot value =>
      cases value <;> cases hgiven
      exact setSlotValue_of_foreign hdisposed slot hforeign
    all_goals cases hgiven

end VirtualMachine

end ScriptHost
