/-
Reasoning about the operations of a virtual machine.

`Op.Leads op vm ok stop` says where an operation leads from `vm`: to `ok` if it answers, to
`stop` if it fails or panics.  The laws follow the ways operations are put together, and
those of the steps they are made of; **`Op.leads_operate_window`** deals in one go with
all operations that do nothing but read and write the window.
-/
import ScriptHost.Proofs.RunLaws
import ScriptHost.Proofs.WindowFrame
import ScriptHost.Session

namespace ScriptHost.VirtualMachine

variable {B : Type} {α β : Type}

/-- An operation leads to `ok` if it answers, to `stop` if it fails or panics. -/
def Op.Leads (op : Op B α) (vm : VirtualMachine B) (ok : α → VirtualMachine B → Prop)
    (stop : VirtualMachine B → Prop) : Prop :=
  match op vm with
  | (.ok (.ok a), vm') => ok a vm'
  | (.ok (.error _), vm') => stop vm'
  | (.error _, vm') => stop vm'

namespace Op

variable {vm : VirtualMachine B} {ok : α → VirtualMachine B → Prop}
  {stop : VirtualMachine B → Prop}

theorem bind_apply (op : Op B β) (next : β → Op B α) (vm : VirtualMachine B) :
    (op >>= next) vm =
      match op vm with
      | (.ok (.ok b), vm') => next b vm'
      | (.ok (.error e), vm') => (.ok (.error e), vm')
      | (.error p, vm') => (.error p, vm') := by
  show (ExceptT.bind op next) vm = _
  unfold ExceptT.bind ExceptT.mk
  rw [Run.bind_apply]
  rcases op vm with ⟨_ | ⟨_ | _⟩, _⟩ <;> rfl

theorem Leads.mono {op : Op B α} {ok' : α → VirtualMachine B → Prop}
    {stop' : VirtualMachine B → Prop} (h : Leads op vm ok stop)
    (hok : ∀ a vm', ok a vm' → ok' a vm') (hstop : ∀ vm', stop vm' → stop' vm') :
    Leads op vm ok' stop' := by
  unfold Leads at h ⊢
  split at h
  · exact hok _ _ h
  · exact hstop _ h
  · exact hstop _ h

theorem Leads.ends {op : Op B α} {post : VirtualMachine B → Prop}
    (h : Leads op vm (fun _ => post) post) : post (op vm).2 := by
  unfold Leads at h
  split at h <;> rename_i heq <;> rw [heq] <;> exact h

theorem Leads.of_ok {op : Op B α} (h : Leads op vm ok stop) {a : α}
    (ha : (op vm).1 = .ok (.ok a)) : ok a (op vm).2 := by
  unfold Leads at h
  split at h <;> rename_i heq <;> rw [heq] at ha ⊢ <;> cases ha
  exact h

theorem Leads.bind {op : Op B β} {next : β → Op B α} {m : β → VirtualMachine B → Prop}
    (h : Leads op vm m stop) (hnext : ∀ b vm', m b vm' → Leads (next b) vm' ok stop) :
    Leads (op >>= next) vm ok stop := by
  unfold Leads at h ⊢
  rw [bind_apply]
  rcases hrun : op vm with ⟨_ | ⟨_ | b⟩, vm'⟩ <;> rw [hrun] at h
  · exact h
  · exact h
  · exact hnext b vm' h

theorem Leads.throw {e : HostError} (h : stop vm) : Leads (throw e : Op B α) vm ok stop := h

theorem Leads.get_bind {next : VirtualMachine B → Op B α} (h : Leads (next vm) vm ok stop) :
    Leads (get >>= next) vm ok stop :=
  Leads.bind (m := fun b vm' => b = vm ∧ vm' = vm) ⟨rfl, rfl⟩ (by rintro _ _ ⟨rfl, rfl⟩; exact h)

theorem Leads.inside {run : Run (World HostState B) α}
    (h : Run.Leads run vm.world (fun a world => ok a { vm with world := world })
      (fun world => stop { vm with world := world })) :
    Leads (VirtualMachine.inside run) vm ok stop := by
  unfold Leads VirtualMachine.inside
  unfold Run.Leads at h
  rcases hrun : run vm.world with ⟨_ | a, world⟩ <;> rw [hrun] at h <;> exact h

theorem Leads.alive {ok : Unit → VirtualMachine B → Prop}
    (hdisposed : vm.disposed = true → stop vm) (halive : vm.disposed = false → ok () vm) :
    Leads VirtualMachine.alive vm ok stop := by
  unfold VirtualMachine.alive
  refine Leads.get_bind ?_
  cases hd : vm.disposed with
  | true => exact hdisposed hd
  | false => exact halive hd

theorem Leads.ofExcept {outcome : Except HostError α} (hok : ∀ a, outcome = .ok a → ok a vm)
    (herror : stop vm) : Leads (VirtualMachine.ofExcept outcome) vm ok stop := by
  cases outcome with
  | ok a => exact hok a rfl
  | error e => exact herror

theorem Leads.onWindow {look : B → Except HostError α}
    (hok : ∀ a, vm.disposed = false → look vm.world.vm = .ok a → ok a vm) (hstop : stop vm) :
    Leads (VirtualMachine.onWindow look) vm ok stop := by
  unfold VirtualMachine.onWindow
  refine Leads.bind (m := fun _ vm' => vm' = vm ∧ vm.disposed = false)
    (Leads.alive (fun _ => hstop) fun h => ⟨rfl, h⟩) ?_
  rintro _ _ ⟨rfl, halive⟩
  exact Leads.get_bind (Leads.ofExcept (fun a h => hok a halive h) hstop)

/-- The same machine, its window changed within a frame. -/
def Within (R : B → B → Prop) (vm vm' : VirtualMachine B) : Prop :=
  ∃ machine, R vm.world.vm machine ∧
    vm' = { vm with world := { vm.world with vm := machine } }

/-- What leads to a changed window does so whatever is answered in the end. -/
theorem Leads.andThen {R : B → B → Prop} {op : Op B β} {f : β → α}
    (h : Leads op vm (fun _ => Within R vm) (Within R vm)) :
    Leads (do return f (← op)) vm (fun _ => Within R vm) (Within R vm) :=
  Leads.bind h fun _ _ h => h

variable [Backend B] {R : B → B → Prop}

theorem within_refl (hR : SlotFrame R) (vm : VirtualMachine B) : Within R vm vm :=
  ⟨vm.world.vm, hR.refl _, rfl⟩

theorem leads_onWindow_within (hR : SlotFrame R) {look : B → Except HostError α} :
    Leads (VirtualMachine.onWindow look) vm (fun _ => Within R vm) (Within R vm) :=
  Leads.onWindow (fun _ _ _ => within_refl hR vm) (within_refl hR vm)

theorem leads_changeWindow_within (hR : SlotFrame R) {change : B → Except HostError B}
    (hchange : ∀ machine, change vm.world.vm = .ok machine → R vm.world.vm machine) :
    Leads (VirtualMachine.changeWindow change) vm (fun _ => Within R vm) (Within R vm) := by
  unfold VirtualMachine.changeWindow
  refine Leads.bind (m := fun machine vm' => R vm.world.vm machine ∧ vm' = vm)
    (Leads.onWindow (fun machine _ h => ⟨hchange machine h, rfl⟩) (within_refl hR vm)) ?_
  rintro machine _ ⟨hmachine, rfl⟩
  exact Leads.inside (Run.Leads.modify ⟨machine, hmachine, rfl⟩)

end Op

/-- The operations that do nothing but read and write the window. -/
def isWindowOperation {K : Type} : Operation K → Bool
  | .setSlotHandle .. | .ensureSlots .. | .slotCount | .slotType .. | .get .. | .set ..
  | .setValue .. | .setNull .. | .newList .. | .listCount .. | .listGet .. | .listInsert ..
  | .getVariable .. | .abortFiber .. => true
  | _ => false

namespace Op

variable [Backend B] {vm : VirtualMachine B} {R : B → B → Prop}

/-- A refusal or a write, whichever it is. -/
theorem writeChecked_within (slot : Nat) {set : B → B} (hset : ∀ w, R w (set w)) {w w' : B}
    (h : writeChecked w slot set = .ok w') : R w w' :=
  SlotFrame.eq_of_writeChecked h ▸ hset w

theorem leads_setSlotValue_within (hR : SlotFrame R) (slot : Nat) (value : HostValue) :
    Leads (setSlotValue slot value) vm (fun _ => Within R vm) (Within R vm) := by
  unfold setSlotValue
  exact Leads.get_bind (leads_changeWindow_within hR fun _ => hR.writeOwnedValue)

theorem leads_getListElement_within (hR : SlotFrame R) (listSlot index elementSlot : Nat) :
    Leads (getListElement listSlot index elementSlot) vm (fun _ => Within R vm)
      (Within R vm) := by
  unfold getListElement
  refine leads_changeWindow_within hR ?_
  intro machine h
  -- What comes after both checks is one operation on the window, which is within every frame.
  cases hlist : expectList vm.world.vm listSlot with
  | error e =>
    rw [hlist] at h
    cases h
  | ok _ =>
    cases hslot : checkSlot vm.world.vm elementSlot with
    | error e =>
      rw [hlist, hslot] at h
      cases h
    | ok _ =>
      rw [hlist, hslot] at h
      simp only [bind, Except.bind] at h
      split at h
      · cases h
      · cases h
        exact hR.getElement _ _ _ _

theorem leads_insertInList_within (hR : SlotFrame R) (listSlot : Nat) (index : Int)
    (elementSlot : Nat) :
    Leads (insertInList listSlot index elementSlot) vm (fun _ => Within R vm)
      (Within R vm) := by
  unfold insertInList
  refine Leads.bind (m := fun _ vm' => vm' = vm)
    (Leads.onWindow (fun _ _ _ => rfl) (within_refl hR vm)) ?_
  rintro _ vm rfl
  refine Leads.inside (Run.Leads.onVm? ?_ fun _ _ => within_refl hR _)
  intro _ machine h
  cases hinsert : Slots.insertElement vm.world.vm listSlot index elementSlot with
  | error p =>
    rw [hinsert] at h
    cases h
  | ok machine' =>
    rw [hinsert] at h
    cases h
    exact ⟨machine, hR.insertElement hinsert, rfl⟩

theorem leads_getVariable_within (hR : SlotFrame R) (module name : String) (slot : Nat) :
    Leads (getVariable module name slot) vm (fun _ => Within R vm) (Within R vm) := by
  unfold getVariable
  refine leads_changeWindow_within hR ?_
  intro machine h
  cases hslot : checkSlot vm.world.vm slot with
  | error e =>
    rw [hslot] at h
    cases h
  | ok _ =>
    rw [hslot] at h
    exact hR.getVariable h

/-- An operation on the window changes the window, within every frame, and nothing else. -/
theorem leads_operate_window {K : Type} (hR : SlotFrame R)
    (perform : K → Run (World HostState B) WindowReply) {operation : Operation K}
    (hwindow : isWindowOperation operation = true) :
    Leads (Session.operate perform operation) vm (fun _ => Within R vm) (Within R vm) := by
  cases operation <;> simp only [isWindowOperation, Bool.false_eq_true] at hwindow <;>
    unfold Session.operate
  case setSlotHandle slot handle =>
    unfold Session.named setSlotHandle
    refine Leads.bind (m := fun _ vm' => vm' = vm) (Leads.get_bind ?_) ?_
    · cases vm.world.host.keyring.handle? handle with
      | none => exact within_refl hR vm
      | some h => exact rfl
    · rintro h _ rfl
      exact Leads.bind (leads_setSlotValue_within hR slot _) fun _ _ h => h
  case ensureSlots count =>
    refine Leads.bind (leads_changeWindow_within hR ?_) fun _ _ h => h
    rintro _ ⟨⟩
    exact hR.ensure _ count
  case slotCount => exact Leads.andThen (leads_onWindow_within hR)
  case slotType slot => exact Leads.andThen (leads_onWindow_within hR)
  case get slot type => exact Leads.andThen (leads_onWindow_within hR)
  case set slot payload =>
    refine Leads.get_bind ?_
    exact Leads.bind (leads_changeWindow_within hR fun _ => hR.writePayload) fun _ _ h => h
  -- The value is taken from the keyring, which is no part of the window.
  case setValue slot value =>
    refine Leads.bind (m := fun _ vm' => vm' = vm) (Leads.get_bind rfl) ?_
    rintro v _ rfl
    exact Leads.bind (leads_setSlotValue_within hR slot v) fun _ _ h => h
  case setNull slot =>
    refine Leads.bind (leads_changeWindow_within hR fun _ h => ?_) fun _ _ h => h
    exact writeChecked_within slot (fun w => hR.setNull w slot) h
  case newList slot =>
    refine Leads.bind (leads_changeWindow_within hR fun _ h => ?_) fun _ _ h => h
    exact writeChecked_within slot (fun w => hR.setNewList w slot) h
  case listCount slot => exact Leads.andThen (leads_onWindow_within hR)
  case listGet slot index element =>
    exact Leads.bind (leads_getListElement_within hR slot index element) fun _ _ h => h
  case listInsert slot index element =>
    exact Leads.bind (leads_insertInList_within hR slot index element) fun _ _ h => h
  case getVariable module name slot =>
    exact Leads.bind (leads_getVariable_within hR module name slot) fun _ _ h => h
  case abortFiber slot =>
    refine Leads.bind (leads_changeWindow_within hR fun _ h => ?_) fun _ _ h => h
    exact writeChecked_within slot (fun w => hR.abort w slot) h

end Op

/-- The handles dropped so far are given back, before anything else. -/
def entered [Backend B] (vm : VirtualMachine B) : VirtualMachine B :=
  { vm with world :=
    { host := { vm.world.host with handles := vm.world.host.handles.takePending.2 }
      vm := vm.world.host.handles.pending.foldl Backend.releaseHandle vm.world.vm } }

def withWindow (vm : VirtualMachine B) (machine : B) : VirtualMachine B :=
  { vm with world := { vm.world with vm := machine } }

def withHandles (vm : VirtualMachine B) (handles : HandleRegistry) : VirtualMachine B :=
  { vm with world := { vm.world with host := { vm.world.host with handles := handles } } }

/-- Taking charge of a raw handle. -/
def adopted (vm : VirtualMachine B) (raw : RawHandle) (kind : HandleKind) : VirtualMachine B :=
  vm.withHandles (vm.world.host.handles.adopt raw kind).2

/-- Giving back a handle that was live, after those dropped before. -/
def released [Backend B] (vm : VirtualMachine B) (id : Nat) (raw : RawHandle) :
    VirtualMachine B :=
  let vm := (vm.withHandles (vm.world.host.handles.remove id).2).entered
  vm.withWindow (Backend.releaseHandle vm.world.vm raw)

/-- A machine after a run, whatever error was captured. -/
def ranTo (vm : VirtualMachine B) (world : World HostState B) (errors : ErrorBridge) :
    VirtualMachine B :=
  { vm with world := { world with host := { world.host with errors := errors } } }

/-- A handle of this machine that stands for a method and is live. -/
def Callable (vm : VirtualMachine B) (method : Handle) (entry : HandleEntry) : Prop :=
  method.owner = vm.world.host.handles.owner ∧
    vm.world.host.handles.entry? method.id = some entry ∧ ∃ arity, entry.kind = .call arity

/-- A handle of this machine that is live. -/
def Releasable (vm : VirtualMachine B) (handle : Handle) (entry : HandleEntry) : Prop :=
  handle.owner = vm.world.host.handles.owner ∧
    vm.world.host.handles.entry? handle.id = some entry

namespace Op

variable [Backend B] {vm : VirtualMachine B} {ok : α → VirtualMachine B → Prop}
  {stop : VirtualMachine B → Prop}

theorem leads_enter {ok : Unit → VirtualMachine B → Prop}
    (hdisposed : vm.disposed = true → stop vm)
    (halive : vm.disposed = false → ok () vm.entered) : Leads enter vm ok stop := by
  unfold enter
  refine Leads.bind (m := fun _ vm' => vm' = vm ∧ vm.disposed = false)
    (Leads.alive hdisposed fun h => ⟨rfl, h⟩) ?_
  rintro _ vm ⟨rfl, h⟩
  exact halive h

omit [Backend B] in
theorem leads_finish {ok : InterpretResult → VirtualMachine B → Prop} (result : InterpretResult)
    (hok : ∀ errors, ok result (vm.ranTo vm.world errors))
    (hstop : ∀ errors, stop (vm.ranTo vm.world errors)) :
    Leads (finish result) vm ok stop := by
  unfold finish
  refine Leads.bind (m := fun _ vm' => vm' = vm.ranTo vm.world .idle) rfl ?_
  rintro error _ rfl
  cases error with
  | none => exact hok _
  | some e =>
    refine Leads.get_bind ?_
    split
    · exact hstop _
    · exact hok _

theorem leads_interpret {ok : InterpretResult → VirtualMachine B → Prop} (module source : String)
    (hdisposed : vm.disposed = true → stop vm)
    (hrun : vm.disposed = false →
      Run.Leads (Backend.interpret module source) vm.entered.world
        (fun _ world => ∀ errors, stop (vm.ranTo world errors) ∧
          ∀ result, ok result (vm.ranTo world errors))
        (fun world => stop { vm with world := world })) :
    Leads (interpret module source) vm ok stop := by
  unfold VirtualMachine.interpret
  refine Leads.bind (m := fun _ vm' => vm' = vm.entered ∧ vm.disposed = false)
    (leads_enter hdisposed fun h => ⟨rfl, h⟩) ?_
  rintro _ _ ⟨rfl, halive⟩
  refine Leads.bind (m := fun _ vm' => ∀ errors, stop (vm'.ranTo vm'.world errors) ∧
    ∀ result, ok result (vm'.ranTo vm'.world errors)) (Leads.inside (hrun halive)) ?_
  intro outcome vm' hvm'
  -- An outcome that is a refusal stops here, before any error is taken.
  refine Leads.bind (m := fun _ vm'' => vm'' = vm')
    (Leads.ofExcept (fun _ _ => rfl) (hvm' vm'.world.host.errors).1) ?_
  rintro result _ rfl
  exact leads_finish result (fun errors => (hvm' errors).2 result) fun errors => (hvm' errors).1

theorem leads_collectGarbage {ok : Unit → VirtualMachine B → Prop}
    (hdisposed : vm.disposed = true → stop vm)
    (hrun : vm.disposed = false → Run.Leads Backend.collectGarbage vm.entered.world
      (fun _ world => ok () { vm with world := world })
      (fun world => stop { vm with world := world })) :
    Leads collectGarbage vm ok stop := by
  unfold VirtualMachine.collectGarbage
  refine Leads.bind (m := fun _ vm' => vm' = vm.entered ∧ vm.disposed = false)
    (leads_enter hdisposed fun h => ⟨rfl, h⟩) ?_
  rintro _ _ ⟨rfl, halive⟩
  exact Leads.inside (hrun halive)

omit [Backend B] in
theorem leads_checkOwned {ok : Unit → VirtualMachine B → Prop} (handle : Handle)
    (hok : handle.owner = vm.world.host.handles.owner → ok () vm)
    (hstop : handle.owner ≠ vm.world.host.handles.owner → stop vm) :
    Leads (checkOwned handle) vm ok stop := by
  unfold checkOwned
  refine Leads.get_bind ?_
  split
  · rename_i h
    exact hstop h
  · rename_i h
    exact hok (Decidable.not_not.mp h)

omit [Backend B] in
theorem leads_liveEntry {ok : HandleEntry → VirtualMachine B → Prop} (handle : Handle)
    (hok : ∀ entry, vm.world.host.handles.entry? handle.id = some entry → ok entry vm)
    (hstop : vm.world.host.handles.entry? handle.id = none → stop vm) :
    Leads (liveEntry handle) vm ok stop := by
  unfold liveEntry
  refine Leads.get_bind ?_
  cases hentry : vm.world.host.handles.entry? handle.id with
  | none => exact hstop hentry
  | some entry => exact hok entry hentry

theorem leads_call {ok : InterpretResult → VirtualMachine B → Prop} (method : Handle)
    (hidle : (vm.disposed = false → ∀ entry, ¬vm.Callable method entry) → stop vm)
    (hmissing : vm.disposed = false → (∃ entry, vm.Callable method entry) → stop vm.entered)
    (hrun : ∀ entry, vm.disposed = false → vm.Callable method entry →
      Run.Leads (Backend.call entry.raw) vm.entered.world
        (fun _ world => ∀ errors, stop (vm.ranTo world errors) ∧
          ∀ result, ok result (vm.ranTo world errors))
        (fun world => stop { vm with world := world })) :
    Leads (call method) vm ok stop := by
  unfold VirtualMachine.call
  refine Leads.bind (m := fun _ vm' => vm' = vm ∧ vm.disposed = false)
    (Leads.alive (fun h => hidle fun h' => by simp [h] at h') fun h => ⟨rfl, h⟩) ?_
  rintro _ vm ⟨rfl, halive⟩
  refine Leads.bind (m := fun _ vm' => vm' = vm ∧ method.owner = vm.world.host.handles.owner)
    (leads_checkOwned method (fun h => ⟨rfl, h⟩) fun h => hidle fun _ _ hc => h hc.1) ?_
  rintro _ vm ⟨rfl, howned⟩
  refine Leads.bind
    (m := fun entry vm' => vm' = vm ∧ vm.world.host.handles.entry? method.id = some entry)
    (leads_liveEntry method (fun _ h => ⟨rfl, h⟩)
      fun h => hidle fun _ entry hc => by rw [hc.2.1] at h; cases h) ?_
  rintro entry vm ⟨rfl, hentry⟩
  dsimp only
  cases hkind : entry.kind with
  | value =>
    -- A handle that stands for a value is refused before the machine is entered.
    refine hidle fun _ entry' hc => ?_
    obtain ⟨-, hentry', arity, harity⟩ := hc
    rw [hentry, Option.some.injEq] at hentry'
    subst hentry'
    rw [hkind] at harity
    cases harity
  | call arity =>
    have hcallable : vm.Callable method entry := ⟨howned, hentry, arity, hkind⟩
    refine Leads.bind (m := fun _ vm' => vm' = vm.entered)
      (leads_enter (fun h => by simp [halive] at h) fun _ => rfl) ?_
    rintro _ _ rfl
    -- Only now is the window compared with the arguments the method takes.
    refine Leads.get_bind ?_
    split
    · exact hmissing halive ⟨entry, hcallable⟩
    · refine Leads.bind (m := fun _ vm' => ∀ errors, stop (vm'.ranTo vm'.world errors) ∧
        ∀ result, ok result (vm'.ranTo vm'.world errors))
        (Leads.inside (hrun entry halive hcallable)) ?_
      intro result vm' hvm'
      exact leads_finish result (fun errors => (hvm' errors).2 result)
        fun errors => (hvm' errors).1

theorem leads_makeCallHandle {ok : Handle → VirtualMachine B → Prop} (signature : String)
    (hidle : (vm.disposed = false → signature = "") → stop vm)
    (hpanic : vm.disposed = false → signature ≠ "" → stop vm.entered)
    (hrefused : ∀ e machine, vm.disposed = false → signature ≠ "" →
      Backend.makeCallHandle vm.entered.world.vm signature = .ok (.error e, machine) →
      stop (vm.entered.withWindow machine))
    (hok : ∀ handle raw machine, vm.disposed = false → signature ≠ "" →
      Backend.makeCallHandle vm.entered.world.vm signature = .ok (.ok raw, machine) →
      ok handle ((vm.entered.withWindow machine).adopted raw (.call (callArity signature)))) :
    Leads (makeCallHandle signature) vm ok stop := by
  unfold makeCallHandle
  refine Leads.bind (m := fun _ vm' => vm' = vm ∧ vm.disposed = false)
    (Leads.alive (fun h => hidle fun h' => by simp [h] at h') fun h => ⟨rfl, h⟩) ?_
  rintro _ vm ⟨rfl, halive⟩
  dsimp only
  split
  · rename_i hempty
    exact hidle fun _ => hempty
  · rename_i hsignature
    refine Leads.bind (m := fun _ vm' => vm' = vm.entered)
      (leads_enter (fun h => by simp [halive] at h) fun _ => rfl) ?_
    rintro _ _ rfl
    refine Leads.bind (m := fun outcome vm' => ∃ machine,
      Backend.makeCallHandle vm.entered.world.vm signature = .ok (outcome, machine) ∧
        vm' = vm.entered.withWindow machine)
      (Leads.inside (Run.Leads.onVm? (fun _ machine h => ⟨machine, h, rfl⟩)
        fun _ _ => hpanic halive hsignature)) ?_
    -- The machine has been asked, and only what it made is taken charge of.
    rintro outcome _ ⟨machine, hmade, rfl⟩
    cases outcome with
    | error e => exact hrefused e machine halive hsignature hmade
    | ok raw => exact hok _ raw machine halive hsignature hmade

theorem leads_getSlotHandle {ok : Handle → VirtualMachine B → Prop} (slot : Nat)
    (hidle : stop vm)
    (hnone : ∀ machine, vm.disposed = false → Slots.pin vm.world.vm slot = (none, machine) →
      stop (vm.withWindow machine))
    (hok : ∀ handle raw machine, vm.disposed = false →
      Slots.pin vm.world.vm slot = (some raw, machine) →
      ok handle ((vm.withWindow machine).adopted raw .value)) :
    Leads (getSlotHandle slot) vm ok stop := by
  unfold getSlotHandle
  refine Leads.bind (m := fun _ vm' => vm' = vm ∧ vm.disposed = false)
    (Leads.onWindow (fun _ h _ => ⟨rfl, h⟩) hidle) ?_
  rintro _ vm ⟨rfl, halive⟩
  refine Leads.get_bind ?_
  dsimp only
  cases hpin : Slots.pin vm.world.vm slot with
  | mk raw machine =>
    refine Leads.bind (m := fun _ vm' => vm' = vm.withWindow machine) rfl ?_
    rintro _ _ rfl
    cases raw with
    | none => exact hnone machine halive hpin
    | some raw => exact hok _ raw machine halive hpin

theorem leads_releaseHandle {ok : Unit → VirtualMachine B → Prop} (handle : Handle)
    (hidle : (vm.disposed = false → ∀ entry, ¬vm.Releasable handle entry) → stop vm)
    (hok : ∀ entry, vm.disposed = false → vm.Releasable handle entry →
      ok () (vm.released handle.id entry.raw)) :
    Leads (releaseHandle handle) vm ok stop := by
  unfold releaseHandle
  refine Leads.bind (m := fun _ vm' => vm' = vm ∧ vm.disposed = false)
    (Leads.alive (fun h => hidle fun h' => by simp [h] at h') fun h => ⟨rfl, h⟩) ?_
  rintro _ vm ⟨rfl, halive⟩
  refine Leads.bind (m := fun _ vm' => vm' = vm ∧ handle.owner = vm.world.host.handles.owner)
    (leads_checkOwned handle (fun h => ⟨rfl, h⟩) fun h => hidle fun _ _ hc => h hc.1) ?_
  rintro _ vm ⟨rfl, howned⟩
  -- The entry is taken out before the machine is entered, so it does not wait with the others.
  refine Leads.bind (m := fun raw vm' => raw = (vm.world.host.handles.remove handle.id).1 ∧
    vm' = vm.withHandles (vm.world.host.handles.remove handle.id).2) ⟨rfl, rfl⟩ ?_
  rintro _ _ ⟨rfl, rfl⟩
  cases hentry : vm.world.host.handles.entry? handle.id with
  | none =>
    have hremove : vm.world.host.handles.remove handle.id = (none, vm.world.host.handles) := by
      simp [HandleRegistry.remove, hentry]
    rw [hremove]
    exact hidle fun _ entry hc => by rw [hc.2] at hentry; cases hentry
  | some entry =>
    have hremove : (vm.world.host.handles.remove handle.id).1 = some entry.raw := by
      simp [HandleRegistry.remove, hentry]
    rw [hremove]
    refine Leads.bind (m := fun _ vm' =>
      vm' = (vm.withHandles (vm.world.host.handles.remove handle.id).2).entered)
      (leads_enter (fun h => ?_) fun _ => rfl) ?_
    · have hdisposed : vm.disposed = true := h
      rw [halive] at hdisposed
      cases hdisposed
    · rintro _ _ rfl
      exact hok entry halive ⟨howned, hentry⟩

omit [Backend B] in
theorem leads_named {ok : Handle → VirtualMachine B → Prop} (name : String)
    (hok : ∀ handle, vm.world.host.keyring.handle? name = some handle → ok handle vm)
    (hstop : vm.world.host.keyring.handle? name = none → stop vm) :
    Leads (Session.named name) vm ok stop := by
  unfold Session.named
  refine Leads.get_bind ?_
  cases hname : vm.world.host.keyring.handle? name with
  | none => exact hstop hname
  | some handle => exact hok handle hname

omit [Backend B] in
/-- Keeping a handle changes the keyring only. -/
theorem leads_keepHandle {ok : SessionReply → VirtualMachine B → Prop} (name : String)
    (handle : Handle)
    (hok : ∀ reply keyring, ok reply { vm with world :=
      { vm.world with host := { vm.world.host with keyring := keyring } } }) :
    Leads (Session.keepHandle name handle) vm ok stop := by
  unfold Session.keepHandle
  refine Leads.bind (m := fun _ vm' => ∃ keyring, vm' = { vm with world :=
      { vm.world with host := { vm.world.host with keyring := keyring } } }) ⟨_, rfl⟩ ?_
  rintro _ _ ⟨keyring, rfl⟩
  exact Leads.get_bind (hok _ keyring)

omit [Backend B] in
theorem leads_bindForeign {ok : Unit → VirtualMachine B → Prop} (c : ClassDescription)
    (module : String) (hidle : stop vm)
    (hok : ∀ b host, ForeignBinding.of c = .ok b → vm.world.host.addBinding module b = some host →
      vm.disposed = false → ok () { vm with world := { vm.world with host := host } }) :
    Leads (bindForeign c module) vm ok stop := by
  unfold bindForeign
  refine Leads.bind (m := fun _ vm' => vm' = vm ∧ vm.disposed = false)
    (Leads.alive (fun _ => hidle) fun h => ⟨rfl, h⟩) ?_
  rintro _ vm ⟨rfl, halive⟩
  refine Leads.bind (m := fun b vm' => vm' = vm ∧ ForeignBinding.of c = .ok b)
    (Leads.ofExcept (fun _ h => ⟨rfl, h⟩) hidle) ?_
  rintro b vm ⟨rfl, hb⟩
  refine Leads.get_bind ?_
  cases hadd : vm.world.host.addBinding module b with
  | none => exact hidle
  | some host => exact hok b host hb hadd halive

omit [Backend B] in
theorem leads_changeHost {ok : Unit → VirtualMachine B → Prop} {f : HostState → HostState}
    (hidle : stop vm)
    (hok : ok () { vm with world := { vm.world with host := f vm.world.host } }) :
    Leads (do
      alive
      inside (HostState.onHost f)) vm ok stop := by
  refine Leads.bind (m := fun _ vm' => vm' = vm) (Leads.alive (fun _ => hidle) fun _ => rfl) ?_
  rintro _ vm rfl
  exact Leads.inside (Run.Leads.modify hok)

/-- What disposal does after the foreign objects are finalized and before the machine is
freed: it forgets the bindings and gives back the handles. -/
def drained (world : World HostState B) : World HostState B where
  host := { world.host.clearBindings with handles := world.host.handles.drain.2 }
  vm := world.host.handles.drain.1.foldl Backend.releaseHandle world.vm

/-- A panic frees the machine before it goes on. -/
theorem leads_holding {run : Run (World HostState B) Unit} {world : World HostState B}
    {post : Unit → World HostState B → Prop} {crash : World HostState B → Prop}
    (h : Run.Leads run world post fun world' =>
      Run.Leads Backend.free world' (fun _ => crash) crash) :
    Run.Leads (holding run) world post crash := by
  unfold Run.Leads holding
  rcases hrun : run world with ⟨p | ⟨⟩, world'⟩
  · exact (h.of_error hrun).ends
  · exact h.of_ok hrun

theorem leads_dispose {ok : Unit → VirtualMachine B → Prop}
    (halready : vm.disposed = true → ok () vm)
    (hrun : vm.disposed = false → Run.Leads HostState.clearForeign vm.world
      (fun _ world => Run.Leads Backend.free (drained world)
        (fun _ world' => ok () { vm with world := world', disposed := true })
        (fun world' => stop { vm with world := world', disposed := true }))
      (fun world => Run.Leads Backend.free world
        (fun _ world' => stop { vm with world := world', disposed := true })
        (fun world' => stop { vm with world := world', disposed := true }))) :
    Leads dispose vm ok stop := by
  unfold dispose
  refine Leads.get_bind ?_
  split
  · rename_i h
    exact halready h
  · rename_i h
    have hclear := hrun (by simpa using h)
    -- The machine counts as disposed of before the first finalizer runs.
    refine Leads.bind (m := fun _ vm' => vm' = { vm with disposed := true }) rfl ?_
    rintro _ _ rfl
    refine Leads.bind (m := fun _ vm' => Run.Leads Backend.free (drained vm'.world)
      (fun _ world' => ok () { vm' with world := world' })
      (fun world' => stop { vm' with world := world' })) (Leads.inside (leads_holding hclear)) ?_
    exact fun _ vm' hfree => Leads.inside hfree

/-- Where nothing is claimed of machines that are disposed of, it does not matter how disposal
ends. -/
theorem leads_dispose_of_void {P : VirtualMachine B → Prop} (h : P vm)
    (hvoid : ∀ world, P { vm with world := world, disposed := true }) :
    Leads dispose vm (fun _ => P) P :=
  leads_dispose (fun _ => h) fun _ =>
    Run.Leads.of_forall (fun _ _ => Run.Leads.of_forall (fun _ => hvoid) hvoid)
      fun _ => Run.Leads.of_forall (fun _ => hvoid) hvoid

end Op

end ScriptHost.VirtualMachine
