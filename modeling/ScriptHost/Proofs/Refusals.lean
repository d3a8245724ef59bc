/-
Refused operations.

An operation that fails, and not with an error of the machine, was refused, and a refusal comes
before everything else the operation would have done, except for one thing: the handles dropped
so far may have been given back by then.  This holds for a machine kept in memory because its
own refusals leave it as it was (**`InMemory.eq_of_interpret_refused`**,
**`InMemory.eq_of_makeCallHandle_refused`**) and it pins whatever it is asked to pin.

* **`VirtualMachine.spares_operate`** — the state after a refusal is the one before, or
  that one with the dropped handles given back;
* **`VirtualMachine.leftAlone_after`** — what this means for all there is to a virtual machine.
-/
import ScriptHost.Proofs.OperationEquations
import ScriptHost.Proofs.PinnedHandles

namespace ScriptHost

namespace InMemory

/-- A source that is refused changes nothing. -/
theorem eq_of_interpret_refused {H : Type} [Host H] {module source : String}
    {w w' : World H Machine} {e : HostError}
    (h : Backend.interpret module source w = (.ok (.error e), w')) : w' = w := by
  have hleads : Run.Leads (InMemory.interpret module source) w
      (fun outcome w' => ∀ e, outcome = .error e → w' = w) fun _ => True := by
    unfold InMemory.interpret
    split
    · exact fun _ _ => rfl
    · exact fun _ _ => rfl
    · -- A source that is not refused has a result, unless its run panics.
      have hanywhere : ∀ {β : Type} (run : Turn H β) v,
          Run.Leads run v (fun _ _ => True) fun _ => True :=
        fun _ _ => Run.Leads.of_forall (fun _ _ => trivial) fun _ => trivial
      refine Run.Leads.bind (hanywhere _ w) fun _ v _ => Run.Leads.get_bind ?_
      dsimp only
      cases v.vm.scripts.lookup source with
      | some script =>
        refine Run.Leads.bind (hanywhere _ v) fun result v _ => ?_
        refine Run.Leads.bind (hanywhere _ v) fun _ v _ => ?_
        rintro e ⟨⟩
      | none =>
        refine Run.Leads.bind (hanywhere _ v) fun _ v _ => ?_
        refine Run.Leads.bind (hanywhere _ v) fun result v _ => ?_
        refine Run.Leads.bind (hanywhere _ v) fun _ v _ => ?_
        rintro e ⟨⟩
  exact hleads.of_ok h e rfl

/-- A signature that is refused changes nothing. -/
theorem eq_of_makeCallHandle_refused {m m' : Machine} {signature : String} {e : HostError}
    (h : Backend.makeCallHandle m signature = .ok (.error e, m')) : m' = m := by
  simp only [Backend.makeCallHandle, InMemory.makeCallHandle] at h
  split at h
  · cases h
    rfl
  · split at h
    · cases h
    · split at h <;> cases h
      rfl

end InMemory

namespace VirtualMachine

open InMemory

variable {B α β : Type}

/-- An operation leads to `ok` if it answers, and to `kept` if it is refused; what the machine
reports or a panic leaves behind does not matter. -/
def Op.Spares (op : Op B α) (vm : VirtualMachine B) (ok : α → VirtualMachine B → Prop)
    (kept : VirtualMachine B → Prop) : Prop :=
  match op vm with
  | (.ok (.ok a), vm') => ok a vm'
  | (.ok (.error e), vm') => (∃ error, e = .vm error) ∨ kept vm'
  | (.error _, _) => True

namespace Op

variable {vm vm' : VirtualMachine B} {ok : α → VirtualMachine B → Prop}
  {kept : VirtualMachine B → Prop}

theorem Leads.spares {op : Op B α} (h : Leads op vm ok kept) : Spares op vm ok kept := by
  unfold Leads at h
  unfold Spares
  rcases hop : op vm with ⟨_ | _ | a, vm'⟩ <;> rw [hop] at h
  · trivial
  · exact .inr h
  · exact h

theorem Spares.of_error {op : Op B α}
    (h : ∀ e vm', op vm = (.ok (.error e), vm') → (∃ error, e = .vm error) ∨ kept vm') :
    Spares op vm (fun _ _ => True) kept := by
  unfold Spares
  rcases hop : op vm with ⟨_ | _ | a, vm'⟩
  · trivial
  · exact h _ _ hop
  · trivial

theorem Spares.of_refused {op : Op B α} (h : Spares op vm ok kept) {e : HostError}
    (he : op vm = (.ok (.error e), vm')) (hrefused : ∀ error, e ≠ .vm error) : kept vm' := by
  unfold Spares at h
  rw [he] at h
  rcases h with ⟨error, rfl⟩ | h
  · exact absurd rfl (hrefused error)
  · exact h

theorem Spares.bind {op : Op B β} {next : β → Op B α} {m : β → VirtualMachine B → Prop}
    (h : Spares op vm m kept) (hnext : ∀ b vm', m b vm' → Spares (next b) vm' ok kept) :
    Spares (op >>= next) vm ok kept := by
  unfold Spares at h ⊢
  rw [bind_apply]
  rcases hrun : op vm with ⟨_ | ⟨_ | b⟩, vm'⟩ <;> rw [hrun] at h
  · trivial
  · exact h
  · exact hnext b vm' h

theorem Spares.andThen {op : Op B β} {f : β → α} (h : Spares op vm (fun _ _ => True) kept) :
    Spares (do return f (← op)) vm (fun _ _ => True) kept :=
  Spares.bind h fun _ _ _ => trivial

/-- Nothing that runs on machine and host is a refusal. -/
theorem spares_inside (run : Run (World HostState B) α) :
    Spares (inside run) vm (fun _ _ => True) kept := by
  refine Spares.of_error fun e vm' he => ?_
  unfold inside at he
  rcases hrun : run vm.world with ⟨_ | a, world⟩ <;> rw [hrun] at he <;> cases he

/-- An operation that stops where it began, if it stops. -/
def Stays (op : Op B α) (vm : VirtualMachine B) : Prop :=
  Leads op vm (fun _ _ => True) (· = vm)

theorem Stays.andThen {op : Op B β} {f : β → α} (h : Stays op vm) :
    Stays (do return f (← op)) vm :=
  Leads.bind h fun _ _ _ => trivial

theorem stays_onWindow {look : B → Except HostError α} : Stays (onWindow look) vm :=
  Leads.onWindow (fun _ _ _ => trivial) rfl

theorem stays_changeWindow {change : B → Except HostError B} : Stays (changeWindow change) vm :=
  Leads.bind (m := fun _ vm' => vm' = vm) (Leads.onWindow (fun _ _ _ => rfl) rfl)
    fun _ _ _ => trivial

variable [Backend B]

theorem stays_insertInList (listSlot : Nat) (index : Int) (elementSlot : Nat) :
    Stays (insertInList listSlot index elementSlot) vm := by
  unfold insertInList
  refine Leads.bind (m := fun _ vm' => vm' = vm) (Leads.onWindow (fun _ _ _ => rfl) rfl) ?_
  rintro _ vm rfl
  exact Leads.inside (Run.Leads.onVm? (fun _ _ _ => trivial) fun _ _ => rfl)

/-- An operation on the window that stops has not touched it. -/
theorem stays_operate_window {K : Type} (perform : K → Run (World HostState B) WindowReply)
    {operation : Operation K} (hwindow : isWindowOperation operation = true) :
    Stays (Session.operate perform operation) vm := by
  cases operation <;> simp only [isWindowOperation, Bool.false_eq_true] at hwindow <;>
    unfold Session.operate
  -- A handle or a value is looked up by name first, which leaves the machine as it is.
  case setSlotHandle slot handle =>
    refine Leads.bind (m := fun _ vm' => vm' = vm)
      (leads_named handle (fun _ _ => rfl) fun _ => rfl) ?_
    rintro h vm rfl
    exact Stays.andThen (Leads.get_bind stays_changeWindow)
  case ensureSlots => exact Stays.andThen stays_changeWindow
  case slotCount => exact Stays.andThen stays_onWindow
  case slotType => exact Stays.andThen stays_onWindow
  case get => exact Stays.andThen stays_onWindow
  case set => exact Leads.get_bind (Stays.andThen stays_changeWindow)
  case setValue slot value =>
    refine Leads.bind (m := fun _ vm' => vm' = vm) (Leads.get_bind rfl) ?_
    rintro v vm rfl
    exact Stays.andThen (Leads.get_bind stays_changeWindow)
  case setNull => exact Stays.andThen stays_changeWindow
  case newList => exact Stays.andThen stays_changeWindow
  case listCount => exact Stays.andThen stays_onWindow
  case listGet => exact Stays.andThen stays_changeWindow
  case listInsert slot index element =>
    exact Stays.andThen (stays_insertInList slot index element)
  case getVariable => exact Stays.andThen stays_changeWindow
  case abortFiber => exact Stays.andThen stays_changeWindow

/-- Disposal is never refused. -/
theorem spares_dispose : Spares dispose vm (fun _ _ => True) kept := by
  unfold dispose
  refine Spares.bind (m := fun _ _ => True) trivial fun vm' _ _ => ?_
  split
  · trivial
  · refine Spares.bind (m := fun _ _ => True) trivial fun _ _ _ => ?_
    refine Spares.bind (spares_inside _) fun _ _ _ => ?_
    refine Spares.bind (spares_inside _) fun _ _ _ => ?_
    refine Spares.bind (spares_inside _) fun _ _ _ => ?_
    exact Spares.bind (spares_inside _) fun _ _ _ => spares_inside _

end Op

open Op

section

variable [Backend B] {vm : VirtualMachine B}

/-- A source is refused before anything runs, if the machine's own refusals do nothing. -/
theorem spares_interpret (module source : String)
    (hrefused : ∀ {w w' : World HostState B} {e},
      Backend.interpret module source w = (.ok (.error e), w') → w' = w) :
    Spares (interpret module source) vm (fun _ _ => True)
      fun vm' => vm' = vm ∨ vm' = vm.entered := by
  refine Spares.of_error fun e vm' he => ?_
  cases hdisposed : vm.disposed with
  -- Whatever refuses a source does so before the machine is entered, or is the machine itself.
  | true =>
    rw [interpret_of_disposed module source hdisposed] at he
    cases he
    exact .inr (.inl rfl)
  | false =>
    rw [interpret_apply module source hdisposed] at he
    rcases hrun : Backend.interpret module source vm.entered.world with
      ⟨_ | e' | result, world⟩ <;> rw [hrun] at he
    · cases he
    · cases he
      rw [hrefused hrun]
      exact .inr (.inr rfl)
    · exact .inl (exists_vm_of_judged_eq_error (congrArg Prod.fst he))

theorem spares_call (method : Handle) :
    Spares (call method) vm (fun _ _ => True) fun vm' => vm' = vm ∨ vm' = vm.entered := by
  refine Spares.of_error fun e vm' he => ?_
  rcases call_apply method vm with ⟨e', _, -, hcall, hkept⟩ | ⟨raw, arity, -, -, -, -, -, hcall⟩
  · rw [hcall] at he
    cases he
    exact .inr hkept
  · rw [hcall] at he
    exact .inl (exists_vm_of_judged_eq_error (congrArg Prod.fst he))

end

/-- An operation that was refused did nothing, or gave back the dropped handles first. -/
theorem spares_operate (operation : Operation Empty) (vm : VirtualMachine Machine) :
    Spares (operate operation) vm (fun _ _ => True) fun vm' => vm' = vm ∨ vm' = vm.entered := by
  have hnamed : ∀ name, Spares (Session.named name) vm (fun _ vm' => vm' = vm)
      fun vm' => vm' = vm ∨ vm' = vm.entered := by
    intro name
    refine Leads.spares ?_
    exact leads_named name (fun _ _ => rfl) fun _ => .inl rfl
  by_cases hwindow : isWindowOperation operation = true
  · exact ((stays_operate_window _ hwindow).mono (fun _ _ _ => trivial) fun _ => .inl).spares
  · cases operation <;> simp only [isWindowOperation, not_true_eq_false] at hwindow
    case bind c module =>
      refine Spares.andThen (Leads.spares ?_)
      exact leads_bindForeign c module (.inl rfl) fun _ _ _ _ _ => trivial
    case interpret module source =>
      exact Spares.andThen (spares_interpret module source eq_of_interpret_refused)
    case call name =>
      refine Spares.bind (hnamed name) ?_
      rintro handle vm rfl
      exact Spares.andThen (spares_call handle)
    case makeCallHandle signature keep =>
      refine Spares.bind (m := fun _ _ => True) (Leads.spares ?_) fun handle _ _ => ?_
      · refine leads_makeCallHandle signature (fun _ => .inl rfl) (fun _ _ => .inr rfl) ?_
          fun _ _ _ _ _ _ => trivial
        intro e machine _ _ hmade
        -- A machine in memory that refuses a signature has done nothing.
        cases eq_of_makeCallHandle_refused hmade
        exact .inr rfl
      · exact (leads_keepHandle keep handle fun _ _ => trivial).spares
    case getSlotHandle slot keep =>
      refine Spares.bind (m := fun _ _ => True) (Leads.spares ?_) fun handle _ _ => ?_
      · exact leads_getSlotHandle slot (.inl rfl) (fun _ _ hpin => by cases hpin)
          fun _ _ _ _ _ => trivial
      · exact (leads_keepHandle keep handle fun _ _ => trivial).spares
    case releaseHandle name =>
      refine Spares.bind (hnamed name) ?_
      rintro handle vm rfl
      refine Spares.andThen (Leads.spares ?_)
      exact leads_releaseHandle handle (fun _ => .inl rfl) fun _ _ _ => trivial
    case collectGarbage =>
      refine Spares.andThen ?_
      refine Spares.bind (m := fun _ _ => True)
        (leads_enter (fun _ => .inl rfl) fun _ => trivial).spares fun _ _ _ => ?_
      exact spares_inside _
    case onWrite subscriber =>
      refine Spares.andThen (Leads.spares ?_)
      exact leads_changeHost (.inl rfl) trivial
    case onError subscriber =>
      refine Spares.andThen (Leads.spares ?_)
      exact leads_changeHost (.inl rfl) trivial
    case dispose => exact Spares.andThen spares_dispose
    case request request => exact request.elim

variable {vm : VirtualMachine Machine}

/-- What is left of `vm` after an operation was refused: `vm'` differs in the handles dropped
before and still waiting, which may have been given back, and in nothing else. -/
structure LeftAlone (vm vm' : VirtualMachine Machine) : Prop where
  disposed : vm'.disposed = vm.disposed
  raiseOnError : vm'.raiseOnError = vm.raiseOnError
  /-- Classes, methods, foreign objects, errors, subscribers and all else the host has. -/
  host : vm'.world.host = { vm.world.host with handles := vm'.world.host.handles }
  /-- The live handles and their kinds. -/
  handles : vm'.world.host.handles =
    { vm.world.host.handles with pending := vm'.world.host.handles.pending }
  /-- The window, lists, variables, instances and all else the machine has, its record
  included. -/
  machine : vm'.world.vm =
    { vm.world.vm with
      handles := vm'.world.vm.handles
      releasedHandles := vm'.world.vm.releasedHandles }
  /-- What is pinned by a handle that was not waiting, a live one in particular. -/
  pinned : ∀ raw, raw ∉ vm.world.host.handles.pending →
    vm'.world.vm.pinned? raw = vm.world.vm.pinned? raw
  live : ∀ x ∈ vm.world.host.handles.live, x.2.raw ∉ vm.world.host.handles.pending
  /-- Either none that were waiting were given back or all. -/
  waiting : vm' = vm ∨
    vm'.world.host.handles.pending = [] ∧
      ∀ raw ∈ vm.world.host.handles.pending, vm'.world.vm.pinned? raw = none

theorem LeftAlone.of_refused {vm' : VirtualMachine Machine} (h : vm.PinsHandles)
    (hkept : vm' = vm ∨ vm' = vm.entered) : LeftAlone vm vm' := by
  rcases hkept with rfl | rfl
  · exact ⟨rfl, rfl, rfl, rfl, rfl, fun _ _ => rfl, fun _ => h.unshared.not_mem_pending,
      .inl rfl⟩
  · exact
      { disposed := rfl
        raiseOnError := rfl
        host := rfl
        handles := rfl
        machine := Machine.foldl_releaseHandle _ _
        pinned := fun _ hraw => Machine.pinned?_releaseAll _ hraw
        live := fun _ => h.unshared.not_mem_pending
        waiting := .inr ⟨rfl, fun _ hraw => Machine.pinned?_releaseAll_of_mem _ hraw⟩ }

/-- Whatever was done with a virtual machine before, an operation that is refused leaves it
alone. -/
theorem leftAlone_after (config : Configuration) (owner : Nat) (machine : Machine)
    (steps : List Step) (operation : Operation Empty) {e : HostError}
    (he : (operate operation ((new config owner machine).2.after steps)).1 = .ok (.error e))
    (hrefused : ∀ error, e ≠ .vm error) :
    LeftAlone ((new config owner machine).2.after steps)
      (operate operation ((new config owner machine).2.after steps)).2 :=
  .of_refused (pins_after config owner machine steps)
    ((spares_operate operation _).of_refused (Prod.ext he rfl) hrefused)

/-- A machine that makes no call handles refuses one, after a handle dropped before was given
back. -/
theorem leftAlone_callHandle :
    let vm := (new .default 0 (Machine.new [] [] false true)).2.after
      [.operate (.ensureSlots 1), .operate (.getSlotHandle 0 "a"), .drop ⟨0, 0⟩]
    let refused := operate (.makeCallHandle "f()" "b") vm
    refused.1 = .ok (.error (.callHandleFailed "f()")) ∧ LeftAlone vm refused.2 ∧
      vm.world.vm.handles = [some .null] ∧ refused.2.world.vm.handles = [none] :=
  have hrefused : (operate (.makeCallHandle "f()" "b")
      ((new .default 0 (Machine.new [] [] false true)).2.after
        [.operate (.ensureSlots 1), .operate (.getSlotHandle 0 "a"), .drop ⟨0, 0⟩])).1 =
      .ok (.error (.callHandleFailed "f()")) := by rfl
  ⟨hrefused, leftAlone_after _ _ _ _ _ hrefused (by simp), by decide, by decide⟩

end VirtualMachine

end ScriptHost
