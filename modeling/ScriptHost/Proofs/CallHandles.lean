/-
What a call handle asks for.

A call handle made from the signature of a bound method asks for the receiver and for one slot for
each parameter the method declares, no more and no less, for as long as it lives: its entry was
made from the signature, and no entry changes.  Only a method whose name opens a subscript is
another matter, since what stands in the subscript counts as well.

* **`HandleRegistry.Knows`** — what is known of a handle for good;
* **`VirtualMachine.knows_after`** — it stays known, whatever is done with the machine;
* **`VirtualMachine.AsksForParameters`** — the handles made from one signature;
* **`signaturesDecode_bound`** — signatures, and the handles of all bound methods.
-/
import ScriptHost.Proofs.Dispatch
import ScriptHost.Proofs.HandleAccounts
import ScriptHost.Proofs.HandleDrops
import ScriptHost.Proofs.HandleLedger
import ScriptHost.Proofs.OperationEquations
import ScriptHost.Proofs.OperationInvariant
import ScriptHost.Proofs.SignatureArity
import ScriptHost.Samples.Calculator

namespace ScriptHost

/-! ### Entries that stay what they are -/

/-- What is known of a handle once it was acquired: its number is not given again, and as long as it
is live its entry is the one made for it. -/
structure HandleRegistry.Knows (r : HandleRegistry) (h : Handle) (entry : HandleEntry) : Prop where
  owner : h.owner = r.owner
  numbered : h.id < r.nextId
  live : ∀ entry', r.entry? h.id = some entry' → entry' = entry

namespace HandleRegistry.Knows

variable {r r' : HandleRegistry} {h : Handle} {entry : HandleEntry}

/-- Entries are forgotten at most. -/
theorem change (hr : r.Knows h entry) (howner : r'.owner = r.owner) (hnext : r'.nextId = r.nextId)
    (hentries : r'.entry? h.id = none ∨ r'.entry? h.id = r.entry? h.id) : r'.Knows h entry where
  owner := hr.owner.trans howner.symm
  numbered := hnext ▸ hr.numbered
  live entry' hentry := by
    rcases hentries with hnone | hsame
    · rw [hnone] at hentry
      cases hentry
    · exact hr.live entry' (hsame ▸ hentry)

theorem queued (hr : r.Knows h entry) (hq : r.Queued r') : r'.Knows h entry :=
  hr.change hq.owner hq.nextId (hq.entry? h.id)

theorem forget (hr : r.Knows h entry) (id : Nat) : (r.forget id).Knows h entry :=
  hr.change rfl rfl (r.entry?_forget_cases h.id id)

theorem adopt (hr : r.Knows h entry) (raw : RawHandle) (kind : HandleKind) :
    (r.adopt raw kind).2.Knows h entry where
  owner := hr.owner
  numbered := Nat.lt_succ_of_lt hr.numbered
  live entry' hentry := by
    rw [entry?_adopt_of_lt hr.numbered] at hentry
    exact hr.live entry' hentry

/-- A handle just acquired. -/
theorem of_adopt (r : HandleRegistry) (raw : RawHandle) (kind : HandleKind) :
    (r.adopt raw kind).2.Knows (r.adopt raw kind).1 ⟨raw, kind⟩ where
  owner := rfl
  numbered := Nat.lt_succ_self _
  live entry' hentry := by
    simp only [HandleRegistry.adopt, entry?, List.lookup_cons_self, Option.some.injEq] at hentry
    exact hentry.symm

end HandleRegistry.Knows

namespace VirtualMachine

variable {B : Type} [Backend B] {vm vm' : VirtualMachine B} {h : Handle} {entry : HandleEntry}

/-- Until it is disposed of, a machine knows a handle. -/
def Knows (vm : VirtualMachine B) (h : Handle) (entry : HandleEntry) : Prop :=
  vm.disposed = false → vm.world.host.handles.Knows h entry

theorem upheld_knows (h : Handle) (entry : HandleEntry) :
    Upheld (fun _ => True) (fun _ _ : B => True) fun vm => vm.Knows h entry where
  frame := slotFrame_true
  window _ hk := hk
  host hsame hk halive := by
    rw [hsame.handles]
    exact hk halive
  bind _ _ hadd hk halive := by
    rw [HostState.addBinding_eq hadd]
    exact hk halive
  entered _ hk halive := (hk halive).change rfl rfl (.inr rfl)
  pin _ _ hk halive := (hk halive).adopt _ _
  pinNothing _ hk := hk
  make _ _ hk halive := (hk halive).adopt _ _
  makeNothing _ hk := hk
  release {vm id entry'} _ hentry hk halive := by
    have hforgotten := (hk halive).forget id
    rw [← HandleRegistry.remove_of_entry hentry] at hforgotten
    exact hforgotten.change rfl rfl (.inr rfl)
  drop handle hk halive := (hk halive).queued ⟨[handle.id], rfl⟩

open Op

/-- Everything that runs something drops handles at most. -/
theorem knows_run [CallsBackOnly B] {operation : Operation Empty} (hrun : isRun operation = true)
    (hk : vm.Knows h entry) :
    Leads (operate operation) vm (fun _ vm => vm.Knows h entry) fun vm => vm.Knows h entry := by
  -- What runs can queue releases, no more, so the table that was entered with is the measure.
  let r := vm.entered.world.host.handles
  have hkeeps := HostState.keeps_queued r
  have hentered : vm.entered.Knows h entry := fun halive => (hk halive).change rfl rfl (.inr rfl)
  have hdisposed : ∀ world : World HostState B,
      Knows { vm with world := world, disposed := true } h entry :=
    fun _ halive => by cases halive
  refine leads_run (Q := fun w => r.Queued w.host.handles) hrun hk (fun _ => ⟨hentered, .refl _⟩)
    (fun module source _ hw => CallsBackOnly.interpret module source hkeeps hw)
    (fun raw _ hw => CallsBackOnly.call raw hkeeps hw)
    (fun _ hw => CallsBackOnly.collectGarbage hkeeps hw)
    (fun _ _ hw => ⟨fun halive => (hentered halive).queued hw,
      fun _ halive => (hentered halive).queued hw⟩)
    (Leads.bind (leads_dispose_of_void hk hdisposed) fun _ _ h => h)

theorem knows_after [CallsBackOnly B] (hk : vm.Knows h entry) (steps : List Step) :
    (vm.after steps).Knows h entry :=
  (upheld_knows h entry).after knows_run (fun _ _ _ => trivial) hk

/-! ### Call handles -/

/-- A call handle is what the machine makes of the signature, with the arity read off it. -/
theorem makeCallHandle_eq_ok {signature : String}
    (hmade : makeCallHandle signature vm = (.ok (.ok h), vm')) :
    ∃ raw machine,
      Backend.makeCallHandle vm.entered.world.vm signature = .ok (.ok raw, machine) ∧
      h = (vm.entered.world.host.handles.adopt raw (.call (callArity signature))).1 ∧
      vm' = (vm.entered.withWindow machine).adopted raw (.call (callArity signature)) := by
  unfold makeCallHandle at hmade
  cases hdisposed : vm.disposed with
  | true =>
    rw [bind_of_error (alive_of_disposed hdisposed)] at hmade
    cases hmade
  | false =>
    rw [bind_of_ok (alive_of_alive hdisposed)] at hmade
    -- An empty signature is refused before the machine is entered.
    split at hmade
    · cases hmade
    · dsimp only at hmade
      rw [bind_of_ok (enter_of_alive hdisposed), bind_apply, inside_onVm?] at hmade
      rcases hraw : Backend.makeCallHandle vm.entered.world.vm signature with
        _ | ⟨_ | raw, machine⟩ <;> rw [hraw] at hmade <;> cases hmade
      exact ⟨raw, machine, rfl, rfl, rfl⟩

/-- A call by the handle is refused if there is no slot for the receiver and for each of so many
arguments, and goes to the machine if there is. -/
def AsksFor (vm : VirtualMachine B) (h : Handle) (raw : RawHandle) (arity : Nat) : Prop :=
  call h vm =
    if Slots.count vm.entered.world.vm < 1 + arity then
      (.ok (.error (.missingCallArguments arity (Slots.count vm.entered.world.vm))), vm.entered)
    else vm.judged (Backend.call raw vm.entered.world)

theorem Knows.asksFor {raw : RawHandle} {arity : Nat} (hk : vm.Knows h ⟨raw, .call arity⟩)
    (halive : vm.disposed = false)
    (hlive : ∃ entry, vm.world.host.handles.entry? h.id = some entry) : vm.AsksFor h raw arity := by
  obtain ⟨entry, hentry⟩ := hlive
  cases (hk halive).live entry hentry
  have hcall := call_of_entry halive (hk halive).owner hentry
  rw [AsksFor, hcall, Nat.add_comm]
  simp only [Nat.lt_succ_iff]

/-- What a handle made from the signature of a bound method asks for: it is live at once, and
whatever is done with the machine from then on, as long as it is live it asks for the parameters of
the method. -/
structure AsksForParameters (vm : VirtualMachine B) (m : BoundMethod) : Prop where
  nonempty : m.signature ≠ ""
  calls : ∀ h vm', makeCallHandle m.signature vm = (.ok (.ok h), vm') →
    ∃ raw machine, Backend.makeCallHandle vm.entered.world.vm m.signature =
        .ok (.ok raw, machine) ∧
      (∃ entry, vm'.world.host.handles.entry? h.id = some entry) ∧
      ∀ later, (vm'.after later).disposed = false →
        (∃ entry, (vm'.after later).world.host.handles.entry? h.id = some entry) →
          (vm'.after later).AsksFor h raw m.params.length

theorem asksForParameters_of_callArity [CallsBackOnly B] {m : BoundMethod}
    (hnonempty : m.signature ≠ "") (harity : callArity m.signature = m.params.length)
    (vm : VirtualMachine B) : vm.AsksForParameters m where
  nonempty := hnonempty
  calls h vm' hmade := by
    obtain ⟨raw, machine, hraw, rfl, rfl⟩ := makeCallHandle_eq_ok hmade
    rw [harity]
    refine ⟨raw, machine, hraw, ⟨_, List.lookup_cons_self⟩, fun later halive hlive => ?_⟩
    refine Knows.asksFor (knows_after (fun _ => ?_) later) halive hlive
    exact HandleRegistry.Knows.of_adopt _ raw _

end VirtualMachine

/-! ### Bound methods -/

/-- The name scripts use for a method. -/
def ObjectMethod.label (m : ObjectMethod) : String :=
  m.scriptName.getD (ScriptHost.scriptName m.name)

theorem signature_ne_empty (name : String) (n : Nat) : signature name n ≠ "" := by
  intro h
  have hlist := congrArg String.toList h
  rw [toList_signature] at hlist
  simp at hlist

/-- Signatures are decoded as they were encoded, so a handle made from the signature of a bound
method asks for what the method declares. -/
theorem signaturesDecode_bound {B : Type} [Backend B] [CallsBackOnly B] {c : ClassDescription}
    {b : ForeignBinding} (hb : ForeignBinding.of c = .ok b) :
    SignaturesDecode ∧ b.methods = c.methods.map (·.bind) ∧
      ∀ m ∈ c.methods, m.label.toList.head? ≠ some '[' →
        ∀ vm : VirtualMachine B, vm.AsksForParameters m.bind := by
  refine ⟨signaturesDecode, (ForeignBinding.of_eq hb).2.2, fun m _ hname vm => ?_⟩
  refine VirtualMachine.asksForParameters_of_callArity ?_ ?_ vm
  · exact signature_ne_empty _ _
  · exact callArity_signature_of_head? hname _

/-- Integers are added with two arguments, so two slots are too few. -/
theorem signaturesDecode_bound_addInts :
    let machine := (VirtualMachine.new .default 0 InMemory.Machine.bare).2
    let vm := (VirtualMachine.makeCallHandle "addInts(_,_)" machine).2
    SignaturesDecode ∧
      (∃ m ∈ Samples.calculatorClass.describe.methods, m.bind.signature = "addInts(_,_)" ∧
        ∀ vm : VirtualMachine InMemory.Machine, vm.AsksForParameters m.bind) ∧
      (VirtualMachine.call ⟨0, 0⟩ (vm.after [.operate (.ensureSlots 2)])).1 =
        .ok (.error (.missingCallArguments 2 2)) ∧
      (VirtualMachine.call ⟨0, 0⟩ (vm.after [.operate (.ensureSlots 3)])).1 =
        .ok (.ok .runtimeError) := by
  obtain ⟨b, hb⟩ : ∃ b, ForeignBinding.of Samples.calculatorClass.describe = .ok b := ⟨_, rfl⟩
  obtain ⟨hdecode, -, hasks⟩ := signaturesDecode_bound (B := InMemory.Machine) hb
  refine ⟨hdecode, ⟨_, List.mem_cons_self, ?_, hasks _ List.mem_cons_self ?_⟩, ?_, ?_⟩ <;>
    decide +kernel

end ScriptHost
