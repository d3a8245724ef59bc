/-
What interpreting and calling come to.

Every operation can be read off as an equation: where it starts, what it runs on the machine
and where it ends.  A call is refused for the first of several causes that applies; once none
applies it runs on the machine just entered, and so does interpreting.  Then the errors
captured meanwhile give the verdict:

* **`interpret_apply`** — sources;
* **`call_of_entry`**, **`call_apply`**, **`callRefusal?_eq_none`** — calls, and when none is
  refused;
* **`finish_apply`** — the verdict, with the bridge idle again.
-/
import ScriptHost.Proofs.OperationLaws

namespace ScriptHost

/-- The number of arguments, for a handle that stands for a method. -/
def HandleKind.arity? : HandleKind → Option Nat
  | .value => none
  | .call arity => some arity

namespace VirtualMachine

variable {B α β : Type} {vm vm' : VirtualMachine B}

namespace Op

theorem bind_of_ok {op : Op B β} {b : β} (h : op vm = (.ok (.ok b), vm')) (next : β → Op B α) :
    (op >>= next) vm = next b vm' := by
  rw [bind_apply, h]

theorem bind_of_error {op : Op B β} {e : HostError} (h : op vm = (.ok (.error e), vm'))
    (next : β → Op B α) : (op >>= next) vm = (.ok (.error e), vm') := by
  rw [bind_apply, h]

theorem bind_of_panic {op : Op B β} {p : Panic} (h : op vm = (.error p, vm'))
    (next : β → Op B α) : (op >>= next) vm = (.error p, vm') := by
  rw [bind_apply, h]

theorem andThen_apply (op : Op B β) (f : β → α) (vm : VirtualMachine B) :
    (do return f (← op) : Op B α) vm = ((op vm).1.map (·.map f), (op vm).2) := by
  rw [bind_apply]
  rcases op vm with ⟨_ | _ | b, vm'⟩ <;> rfl

end Op

open Op

/-- What a run is found to have ended with: the error captured, if errors are to be raised, and
the machine's own result otherwise. -/
def verdict (raise : Bool) (errors : ErrorBridge) (result : InterpretResult) :
    Except HostError InterpretResult :=
  match errors.pending with
  | some e => if raise then .error (.vm e) else .ok result
  | none => .ok result

/-- The end of a run on the machine: the verdict if it answered. -/
def judged (vm : VirtualMachine B) :
    Except Panic InterpretResult × World HostState B →
      Except Panic (Except HostError InterpretResult) × VirtualMachine B
  | (.ok result, world) =>
    (.ok (verdict vm.raiseOnError world.host.errors result), vm.ranTo world .idle)
  | (.error p, world) => (.error p, { vm with world := world })

/-- A run on the machine fails only with an error the machine reported. -/
theorem exists_vm_of_verdict_eq_error {raise : Bool} {errors : ErrorBridge}
    {result : InterpretResult} {e : HostError} (h : verdict raise errors result = .error e) :
    ∃ error, e = .vm error := by
  unfold verdict at h
  split at h
  · split at h
    · exact ⟨_, (Except.error.inj h).symm⟩
    · cases h
  · cases h

theorem exists_vm_of_judged_eq_error
    {ran : Except Panic InterpretResult × World HostState B} {e : HostError}
    (h : (vm.judged ran).1 = .ok (.error e)) : ∃ error, e = .vm error := by
  rcases ran with ⟨_ | result, world⟩
  · cases h
  · exact exists_vm_of_verdict_eq_error (Except.ok.inj h)

theorem alive_of_alive (h : vm.disposed = false) : alive vm = (.ok (.ok ()), vm) := by
  show (if vm.disposed then throw .disposed else pure () : Op B Unit) vm = _
  rw [h]
  rfl

theorem alive_of_disposed (h : vm.disposed = true) : alive vm = (.ok (.error .disposed), vm) := by
  show (if vm.disposed then throw .disposed else pure () : Op B Unit) vm = _
  rw [h]
  rfl

theorem onWindow_of_alive (h : vm.disposed = false) (look : B → Except HostError α) :
    onWindow look vm = ofExcept (look vm.world.vm) vm :=
  bind_of_ok (alive_of_alive h) _

theorem changeWindow_of_alive (h : vm.disposed = false) (change : B → Except HostError B) :
    changeWindow change vm =
      match change vm.world.vm with
      | .ok machine => (.ok (.ok ()), vm.withWindow machine)
      | .error e => (.ok (.error e), vm) := by
  show (onWindow change >>= fun machine => inside (World.onVm fun _ => machine)) vm = _
  rw [bind_apply, onWindow_of_alive h]
  cases change vm.world.vm <;> rfl

theorem finish_apply (result : InterpretResult) (vm : VirtualMachine B) :
    finish result vm =
      (.ok (verdict vm.raiseOnError vm.world.host.errors result), vm.ranTo vm.world .idle) := by
  show (match vm.world.host.errors.pending with
    | some e => do if (← get).raiseOnError then throw (.vm e) else pure result
    | none => pure result : Op B InterpretResult) (vm.ranTo vm.world .idle) = _
  unfold verdict
  cases vm.world.host.errors.pending with
  | none => rfl
  | some e =>
    show (if vm.raiseOnError then throw (.vm e) else pure result : Op B InterpretResult)
      (vm.ranTo vm.world .idle) = _
    cases vm.raiseOnError <;> rfl

theorem inside_of_ok {run : Run (World HostState B) α} {a : α} {world : World HostState B}
    (h : run vm.world = (.ok a, world)) :
    inside run vm = (.ok (.ok a), { vm with world := world }) := by
  unfold inside
  rw [h]
  rfl

theorem inside_of_panic {run : Run (World HostState B) α} {p : Panic}
    {world : World HostState B} (h : run vm.world = (.error p, world)) :
    inside run vm = (.error p, { vm with world := world }) := by
  unfold inside
  rw [h]
  rfl

theorem inside_onVm? (change : B → Except Panic (α × B)) (vm : VirtualMachine B) :
    inside (World.onVm? change) vm =
      match change vm.world.vm with
      | .ok (a, machine) => (.ok (.ok a), vm.withWindow machine)
      | .error p => (.error p, vm) := by
  unfold inside World.onVm?
  rw [Run.get_bind_apply]
  cases change vm.world.vm <;> rfl

theorem inside_finish (run : Run (World HostState B) InterpretResult) (vm : VirtualMachine B) :
    (inside run >>= finish) vm = vm.judged (run vm.world) := by
  rcases hrun : run vm.world with ⟨_ | result, world⟩
  · exact bind_of_panic (inside_of_panic hrun) _
  · rw [bind_of_ok (inside_of_ok hrun)]
    exact finish_apply result { vm with world := world }

theorem checkOwned_of_owned {handle : Handle} (h : handle.owner = vm.world.host.handles.owner) :
    checkOwned handle vm = (.ok (.ok ()), vm) := by
  show (if handle.owner ≠ vm.world.host.handles.owner then throw .foreignHandle else pure () :
    Op B Unit) vm = _
  rw [if_neg (fun hne => hne h)]
  rfl

theorem checkOwned_of_foreign {handle : Handle}
    (h : handle.owner ≠ vm.world.host.handles.owner) :
    checkOwned handle vm = (.ok (.error .foreignHandle), vm) := by
  show (if handle.owner ≠ vm.world.host.handles.owner then throw .foreignHandle else pure () :
    Op B Unit) vm = _
  rw [if_pos h]
  rfl

theorem named_apply (name : String) (vm : VirtualMachine B) :
    Session.named name vm =
      match vm.world.host.keyring.handle? name with
      | some handle => (.ok (.ok handle), vm)
      | none => (.ok (.error .handleReleased), vm) := by
  show (match vm.world.host.keyring.handle? name with
    | some handle => pure handle
    | none => throw .handleReleased : Op B Handle) vm = _
  cases vm.world.host.keyring.handle? name <;> rfl

theorem liveEntry_apply (handle : Handle) (vm : VirtualMachine B) :
    liveEntry handle vm =
      match vm.world.host.handles.entry? handle.id with
      | some entry => (.ok (.ok entry), vm)
      | none => (.ok (.error .handleReleased), vm) := by
  show (match vm.world.host.handles.entry? handle.id with
    | some entry => pure entry
    | none => throw .handleReleased : Op B HandleEntry) vm = _
  cases vm.world.host.handles.entry? handle.id <;> rfl

variable [Backend B]

theorem enter_of_alive (h : vm.disposed = false) : enter vm = (.ok (.ok ()), vm.entered) := by
  unfold enter
  rw [bind_of_ok (alive_of_alive h)]
  rfl

theorem enter_of_disposed (h : vm.disposed = true) : enter vm = (.ok (.error .disposed), vm) := by
  unfold enter
  rw [bind_of_error (alive_of_disposed h)]

/-- Interpreting a source runs it on the machine just entered; a source that is refused has no
verdict. -/
theorem interpret_apply (module source : String) (halive : vm.disposed = false) :
    interpret module source vm =
      match Backend.interpret module source vm.entered.world with
      | (.ok (.ok result), world) => vm.judged (.ok result, world)
      | (.ok (.error e), world) => (.ok (.error e), { vm with world := world })
      | (.error p, world) => vm.judged (.error p, world) := by
  unfold interpret
  rw [bind_of_ok (enter_of_alive halive)]
  rcases hrun : Backend.interpret module source vm.entered.world with ⟨_ | _ | result, world⟩
  · exact bind_of_panic (inside_of_panic hrun) _
  · rw [bind_of_ok (inside_of_ok hrun)]
    rfl
  · rw [bind_of_ok (inside_of_ok hrun)]
    exact finish_apply result { vm with world := world }

theorem interpret_of_disposed (module source : String) (h : vm.disposed = true) :
    interpret module source vm = (.ok (.error .disposed), vm) := by
  unfold interpret
  rw [bind_of_error (enter_of_disposed h)]

/-- The causes for which a call may be refused, in order, each with whether it applies.  The
window is looked at once the machine was entered. -/
def callCauses (vm : VirtualMachine B) (method : Handle) : List (Bool × HostError) :=
  let entry := vm.world.host.handles.entry? method.id
  let arity := entry.bind (·.kind.arity?)
  let count := Slots.count vm.entered.world.vm
  [(vm.disposed, .disposed),
    (method.owner ≠ vm.world.host.handles.owner, .foreignHandle),
    (entry.isNone, .handleReleased),
    (arity.isNone, .notACallHandle),
    (arity.any (count ≤ ·), .missingCallArguments (arity.getD 0) count)]

/-- The first cause that applies. -/
def callRefusal? (vm : VirtualMachine B) (method : Handle) : Option HostError :=
  ((vm.callCauses method).find? (·.1)).map (·.2)

/-- No cause applies to a live handle of this machine that stands for a method, if the window
has more slots than the method takes arguments. -/
theorem callRefusal?_eq_none (method : Handle) (vm : VirtualMachine B) :
    vm.callRefusal? method = none ↔
      vm.disposed = false ∧ method.owner = vm.world.host.handles.owner ∧
        ∃ raw arity, vm.world.host.handles.entry? method.id = some ⟨raw, .call arity⟩ ∧
          arity < Slots.count vm.entered.world.vm := by
  simp only [callRefusal?, callCauses, Option.map_eq_none_iff, List.find?_eq_none,
    List.forall_mem_cons, Bool.not_eq_true, decide_eq_false_iff_not, ne_eq, Decidable.not_not,
    List.not_mem_nil, false_implies, implies_true, and_true]
  -- The first cause that applies is none exactly if none of the five applies.
  constructor
  · rintro ⟨halive, howned, hlive, hkind, hcount⟩
    cases hentry : vm.world.host.handles.entry? method.id with
    | none => simp [hentry] at hlive
    | some entry =>
      obtain ⟨raw, kind⟩ := entry
      cases kind with
      | value => simp [hentry, HandleKind.arity?] at hkind
      | call arity =>
        refine ⟨halive, howned, raw, arity, rfl, ?_⟩
        simpa [hentry, HandleKind.arity?] using hcount
  · rintro ⟨halive, howned, raw, arity, hentry, hcount⟩
    refine ⟨halive, howned, ?_, ?_, ?_⟩
    · simp [hentry]
    · simp [hentry, HandleKind.arity?]
    · simpa [hentry, HandleKind.arity?] using hcount

/-- A call by a live handle of this machine that stands for a method runs on the machine just
entered, unless there are too few slots. -/
theorem call_of_entry {method : Handle} {raw : RawHandle} {arity : Nat}
    (halive : vm.disposed = false) (howned : method.owner = vm.world.host.handles.owner)
    (hentry : vm.world.host.handles.entry? method.id = some ⟨raw, .call arity⟩) :
    call method vm =
      if Slots.count vm.entered.world.vm ≤ arity then
        (.ok (.error (.missingCallArguments arity (Slots.count vm.entered.world.vm))), vm.entered)
      else vm.judged (Backend.call raw vm.entered.world) := by
  have hlive := liveEntry_apply method vm
  rw [hentry] at hlive
  unfold call
  rw [bind_of_ok (alive_of_alive halive), bind_of_ok (checkOwned_of_owned howned),
    bind_of_ok hlive]
  dsimp only
  rw [bind_of_ok (enter_of_alive halive)]
  show (if Slots.count vm.entered.world.vm ≤ arity then _ else _ : Op B InterpretResult)
    vm.entered = _
  by_cases hcount : Slots.count vm.entered.world.vm ≤ arity
  · simp only [hcount, ↓reduceIte]
    rfl
  · simp only [hcount, ↓reduceIte]
    exact inside_finish _ vm.entered

/-- A call is refused for the first cause that applies, and then nothing runs; otherwise it runs
on the machine just entered. -/
theorem call_apply (method : Handle) (vm : VirtualMachine B) :
    (∃ e vm', vm.callRefusal? method = some e ∧ call method vm = (.ok (.error e), vm') ∧
      (vm' = vm ∨ vm' = vm.entered)) ∨
    ∃ raw arity, vm.callRefusal? method = none ∧ vm.disposed = false ∧
      method.owner = vm.world.host.handles.owner ∧
      vm.world.host.handles.entry? method.id = some ⟨raw, .call arity⟩ ∧
      arity < Slots.count vm.entered.world.vm ∧
      call method vm = vm.judged (Backend.call raw vm.entered.world) := by
  unfold callRefusal? callCauses
  -- The cases are the causes, in the order in which a call looks for them.
  cases hdisposed : vm.disposed with
  | true =>
    refine .inl ⟨.disposed, vm, rfl, ?_, .inl rfl⟩
    exact bind_of_error (alive_of_disposed hdisposed) _
  | false =>
    by_cases howned : method.owner = vm.world.host.handles.owner
    · have hlive := liveEntry_apply method vm
      cases hentry : vm.world.host.handles.entry? method.id with
      | none =>
        rw [hentry] at hlive
        refine .inl ⟨.handleReleased, vm, ?_, ?_, .inl rfl⟩
        · simp [howned]
        · unfold call
          rw [bind_of_ok (alive_of_alive hdisposed), bind_of_ok (checkOwned_of_owned howned),
            bind_of_error hlive]
      | some entry =>
        obtain ⟨raw, kind⟩ := entry
        rw [hentry] at hlive
        cases kind with
        | value =>
          refine .inl ⟨.notACallHandle, vm, ?_, ?_, .inl rfl⟩
          · simp [howned, HandleKind.arity?]
          · unfold call
            rw [bind_of_ok (alive_of_alive hdisposed), bind_of_ok (checkOwned_of_owned howned),
              bind_of_ok hlive]
            rfl
        | call arity =>
          have hcall := call_of_entry hdisposed howned hentry
          by_cases hcount : Slots.count vm.entered.world.vm ≤ arity
          · rw [if_pos hcount] at hcall
            refine .inl ⟨_, vm.entered, ?_, hcall, .inr rfl⟩
            simp [howned, HandleKind.arity?, hcount]
          · rw [if_neg hcount] at hcall
            refine .inr ⟨raw, arity, ?_, rfl, howned, rfl, Nat.not_le.mp hcount, hcall⟩
            simp [howned, HandleKind.arity?, hcount]
    · refine .inl ⟨.foreignHandle, vm, ?_, ?_, .inl rfl⟩
      · simp [howned]
      · unfold call
        rw [bind_of_ok (alive_of_alive hdisposed), bind_of_error (checkOwned_of_foreign howned)]

end VirtualMachine

end ScriptHost
