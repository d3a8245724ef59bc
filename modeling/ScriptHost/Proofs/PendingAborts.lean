/-
Aborts that are still pending when a method is called.

A foreign method that is called runs on a window of its own and, if it aborts, the call fails with
its last abort.  Whether it aborted is read off the machine once it has returned, and that is
emptied then, but not before the method runs.  So an abort that came from outside a call is still
pending when the next one starts: the method sees nothing of it and does what it always does, and
the call fails with the old abort unless the method aborts too.

* **`InMemory.unseen_withPending`** — a pending abort is not seen by the host;
* **`HostState.aborted_invoke`** — what a method leaves is the text of its last abort, or what was
  pending before;
* **`InMemory.serveForeign_apply`**, **`HostState.raise_apply`** — how a call ends;
* **`VirtualMachine.callOutcome_after`** — the outcome of every call of a foreign method.
-/
import ScriptHost.Proofs.Allocation
import ScriptHost.Proofs.CallSafety
import ScriptHost.Proofs.CapturedErrors
import ScriptHost.Proofs.DeclaredClasses
import ScriptHost.Proofs.ErrorReports
import ScriptHost.Proofs.TextRoundTrip
import ScriptHost.Proofs.UnseenChanges
import ScriptHost.Samples.Calculator

namespace ScriptHost

open InMemory Run

/-! ### What a method leaves aborted -/

section

variable {F W : Type} [Slots W]

/-- The text with which the answer of a host function aborts, if it does. -/
def answerAbort? (w : W) : ForeignReturn → Option String
  | .ok none => none
  | .ok (some value) =>
    match writeValue w 0 value with
    | .ok _ => none
    | .error e => some e.message
  | .error e => some e.message

/-- The text with which a bound method aborts. -/
def ForeignBinding.abortText? (b : ForeignBinding) (index : Nat) (w : W)
    (registry : ForeignRegistry F) (objects : ObjectStore) : Option String :=
  match b.methods[index]? with
  | none => none
  | some m =>
    match b.receiverFor? m w registry objects with
    | none => some (b.noReceiver m)
    | some receiver =>
      match coerceAll w 1 m.params with
      | .error (param, mismatch) => some (mismatch.message m.name param)
      | .ok args => answerAbort? w (m.call receiver args objects).1

/-- The text of the last abort of a method; one that is no longer there does nothing. -/
def HostState.abortText? (id : Nat) (w : World HostState W) : Option String :=
  match w.host.methods[id]? with
  | some (.bound b index) => b.abortText? index w.vm w.host.foreign w.host.objects
  | some (.raw program) => lastAbort? program
  | none => none

end

namespace InMemory

/-- A slot holds what was put into it, also if it was made for it. -/
theorem Machine.slot_setSlot (m : Machine) (i : Nat) (v : ScriptValue) :
    (m.setSlot i v).slot i = v := by
  have hlt : i < (m.ensure (i + 1)).slots.length := by
    show i < (m.slots ++ List.replicate (i + 1 - m.slots.length) ScriptValue.null).length
    rw [List.length_append, List.length_replicate]
    omega
  show (((m.ensure (i + 1)).slots.set i v)[i]?).getD .null = v
  rw [List.getElem?_set_self hlt, Option.getD_some]

theorem aborted_abortWith (m : Machine) (message : String) :
    (Slots.abortWith m message).aborted = some (text message) := by
  show some ((Machine.setSlot _ 0 (text message)).slot 0) = _
  rw [Machine.slot_setSlot]

theorem aborted_answer (m : Machine) (r : ForeignReturn) :
    (ForeignBinding.answer m r).aborted = ((answerAbort? m r).map text).or m.aborted := by
  match r with
  | .ok none => rfl
  | .error e => exact aborted_abortWith m e.message
  | .ok (some value) =>
    simp only [ForeignBinding.answer, answerAbort?]
    cases hwrite : writeValue m 0 value with
    | ok m' =>
      obtain ⟨-, v, rfl⟩ := writeValue_eq_ok hwrite
      rfl
    | error e => exact aborted_abortWith m e.message

theorem aborted_invokeBound {F : Type} (b : ForeignBinding) (index : Nat) (m : Machine)
    (registry : ForeignRegistry F) (objects : ObjectStore) :
    (b.invoke index m registry objects).1.aborted =
      ((b.abortText? index m registry objects).map text).or m.aborted := by
  unfold ForeignBinding.invoke ForeignBinding.abortText?
  cases b.methods[index]? with
  | none => rfl
  | some method =>
    dsimp only
    cases b.receiverFor? method m registry objects with
    | none => exact aborted_abortWith m _
    | some receiver =>
      dsimp only
      cases coerceAll m 1 method.params with
      | error found => exact aborted_abortWith m _
      | ok args => exact aborted_answer m _

/-- A member has left the text of its last abort so far, or else what was pending before it. -/
def Leaves {F : Type} (pending : Option ScriptValue) (message : Option String)
    (s : CallState F Machine) : Prop :=
  s.context.window.aborted = (message.map text).or pending

/-- An action that aborts leaves its text, and any other one what was there. -/
theorem leaves_run {F : Type} {pending : Option ScriptValue} {message : Option String}
    {s s' : CallState F Machine} {action : CallAction} {reply : CallReply}
    (hs : Leaves pending message s) (hrun : action.run s = .ok (reply, s')) :
    Leaves pending (action.abortText?.or message) s' := by
  -- An action that is no abort may write to the window, but not to what is pending.
  cases hquiet : action.abortText? with
  | none =>
    rcases (CallAction.calm_run hrun hquiet).window with hsame | ⟨slot, -, -, v, hwritten⟩
    · unfold Leaves
      rw [hsame]
      exact hs
    · unfold Leaves
      rw [hwritten]
      exact hs
  | some last =>
    obtain rfl := CallAction.eq_abort_of_abortText? hquiet
    cases hrun
    exact aborted_abortWith s.context.window last

theorem leads_leaves {F : Type} {pending : Option ScriptValue} {s : CallState F Machine}
    (hs : Leaves pending none s) (program : List CallAction) :
    Leads (runActions program) s (fun _ => Leaves pending ((lastAbort? program).or none))
      fun s' => ∃ done, done <+: program ∧ Leaves pending ((lastAbort? done).or none) s' :=
  Leads.runActions_aborting (fun _ _ _ _ _ => leaves_run) program none s hs

end InMemory

namespace HostState

/-- What a method leaves is the text of its last abort, or what was pending before it ran. -/
theorem aborted_invoke {id : Nat} {w v : World HostState Machine}
    (hrun : invoke id w = (.ok (), v)) :
    v.vm.aborted = ((abortText? id w).map text).or w.vm.aborted := by
  unfold invoke at hrun
  unfold abortText?
  rw [Run.get_bind_apply] at hrun
  cases htarget : w.host.methods[id]? with
  | none =>
    rw [htarget] at hrun
    cases hrun
    rfl
  | some target =>
    rw [htarget] at hrun
    cases target with
    | bound b index =>
      cases hrun
      exact aborted_invokeBound b index w.vm w.host.foreign w.host.objects
    | raw program =>
      -- The member starts with nothing of its own, and what was pending before counts only if that
      -- stays so.
      have hstart : Leaves w.vm.aborted none (callState w false) := rfl
      have hleads := leads_leaves hstart program
      dsimp only at hrun
      rw [Run.discard_apply, Unbroken.runMember_apply] at hrun
      rcases hran : runActions program (callState w false) with ⟨_ | _, s⟩ <;>
        rw [hran] at hrun <;> cases hrun
      have hleft := hleads.of_ok hran
      rwa [Option.or_none] at hleft

/-! ### Reports -/

/-- The world in which an error has been reported and every subscriber was told of it. -/
def reported (w : World HostState Machine) (event : StackFrame) : World HostState Machine where
  host := { w.host with errors := w.host.errors.report event }
  vm := { w.vm with
    journal := w.vm.journal ++ w.host.errorSubscribers.map fun s => .onError s.label event }

theorem tellAll_apply {subscribers : List Subscriber} (entry : Subscriber → Entry)
    (hcalm : ∀ s ∈ subscribers, s.panics = false) (w : World HostState Machine) :
    subscribers.forM (fun s => tell s (entry s)) w =
      (.ok (),
        { w with vm := { w.vm with journal := w.vm.journal ++ subscribers.map entry } }) := by
  induction subscribers generalizing w with
  | nil =>
    rw [List.map_nil, List.append_nil]
    rfl
  | cons s subscribers ih =>
    rw [List.forall_mem_cons] at hcalm
    have htell : tell s (entry s) w =
        (.ok (), { w with vm := { w.vm with journal := w.vm.journal ++ [entry s] } }) := by
      unfold tell
      rw [hcalm.1]
      rfl
    refine (Run.bind_apply (tell s (entry s)) _ w).trans ?_
    rw [htell]
    dsimp only
    rw [ih hcalm.2, List.append_assoc, List.map_cons]
    rfl

theorem report_apply {w : World HostState Machine}
    (hcalm : ∀ s ∈ w.host.errorSubscribers, s.panics = false) (event : StackFrame) :
    report event w = (.ok (), reported w event) :=
  tellAll_apply (fun s => .onError s.label event) hcalm
    { w with host := { w.host with errors := w.host.errors.report event } }

end HostState

namespace InMemory

/-- What an error is reported with. -/
def ScriptValue.message : ScriptValue → String
  | .string bytes => Utf8.decode bytes
  | _ => "Error"

theorem message_text (message : String) : (text message).message = message :=
  Utf8.decode_encode message

/-- Raising an error in a method reports it, and the method as the only line of the trace. -/
theorem raise_apply {w : World HostState Machine}
    (hcalm : ∀ s ∈ w.host.errorSubscribers, s.panics = false) (error : ScriptValue)
    (signature : String) :
    raise error [("main", 1, signature)] w =
      (.ok .runtimeError,
        HostState.reported (HostState.reported w ⟨.runtime, none, -1, error.message⟩)
          ⟨.stackTrace, some "main", 1, signature⟩) := by
  show (HostState.report ⟨.runtime, none, -1, error.message⟩ >>= fun _ =>
    (HostState.report ⟨.stackTrace, some "main", 1, signature⟩ >>= fun _ => pure ()) >>= fun _ =>
      pure InterpretResult.runtimeError) w = _
  -- The same handlers are told of both lines.
  have hcalm' : ∀ s ∈ (HostState.reported w
      ⟨.runtime, none, -1, error.message⟩).host.errorSubscribers, s.panics = false := hcalm
  rw [Run.bind_apply, HostState.report_apply hcalm]
  dsimp only
  rw [Run.bind_apply, Run.bind_apply, HostState.report_apply hcalm']
  rfl

/-- Raising an error changes nothing about what is pending, whoever panics on the way. -/
theorem leads_raise {w : World HostState Machine} (hclear : w.vm.aborted = none)
    (error : ScriptValue) (trace : List TraceLine) :
    Leads (raise error trace) w (fun _ v => v.vm.aborted = none) fun v => v.vm.aborted = none := by
  have hreport (event : StackFrame) {w : World HostState Machine} (h : w.vm.aborted = none) :
      Leads (HostState.report event) w (fun _ v => v.vm.aborted = none)
        fun v => v.vm.aborted = none :=
    HostState.leads_report event (fun _ _ h => h) h
  refine Leads.bind (hreport _ hclear) fun _ v hv => ?_
  exact Leads.bind (Leads.forM (fun line _ v hv => hreport _ hv) hv) fun _ _ hv => hv

/-! ### What is pending -/

/-- The machine with an abort pending behind one of its own. -/
def Machine.withPending (m : Machine) (pending : Option ScriptValue) : Machine :=
  { m with aborted := m.aborted.or pending }

/-- The host sees nothing of a pending abort. -/
theorem unseen_withPending (pending : Option ScriptValue) :
    Unseen (Machine.withPending · pending) where
  count _ := rfl
  look _ _ := rfl
  ensure _ _ := rfl
  setBool _ _ _ := rfl
  setNumber _ _ _ := rfl
  setBytes _ _ _ := rfl
  setPinned _ _ _ := rfl
  setNull _ _ := rfl
  abort _ _ := rfl
  note _ _ := rfl

/-- At the end of a call the machine is left without slots and with nothing pending. -/
theorem finishCall_apply {H : Type} [Host H] (v : World H Machine) :
    (finishCall : Turn H (Except ScriptValue ScriptValue)) v =
      (.ok (match v.vm.aborted with
        | some error => .error error
        | none => .ok (v.vm.slot 0)),
      { v with vm := { v.vm with slots := [], aborted := none } }) :=
  rfl

/-- A call of a method that panics panics, and leaves the machine as the method left it. -/
theorem serveForeign_of_panic {H : Type} [Host H] {id : Nat} {w v : World H Machine} {p : Panic}
    (signature : String) (hrun : Host.invoke id w = (.error p, v)) :
    serveForeign signature id w = (.error p, v) := by
  unfold serveForeign
  rw [Run.bind_apply, hrun]

/-- Once the method has returned, what is left aborted is raised; if nothing is, slot 0 becomes the
whole window.  Either way nothing is left aborted. -/
theorem serveForeign_apply {H : Type} [Host H] {id : Nat} {w v : World H Machine}
    (signature : String) (hrun : Host.invoke id w = (.ok (), v)) :
    serveForeign signature id w =
      match v.vm.aborted with
      | some error =>
        raise error [("main", 1, signature)]
          { v with vm := { v.vm with slots := [], aborted := none } }
      | none =>
        (.ok .success, { v with vm := { v.vm with slots := [v.vm.slot 0], aborted := none } }) := by
  unfold serveForeign
  rw [Run.bind_apply, hrun]
  dsimp only
  rw [Run.bind_apply, finishCall_apply]
  cases v.vm.aborted <;> rfl

/-- Whether it succeeds or fails, a call whose method returned leaves nothing pending. -/
theorem aborted_serveForeign {id : Nat} {w v : World HostState Machine} (signature : String)
    (hrun : HostState.invoke id w = (.ok (), v)) :
    (serveForeign signature id w).2.vm.aborted = none := by
  have hrun' : Host.invoke id w = (.ok (), v) := hrun
  rw [serveForeign_apply signature hrun']
  cases v.vm.aborted with
  | some error => exact (leads_raise rfl error _).ends
  | none => rfl

end InMemory

/-! ### Calls -/

namespace VirtualMachine

variable {vm : VirtualMachine Machine}

/-- The world in which a method runs that is called under a signature: the window holds the
receiver and the arguments.  An abort may be pending. -/
def serving (vm : VirtualMachine Machine) (signature : String) (pending : Option ScriptValue) :
    World HostState Machine :=
  { vm.entered.world with
    vm := { vm.entered.world.vm with
      slots := vm.world.vm.slots.take (callArity signature + 1)
      aborted := pending } }

/-- A call by a handle is let through, the handle stands for a method, and the receiver is foreign
and has a method for it. -/
structure CallsForeign (vm : VirtualMachine Machine) (method : Handle) (signature : String)
    (id : Nat) : Prop where
  admitted : vm.callRefusal? method = none
  named : ∃ raw arity, vm.world.host.handles.entry? method.id = some ⟨raw, .call arity⟩ ∧
    vm.entered.world.vm.pinned? raw = some (.callHandle signature)
  implemented : ∃ info, vm.entered.world.vm.classOf? (vm.world.vm.slot 0) = some info ∧
    info.methods.lookup ((vm.world.vm.slot 0).isClass, signature) = some id

/-- The method returns in a world when it runs with nothing pending. -/
def Returns (vm : VirtualMachine Machine) (signature : String) (id : Nat)
    (v : World HostState Machine) : Prop :=
  HostState.invoke id (vm.serving signature none) = (.ok (), v)

/-- The text of the last abort of the method when it is called. -/
def lastAbort? (vm : VirtualMachine Machine) (signature : String) (id : Nat) : Option String :=
  HostState.abortText? id (vm.serving signature none)

/-- An error with a message that was raised in a method. -/
def raisedIn (signature message : String) : ErrorBridge :=
  ⟨some ⟨⟨.runtime, none, -1, message⟩, [⟨.stackTrace, some "main", 1, signature⟩]⟩⟩

/-- What comes of a call of a foreign method. -/
structure CallOutcome (vm : VirtualMachine Machine) (method : Handle) (signature : String)
    (id : Nat) : Prop where
  /-- The method does the same whatever is pending, and leaves that pending behind its own
  abort. -/
  unseen : ∀ pending, HostState.invoke id (vm.serving signature pending) =
    ((HostState.invoke id (vm.serving signature none)).1,
      (HostState.invoke id (vm.serving signature none)).2.through
        (Machine.withPending · pending))
  /-- Its own abort is the last of that very call. -/
  aborts : ∀ v, vm.Returns signature id v →
    v.vm.aborted = (vm.lastAbort? signature id).map text
  /-- If it panics, so does the call. -/
  panics : ∀ p v, HostState.invoke id (vm.serving signature none) = (.error p, v) →
    call method vm =
      (.error p, { vm with world := v.through (Machine.withPending · vm.world.vm.aborted) })
  /-- If it does not abort and nothing is pending, the machine succeeds, with the answer as the
  only slot of its window; only an error captured before could still be raised. -/
  succeeds : ∀ v, vm.Returns signature id v → vm.lastAbort? signature id = none →
    vm.world.vm.aborted = none →
    (call method vm).1 = .ok (verdict vm.raiseOnError vm.world.host.errors .success) ∧
      (call method vm).2.world.vm.slots = [v.vm.slot 0]
  /-- If it aborts, the error is its last abort, whatever was pending or captured. -/
  reports : ∀ v message, vm.Returns signature id v → vm.lastAbort? signature id = some message →
    (∀ s ∈ vm.world.host.errorSubscribers, s.panics = false) →
    (call method vm).1 =
      .ok (verdict vm.raiseOnError (raisedIn signature message) .runtimeError)
  /-- If it does not abort but an abort is pending, the call fails with that one. -/
  fails : ∀ v error, vm.Returns signature id v → vm.lastAbort? signature id = none →
    vm.world.vm.aborted = some error →
    (∀ s ∈ vm.world.host.errorSubscribers, s.panics = false) →
    (call method vm).1 =
      .ok (verdict vm.raiseOnError (raisedIn signature error.message) .runtimeError)
  /-- Once the method has returned, nothing is pending any more. -/
  clears : ∀ v, vm.Returns signature id v → (call method vm).2.world.vm.aborted = none

variable {method : Handle} {signature : String} {id : Nat} {v : World HostState Machine}

/-- The call runs the method on the receiver and the arguments, with what is pending. -/
theorem CallsSafely.call_eq (hsafe : vm.CallsSafely method)
    (hcalls : vm.CallsForeign method signature id) :
    call method vm =
      vm.judged (serveForeign signature id (vm.serving signature vm.world.vm.aborted)) := by
  obtain ⟨hadmitted, ⟨raw, arity, hentry, hpinned⟩, info, hclass, hmethod⟩ := hcalls
  obtain ⟨signature', -, hpinned', hcall⟩ := hsafe.reaches raw arity hadmitted hentry
  rw [hpinned, Option.some.injEq, ScriptValue.callHandle.injEq] at hpinned'
  subst hpinned'
  have haborted : vm.entered.world.vm.aborted = vm.world.vm.aborted := by
    show (vm.world.host.handles.pending.foldl Backend.releaseHandle vm.world.vm).aborted = _
    rw [Machine.foldl_releaseHandle]
  rw [hcall, hsafe.receives _ signature info id hclass hmethod, serving, ← haborted]

theorem judged_machine (ran : Except Panic InterpretResult × World HostState Machine) :
    (vm.judged ran).2.world.vm = ran.2.vm := by
  rcases ran with ⟨_ | _, _⟩ <;> rfl

theorem invoke_serving (vm : VirtualMachine Machine) (signature : String) (id : Nat)
    (pending : Option ScriptValue) :
    HostState.invoke id (vm.serving signature pending) =
      ((HostState.invoke id (vm.serving signature none)).1,
        (HostState.invoke id (vm.serving signature none)).2.through
          (Machine.withPending · pending)) :=
  HostState.invoke_changed (unseen_withPending pending) id (vm.serving signature none)

theorem Returns.invoke_eq (h : vm.Returns signature id v) (pending : Option ScriptValue) :
    HostState.invoke id (vm.serving signature pending) =
      (.ok (), v.through (Machine.withPending · pending)) := by
  rw [invoke_serving, h]

theorem exists_returns (h : (HostState.invoke id (vm.serving signature none)).1 = .ok ()) :
    ∃ v, vm.Returns signature id v :=
  ⟨_, Prod.ext h rfl⟩

theorem Returns.aborted_eq (h : vm.Returns signature id v) :
    v.vm.aborted = (vm.lastAbort? signature id).map text := by
  have hleft := HostState.aborted_invoke h
  rwa [show (vm.serving signature none).vm.aborted = none from rfl, Option.or_none] at hleft

/-- A method reports no errors and subscribes to none. -/
theorem Returns.silent (h : vm.Returns signature id v) :
    v.host.errors = vm.world.host.errors ∧
      v.host.errorSubscribers = vm.world.host.errorSubscribers := by
  have hsilent := ((HostState.unbroken_silent (vm.serving signature none)).invoke id
    (.refl _)).of_ok h
  exact ⟨hsilent.errors, hsilent.errorSubscribers⟩

/-- The call whose method returned raises what is left aborted. -/
theorem Returns.raised (h : vm.Returns signature id v) (hsafe : vm.CallsSafely method)
    (hcalls : vm.CallsForeign method signature id)
    (hcalm : ∀ s ∈ vm.world.host.errorSubscribers, s.panics = false) {error : ScriptValue}
    (haborted : v.vm.aborted.or vm.world.vm.aborted = some error) :
    (call method vm).1 =
      .ok (verdict vm.raiseOnError (raisedIn signature error.message) .runtimeError) := by
  have hrun : serveForeign signature id (vm.serving signature vm.world.vm.aborted) = _ :=
    serveForeign_apply signature (h.invoke_eq vm.world.vm.aborted)
  have hleft : (v.through (Machine.withPending · vm.world.vm.aborted)).vm.aborted = some error :=
    haborted
  rw [hleft] at hrun
  dsimp only at hrun
  rw [raise_apply (by exact h.silent.2 ▸ hcalm)] at hrun
  rw [hsafe.call_eq hcalls, hrun]
  -- The message takes the place of what was captured before, and the frame goes with it.
  have herrors (errors : ErrorBridge) :
      (errors.report ⟨.runtime, none, -1, error.message⟩).report
        ⟨.stackTrace, some "main", 1, signature⟩ = raisedIn signature error.message := by
    have hfirst : errors.report ⟨.runtime, none, -1, error.message⟩ =
        ⟨some ⟨⟨.runtime, none, -1, error.message⟩, []⟩⟩ :=
      ErrorBridge.report_runtime rfl
    rw [hfirst]
    exact ErrorBridge.report_frame rfl rfl
  exact congrArg (fun errors => Except.ok (verdict vm.raiseOnError errors .runtimeError))
    (herrors v.host.errors)

theorem callOutcome_of_callsSafely (hsafe : vm.CallsSafely method)
    (hcalls : vm.CallsForeign method signature id) : vm.CallOutcome method signature id where
  unseen := invoke_serving vm signature id
  aborts _ h := h.aborted_eq
  panics p v hrun := by
    rw [hsafe.call_eq hcalls, serveForeign_of_panic signature
      ((invoke_serving vm signature id vm.world.vm.aborted).trans (by rw [hrun]))]
    rfl
  succeeds v h hquiet hclear := by
    have hrun : serveForeign signature id (vm.serving signature vm.world.vm.aborted) = _ :=
      serveForeign_apply signature (h.invoke_eq vm.world.vm.aborted)
    have hleft : (v.through (Machine.withPending · vm.world.vm.aborted)).vm.aborted = none := by
      show v.vm.aborted.or vm.world.vm.aborted = none
      rw [h.aborted_eq, hquiet, hclear]
      rfl
    rw [hleft] at hrun
    rw [hsafe.call_eq hcalls, hrun, ← h.silent.1]
    exact ⟨rfl, rfl⟩
  reports v message h hlast hcalm := by
    have hraised := h.raised hsafe hcalls hcalm (by rw [h.aborted_eq, hlast]; rfl)
    rwa [message_text] at hraised
  fails v error h hquiet hpending hcalm := by
    refine h.raised hsafe hcalls hcalm ?_
    rw [h.aborted_eq, hquiet, hpending]
    rfl
  clears v h := by
    rw [hsafe.call_eq hcalls, judged_machine]
    exact aborted_serveForeign signature (h.invoke_eq vm.world.vm.aborted)

/-- Whatever was done with a virtual machine before, what comes of a call of a foreign method is
what comes of the method on its receiver and its arguments, and of what is pending. -/
theorem callOutcome_after (config : Configuration) (owner : Nat) (machine : Machine)
    (steps : List Step) {method : Handle} {signature : String} {id : Nat}
    (hcalls : CallsForeign ((new config owner machine).2.after steps) method signature id) :
    CallOutcome ((new config owner machine).2.after steps) method signature id :=
  callOutcome_of_callsSafely (callsSafely_after config owner machine steps method) hcalls

/-- A machine about to be asked for the version of the calculator: a script declared the class,
which stands in slot 0, and the handle is made. -/
def askingVersion : VirtualMachine Machine :=
  (new .default 0
    (Machine.new [("calc", [.declare "Calculator" [(true, "version()")]])] [] false false)).2.after
    [.operate (.bind Samples.calculatorClass.describe "main"),
      .operate (.interpret "main" "calc"), .operate (.makeCallHandle "version()" "version"),
      .operate (.ensureSlots 1), .operate (.getVariable "main" "Calculator" 0)]

/-- The version is the only slot of the window after the call. -/
theorem callOutcome_after_version :
    CallsForeign askingVersion ⟨0, 0⟩ "version()" 0 ∧
      CallOutcome askingVersion ⟨0, 0⟩ "version()" 0 ∧
      (call ⟨0, 0⟩ askingVersion).1 = .ok (.ok .success) ∧
      (call ⟨0, 0⟩ askingVersion).2.world.vm.slots = [text "1.0"] := by
  have hcalls : CallsForeign askingVersion ⟨0, 0⟩ "version()" 0 :=
    ⟨by decide +kernel, ⟨⟨1⟩, 0, by decide +kernel, by decide +kernel⟩,
      ⟨"Calculator", some 0, [((true, "version()"), 0)]⟩, by decide +kernel, by decide +kernel⟩
  exact ⟨hcalls, callOutcome_after .default 0 _ _ hcalls, by decide +kernel, by decide +kernel⟩

/-- After an abort outside any call the same call fails, though the method does not abort. -/
theorem call_fails_pending :
    let vm := askingVersion.after [.operate (.abortFiber 0)]
    CallsForeign vm ⟨0, 0⟩ "version()" 0 ∧ (∃ v, vm.Returns "version()" 0 v) ∧
      vm.lastAbort? "version()" 0 = none ∧ (call ⟨0, 0⟩ vm).1 = .ok (.ok .runtimeError) ∧
      (call ⟨0, 0⟩ vm).2.world.vm.slots = [] := by
  intro vm
  have hcalls : CallsForeign vm ⟨0, 0⟩ "version()" 0 :=
    ⟨by decide +kernel, ⟨⟨1⟩, 0, by decide +kernel, by decide +kernel⟩,
      ⟨"Calculator", some 0, [((true, "version()"), 0)]⟩, by decide +kernel, by decide +kernel⟩
  exact ⟨hcalls, exists_returns (by decide +kernel), by decide +kernel, by decide +kernel,
    by decide +kernel⟩

end VirtualMachine

end ScriptHost
