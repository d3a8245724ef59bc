/-
What becomes of the errors a machine reports.

`RunsAlike B` says that a machine of kind `B` knows its host through the callbacks only: under
related hosts its entry points do the same and leave the hosts related.  So a run can be
repeated under a host that is overheard, and `heard` is what it reports.  Reports are taken in
and told to the subscribers as they come; when interpreting or calling returns they have given
the verdict, and none of them is left:

* **`Reports.of_judged`** — one run of the machine;
* **`errorFree_step`** — between runs no error is captured;
* **`reportsErrors_after`** — the result, for every life whose interpreting and calling returns.
-/
import ScriptHost.Proofs.OperationEquations
import ScriptHost.Proofs.OperationInvariant
import ScriptHost.Proofs.Overhearing
import ScriptHost.Proofs.Refusals
import ScriptHost.Scripted.Run

namespace ScriptHost

open Run

/-- A machine whose entry points answer alike under related hosts.  A source it refuses does
nothing, and neither does taking a handle back tell anybody of errors. -/
class RunsAlike (B : Type) [Backend B] extends Recorded B where
  interpret {H H' : Type} [Host H] [Host H'] {R : H → H' → List (String × StackFrame) → Prop}
    {w : World (H × H') B} (module source : String) : Host.Related R → w.Related R →
    Agrees (Backend.interpret module source) (Backend.interpret module source) w
      (fun _ => World.Related R) (World.Related R)
  call {H H' : Type} [Host H] [Host H'] {R : H → H' → List (String × StackFrame) → Prop}
    {w : World (H × H') B} (method : RawHandle) : Host.Related R → w.Related R →
    Agrees (Backend.call method) (Backend.call method) w (fun _ => World.Related R)
      (World.Related R)
  collectGarbage {H H' : Type} [Host H] [Host H']
    {R : H → H' → List (String × StackFrame) → Prop} {w : World (H × H') B} :
    Host.Related R → w.Related R →
    Agrees Backend.collectGarbage Backend.collectGarbage w (fun _ => World.Related R)
      (World.Related R)
  refused {H : Type} [Host H] {w w' : World H B} {module source : String} {e : HostError} :
    Backend.interpret module source w = (.ok (.error e), w') → w' = w
  told_releaseHandle (machine : B) (raw : RawHandle) :
    told (Backend.releaseHandle machine raw) = told machine

namespace InMemory

theorem Machine.Adds.told {m m' : Machine} (h : m.Adds m') :
    m'.journal.flatMap Entry.told = m.journal.flatMap Entry.told := by
  obtain ⟨entries, hjournal, hscripts⟩ := h.journal
  have hnobody : entries.flatMap Entry.told = [] := by
    refine List.flatMap_eq_nil_iff.mpr fun entry hentry => ?_
    have := hscripts entry hentry
    cases entry <;> simp_all [Entry.isScripts, Entry.told]
  rw [hjournal, List.flatMap_append, hnobody, List.append_nil]

instance : Recorded Machine where
  told m := m.journal.flatMap Entry.told
  told_note m entry := by
    show (m.journal ++ [entry]).flatMap Entry.told = _
    simp
  frame := Machine.slotFrame_adds.mono (fun _ _ h => h.told) fun h h' => h'.trans h
  told_setNewForeign {m m' slot classSlot token} h := by
    simp only [Slots.setNewForeign] at h
    split at h
    · cases h
      rfl
    · cases h

variable {H H' : Type} [Host H] [Host H'] {R : H → H' → List (String × StackFrame) → Prop}

theorem agrees_collectGarbage (hR : Host.Related R) {w : World (H × H') Machine}
    (hw : w.Related R) :
    Agrees collectGarbage collectGarbage w (fun _ => World.Related R) (World.Related R) := by
  unfold collectGarbage
  refine Agrees.get_bind (Agrees.onVm_bind ?_)
  exact Agrees.forM (fun token _ v hv => hR.finalize token hv) hw

/-- Related hosts stay related whatever a script does, forged instances or not. -/
theorem simulation_of_related (hR : Host.Related R) :
    Simulation (fun _ => True) fun _ (w : World (H × H') Machine) => w.Related R where
  scripts _ _ _ := trivial
  move {_ _ w v} _ hadds hw := by
    show R w.host.1 w.host.2 (v.journal.flatMap Entry.told)
    rw [hadds.told]
    exact hw
  forge _ _ hw := hw
  bindMethod module className isStatic signature hw :=
    hR.bindMethod module className isStatic signature hw
  bindClass module className hw := hR.bindClass module className hw
  invoke id hw := hR.invoke id hw
  allocate id hw := hR.allocate id hw
  write text hw := hR.write text hw
  report event hw := hR.report event hw
  collect hw := agrees_collectGarbage hR hw

instance : RunsAlike Machine where
  interpret module source hR hw := (simulation_of_related hR).interpret module source hw
  call method hR hw := (simulation_of_related hR).call method hw
  collectGarbage hR hw := agrees_collectGarbage hR hw
  refused := eq_of_interpret_refused
  told_releaseHandle m raw := by
    show (InMemory.releaseHandle m raw).journal.flatMap Entry.told = _
    unfold InMemory.releaseHandle
    split <;> rfl

end InMemory

namespace VirtualMachine

variable {B α : Type} [Backend B] {vm : VirtualMachine B}

/-- The errors a machine reports while it runs something. -/
def heard (run : Run (World (Overheard HostState) B) α) (world : World HostState B) :
    List StackFrame :=
  (run ⟨⟨world.host, []⟩, world.vm⟩).2.host.events

section

variable [RunsAlike B]

/-- What a run leaves behind that reported errors. -/
structure Reported (world world' : World HostState B) (events : List StackFrame) : Prop where
  errors : world'.host.errors = world.host.errors.reports events
  told : Recorded.told world'.vm =
    Recorded.told world.vm ++ deliveries world.host.errorSubscribers events

/-- What is heard of a run under an overheard host is what was reported. -/
theorem Reported.of_agrees {run : Run (World HostState B) α}
    {run' : Run (World (Overheard HostState) B) α} {world : World HostState B}
    (h : ∀ {before} {w : World (HostState × Overheard HostState) B},
      w.Related (Overheard.Tells world.host before) →
      Agrees run run' w (fun _ => World.Related (Overheard.Tells world.host before))
        (World.Related (Overheard.Tells world.host before))) :
    Reported world (run world).2 (heard run' world) := by
  have hstart : (⟨(world.host, ⟨world.host, []⟩), world.vm⟩ :
      World (HostState × Overheard HostState) B).Related
        (Overheard.Tells world.host (Recorded.told world.vm)) := .refl _ _
  obtain ⟨outcome, v, hrun, hrun', hend⟩ := h hstart
  -- The relation holds at the end of a run that panics too.
  have htells : v.Related (Overheard.Tells world.host (Recorded.told world.vm)) := by
    cases outcome with
    | ok a => exact hend
    | error p => exact hend
  have hworld : (run world).2 = v.first := congrArg Prod.snd hrun
  have hheard : heard run' world = v.host.2.events :=
    congrArg (fun answer => answer.2.host.events) hrun'
  rw [hworld, hheard]
  exact ⟨htells.errors, htells.told⟩

theorem reported_interpret (module source : String) (world : World HostState B) :
    Reported world (Backend.interpret module source world).2
      (heard (Backend.interpret module source) world) :=
  .of_agrees fun hw => RunsAlike.interpret module source (Overheard.related_tells _ _) hw

theorem reported_call (method : RawHandle) (world : World HostState B) :
    Reported world (Backend.call method world).2 (heard (Backend.call method) world) :=
  .of_agrees fun hw => RunsAlike.call method (Overheard.related_tells _ _) hw

theorem reported_collectGarbage (world : World HostState B) :
    Reported world (Backend.collectGarbage world).2 (heard Backend.collectGarbage world) :=
  .of_agrees fun hw => RunsAlike.collectGarbage (Overheard.related_tells _ _) hw

theorem told_releaseAll (raws : List RawHandle) (machine : B) :
    Recorded.told (raws.foldl Backend.releaseHandle machine) = Recorded.told machine := by
  induction raws generalizing machine with
  | nil => rfl
  | cons raw raws ih => exact (ih _).trans (RunsAlike.told_releaseHandle machine raw)

/-- What interpreting or calling comes to when the machine runs and returns a result, having
reported some errors. -/
structure Reports (vm : VirtualMachine B) (op : Op B InterpretResult) (result : InterpretResult)
    (events : List StackFrame) : Prop where
  /-- By the time it returns the subscribers have been told, of these errors in this order and
  of no others. -/
  told : Recorded.told (op vm).2.world.vm =
    Recorded.told vm.world.vm ++ deliveries vm.world.host.errorSubscribers events
  /-- The error these reports add up to is raised, if errors are to be raised, and the result is
  the machine's own otherwise. -/
  outcome : (op vm).1 = .ok (verdict vm.raiseOnError (ErrorBridge.idle.reports events) result)
  idle : (op vm).2.world.host.errors = .idle

theorem Reports.of_judged {op : Op B InterpretResult} {world : World HostState B}
    {result : InterpretResult} {events : List StackFrame}
    (hidle : vm.world.host.errors = .idle) (hop : op vm = vm.judged (.ok result, world))
    (hreported : Reported vm.entered.world world events) : Reports vm op result events := by
  have herrors : world.host.errors = ErrorBridge.idle.reports events := by
    rw [hreported.errors, ← hidle]
    rfl
  refine ⟨?_, ?_, by rw [hop]; rfl⟩
  · rw [hop]
    refine hreported.told.trans ?_
    -- Giving back what waits tells nobody anything.
    rw [show Recorded.told vm.entered.world.vm = Recorded.told vm.world.vm from
      told_releaseAll _ _]
    rfl
  · rw [hop, ← herrors]
    rfl

theorem silent_of_kept {vm' : VirtualMachine B} (h : vm' = vm ∨ vm' = vm.entered) :
    HostState.Silent vm.world vm'.world := by
  rcases h with rfl | rfl
  · exact .refl _
  · exact ⟨rfl, rfl, told_releaseAll _ _⟩

/-- What a virtual machine does with the errors its machine reports. -/
structure ReportsErrors (vm : VirtualMachine B) : Prop where
  /-- Nothing is left of earlier errors. -/
  idle : vm.disposed = false → vm.world.host.errors = .idle
  interpreting : ∀ module source result, vm.disposed = false →
    (Backend.interpret module source vm.entered.world).1 = .ok (.ok result) →
    Reports vm (interpret module source) result
      (heard (Backend.interpret module source) vm.entered.world)
  calling : ∀ method raw arity result, vm.callRefusal? method = none →
    vm.world.host.handles.entry? method.id = some ⟨raw, .call arity⟩ →
    (Backend.call raw vm.entered.world).1 = .ok result →
    Reports vm (call method) result (heard (Backend.call raw) vm.entered.world)
  /-- What is refused is silent. -/
  refusedSource : ∀ module source e, (interpret module source vm).1 = .ok (.error e) →
    (∀ error, e ≠ .vm error) → HostState.Silent vm.world (interpret module source vm).2.world
  refusedCall : ∀ method e, (call method vm).1 = .ok (.error e) →
    (∀ error, e ≠ .vm error) → HostState.Silent vm.world (call method vm).2.world

/-- While no error is captured, every run of the machine is judged by its own errors. -/
theorem ReportsErrors.of_idle (hidle : vm.disposed = false → vm.world.host.errors = .idle) :
    vm.ReportsErrors where
  idle := hidle
  interpreting module source result halive hresult := by
    have hreported := reported_interpret module source vm.entered.world
    have hop := interpret_apply module source halive
    rcases hrun : Backend.interpret module source vm.entered.world with ⟨outcome, world⟩
    rw [hrun] at hresult hreported hop
    obtain rfl : outcome = .ok (.ok result) := hresult
    exact .of_judged (hidle halive) hop hreported
  calling method raw arity result hnone hentry hresult := by
    have hreported := reported_call raw vm.entered.world
    rcases call_apply method vm with
      ⟨e, _, he, -⟩ | ⟨raw', arity', -, halive, -, hentry', -, hop⟩
    · rw [hnone] at he
      cases he
    · rw [hentry, Option.some.injEq, HandleEntry.mk.injEq] at hentry'
      obtain ⟨rfl, -⟩ := hentry'
      rcases hrun : Backend.call raw vm.entered.world with ⟨outcome, world⟩
      rw [hrun] at hresult hreported hop
      obtain rfl : outcome = .ok result := hresult
      exact .of_judged (hidle halive) hop hreported
  refusedSource module source e he hrefused := silent_of_kept
    ((spares_interpret module source RunsAlike.refused).of_refused (Prod.ext he rfl) hrefused)
  refusedCall method e he hrefused :=
    silent_of_kept ((spares_call method).of_refused (Prod.ext he rfl) hrefused)

/-- A step within which no run of the machine panics, and no errors are reported by collecting
garbage. -/
def Settles (vm : VirtualMachine B) : Step → Prop
  | .operate (.interpret module source) =>
    ∃ outcome, (operate (.interpret module source) vm).1 = .ok outcome
  | .operate (.call name) => ∃ outcome, (operate (.call name) vm).1 = .ok outcome
  | .operate .collectGarbage => heard Backend.collectGarbage vm.entered.world = []
  | _ => True

/-- Several such steps in order. -/
def Settled (vm : VirtualMachine B) : List Step → Prop
  | [] => True
  | step :: steps => vm.Settles step ∧ (vm.step step).Settled steps

/-- No error is captured, as long as the machine is there. -/
def ErrorFree (vm : VirtualMachine B) : Prop :=
  vm.disposed = false → vm.world.host.errors = .idle

end

open Op

theorem upheld_errorFree : Upheld (fun _ => True) (fun _ _ : B => True) ErrorFree where
  frame := slotFrame_true
  window _ h := h
  host hsame h := fun halive => hsame.errors.trans (h halive)
  bind _ _ hadd h := by
    rw [HostState.addBinding_eq hadd]
    exact h
  entered _ h := h
  pin _ _ h := h
  pinNothing _ h := h
  make _ _ h := h
  makeNothing _ h := h
  release _ _ h := h
  drop _ h := h

variable [RunsAlike B]

/-- Interpreting that returns leaves no error captured. -/
theorem errorFree_interpret {module source : String} (h : vm.ErrorFree)
    {outcome : Except HostError InterpretResult}
    (hreturns : (interpret module source vm).1 = .ok outcome) :
    ErrorFree (interpret module source vm).2 := by
  cases hdisposed : vm.disposed with
  | true =>
    rw [interpret_of_disposed module source hdisposed]
    exact h
  | false =>
    rw [interpret_apply module source hdisposed] at hreturns ⊢
    rcases hrun : Backend.interpret module source vm.entered.world with
      ⟨_ | e | result, world⟩ <;> rw [hrun] at hreturns
    · cases hreturns
    -- A source the machine refuses is never run, so nothing was reported.
    · rw [RunsAlike.refused hrun]
      exact h
    · exact fun _ => rfl

omit [RunsAlike B] in
theorem errorFree_call {method : Handle} (h : vm.ErrorFree)
    {outcome : Except HostError InterpretResult} (hreturns : (call method vm).1 = .ok outcome) :
    ErrorFree (call method vm).2 := by
  rcases call_apply method vm with ⟨e, vm', -, hop, rfl | rfl⟩ | ⟨raw, arity, -, -, -, -, -, hop⟩
  · rw [hop]
    exact h
  · rw [hop]
    exact h
  · rw [hop] at hreturns ⊢
    rcases hrun : Backend.call raw vm.entered.world with ⟨_ | result, world⟩ <;>
      rw [hrun] at hreturns
    · cases hreturns
    · exact fun _ => rfl

/-- Collecting garbage leaves what was captured, if it reports nothing. -/
theorem errorFree_collectGarbage (h : vm.ErrorFree)
    (hquiet : heard Backend.collectGarbage vm.entered.world = []) :
    ErrorFree ((collectGarbage : Op B Unit) vm).2 := by
  cases hdisposed : vm.disposed with
  | true =>
    unfold collectGarbage
    rw [bind_of_error (enter_of_disposed hdisposed)]
    exact h
  | false =>
    have herrors := (reported_collectGarbage vm.entered.world).errors
    rw [hquiet, ErrorBridge.reports_nil] at herrors
    unfold collectGarbage
    rw [bind_of_ok (enter_of_alive hdisposed)]
    exact fun halive => herrors.trans (h halive)

omit [RunsAlike B] in
theorem errorFree_dispose (h : vm.ErrorFree) :
    Op.Leads dispose vm (fun _ => ErrorFree) ErrorFree := by
  have hgone : ∀ world : World HostState B,
      ErrorFree { vm with world := world, disposed := true } := fun _ => by rintro ⟨⟩
  exact leads_dispose_of_void h hgone

theorem errorFree_step {step : Step} (hsettles : vm.Settles step) (h : vm.ErrorFree) :
    (vm.step step).ErrorFree := by
  cases step with
  | drop handle =>
    unfold step
    dsimp only
    split <;> exact h
  | lend keyring => exact h
  | operate operation =>
    show ErrorFree (operate operation vm).2
    by_cases hrun : isRun operation = true
    · cases operation <;> simp only [isRun, Bool.false_eq_true] at hrun
      case interpret module source =>
        obtain ⟨outcome, houtcome⟩ := hsettles
        have hop : operate (.interpret module source) vm =
            ((interpret module source vm).1.map (·.map .result),
              (interpret module source vm).2) :=
          andThen_apply (interpret module source) SessionReply.result vm
        rw [hop] at houtcome ⊢
        obtain ⟨outcome', houtcome', -⟩ := exists_of_map_eq_ok houtcome
        exact errorFree_interpret h houtcome'
      -- The handle is looked up by its name first, and a name that is not known ends the step.
      case call name =>
        obtain ⟨outcome, houtcome⟩ := hsettles
        have hnamed := named_apply name vm
        cases hname : vm.world.host.keyring.handle? name with
        | none =>
          rw [hname] at hnamed
          have hop : operate (.call name) vm = (.ok (.error .handleReleased), vm) :=
            bind_of_error hnamed _
          rw [hop]
          exact h
        | some handle =>
          rw [hname] at hnamed
          have hop : operate (.call name) vm =
              ((call handle vm).1.map (·.map .result), (call handle vm).2) :=
            (bind_of_ok hnamed _).trans (andThen_apply (call handle) SessionReply.result vm)
          rw [hop] at houtcome ⊢
          obtain ⟨outcome', houtcome', -⟩ := exists_of_map_eq_ok houtcome
          exact errorFree_call h houtcome'
      case collectGarbage =>
        have hop : operate .collectGarbage vm =
            ((collectGarbage vm).1.map (·.map fun _ => .nothing), (collectGarbage vm).2) :=
          andThen_apply collectGarbage (fun _ => SessionReply.nothing) vm
        rw [hop]
        exact errorFree_collectGarbage h hsettles
      case dispose =>
        have hdispose : Op.Leads (operate .dispose) vm (fun _ => ErrorFree) ErrorFree :=
          Op.Leads.bind (errorFree_dispose h) fun _ _ h => h
        exact hdispose.ends
    -- Whatever does not run anything leaves the bridge alone.
    · refine (upheld_errorFree.operate (fun _ _ _ => trivial) (fun hrun' => ?_) h).ends
      exact absurd hrun' hrun

theorem errorFree_after {steps : List Step} (hsettled : vm.Settled steps) (h : vm.ErrorFree) :
    (vm.after steps).ErrorFree := by
  induction steps generalizing vm with
  | nil => exact h
  | cons step steps ih => exact ih hsettled.2 (errorFree_step hsettled.1 h)

/-- Whatever is done with a virtual machine whose interpreting and calling returns, and which
reports errors only then: every run of its machine is judged by its own errors, and the
subscribers were told of them before. -/
theorem reportsErrors_after (config : Configuration) (owner : Nat) (machine : B)
    (steps : List Step) (h : (new config owner machine).2.Settled steps) :
    ReportsErrors ((new config owner machine).2.after steps) :=
  .of_idle (errorFree_after h fun _ => rfl)

/-- Two subscribers are told of an error and its stack trace; the next source runs as if there
had been none. -/
theorem reportsErrors_raising :
    let error : StackFrame := ⟨.runtime, none, -1, "boom"⟩
    let frame : StackFrame := ⟨.stackTrace, some "main", 4, "run()"⟩
    let bad : InMemory.Script := [.report error, .report frame, .finish .runtimeError]
    let machine := InMemory.Machine.new [("bad", bad), ("fine", [])] [] false false
    let vm := (new { Configuration.default with raiseOnError := true } 0 machine).2.after
      [.operate (.onError ⟨"x", false⟩), .operate (.onError ⟨"y", false⟩)]
    let vm' := vm.step (.operate (.interpret "main" "bad"))
    ReportsErrors vm' ∧
      (interpret "main" "bad" vm).1 = .ok (.error (.vm ⟨error, [frame]⟩)) ∧
      Recorded.told vm'.world.vm = [("x", error), ("y", error), ("x", frame), ("y", frame)] ∧
      (interpret "main" "fine" vm').1 = .ok (.ok .success) :=
  ⟨reportsErrors_after _ _ _
      [.operate (.onError ⟨"x", false⟩), .operate (.onError ⟨"y", false⟩),
        .operate (.interpret "main" "bad")] ⟨trivial, trivial, ⟨_, rfl⟩, trivial⟩,
    by rfl, by rfl, by rfl⟩

/-- A subscriber that panics keeps those after it from being told.  If the machine lets the
panic through, the error stays captured, and a source that reports nothing fails with it. -/
theorem untold_of_panicking :
    let error : StackFrame := ⟨.compile, none, 1, ""⟩
    let steps : List Step := [.operate (.onError ⟨"x", true⟩), .operate (.onError ⟨"y", false⟩)]
    let contained := (new .default 0
      (Scripted.Machine.new ⟨[("go", [.report 0 none 1 none])], [], false, false, false⟩)).2.after
      steps
    let uncontained := (new { Configuration.default with raiseOnError := true } 0
      (InMemory.Machine.new [("go", [.report error]), ("fine", [])] [] false false)).2.after steps
    let panicked := uncontained.step (.operate (.interpret "main" "go"))
    (interpret "main" "go" contained).1 = .ok (.ok .success) ∧
      heard (Backend.interpret "main" "go") contained.entered.world = [error] ∧
      (interpret "main" "go" contained).2.world.vm.journal.flatMap Entry.told = [("x", error)] ∧
      heard (Backend.interpret "main" "fine") panicked.entered.world = [] ∧
      (interpret "main" "fine" panicked).1 = .ok (.error (.vm ⟨error, []⟩)) :=
  ⟨by rfl, by rfl, by rfl, by rfl, by rfl⟩

end VirtualMachine

end ScriptHost
