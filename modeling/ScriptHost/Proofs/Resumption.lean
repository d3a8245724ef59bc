/-
What host code leaves behind.

`HostState.Resumes h h'` says that a host in the state `h'` takes the next call as it would have in
the state `h`: the same objects are in use, no target was taken back, handles were dropped at
most, and the table of objects is one that entries were put into and taken out of.  Every callback
of a host with functions that may panic leads to such a state, whether it panics or not, and
leaves a window safe that was safe.

* **`PanickingHost.Carries.run`** — every callback does;
* **`EngineMove.outcome`** — a move of an engine comes to one callback at most;
* **`PanickingHost.Carries.performAll`** — so nothing an engine does gets a host stuck.
-/
import ScriptHost.Proofs.Allocation
import ScriptHost.Proofs.EntryTables
import ScriptHost.Proofs.PanickingFunctions

namespace ScriptHost

open Run

namespace HostState

variable {h h' h'' : HostState}

/-- A host in the state `h'` takes calls as it would have in the state `h`. -/
structure Resumes (h h' : HostState) : Prop where
  use : h.objects.SameUse h'.objects
  targets : h.Extends h'
  handles : h.handles.Queued h'.handles
  used : h.foreign.Used → h'.foreign.Used

namespace Resumes

theorem refl (h : HostState) : h.Resumes h :=
  ⟨.refl _, .refl _, .refl _, id⟩

theorem trans (hfirst : h.Resumes h') (hlater : h'.Resumes h'') : h.Resumes h'' where
  use := hfirst.use.trans hlater.use
  targets := hfirst.targets.trans hlater.targets
  handles := hfirst.handles.trans hlater.handles
  used hused := hlater.used (hfirst.used hused)

theorem addMethod (h : HostState) (target : MethodTarget) : h.Resumes (h.addMethod target).2 :=
  ⟨.refl _, .addMethod h target, .refl _, id⟩

theorem addAllocator (h : HostState) (target : ClassTarget) :
    h.Resumes (h.addAllocator target).2 :=
  ⟨.refl _, .addAllocator h target, .refl _, id⟩

theorem of_objects {objects : ObjectStore} (h : HostState) (huse : h.objects.SameUse objects) :
    h.Resumes { h with objects := objects } :=
  ⟨huse, .of_same rfl rfl, .refl _, id⟩

theorem registered (h : HostState) (object : HostObject) (finalizer : Option Finalizer) :
    h.Resumes (h.registered object finalizer).2 :=
  ⟨ObjectStore.sameUse_place _ _, .of_same rfl rfl, .refl _, fun hused => hused.register _ _⟩

theorem finalize (h : HostState) (token : Token) :
    h.Resumes { h with foreign := (h.foreign.finalize token).2 } :=
  ⟨.refl _, .of_same rfl rfl, .refl _, fun hused => hused.finalize token⟩

variable {W : Type} [Slots W]

/-- One action of a hand-written member. -/
theorem afterCall {w : World HostState W} {s s' : CallState Finalizer W} {action : CallAction}
    {reply : CallReply} (hrun : action.run s = .ok (reply, s')) :
    (HostState.afterCall w s).host.Resumes (HostState.afterCall w s').host := by
  have heffect := CallAction.effect_run slotFrame_true hrun
  refine ⟨CallAction.sameUse_run hrun, .of_same rfl rfl, heffect.handles, fun hused => ?_⟩
  show s'.context.foreign.Used
  rcases heffect.foreign with ⟨-, hsame⟩ | ⟨token, _, -, -, hreleased⟩
  · rw [hsame]
    exact hused
  · rw [hreleased]
    exact ForeignRegistry.Used.release hused token

end Resumes

end HostState

/-- A property of a window that survives what callbacks do to one. -/
structure WindowSafe {W : Type} [Slots W] [Chronicle W] (P : W → Prop) : Prop where
  frame : SlotFrame fun w w' => P w → P w'
  note {w : W} (entry : Entry) : P w → P (Chronicle.note w entry)
  make {w w' : W} {token : Token} : Slots.setNewForeign w 0 0 token = .ok w' → P w → P w'

namespace HostState

variable {W : Type} [Slots W] [Chronicle W] {P : W → Prop} {h₀ : HostState}
  {w : World HostState W}

/-- Since `h₀` the host takes calls as it would have, and its window is safe. -/
structure Carries (P : W → Prop) (h₀ : HostState) (w : World HostState W) : Prop where
  host : h₀.Resumes w.host
  window : P w.vm

namespace Carries

section

variable (hP : WindowSafe P) (hw : Carries P h₀ w)

include hP hw

theorem runMember (allocating : Bool) (program : List CallAction) :
    Leads (HostState.runMember allocating program) w (fun _ => Carries P h₀) (Carries P h₀) := by
  have hact : ∀ (s s' : CallState Finalizer W) (action : CallAction) (reply : CallReply),
      Carries P h₀ (afterCall w s) → action.run s = .ok (reply, s') →
      Carries P h₀ (afterCall w (s'.noted reply)) := by
    intro s s' action reply hs hrun
    have hwindow := (CallAction.effect_run hP.frame hrun).window
    have hhost : h₀.Resumes (afterCall w s').host := hs.host.trans (.afterCall hrun)
    exact ⟨hhost, hP.note _ (hwindow hs.window)⟩
  exact Unbroken.leads_runMember
    (Leads.runActions_of_run (P := fun s => Carries P h₀ (afterCall w s)) hact program _ hw)

theorem placeForeign (object : HostObject) (finalizer : Option Finalizer) :
    Leads (HostState.placeForeign object finalizer) w (fun _ => Carries P h₀)
      (Carries P h₀) := by
  have hregistered : h₀.Resumes (w.host.registered object finalizer).2 :=
    hw.host.trans (.registered _ object finalizer)
  refine Leads.bind (m := fun _ => Carries P h₀) ⟨hregistered, hw.window⟩ fun token v hv => ?_
  refine Leads.onVm? (fun _ vm hvm => ?_) fun _ _ => hv
  cases hnew : Slots.setNewForeign v.vm 0 0 token with
  | error p =>
    rw [hnew] at hvm
    cases hvm
  | ok vm' =>
    rw [hnew] at hvm
    cases hvm
    exact ⟨hv.host, hP.make hnew hv.window⟩

/-- A call that is not one of a bound method. -/
theorem invoke {id : Nat} (hraw : ∀ b index, w.host.methods[id]? ≠ some (.bound b index)) :
    Leads (HostState.invoke id) w (fun _ => Carries P h₀) (Carries P h₀) := by
  refine Leads.get_bind ?_
  rcases hid : w.host.methods[id]? with _ | ⟨b, index⟩ | program
  · exact hw
  · exact absurd hid (hraw b index)
  · exact Leads.map (hw.runMember hP false program)

/-- An allocation that is not one of a bound class. -/
theorem allocate {id : Nat} (hraw : ∀ b, w.host.allocators[id]? ≠ some (.bound b)) :
    Leads (HostState.allocate id) w (fun _ => Carries P h₀) (Carries P h₀) := by
  refine Leads.get_bind ?_
  rcases hid : w.host.allocators[id]? with _ | b | methods
  · exact hw
  · exact absurd hid (hraw b)
  · refine Leads.bind (hw.runMember hP true methods.program) fun aborted v hv => ?_
    cases methods.object with
    | none => exact hv
    | some object =>
      cases aborted with
      | true => exact hv
      | false => exact hv.placeForeign hP object methods.finalizer

end

/-! The other callbacks leave notes at most. -/

variable (hnote : ∀ {c : W} (entry : Entry), P c → P (Chronicle.note c entry))
  (hw : Carries P h₀ w)

include hw

omit [Slots W] [Chronicle W] in
theorem bindMethod (module className : String) (isStatic : Bool) (signature : String) :
    Leads (HostState.bindMethod module className isStatic signature) w (fun _ => Carries P h₀)
      (Carries P h₀) := by
  unfold Leads
  rw [bindMethod_apply]
  rcases w.host.chosenMethod? module className isStatic signature with p | _ | target
  · exact hw
  · exact hw
  · exact ⟨hw.host.trans (.addMethod _ target), hw.window⟩

omit [Slots W]

include hnote

theorem bindClass (module className : String) :
    Leads (HostState.bindClass module className) w (fun _ => Carries P h₀) (Carries P h₀) := by
  unfold Leads
  rw [bindClass_apply]
  rcases w.host.chosenClass? module className with p | _ | target
  · exact hw
  · exact hw
  · refine ⟨hw.host.trans (.addAllocator _ target), ?_⟩
    cases target with
    | bound b => exact hw.window
    | raw c =>
      have hnoted := hnote (.classMethods false) hw.window
      -- A class with a finalizer is noted once more.
      show P (if c.finalizer.isSome then _ else _)
      split
      · exact hnote (.classMethods true) hnoted
      · exact hnoted

theorem finalize (token : Token) :
    Leads (HostState.finalize token) w (fun _ => Carries P h₀) (Carries P h₀) :=
  leads_finalize token (fun _ _ _ _ hv => ⟨hv.host, hnote _ hv.window⟩)
    ⟨hw.host.trans (.finalize _ token), hw.window⟩

theorem write (text : String) :
    Leads (HostState.write text) w (fun _ => Carries P h₀) (Carries P h₀) := by
  refine Leads.bind (m := fun _ => Carries P h₀) (Leads.modify ⟨?_, hw.window⟩) fun _ v hv =>
    Leads.get_bind (leads_tellAll _ _ (fun s _ hv => ⟨hv.host, hnote _ hv.window⟩) hv)
  dsimp only
  split
  · exact hw.host.trans ⟨.refl _, .of_same rfl rfl, .refl _, id⟩
  · exact hw.host

theorem report (event : StackFrame) :
    Leads (HostState.report event) w (fun _ => Carries P h₀) (Carries P h₀) :=
  leads_report event (fun _ _ hv => ⟨hv.host, hnote _ hv.window⟩)
    ⟨hw.host.trans ⟨.refl _, .of_same rfl rfl, .refl _, id⟩, hw.window⟩

end Carries

end HostState

/-! ### Calls of functions that may panic -/

/-- However a method ends, the objects in use are those of before. -/
theorem PanickingFunctions.sameUse_call (functions : PanickingFunctions) (className : String)
    (bound : BoundMethod) (receiver : Option ObjectId) (args : Args) (objects : ObjectStore) :
    objects.SameUse (functions.call className bound receiver args objects).2 := by
  cases receiver with
  | none => exact .refl objects
  | some id => exact ObjectStore.sameUse_hold className id _ objects

namespace ForeignBinding

variable {W F : Type} [Slots W]
  {call : BoundMethod → Option ObjectId → Args → Run ObjectStore ForeignReturn}

theorem sameUse_invokeBy
    (hcall : ∀ bound receiver args (objects : ObjectStore),
      objects.SameUse (call bound receiver args objects).2)
    (b : ForeignBinding) (index : Nat) (w : W) (registry : ForeignRegistry F)
    (objects s : ObjectStore) : s.SameUse (b.invokeBy call index w registry objects s).2 := by
  unfold invokeBy
  cases b.methods[index]? with
  | none => exact .refl s
  | some bound =>
    dsimp only
    cases b.receiverFor? bound w registry objects with
    | none => exact .refl s
    | some receiver =>
      dsimp only
      cases coerceAll w 1 bound.params with
      | error found => exact .refl s
      | ok args =>
        dsimp only
        rw [map_apply]
        exact hcall bound receiver args s

/-- A call that answers does to the window what its answer does, or aborts. -/
theorem leads_invokeBy {P : W → Prop} (hframe : SlotFrame fun w w' => P w → P w')
    (call : BoundMethod → Option ObjectId → Args → Run ObjectStore ForeignReturn)
    (b : ForeignBinding) (index : Nat) {w : W} (hw : P w) (registry : ForeignRegistry F)
    (objects s : ObjectStore) :
    Leads (b.invokeBy call index w registry objects) s (fun w' _ => P w') fun _ => True := by
  unfold invokeBy
  cases b.methods[index]? with
  | none => exact hw
  | some bound =>
    dsimp only
    cases b.receiverFor? bound w registry objects with
    -- Where there is no receiver or an argument does not fit, the call aborts and nothing is
    -- called.
    | none => exact hframe.abortWith w _ hw
    | some receiver =>
      dsimp only
      cases coerceAll w 1 bound.params with
      | error found => exact hframe.abortWith w _ hw
      | ok args =>
        exact Leads.map (Leads.of_forall (fun r _ => hframe.answer w r hw) fun _ => trivial)

theorem allocateBy_safe {P : W → Prop} (hframe : SlotFrame fun w w' => P w → P w')
    {construct : ObjectConstructor → Args → Except Panic (Except ForeignError HostObject)}
    {b : ForeignBinding} {w w' : W} {object : Option HostObject} (hw : P w)
    (hmade : b.allocateBy construct w = .ok (object, w')) : P w' := by
  unfold allocateBy at hmade
  rcases hchosen : b.chooseConstructor w with _ | ⟨k, args⟩ <;> rw [hchosen] at hmade
  · cases hmade
    exact hw
  · dsimp only at hmade
    rcases hanswer : construct k args with p | e | object <;> rw [hanswer] at hmade <;> cases hmade
    · exact hframe.abortWith w e.message hw
    · exact hw

end ForeignBinding

namespace PanickingHost

variable {W α : Type} {P : W → Prop} {h₀ : PanickingHost} {w : World PanickingHost W}

/-- The functions are those of before, and so are the calls that are taken. -/
structure Carries (P : W → Prop) (h₀ : PanickingHost) (w : World PanickingHost W) : Prop where
  functions : w.host.functions = h₀.functions
  state : HostState.Carries P h₀.state ⟨w.host.state, w.vm⟩

namespace Carries

theorem onState {run : Run (World HostState W) α} (hw : Carries P h₀ w)
    (h : Leads run ⟨w.host.state, w.vm⟩ (fun _ => HostState.Carries P h₀.state)
      (HostState.Carries P h₀.state)) :
    Leads (PanickingHost.onState run) w (fun _ => Carries P h₀) (Carries P h₀) := by
  refine Leads.of_outcomes (fun a v hrun => ?_) fun p v hrun => ?_
  all_goals
    obtain rfl : _ = v := congrArg Prod.snd hrun
    exact ⟨hw.functions, h.ends⟩

variable [Slots W] [Chronicle W]

theorem invoke (hP : WindowSafe P) (hw : Carries P h₀ w) (id : Nat) :
    Leads (PanickingHost.invoke id) w (fun _ => Carries P h₀) (Carries P h₀) := by
  unfold Leads PanickingHost.invoke
  rcases hid : w.host.state.methods[id]? with _ | ⟨b, index⟩ | program
  · exact hw.onState (hw.state.invoke hP fun _ _ => by rw [hid]; nofun)
  -- Only bound members reach the functions, which may panic with objects changed but never held.
  · have huse := ForeignBinding.sameUse_invokeBy
      (w.host.functions.sameUse_call b.className) b index w.vm w.host.state.foreign
      w.host.state.objects w.host.state.objects
    have hwindow := ForeignBinding.leads_invokeBy hP.frame (w.host.functions.call b.className) b
      index hw.state.window w.host.state.foreign w.host.state.objects w.host.state.objects
    have hresumes := hw.state.host.trans (.of_objects _ huse)
    dsimp only
    rcases hrun : b.invokeBy (w.host.functions.call b.className) index w.vm w.host.state.foreign
      w.host.state.objects w.host.state.objects with ⟨p | vm, objects⟩ <;> rw [hrun] at hresumes
    · exact ⟨hw.functions, hresumes, hw.state.window⟩
    · exact ⟨hw.functions, hresumes, hwindow.of_ok hrun⟩
  · exact hw.onState (hw.state.invoke hP fun _ _ => by rw [hid]; nofun)

theorem allocate (hP : WindowSafe P) (hw : Carries P h₀ w) (id : Nat) :
    Leads (PanickingHost.allocate id) w (fun _ => Carries P h₀) (Carries P h₀) := by
  unfold Leads PanickingHost.allocate
  rcases hid : w.host.state.allocators[id]? with _ | b | methods
  · exact hw.onState (hw.state.allocate hP fun _ => by rw [hid]; nofun)
  · dsimp only
    rcases hmade : b.allocateBy w.host.functions.construct w.vm with p | ⟨_ | object, vm⟩
    · exact hw
    · have hvm := ForeignBinding.allocateBy_safe hP.frame hw.state.window hmade
      exact ⟨hw.functions, hw.state.host, hvm⟩
    · have hvm := ForeignBinding.allocateBy_safe hP.frame hw.state.window hmade
      have hmoved : Carries P h₀ { w with vm := vm } := ⟨hw.functions, hw.state.host, hvm⟩
      exact hmoved.onState (hmoved.state.placeForeign hP object none)
  · exact hw.onState (hw.state.allocate hP fun _ => by rw [hid]; nofun)

end Carries

end PanickingHost

/-! ### Moves of an engine -/

/-- A callback of a host with what it is given. -/
inductive HostRequest : Type → Type
  | bindMethod (module className : String) (isStatic : Bool) (signature : String) :
    HostRequest (Option Nat)
  | bindClass (module className : String) : HostRequest (Option Nat)
  | invoke (id : Nat) : HostRequest Unit
  | allocate (id : Nat) : HostRequest Unit
  | finalize (token : Token) : HostRequest Unit
  | write (text : String) : HostRequest Unit
  | report (event : StackFrame) : HostRequest Unit

namespace HostRequest

variable {H W : Type} [Host H] [Slots W] [Chronicle W]

def run {α : Type} : HostRequest α → Run (World H W) α
  | .bindMethod module className isStatic signature =>
    Host.bindMethod module className isStatic signature
  | .bindClass module className => Host.bindClass module className
  | .invoke id => Host.invoke id
  | .allocate id => Host.allocate id
  | .finalize token => Host.finalize token
  | .write text => Host.write text
  | .report event => Host.report event

end HostRequest

namespace EngineMove

variable {H C : Type} [Host H] [Slots C] [Chronicle C]

/-- What a move can come to: nothing, one callback, one callback that panics and aborts the fiber,
or what the engine does by itself. -/
inductive Outcome (w : World H C) (move : EngineMove C) : World H C → Prop
  | nothing : Outcome w move w
  | called {α : Type} (call : HostRequest α) : Outcome w move (call.run w).2
  | aborted {call : HostRequest Unit} {p : Panic} {v : World H C}
    (hrun : call.run w = (.error p, v)) :
    Outcome w move { v with vm := Slots.abortWith v.vm p.report }
  | worked {change : C → C} (hmove : move = .work change) :
    Outcome w move { w with vm := change w.vm }

theorem outcome_dispatch (w : World H C) (move : EngineMove C) (call : HostRequest Unit) :
    Outcome w move (Callback.dispatch call.run w).2 := by
  rw [Callback.dispatch_apply]
  rcases hrun : call.run w with ⟨p | _, v⟩
  · exact .aborted hrun
  · have hcalled : Outcome w move (call.run w).2 := .called call
    rw [hrun] at hcalled
    exact hcalled

theorem outcome_caught {α : Type} (w : World H C) (move : EngineMove C) (call : HostRequest α) :
    Outcome w move (Callback.caught call.run w).2 := by
  rw [Callback.caught_apply]
  exact .called call

theorem outcome (w : World H C) (move : EngineMove C) : Outcome w move (move.perform w) := by
  cases move with
  | method entry => exact outcome_dispatch w _ (.invoke entry)
  | allocator entry => exact outcome_dispatch w _ (.allocate entry)
  | finalizer memory =>
    show Outcome w _ (Callback.finalizer memory w).2
    unfold Callback.finalizer
    cases ForeignCell.read? memory with
    | none => exact .nothing
    | some cell => exact outcome_caught w _ (.finalize cell.token)
  | bindMethod module className isStatic signature =>
    show Outcome w _ (Callback.bindMethod module className isStatic signature w).2
    -- Where a text is missing the host is not asked.
    by_cases hread : module.read? = none ∨ className.read? = none ∨ signature.read? = none
    · rw [Callback.bindMethod_of_missing hread]
      exact .nothing
    · simp only [not_or, ← ne_eq, Option.ne_none_iff_exists'] at hread
      obtain ⟨⟨m, hmodule⟩, ⟨c, hclass⟩, s, hsignature⟩ := hread
      rw [Callback.bindMethod_apply hmodule hclass hsignature]
      exact outcome_caught w _ (.bindMethod m c isStatic s)
  | bindClass module className =>
    show Outcome w _ (Callback.bindClass module className w).2
    by_cases hread : module.read? = none ∨ className.read? = none
    · rw [Callback.bindClass_of_missing hread]
      exact .nothing
    · simp only [not_or, ← ne_eq, Option.ne_none_iff_exists'] at hread
      obtain ⟨⟨m, hmodule⟩, c, hclass⟩ := hread
      rw [Callback.bindClass_apply hmodule hclass]
      exact outcome_caught w _ (.bindClass m c)
  | write text =>
    show Outcome w _ (Callback.write text w).2
    unfold Callback.write
    cases text.read? with
    | none => exact .nothing
    | some text => exact outcome_caught w _ (.write text)
  | report kind module line message =>
    show Outcome w _ (Callback.report kind module line message w).2
    unfold Callback.report
    cases ErrorKind.ofCode? kind.toInt with
    | none => exact .nothing
    | some kind =>
      exact outcome_caught w _
        (.report ⟨kind, module.read?, line.toInt, message.read?.getD ""⟩)
  | work change => exact .worked rfl

end EngineMove

namespace PanickingHost

variable {W : Type} [Slots W] [Chronicle W] {P : W → Prop} {h₀ : PanickingHost}
  {w : World PanickingHost W}

/-- Whatever host code does, it may be called again. -/
theorem Carries.run (hP : WindowSafe P) (hw : Carries P h₀ w) {α : Type} (call : HostRequest α) :
    Leads call.run w (fun _ => Carries P h₀) (Carries P h₀) := by
  cases call with
  | bindMethod module className isStatic signature =>
    exact hw.onState (hw.state.bindMethod module className isStatic signature)
  | bindClass module className => exact hw.onState (hw.state.bindClass hP.note module className)
  | invoke id => exact hw.invoke hP id
  | allocate id => exact hw.allocate hP id
  | finalize token => exact hw.onState (hw.state.finalize hP.note token)
  | write text => exact hw.onState (hw.state.write hP.note text)
  | report event => exact hw.onState (hw.state.report hP.note event)

theorem Carries.perform (hP : WindowSafe P) (hw : Carries P h₀ w) {move : EngineMove W}
    (hwork : ∀ change, move = .work change → ∀ c, P c → P (change c)) :
    Carries P h₀ (move.perform w) := by
  have houtcome := move.outcome w
  generalize move.perform w = v at houtcome ⊢
  cases houtcome with
  | nothing => exact hw
  | called call => exact (hw.run hP call).ends
  | aborted hrun =>
    have hpanicked := (hw.run hP _).of_error hrun
    exact ⟨hpanicked.functions, hpanicked.state.host,
      hP.frame.abortWith _ _ hpanicked.state.window⟩
  | worked hmove => exact ⟨hw.functions, hw.state.host, hwork _ hmove _ hw.state.window⟩

theorem Carries.performAll (hP : WindowSafe P) {moves : List (EngineMove W)}
    (hwork : ∀ change, .work change ∈ moves → ∀ c, P c → P (change c)) (hw : Carries P h₀ w) :
    Carries P h₀ (EngineMove.performAll w moves) := by
  induction moves generalizing w with
  | nil => exact hw
  | cons move moves ih =>
    refine ih (fun change hmem => hwork change (List.mem_cons_of_mem _ hmem)) ?_
    refine hw.perform hP fun change hmove => hwork change ?_
    exact hmove ▸ List.mem_cons_self

end PanickingHost

end ScriptHost
