/-
The targets of methods and allocators.

A request for a method or a class is answered with a number, which stands for a target from then
on.  What the target is depends on what is bound and on the raw binders at that moment, and
nothing that a host does later takes it back: its tables only grow, until all bindings are
forgotten at once.

* **`HostState.bindMethod_apply`**, **`HostState.bindClass_apply`** — a request is answered with
  the next number, which then stands for the target chosen;
* **`HostState.invoke_apply`**, **`HostState.allocate_apply_of_target`** — a number is served by
  its target and by nothing else;
* **`HostState.keeps_of_members`** — where else a callback gets to;
* **`HostState.hostInvariant_extends`** — so it is for as long as the machine is not disposed of.
-/
import ScriptHost.Proofs.HostInvariant

namespace ScriptHost

open Run

namespace HostState

/-- The target a request for a method is for: the method of the bound host type, and otherwise
what the raw binder answers. -/
def chosenMethod? (h : HostState) (module className : String) (isStatic : Bool)
    (signature : String) : Except Panic (Option MethodTarget) :=
  match h.boundMethod? module className isStatic signature with
  | some target => .ok (some target)
  | none =>
    match h.methodBinder with
    | none => .ok none
    | some binder => (binder module className isStatic signature).map (·.map .raw)

/-- The target a request for a class is for. -/
def chosenClass? (h : HostState) (module className : String) :
    Except Panic (Option ClassTarget) :=
  match h.binding? module className with
  | some b => .ok (some (.bound b))
  | none =>
    match h.classBinder with
    | none => .ok none
    | some binder => (binder module className).map (·.map .raw)

/-- Since `h` targets were handed out at most. -/
structure Extends (h h' : HostState) : Prop where
  methods : h.methods <+: h'.methods
  allocators : h.allocators <+: h'.allocators

namespace Extends

variable {h h' h'' : HostState} {id : Nat}

theorem refl (h : HostState) : h.Extends h :=
  ⟨List.prefix_refl _, List.prefix_refl _⟩

theorem trans (hfirst : h.Extends h') (hlater : h'.Extends h'') : h.Extends h'' :=
  ⟨hfirst.methods.trans hlater.methods, hfirst.allocators.trans hlater.allocators⟩

theorem of_same (hmethods : h'.methods = h.methods) (hallocators : h'.allocators = h.allocators) :
    h.Extends h' :=
  ⟨hmethods ▸ List.prefix_refl _, hallocators ▸ List.prefix_refl _⟩

theorem addMethod (h : HostState) (target : MethodTarget) : h.Extends (h.addMethod target).2 :=
  ⟨List.prefix_append _ _, List.prefix_refl _⟩

theorem addAllocator (h : HostState) (target : ClassTarget) :
    h.Extends (h.addAllocator target).2 :=
  ⟨List.prefix_refl _, List.prefix_append _ _⟩

/-- A number stands for its target for good. -/
theorem method (hx : h.Extends h') {target : MethodTarget} (hid : h.methods[id]? = some target) :
    h'.methods[id]? = some target := by
  obtain ⟨hlt, rfl⟩ := List.getElem?_eq_some_iff.mp hid
  exact List.prefix_iff_getElem?.mp hx.methods id hlt

theorem allocator (hx : h.Extends h') {target : ClassTarget}
    (hid : h.allocators[id]? = some target) : h'.allocators[id]? = some target := by
  obtain ⟨hlt, rfl⟩ := List.getElem?_eq_some_iff.mp hid
  exact List.prefix_iff_getElem?.mp hx.allocators id hlt

end Extends

theorem addMethod_methods (h : HostState) (target : MethodTarget) :
    (h.addMethod target).2.methods[h.methods.length]? = some target := by
  simp [HostState.addMethod]

theorem addAllocator_allocators (h : HostState) (target : ClassTarget) :
    (h.addAllocator target).2.allocators[h.allocators.length]? = some target := by
  simp [HostState.addAllocator]

end HostState

variable {W : Type} [Slots W] [Chronicle W]

/-- What the machine puts on record when a class gets this target. -/
def ClassTarget.noted (target : ClassTarget) (vm : W) : W :=
  match target with
  | .bound _ => vm
  | .raw c =>
    let vm := Chronicle.note vm (.classMethods false)
    if c.finalizer.isSome then Chronicle.note vm (.classMethods true) else vm

/-- A call that is served by a target. -/
def MethodTarget.run : MethodTarget → Run (World HostState W) Unit
  | .bound b index => modify fun w =>
    let (vm, objects) := b.invoke index w.vm w.host.foreign w.host.objects
    { w with vm := vm, host := { w.host with objects := objects } }
  | .raw program => discard (HostState.runMember false program)

/-- An allocation that is served by a target. -/
def ClassTarget.run : ClassTarget → Run (World HostState W) Unit
  | .bound b => do
    let object ← modifyGet fun w => ((b.allocate w.vm).1, { w with vm := (b.allocate w.vm).2 })
    match object with
    | some object => HostState.placeForeign object none
    | none => pure ()
  | .raw c => do
    let aborted ← HostState.runMember true c.program
    match c.object with
    | some object => if aborted then pure () else HostState.placeForeign object c.finalizer
    | none => pure ()

namespace HostState

variable {w : World HostState W} {id : Nat}

omit [Slots W] [Chronicle W] in
/-- A request for a method is answered with the next number, if there is a target for it. -/
theorem bindMethod_apply (module className : String) (isStatic : Bool) (signature : String)
    (w : World HostState W) :
    bindMethod module className isStatic signature w =
      match w.host.chosenMethod? module className isStatic signature with
      | .ok (some target) =>
        (.ok (some w.host.methods.length), { w with host := (w.host.addMethod target).2 })
      | .ok none => (.ok none, w)
      | .error p => (.error p, w) := by
  unfold bindMethod chosenMethod?
  rw [get_bind_apply]
  -- A binding by class comes before the embedder's binder.
  cases w.host.boundMethod? module className isStatic signature with
  | some target => rfl
  | none =>
    cases w.host.methodBinder with
    | none => rfl
    | some binder =>
      dsimp only
      rcases binder module className isStatic signature with p | _ | program <;> rfl

omit [Slots W] in
theorem bindClass_apply (module className : String) (w : World HostState W) :
    bindClass module className w =
      match w.host.chosenClass? module className with
      | .ok (some target) =>
        (.ok (some w.host.allocators.length),
          { host := (w.host.addAllocator target).2, vm := target.noted w.vm })
      | .ok none => (.ok none, w)
      | .error p => (.error p, w) := by
  unfold bindClass chosenClass?
  rw [get_bind_apply]
  dsimp only
  cases w.host.binding? module className with
  | some b => rfl
  | none =>
    cases w.host.classBinder with
    | none => rfl
    | some binder =>
      dsimp only
      rcases binder module className with p | _ | c
      · rfl
      · rfl
      · dsimp only [Except.map, Option.map, ClassTarget.noted]
        cases c.finalizer.isSome <;> rfl

theorem invoke_apply {target : MethodTarget} (h : w.host.methods[id]? = some target) :
    invoke id w = target.run w := by
  unfold invoke
  rw [get_bind_apply, h]
  cases target <;> rfl

theorem allocate_apply_of_target {target : ClassTarget}
    (h : w.host.allocators[id]? = some target) : allocate id w = target.run w := by
  unfold allocate
  rw [get_bind_apply, h]
  cases target <;> rfl

/-! ### What callbacks leave alone -/

/-- The same targets, handles and keyring. -/
structure SameReach (h h' : HostState) : Prop where
  methods : h'.methods = h.methods
  allocators : h'.allocators = h.allocators
  handles : h'.handles = h.handles
  keyring : h'.keyring = h.keyring

section

variable {P : HostState → Prop}

omit [Slots W] [Chronicle W] in
theorem leads_bindMethod_of_addMethod
    (hmethod : ∀ {h : HostState} target, P h → P (h.addMethod target).2)
    (module className : String) (isStatic : Bool) (signature : String) (hw : P w.host) :
    Leads (bindMethod module className isStatic signature) w (fun _ v => P v.host)
      fun v => P v.host := by
  unfold Leads
  rw [bindMethod_apply]
  rcases w.host.chosenMethod? module className isStatic signature with p | _ | target
  · exact hw
  · exact hw
  · exact hmethod target hw

omit [Slots W] in
theorem leads_bindClass_of_addAllocator
    (hallocator : ∀ {h : HostState} target, P h → P (h.addAllocator target).2)
    (module className : String) (hw : P w.host) :
    Leads (bindClass module className) w (fun _ v => P v.host) fun v => P v.host := by
  unfold Leads
  rw [bindClass_apply]
  rcases w.host.chosenClass? module className with p | _ | target
  · exact hw
  · exact hw
  · exact hallocator target hw

variable (hsame : ∀ {h h' : HostState}, h.SameReach h' → P h → P h')
  (hmember : ∀ {w : World HostState W} allocating program, P w.host →
    Leads (runMember allocating program) w (fun _ v => P v.host) fun v => P v.host)

include hsame

omit [Chronicle W] in
theorem leads_placeForeign_of_same (object : HostObject) (finalizer : Option Finalizer)
    (hw : P w.host) :
    Leads (placeForeign object finalizer) w (fun _ v => P v.host) fun v => P v.host := by
  refine Leads.bind (m := fun _ v => P v.host) (Leads.modifyGet ?_) fun token v hv => ?_
  · exact hsame (h := w.host) ⟨rfl, rfl, rfl, rfl⟩ hw
  · exact Leads.onVm? (fun _ _ _ => hv) fun _ _ => hv

omit [Slots W] in
theorem leads_write_of_same (text : String) (hw : P w.host) :
    Leads (write text) w (fun _ v => P v.host) fun v => P v.host := by
  unfold write
  refine Leads.bind (m := fun _ v => P v.host) (Leads.modify ?_) fun _ v hv => ?_
  · dsimp only
    split
    · exact hsame (h := w.host) ⟨rfl, rfl, rfl, rfl⟩ hw
    · exact hw
  · exact Leads.get_bind (leads_tellAll _ _ (fun _ _ h => h) hv)

include hmember

/-- A bound method works on objects only. -/
theorem leads_invoke_of_members (id : Nat) (hw : P w.host) :
    Leads (invoke id) w (fun _ v => P v.host) fun v => P v.host := by
  unfold invoke
  refine Leads.get_bind ?_
  rcases w.host.methods[id]? with _ | ⟨b, index⟩ | program
  · exact hw
  · exact Leads.set (hsame (h := w.host) ⟨rfl, rfl, rfl, rfl⟩ hw)
  · exact Leads.map (hmember false program hw)

/-- Whatever makes an object, what is placed is registered and nothing else. -/
theorem leads_allocate_of_members (id : Nat) (hw : P w.host) :
    Leads (allocate id) w (fun _ v => P v.host) fun v => P v.host := by
  have hplace : ∀ {w : World HostState W} object finalizer, P w.host →
      Leads (placeForeign object finalizer) w (fun _ v => P v.host) fun v => P v.host :=
    fun object finalizer hw => leads_placeForeign_of_same hsame object finalizer hw
  unfold allocate
  refine Leads.get_bind ?_
  rcases w.host.allocators[id]? with _ | b | c
  · exact hw
  · dsimp only
    generalize b.allocate w.vm = made
    obtain ⟨object, vm⟩ := made
    refine Leads.bind (m := fun _ v => P v.host) (Leads.set hw) fun _ v hv => ?_
    cases object with
    | none => exact hv
    | some object => exact hplace object none hv
  · refine Leads.bind (m := fun _ v => P v.host) (hmember true c.program hw) fun aborted v hv => ?_
    cases c.object with
    | none => exact hv
    | some object =>
      cases aborted with
      -- A member that aborted has made nothing.
      | true => exact hv
      | false => exact hplace object c.finalizer hv

end

/-- Only requests hand out targets, and only hand-written members come by handles and keyring.
What neither breaks no callback breaks, if nothing else matters to it. -/
theorem keeps_of_members {P : HostState → Prop}
    (hsame : ∀ {h h' : HostState}, h.SameReach h' → P h → P h')
    (hmethod : ∀ {h : HostState} target, P h → P (h.addMethod target).2)
    (hallocator : ∀ {h : HostState} target, P h → P (h.addAllocator target).2)
    (hmember : ∀ {W : Type} [Slots W] [Chronicle W] {w : World HostState W} allocating program,
      P w.host → Leads (runActions program) (callState w allocating)
        (fun _ s => P (afterCall w s).host) fun s => P (afterCall w s).host) :
    Host.Keeps P := by
  have hrun : ∀ {W : Type} [Slots W] [Chronicle W] {w : World HostState W} allocating program,
      P w.host →
        Leads (runMember allocating program) w (fun _ v => P v.host) fun v => P v.host :=
    fun allocating program hw => Unbroken.leads_runMember (hmember allocating program hw)
  constructor
  case bindMethod =>
    intro W _ _ w module className isStatic signature hw
    exact leads_bindMethod_of_addMethod hmethod module className isStatic signature hw
  case bindClass =>
    intro W _ _ w module className hw
    exact leads_bindClass_of_addAllocator hallocator module className hw
  case invoke =>
    intro W _ _ w id hw
    exact leads_invoke_of_members hsame hrun id hw
  case allocate =>
    intro W _ _ w id hw
    exact leads_allocate_of_members hsame hrun id hw
  case finalize =>
    intro W _ _ w token hw
    exact leads_finalize token (fun _ _ _ _ h => h) (hsame (h := w.host) ⟨rfl, rfl, rfl, rfl⟩ hw)
  case write =>
    intro W _ _ w text hw
    exact leads_write_of_same hsame text hw
  case report =>
    intro W _ _ w event hw
    exact leads_report event (fun _ _ h => h) (hsame (h := w.host) ⟨rfl, rfl, rfl, rfl⟩ hw)

/-- Every callback extends the tables at most. -/
theorem keeps_extends (h₀ : HostState) : Host.Keeps fun h => h₀.Extends h := by
  refine keeps_of_members (fun hsame h => h.trans (.of_same hsame.methods hsame.allocators))
    (fun target h => h.trans (.addMethod _ target))
    (fun target h => h.trans (.addAllocator _ target)) fun {W} _ _ w allocating program hw => ?_
  -- A member reaches neither table.
  have hreached : ∀ s, h₀.Extends (afterCall w s).host := fun _ => hw.trans (.of_same rfl rfl)
  exact Leads.of_forall (fun _ s => hreached s) hreached

/-- Until a machine is disposed of, targets are handed out at most. -/
theorem hostInvariant_extends (h₀ : HostState) : HostInvariant fun h => h₀.Extends h where
  callbacks := keeps_extends h₀
  change hsame h := h.trans (.of_same hsame.methods hsame.allocators)
  bind hadd h := h.trans (by rw [addBinding_eq hadd]; exact .of_same rfl rfl)

end HostState

end ScriptHost
