/-
Classes that scripts declare.

Declaring a class asks the host for an allocator and then for each of its methods.  The numbers
answered stay with the class, and a construction or a call on it goes by them ever after: to what
was chosen when it was declared, whatever was bound and declared since, also under the same name.

* **`InMemory.declared_of_declareClass`** — the numbers of a declared class, and their targets;
* **`InMemory.Declared.runsAs`** — whom a call and a construction reach, in every state in which
  the targets are still there;
* **`VirtualMachine.declares`** — which are all later ones: the rest of the run, and every run
  after it until the machine is disposed of.
-/
import ScriptHost.Proofs.CallSafety
import ScriptHost.Proofs.DispatchTargets

namespace ScriptHost

open InMemory Run

theorem Run.bind_apply_of_eq {σ α β : Type} {run run' : Run σ β} {s : σ} (h : run s = run' s)
    (next : β → Run σ α) : (run >>= next) s = (run' >>= next) s := by
  rw [Run.bind_apply, Run.bind_apply, h]

namespace InMemory

variable {module className : String} {methods : List (Bool × String)}
  {bound bound' : List ((Bool × String) × Nat)} {h h' : HostState}
  {w w' v : World HostState Machine}

/-- Since `h` methods of a class were bound at most, those in `bound` each to what is chosen for
it in `h`. -/
structure Binds (h : HostState) (module className : String) (bound : List ((Bool × String) × Nat))
    (h' : HostState) : Prop where
  grown : h.Extends h'
  classes : h'.classes = h.classes
  methodBinder : h'.methodBinder = h.methodBinder
  chosen : ∀ x ∈ bound, ∃ target,
    h.chosenMethod? module className x.1.1 x.1.2 = .ok (some target) ∧
      h'.methods[x.2]? = some target ∧ h.methods.length ≤ x.2
  nodup : (bound.map (·.2)).Nodup

namespace Binds

theorem nil (hgrown : h.Extends h') (hclasses : h'.classes = h.classes)
    (hbinder : h'.methodBinder = h.methodBinder) : Binds h module className [] h' :=
  ⟨hgrown, hclasses, hbinder, fun _ hx => (List.not_mem_nil hx).elim, List.nodup_nil⟩

/-- What is chosen for a method is not changed by the methods bound before. -/
theorem chosenMethod? (hb : Binds h module className bound h') (isStatic : Bool)
    (signature : String) : h'.chosenMethod? module className isStatic signature =
      h.chosenMethod? module className isStatic signature := by
  simp only [HostState.chosenMethod?, HostState.boundMethod?, HostState.binding?, hb.classes,
    hb.methodBinder]

theorem add (hb : Binds h module className bound h') {isStatic : Bool} {signature : String}
    {target : MethodTarget}
    (hchosen : h.chosenMethod? module className isStatic signature = .ok (some target)) :
    Binds h module className (((isStatic, signature), h'.methods.length) :: bound)
      (h'.addMethod target).2 where
  grown := hb.grown.trans (.addMethod h' target)
  classes := hb.classes
  methodBinder := hb.methodBinder
  chosen x hx := by
    rcases List.mem_cons.mp hx with rfl | hx
    · exact ⟨target, hchosen, h'.addMethod_methods target, hb.grown.methods.length_le⟩
    · obtain ⟨target', hchosen', hid, hfresh⟩ := hb.chosen x hx
      exact ⟨target', hchosen', (HostState.Extends.addMethod h' target).method hid, hfresh⟩
  nodup := by
    -- The number is past the end of the table, all others are within it.
    refine List.nodup_cons.mpr ⟨fun hmem => ?_, hb.nodup⟩
    obtain ⟨x, hx, hid⟩ := List.mem_map.mp hmem
    obtain ⟨_, _, hfound, _⟩ := hb.chosen x hx
    exact Nat.ne_of_lt (List.getElem?_eq_some_iff.mp hfound).1 hid

end Binds

/-- The methods of a class are bound in order, one number for each. -/
theorem binds_of_bindMethods (hb : Binds h module className bound w.host)
    (hrun : bindMethods module className methods bound w = (.ok (.ok bound'), w')) :
    Binds h module className bound' w'.host ∧ w'.host.allocators = w.host.allocators ∧
      bound'.map (·.1) = methods.reverse ++ bound.map (·.1) := by
  -- Binding a method does not change what is chosen for the next, so `h` stays the same throughout.
  induction methods generalizing bound w with
  | nil =>
    cases hrun
    exact ⟨hb, rfl, rfl⟩
  | cons key methods ih =>
    obtain ⟨isStatic, signature⟩ := key
    unfold bindMethods at hrun
    rw [Run.bind_apply, show (Host.bindMethod module className isStatic signature :
      Turn HostState _) w = _ from HostState.bindMethod_apply module className isStatic signature w,
      hb.chosenMethod?] at hrun
    cases hchosen : h.chosenMethod? module className isStatic signature with
    | error p =>
      rw [hchosen] at hrun
      cases hrun
    | ok answer =>
      rw [hchosen] at hrun
      cases answer with
      | none => cases hrun
      | some target =>
        obtain ⟨hbinds, hallocators, hkeys⟩ := ih (hb.add hchosen) hrun
        exact ⟨hbinds, hallocators, by simpa using hkeys⟩

/-- The class `info` was declared in `w`, which came to `w'`. -/
structure Declared (w : World HostState Machine) (module className : String)
    (methods : List (Bool × String)) (info : ClassInfo) (w' : World HostState Machine) : Prop where
  name : info.name = className
  complete : ∀ key, key ∈ methods → ∃ id, info.methods.lookup key = some id
  /-- The number of a method is new and stands for what was chosen. -/
  chosen : ∀ key id, info.methods.lookup key = some id → key ∈ methods ∧ ∃ target,
    w.host.chosenMethod? module className key.1 key.2 = .ok (some target) ∧
      w'.host.methods[id]? = some target ∧ w.host.methods.length ≤ id
  /-- No two methods share one. -/
  nodup : (info.methods.map (·.2)).Nodup
  /-- So it is with the allocator, if there is one. -/
  allocator : ∃ target?, w.host.chosenClass? module className = .ok target? ∧
    match target? with
    | some target => info.allocator = some w.host.allocators.length ∧
        w'.host.allocators[w.host.allocators.length]? = some target
    | none => info.allocator = none

/-- A class gets an allocator if there is a target for it. -/
theorem binds_of_bindClass {answer : Option Nat}
    (hrun : HostState.bindClass module className w = (.ok answer, w')) :
    Binds w.host module className [] w'.host ∧
      ∃ target?, w.host.chosenClass? module className = .ok target? ∧
        match target? with
        | some target => answer = some w.host.allocators.length ∧
            w'.host.allocators[w.host.allocators.length]? = some target
        | none => answer = none := by
  rw [HostState.bindClass_apply] at hrun
  cases hclass : w.host.chosenClass? module className with
  | error p =>
    rw [hclass] at hrun
    cases hrun
  | ok target? =>
    rw [hclass] at hrun
    cases target? with
    | none =>
      cases hrun
      exact ⟨.nil (.refl _) rfl rfl, none, rfl, rfl⟩
    | some target =>
      cases hrun
      exact ⟨.nil (.addAllocator w.host target) rfl rfl, some target, rfl, rfl,
        w.host.addAllocator_allocators target⟩

theorem declared_of_declareClass {value : ScriptValue}
    (hrun : declareClass module className methods w = (.ok (.ok value), w')) :
    ∃ info, value = .classOf info ∧ Declared w module className methods info w' := by
  unfold declareClass at hrun
  rw [Run.bind_apply] at hrun
  rcases hclass : HostState.bindClass module className w with ⟨p | allocator, w₁⟩
  · rw [show (Host.bindClass module className : Turn HostState _) w = _ from hclass] at hrun
    cases hrun
  · rw [show (Host.bindClass module className : Turn HostState _) w = _ from hclass] at hrun
    obtain ⟨hb₁, target?, hchosen, hallocator⟩ := binds_of_bindClass hclass
    dsimp only at hrun
    rw [Run.bind_apply] at hrun
    rcases hmethods : (bindMethods module className methods [] w₁ : Except Panic _ × _) with
      ⟨p | signature | bound, w₂⟩
    · rw [hmethods] at hrun
      cases hrun
    · -- A method is missing: reporting that ends the declaration without a class.
      rw [hmethods] at hrun
      dsimp only at hrun
      rw [Run.bind_apply] at hrun
      rcases hraise : (raise (H := HostState) _ _ w₂) with ⟨p | result, w₃⟩ <;>
        rw [hraise] at hrun <;> cases hrun
    · rw [hmethods] at hrun
      cases hrun
      obtain ⟨hb₂, hallocators, hkeys⟩ := binds_of_bindMethods hb₁ hmethods
      rw [List.map_nil, List.append_nil] at hkeys
      refine ⟨⟨className, allocator, bound⟩, rfl, rfl, fun key hkey => ?_, fun key id hfound => ?_,
        hb₂.nodup, target?, hchosen, ?_⟩
      · have hlisted : key ∈ bound.map (·.1) := by rw [hkeys]; exact List.mem_reverse.mpr hkey
        obtain ⟨x, hx, rfl⟩ := List.mem_map.mp hlisted
        refine Option.ne_none_iff_exists'.mp fun hnone => ?_
        simpa using List.lookup_eq_none_iff.mp hnone x hx
      · change bound.lookup key = some id at hfound
        obtain ⟨before, after, hlist, -⟩ := List.lookup_eq_some_iff.mp hfound
        have hmem : (key, id) ∈ bound := by rw [hlist]; simp
        have hlisted : key ∈ methods.reverse := hkeys ▸ List.mem_map_of_mem hmem
        exact ⟨List.mem_reverse.mp hlisted, hb₂.chosen _ hmem⟩
      · cases target? with
        | none => exact hallocator
        | some target =>
          refine ⟨hallocator.1, ?_⟩
          show w₂.host.allocators[w.host.allocators.length]? = some target
          rw [hallocators]
          exact hallocator.2

/-! ### Whom a class reaches -/

section

variable {H : Type} [Host H] {on : ScriptValue} {info : ClassInfo} {args : List ScriptValue}
  {w : World H Machine}

/-- The window a member is entered with. -/
def facing (w : World H Machine) (on : ScriptValue) (args : List ScriptValue) :
    World H Machine :=
  { w with vm := { w.vm with slots := on :: args } }

/-- A construction runs the allocator on the class and the arguments, and takes its answer. -/
theorem construct_apply {id : Nat} (hclass : w.vm.classOf? on = some info)
    (hallocator : info.allocator = some id) :
    construct on args w = (Host.allocate id >>= fun _ => finishCall) (facing w on args) := by
  unfold construct
  rw [Run.get_bind_apply, hclass, Option.bind_some, hallocator]
  rfl

theorem construct_of_missing (hclass : w.vm.classOf? on = some info)
    (hallocator : info.allocator = none) :
    construct on args w = (.ok (.error (text "Class does not have an allocator.")), w) := by
  unfold construct
  rw [Run.get_bind_apply, hclass, Option.bind_some, hallocator]
  rfl

end

/-- In the state `v` the class `info` reaches what is chosen in `h`. -/
structure RunsAs (h : HostState) (module className : String) (methods : List (Bool × String))
    (info : ClassInfo) (v : World HostState Machine) : Prop where
  /-- A call, on the class or on an instance of it, is served by the target of the method. -/
  invoke : ∀ isStatic signature, (isStatic, signature) ∈ methods → ∃ target,
    h.chosenMethod? module className isStatic signature = .ok (some target) ∧
      ∀ on args, v.vm.classOf? on = some info →
        InMemory.invoke on isStatic signature args v =
          (target.run >>= fun _ => finishCall) (facing v on args)
  /-- A construction is served by the target of the class, if there is one. -/
  construct : ∃ target?, h.chosenClass? module className = .ok target? ∧
    ∀ on args, v.vm.classOf? on = some info →
      InMemory.construct on args v =
        match target? with
        | some target => (target.run >>= fun _ => finishCall) (facing v on args)
        | none => (.ok (.error (text "Class does not have an allocator.")), v)

variable {info : ClassInfo}

/-- As long as the targets are there, a class reaches what was chosen when it was declared. -/
theorem Declared.runsAs (hd : Declared w module className methods info w')
    (hgrown : w'.host.Extends v.host) : RunsAs w.host module className methods info v where
  invoke isStatic signature hmember := by
    obtain ⟨id, hfound⟩ := hd.complete _ hmember
    obtain ⟨-, target, hchosen, hid, -⟩ := hd.chosen _ _ hfound
    refine ⟨target, hchosen, fun on args hclass => ?_⟩
    rw [InMemory.invoke_apply hclass hfound]
    exact Run.bind_apply_of_eq (s := facing v on args)
      (HostState.invoke_apply (hgrown.method hid)) _
  construct := by
    obtain ⟨target?, hchosen, hallocator⟩ := hd.allocator
    refine ⟨target?, hchosen, fun on args hclass => ?_⟩
    cases target? with
    | none => exact construct_of_missing hclass hallocator
    | some target =>
      obtain ⟨hnew, hid⟩ := hallocator
      rw [construct_apply hclass hnew]
      exact Run.bind_apply_of_eq (s := facing v on args)
        (HostState.allocate_apply_of_target (hgrown.allocator hid)) _

end InMemory

namespace VirtualMachine

/-- What a declaration in the state `w` comes to, if it succeeds. -/
structure Declares (w : World HostState Machine) (module className : String)
    (methods : List (Bool × String)) : Prop where
  /-- What comes of it is a class with new numbers for what was chosen. -/
  declared : ∀ value w', declareClass module className methods w = (.ok (.ok value), w') →
    ∃ info, value = .classOf info ∧ Declared w module className methods info w'
  /-- For the rest of the run the class reaches what was chosen for it. -/
  during : ∀ info w', declareClass module className methods w = (.ok (.ok (.classOf info)), w') →
    ∀ held₀ held v, Continues held₀ w' held v → RunsAs w.host module className methods info v
  /-- So it does in every later run until the machine is disposed of. -/
  after : ∀ info w', declareClass module className methods w = (.ok (.ok (.classOf info)), w') →
    ∀ held₀ held v, Continues held₀ w' held v →
    ∀ (vm : VirtualMachine Machine) errors steps,
      let vm' := (vm.ranTo v errors).after steps
      vm'.disposed = false → ∀ held' v', During vm'.entered.world held' v' →
        RunsAs w.host module className methods info v'

theorem declares (w : World HostState Machine) (module className : String)
    (methods : List (Bool × String)) : Declares w module className methods := by
  have hdeclared : ∀ info w',
      declareClass module className methods w = (.ok (.ok (.classOf info)), w') →
        Declared w module className methods info w' := by
    intro info w' hrun
    obtain ⟨_, hvalue, hd⟩ := declared_of_declareClass hrun
    cases hvalue
    exact hd
  have hgrown : ∀ {held₀ held} {w' v : World HostState Machine}, Continues held₀ w' held v →
      w'.host.Extends v.host := fun {_ _} {w'} {_} hv =>
    (HostState.hostInvariant_extends w'.host).during hv (.refl _)
  refine ⟨fun value w' hrun => declared_of_declareClass hrun,
    fun info w' hrun held₀ held v hv => (hdeclared info w' hrun).runsAs (hgrown hv), ?_⟩
  intro info w' hrun held₀ held v hv vm errors steps vm' halive held' v' hv'
  have hended : (vm.ranTo v errors).disposed = false →
      w'.host.Extends (vm.ranTo v errors).world.host :=
    fun _ => (hgrown hv).trans (.of_same rfl rfl)
  have hlater := (HostState.hostInvariant_extends w'.host).after hended steps halive
  exact (hdeclared info w' hrun).runsAs
    ((HostState.hostInvariant_extends w'.host).during hv' (hlater.trans (.of_same rfl rfl)))

end VirtualMachine

end ScriptHost
