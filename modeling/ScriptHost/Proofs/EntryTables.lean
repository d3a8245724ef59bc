/-
The entries an engine is given.

An engine calls a method through the entry it was given when the method was bound, a function of
a table with rows and columns.  The entry for a number is the one of that number, up to the end
of the table, so what it dispatches to is the target of that number, whatever the engine does
afterwards and however often the host is called meanwhile.

* **`entryOf?_entryTable`** — the entry in the row and the column of a number;
* **`EngineMove.keeps`** — nothing an engine does breaks what the callbacks keep;
* **`Callback.Assigns`** — what a request for a method or for a class is answered with, and what
  the entry does from then on;
* **`dispatchesAsDeclared`** — declared classes and assigned entries go on to mean what was chosen
  for them.
-/
import ScriptHost.Engine.Callbacks
import ScriptHost.Proofs.DeclaredClasses
import ScriptHost.Samples.Calculator

namespace ScriptHost

open InMemory Run

/-- The entry for a number is the one of that number, if the table has so many. -/
theorem entryOf?_entryTable (rows k : Nat) :
    entryOf? (entryTable rows) k = if k < rows * rowLength then some k else none := by
  have hcolumn : k % rowLength < rowLength := Nat.mod_lt k (by decide)
  have hnumber : k / rowLength * rowLength + k % rowLength = k := Nat.div_add_mod' k rowLength
  have hrow : k / rowLength < rows ↔ k < rows * rowLength :=
    Nat.div_lt_iff_lt_mul (by decide)
  -- Row and column of a number are its quotient and remainder, and put together again give it back.
  unfold entryOf? entryTable
  by_cases hk : k < rows * rowLength
  · rw [if_pos hk, List.getElem?_map, List.getElem?_range (hrow.mpr hk)]
    show ((List.range rowLength).map fun column => k / rowLength * rowLength + column)[
      k % rowLength]? = some k
    rw [List.getElem?_map, List.getElem?_range hcolumn, Option.map_some, hnumber]
  · have hnone : ((List.range rows).map fun row =>
        (List.range rowLength).map fun column => row * rowLength + column)[k / rowLength]? =
          none := by
      refine List.getElem?_eq_none ?_
      rw [List.length_map, List.length_range]
      exact Nat.le_of_not_lt fun hlt => hk (hrow.mp hlt)
    rw [if_neg hk, hnone]
    rfl

namespace Callback

section

variable {H C α : Type} {P : H → Prop} {w : World H C}

theorem caught_apply (run : Run (World H C) α) (w : World H C) :
    caught run w = ((run w).1.toOption, (run w).2) := by
  unfold caught
  simp only [bind, StateT.bind, ExceptT.run]
  rcases run w with ⟨_ | _, _⟩ <;> rfl

theorem discard_caught_apply (run : Run (World H C) α) (w : World H C) :
    (discard (caught run) : Contained H C Unit) w = ((), (run w).2) :=
  congrArg (fun r : Option α × World H C => ((), r.2)) (caught_apply run w)

theorem dispatch_apply [Slots C] (run : Run (World H C) Unit) (w : World H C) :
    dispatch run w =
      match run w with
      | (.ok (), w') => ((), w')
      | (.error p, w') => ((), { w' with vm := Slots.abortWith w'.vm p.report }) := by
  unfold dispatch
  simp only [bind, StateT.bind, ExceptT.run]
  rcases run w with ⟨_ | _, _⟩ <;> rfl

theorem dispatch_of_eq [Slots C] {run run' : Run (World H C) Unit} (h : run w = run' w) :
    dispatch run w = dispatch run' w := by
  rw [dispatch_apply, dispatch_apply, h]

theorem keeps_caught {run : Run (World H C) α}
    (h : Leads run w (fun _ v => P v.host) fun v => P v.host) : P (caught run w).2.host := by
  rw [caught_apply]
  exact h.ends

theorem keeps_dispatch [Slots C] {run : Run (World H C) Unit}
    (h : Leads run w (fun _ v => P v.host) fun v => P v.host) : P (dispatch run w).2.host := by
  have hends := h.ends
  rw [dispatch_apply]
  rcases hrun : run w with ⟨_ | _, v⟩ <;> rw [hrun] at hends <;> exact hends

end

variable {H C : Type} [Host H] [Slots C] [Chronicle C]

/-- A request is passed on, and its number turned into an entry. -/
theorem bindMethod_apply {module className signature : CText} {m c s : String}
    (hmodule : module.read? = some m) (hclass : className.read? = some c)
    (hsignature : signature.read? = some s) (isStatic : Bool) (w : World H C) :
    bindMethod module className isStatic signature w =
      ((caught (Host.bindMethod m c isStatic s) w).1.join.bind (entryOf? methodEntries),
        (caught (Host.bindMethod m c isStatic s) w).2) := by
  unfold bindMethod
  rw [hmodule, hclass, hsignature]
  rfl

/-- The functions of a class with this entry. -/
def entries : Option Nat → ClassEntries
  | some entry => ⟨some entry, true⟩
  | none => .unbound

theorem bindClass_apply {module className : CText} {m c : String}
    (hmodule : module.read? = some m) (hclass : className.read? = some c) (w : World H C) :
    bindClass module className w =
      (entries ((caught (Host.bindClass m c) w).1.join.bind (entryOf? classEntries)),
        (caught (Host.bindClass m c) w).2) := by
  unfold bindClass
  rw [hmodule, hclass]
  show (match (caught (Host.bindClass m c) w).1.join.bind (entryOf? classEntries) with
    | some entry => pure ⟨some entry, true⟩
    | none => pure .unbound : Contained H C ClassEntries) (caught (Host.bindClass m c) w).2 = _
  cases (caught (Host.bindClass m c) w).1.join.bind (entryOf? classEntries) <;> rfl

/-- A text that is missing is answered at once. -/
theorem bindMethod_of_missing {module className signature : CText}
    (h : module.read? = none ∨ className.read? = none ∨ signature.read? = none) (isStatic : Bool)
    (w : World H C) : bindMethod module className isStatic signature w = (none, w) := by
  unfold bindMethod
  rcases h with h | h | h <;> rw [h]
  · rfl
  · cases module.read? <;> rfl
  · cases module.read? <;> cases className.read? <;> rfl

theorem bindClass_of_missing {module className : CText}
    (h : module.read? = none ∨ className.read? = none) (w : World H C) :
    bindClass module className w = (.unbound, w) := by
  unfold bindClass
  rcases h with h | h <;> rw [h]
  · rfl
  · cases module.read? <;> rfl

end Callback

/-! ### What an engine does -/

/-- What an engine does on its own, or has done by calling back. -/
inductive EngineMove (C : Type)
  | method (entry : Nat)
  | allocator (entry : Nat)
  | finalizer (memory : Option Memory)
  | bindMethod (module className : CText) (isStatic : Bool) (signature : CText)
  | bindClass (module className : CText)
  | write (text : CText)
  | report (kind : Int32) (module : CText) (line : Int32) (message : CText)
  | work (change : C → C)

namespace EngineMove

variable {H C : Type} [Host H] [Slots C] [Chronicle C]

/-- The host and the engine after a move. -/
def perform (w : World H C) : EngineMove C → World H C
  | .method entry => (Callback.method entry w).2
  | .allocator entry => (Callback.allocator entry w).2
  | .finalizer memory => (Callback.finalizer memory w).2
  | .bindMethod module className isStatic signature =>
    (Callback.bindMethod module className isStatic signature w).2
  | .bindClass module className => (Callback.bindClass module className w).2
  | .write text => (Callback.write text w).2
  | .report kind module line message => (Callback.report kind module line message w).2
  | .work change => { w with vm := change w.vm }

/-- The host and the engine after some moves. -/
def performAll (w : World H C) (moves : List (EngineMove C)) : World H C :=
  moves.foldl perform w

variable {P : H → Prop} {w : World H C}

/-- Nothing an engine does breaks what the callbacks keep. -/
theorem keeps (hP : Host.Keeps P) (hw : P w.host) (move : EngineMove C) :
    P (move.perform w).host := by
  cases move with
  | method entry => exact Callback.keeps_dispatch (hP.invoke entry hw)
  | allocator entry => exact Callback.keeps_dispatch (hP.allocate entry hw)
  | finalizer memory =>
    show P (Callback.finalizer memory w).2.host
    unfold Callback.finalizer
    cases ForeignCell.read? memory with
    | none => exact hw
    | some cell => exact Callback.keeps_caught (hP.finalize cell.token hw)
  | bindMethod module className isStatic signature =>
    show P (Callback.bindMethod module className isStatic signature w).2.host
    by_cases hread : module.read? = none ∨ className.read? = none ∨ signature.read? = none
    · rw [Callback.bindMethod_of_missing hread]
      exact hw
    · simp only [not_or, ← ne_eq, Option.ne_none_iff_exists'] at hread
      obtain ⟨⟨m, hmodule⟩, ⟨c, hclass⟩, s, hsignature⟩ := hread
      rw [Callback.bindMethod_apply hmodule hclass hsignature]
      exact Callback.keeps_caught (hP.bindMethod m c isStatic s hw)
  | bindClass module className =>
    show P (Callback.bindClass module className w).2.host
    by_cases hread : module.read? = none ∨ className.read? = none
    · rw [Callback.bindClass_of_missing hread]
      exact hw
    · simp only [not_or, ← ne_eq, Option.ne_none_iff_exists'] at hread
      obtain ⟨⟨m, hmodule⟩, c, hclass⟩ := hread
      rw [Callback.bindClass_apply hmodule hclass]
      exact Callback.keeps_caught (hP.bindClass m c hw)
  | write text =>
    show P (Callback.write text w).2.host
    unfold Callback.write
    cases text.read? with
    | none => exact hw
    | some text => exact Callback.keeps_caught (hP.write text hw)
  | report kind module line message =>
    show P (Callback.report kind module line message w).2.host
    unfold Callback.report
    cases ErrorKind.ofCode? kind.toInt with
    | none => exact hw
    | some kind => exact Callback.keeps_caught (hP.report _ hw)
  | work change => exact hw

theorem keeps_performAll (hP : Host.Keeps P) (hw : P w.host) (moves : List (EngineMove C)) :
    P (performAll w moves).host := by
  induction moves generalizing w with
  | nil => exact hw
  | cons move moves ih => exact ih (keeps hP hw move)

end EngineMove

/-! ### What the entries reach -/

namespace Callback

variable {C : Type} [Slots C] [Chronicle C] {module className signature : CText} {m c s : String}
  {isStatic : Bool} {w : World HostState C} {k : Nat}

/-- What requests for members are answered with in the state `w`, and whom the entries reach from
then on, whatever the engine does. -/
structure Assigns (w : World HostState C) : Prop where
  /-- The entry for a method is the one of the next number, if there is one. -/
  method : ∀ {module className signature : CText} {m c s : String} {isStatic : Bool}
    {target : MethodTarget}, module.read? = some m → className.read? = some c →
    signature.read? = some s → w.host.chosenMethod? m c isStatic s = .ok (some target) →
    let k := w.host.methods.length
    let answer := bindMethod module className isStatic signature w
    answer.1 = (if k < 256 then some k else none) ∧
    ∀ moves, let v := EngineMove.performAll answer.2 moves
      -- It dispatches to the target chosen for it.
      Callback.method k v = dispatch target.run v ∧
      -- No other method is given it.
      ∀ module' className' isStatic' signature',
        (bindMethod module' className' isStatic' signature' v).1 ≠ some k
  allocator : ∀ {module className : CText} {m c : String} {target : ClassTarget},
    module.read? = some m → className.read? = some c →
    w.host.chosenClass? m c = .ok (some target) →
    let k := w.host.allocators.length
    let answer := bindClass module className w
    answer.1 = (if k < 64 then ⟨some k, true⟩ else .unbound) ∧
    ∀ moves, let v := EngineMove.performAll answer.2 moves
      Callback.allocator k v = dispatch target.run v ∧
      ∀ module' className', (bindClass module' className' v).1.allocator ≠ some k
  /-- Without a target there is no entry, and no number is used up. -/
  refusesMethod : ∀ {module className signature : CText} {m c s : String} {isStatic : Bool},
    module.read? = some m → className.read? = some c → signature.read? = some s →
    (∀ target, w.host.chosenMethod? m c isStatic s ≠ .ok (some target)) →
    bindMethod module className isStatic signature w = (none, w)
  refusesClass : ∀ {module className : CText} {m c : String},
    module.read? = some m → className.read? = some c →
    (∀ target, w.host.chosenClass? m c ≠ .ok (some target)) →
    bindClass module className w = (.unbound, w)

theorem caught_bindMethod (m c : String) (isStatic : Bool) (s : String)
    (w : World HostState C) :
    caught (Host.bindMethod m c isStatic s) w =
      match w.host.chosenMethod? m c isStatic s with
      | .ok (some target) =>
        (some (some w.host.methods.length), { w with host := (w.host.addMethod target).2 })
      | .ok none => (some none, w)
      | .error _ => (none, w) := by
  rw [caught_apply, show (Host.bindMethod m c isStatic s : Run (World HostState C) _) w = _ from
    HostState.bindMethod_apply m c isStatic s w]
  rcases w.host.chosenMethod? m c isStatic s with p | _ | target <;> rfl

theorem caught_bindClass (m c : String) (w : World HostState C) :
    caught (Host.bindClass m c) w =
      match w.host.chosenClass? m c with
      | .ok (some target) =>
        (some (some w.host.allocators.length),
          { host := (w.host.addAllocator target).2, vm := target.noted w.vm })
      | .ok none => (some none, w)
      | .error _ => (none, w) := by
  rw [caught_apply, show (Host.bindClass m c : Run (World HostState C) _) w = _ from
    HostState.bindClass_apply m c w]
  rcases w.host.chosenClass? m c with p | _ | target <;> rfl

theorem methodEntry (k : Nat) : entryOf? methodEntries k = if k < 256 then some k else none :=
  entryOf?_entryTable 16 k

theorem classEntry (k : Nat) : entryOf? classEntries k = if k < 64 then some k else none :=
  entryOf?_entryTable 4 k

/-- An entry that is assigned is past those of all members bound before. -/
theorem eq_length_of_bindMethod
    (h : (bindMethod module className isStatic signature w).1 = some k) :
    k = w.host.methods.length := by
  by_cases hread : module.read? = none ∨ className.read? = none ∨ signature.read? = none
  · rw [bindMethod_of_missing hread] at h
    cases h
  · simp only [not_or, ← ne_eq, Option.ne_none_iff_exists'] at hread
    obtain ⟨⟨m, hmodule⟩, ⟨c, hclass⟩, s, hsignature⟩ := hread
    rw [bindMethod_apply hmodule hclass hsignature, caught_bindMethod] at h
    rcases hchosen : w.host.chosenMethod? m c isStatic s with p | _ | target <;>
      rw [hchosen] at h
    · cases h
    · cases h
    · change entryOf? methodEntries w.host.methods.length = some k at h
      rw [methodEntry] at h
      split at h <;> cases h
      rfl

theorem eq_length_of_bindClass (h : (bindClass module className w).1.allocator = some k) :
    k = w.host.allocators.length := by
  by_cases hread : module.read? = none ∨ className.read? = none
  · rw [bindClass_of_missing hread] at h
    cases h
  · simp only [not_or, ← ne_eq, Option.ne_none_iff_exists'] at hread
    obtain ⟨⟨m, hmodule⟩, c, hclass⟩ := hread
    rw [bindClass_apply hmodule hclass, caught_bindClass] at h
    rcases hchosen : w.host.chosenClass? m c with p | _ | target <;> rw [hchosen] at h
    · cases h
    · cases h
    · change (entries (entryOf? classEntries w.host.allocators.length)).allocator = some k at h
      rw [classEntry] at h
      split at h <;> cases h
      rfl

theorem assigns (w : World HostState C) : Assigns w where
  method {module className signature m c s isStatic target} hmodule hclass hsignature hchosen := by
    have hcaught := caught_bindMethod m c isStatic s w
    rw [hchosen] at hcaught
    rw [bindMethod_apply hmodule hclass hsignature, hcaught]
    refine ⟨methodEntry _, fun moves => ?_⟩
    have hgrown := EngineMove.keeps_performAll
      (HostState.keeps_extends (w.host.addMethod target).2)
      (w := { w with host := (w.host.addMethod target).2 }) (.refl _) moves
    refine ⟨dispatch_of_eq (HostState.invoke_apply
      (hgrown.method (w.host.addMethod_methods target))),
      fun module' className' isStatic' signature' h => ?_⟩
    -- The table has grown beyond the number since.
    have hlonger : (w.host.methods ++ [target]).length ≤ _ := hgrown.methods.length_le
    rw [← eq_length_of_bindMethod h, List.length_append] at hlonger
    exact absurd hlonger (Nat.not_succ_le_self _)
  allocator {module className m c target} hmodule hclass hchosen := by
    have hcaught := caught_bindClass m c w
    rw [hchosen] at hcaught
    rw [bindClass_apply hmodule hclass, hcaught]
    refine ⟨?_, fun moves => ?_⟩
    · show entries (entryOf? classEntries w.host.allocators.length) = _
      rw [classEntry]
      split <;> rfl
    have hgrown := EngineMove.keeps_performAll
      (HostState.keeps_extends (w.host.addAllocator target).2)
      (w := { host := (w.host.addAllocator target).2, vm := target.noted w.vm }) (.refl _) moves
    refine ⟨dispatch_of_eq (HostState.allocate_apply_of_target
      (hgrown.allocator (w.host.addAllocator_allocators target))), fun module' className' h => ?_⟩
    have hlonger : (w.host.allocators ++ [target]).length ≤ _ := hgrown.allocators.length_le
    rw [← eq_length_of_bindClass h, List.length_append] at hlonger
    exact absurd hlonger (Nat.not_succ_le_self _)
  refusesMethod {_ _ _ m c s isStatic} hmodule hclass hsignature hnone := by
    rw [bindMethod_apply hmodule hclass hsignature, caught_bindMethod]
    rcases hchosen : w.host.chosenMethod? m c isStatic s with p | _ | target
    · rfl
    · rfl
    · exact absurd hchosen (hnone target)
  refusesClass {_ _ m c} hmodule hclass hnone := by
    rw [bindClass_apply hmodule hclass, caught_bindClass]
    rcases hchosen : w.host.chosenClass? m c with p | _ | target
    · rfl
    · rfl
    · exact absurd hchosen (hnone target)

end Callback

/-- Whatever is bound, declared and called before and after: a class that was declared reaches
what was chosen for it then, and so does every entry that an engine was given. -/
theorem dispatchesAsDeclared :
    (∀ w module className methods, VirtualMachine.Declares w module className methods) ∧
    ∀ {C : Type} [Slots C] [Chronicle C] (w : World HostState C), Callback.Assigns w :=
  ⟨VirtualMachine.declares, Callback.assigns⟩

/-- A class whose method the raw binder answered for keeps it when a host type is bound under its
name and the class is declared again. -/
theorem dispatchesAsDeclared_redeclared :
    let config : Configuration :=
      { Configuration.default with
        methodBinder := some fun _ _ _ _ => .ok (some [.setReturn (.text "raw")]) }
    let methods := [(true, "version()")]
    let vm := (VirtualMachine.new config 0
      (Machine.new [("open", [.declare "Calculator" methods])] [] false false)).2
    let w := vm.entered.world
    let info : ClassInfo := ⟨"Calculator", none, [((true, "version()"), 0)]⟩
    let again : ClassInfo := ⟨"Calculator", some 0, [((true, "version()"), 1)]⟩
    let w' := (declareClass "main" "Calculator" methods w).2
    let vm' := (vm.ranTo w' .idle).after
      [.operate (.bind Samples.calculatorClass.describe "main"),
        .operate (.interpret "main" "open")]
    let v := vm'.entered.world
    declareClass "main" "Calculator" methods w = (.ok (.ok (.classOf info)), w') ∧
      vm'.disposed = false ∧ RunsAs w.host "main" "Calculator" methods info v ∧
      v.vm.readVariable "main" "Calculator" = .classOf again ∧
      (InMemory.invoke (.classOf info) true "version()" [] v).1 = .ok (.ok (text "raw")) ∧
      (InMemory.invoke (.classOf again) true "version()" [] v).1 = .ok (.ok (text "1.0")) := by
  intro config methods vm w info again w' vm' v
  have hdeclared : declareClass "main" "Calculator" methods w = (.ok (.ok (.classOf info)), w') :=
    Prod.ext (by decide +kernel) rfl
  have halive : vm'.disposed = false := by decide +kernel
  refine ⟨hdeclared, halive, ?_, by decide +kernel, by decide +kernel, by decide +kernel⟩
  exact (dispatchesAsDeclared.1 w "main" "Calculator" methods).after info w' hdeclared [] [] w'
    .start vm .idle _ halive [] v .start

end ScriptHost
