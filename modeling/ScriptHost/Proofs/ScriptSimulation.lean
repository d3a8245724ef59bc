/-
Running a script under two hosts.

A script makes moves, adds to what is pinned and to the record, calls back into its host,
collects garbage, and may forge instances.  `Simulation fair R` relates two hosts with one
machine: callbacks of both hosts agree where `R` holds and keep `R`, and so does each thing a
script does by itself, where only tokens that are `fair` are forged.  `R held w` may speak of
the values held besides the machine's own.  Then every run under one host agrees with the run
under the other:

* **`Simulation.runScript`** — of a script;
* **`Simulation.call`**, **`Simulation.interpret`** — of the machine's entry points, also when
  calls nest and when they panic.
-/
import ScriptHost.InMemory.Script
import ScriptHost.Proofs.Reachability
import ScriptHost.Proofs.RunAgreement

namespace ScriptHost

/-- What scripts put on record by themselves. -/
def Entry.isScripts : Entry → Bool
  | .declared _ | .value _ | .caught _ | .slots _ | .slot _ => true
  | _ => false

namespace InMemory

open Run

/-- The tokens an expression forges instances with. -/
def Expr.forged : Expr → List Token
  | .foreign token => [token]
  | .list es => forgedAll es
  | _ => []
where
  /-- The same for several expressions. -/
  forgedAll : List Expr → List Token
    | [] => []
    | e :: es => e.forged ++ forgedAll es

def MachineStep.forged : MachineStep → List Token
  | .window (.setNewForeign _ _ token) => [token]
  | .setForeign _ token => [token]
  | _ => []

def ScriptStep.forged : ScriptStep → List Token
  | .define _ e | .raise e _ => e.forged
  | .construct on args _ _ _ => on.forged ++ Expr.forged.forgedAll args
  | .invoke on _ _ args _ _ _ => on.forged ++ Expr.forged.forgedAll args
  | .slot step => step.forged
  | _ => []

/-- The tokens the scripts and methods of a machine forge instances with. -/
def Machine.forged (m : Machine) : List Token :=
  (m.scripts ++ m.methods).flatMap fun (_, script) => script.flatMap ScriptStep.forged

/-- The value or the error a call ended with. -/
def outcomeValue : Except ScriptValue ScriptValue → ScriptValue
  | .ok value => value
  | .error error => error

/-- Values were pinned, none was let go of, and a script put something on record. -/
structure Machine.Adds (m m' : Machine) : Prop where
  handles : m.handles <+: m'.handles
  freed : m'.freed = m.freed
  journal : ∃ entries, m'.journal = m.journal ++ entries ∧ ∀ e ∈ entries, e.isScripts = true

namespace Machine

variable {m m' m'' : Machine}

theorem Adds.of_same (hhandles : m'.handles = m.handles) (hfreed : m'.freed = m.freed)
    (hjournal : m'.journal = m.journal) : m.Adds m' :=
  ⟨hhandles ▸ List.prefix_refl _, hfreed, [], by simpa using hjournal, by simp⟩

theorem Adds.refl (m : Machine) : m.Adds m :=
  .of_same rfl rfl rfl

theorem Adds.trans (h : m.Adds m') (h' : m'.Adds m'') : m.Adds m'' := by
  obtain ⟨entries, hentries, hscripts⟩ := h.journal
  obtain ⟨entries', hentries', hscripts'⟩ := h'.journal
  refine ⟨h.handles.trans h'.handles, h'.freed.trans h.freed, entries ++ entries', ?_, ?_⟩
  · rw [hentries', hentries, List.append_assoc]
  · intro e he
    exact (List.mem_append.mp he).elim (hscripts e) (hscripts' e)

theorem Adds.pin (m : Machine) (v : ScriptValue) : m.Adds (m.pin v).2 :=
  ⟨List.prefix_append _ _, rfl, [], by simp [Machine.pin], by simp⟩

theorem Adds.note (m : Machine) {entry : Entry} (hentry : entry.isScripts = true) :
    m.Adds (Chronicle.note m entry) :=
  ⟨List.prefix_refl _, rfl, [entry], rfl, by simpa using hentry⟩

/-- Besides the window an operation on it changes lists at most, and the abort. -/
theorem slotFrame_window : SlotFrame fun m m' : Machine =>
    m' = { m with slots := m'.slots, lists := m'.lists, aborted := m'.aborted } where
  refl _ := rfl
  trans h h' := by rw [h', h]
  ensure _ _ := rfl
  setBool _ _ _ := rfl
  setNumber _ _ _ := rfl
  setBytes _ _ _ := rfl
  setPinned _ _ _ := rfl
  setNull _ _ := rfl
  setNewList _ _ := rfl
  getElement _ _ _ _ := rfl
  -- An insertion changes a list, or fails and changes nothing.
  insertElement {m m' slot index element} h := by
    simp only [Slots.insertElement] at h
    split at h
    · cases h
      rfl
    · split at h
      · cases h
        rfl
      · cases h
  getVariable {m m' module name slot} h := by
    simp only [Slots.getVariable, bind, Except.bind] at h
    split at h
    · cases h
    · split at h <;> cases h
      rfl
  abort _ _ := rfl

theorem slotFrame_adds : SlotFrame Machine.Adds :=
  slotFrame_window.mono (fun _ _ h => by rw [h]; exact .of_same rfl rfl rfl) .trans

end Machine

/-- A relation between two hosts of a machine that nothing a script does breaks. -/
structure Simulation {H H' : Type} [Host H] [Host H'] (fair : Token → Prop)
    (R : List ScriptValue → World (H × H') Machine → Prop) : Prop where
  scripts {held : List ScriptValue} {w : World (H × H') Machine} :
    R held w → ∀ token ∈ w.vm.forged, fair token
  move {held held' : List ScriptValue} {w : World (H × H') Machine} {v : Machine} :
    w.vm.Moves held v held' → w.vm.Adds v → R held w → R held' { w with vm := v }
  forge {held : List ScriptValue} {w : World (H × H') Machine} {token : Token}
    (info : ClassInfo) : fair token → R held w →
    R ((w.vm.newInstance token info).1 :: held) { w with vm := (w.vm.newInstance token info).2 }
  bindMethod {held : List ScriptValue} {w : World (H × H') Machine} (module className : String)
    (isStatic : Bool) (signature : String) : R held w →
    Agrees (Host.bindMethod module className isStatic signature)
      (Host.bindMethod module className isStatic signature) w (fun _ => R held) (R [])
  bindClass {held : List ScriptValue} {w : World (H × H') Machine} (module className : String) :
    R held w → Agrees (Host.bindClass module className) (Host.bindClass module className) w
      (fun _ => R held) (R [])
  invoke {held : List ScriptValue} {w : World (H × H') Machine} (id : Nat) :
    R held w → Agrees (Host.invoke id) (Host.invoke id) w (fun _ => R held) (R [])
  allocate {held : List ScriptValue} {w : World (H × H') Machine} (id : Nat) :
    R held w → Agrees (Host.allocate id) (Host.allocate id) w (fun _ => R held) (R [])
  write {held : List ScriptValue} {w : World (H × H') Machine} (text : String) :
    R held w → Agrees (Host.write text) (Host.write text) w (fun _ => R held) (R [])
  report {held : List ScriptValue} {w : World (H × H') Machine} (event : StackFrame) :
    R held w → Agrees (Host.report event) (Host.report event) w (fun _ => R held) (R [])
  collect {w : World (H × H') Machine} : R [] w →
    Agrees InMemory.collectGarbage InMemory.collectGarbage w (fun _ => R []) (R [])

namespace Simulation

variable {H H' : Type} [Host H] [Host H'] {fair : Token → Prop}
  {R : List ScriptValue → World (H × H') Machine → Prop} {held : List ScriptValue}
  {w : World (H × H') Machine}

theorem forget (hS : Simulation fair R) {held' : List ScriptValue}
    (hsub : ∀ v ∈ held', v ∈ held) (hw : R held w) : R held' w :=
  hS.move (.forget w.vm hsub) (.refl _) hw

theorem forgetAll (hS : Simulation fair R) (hw : R held w) : R [] w :=
  hS.forget (fun _ h => by cases h) hw

theorem hold (hS : Simulation fair R) {values : List ScriptValue}
    (hvalues : ∀ v ∈ values, w.vm.Known held v) (hw : R held w) : R (values ++ held) w :=
  hS.move (.hold w.vm hvalues) (.refl _) hw

theorem holdOne (hS : Simulation fair R) {v : ScriptValue} (hv : w.vm.Known held v)
    (hw : R held w) : R (v :: held) w := by
  have hknown : ∀ u ∈ [v], w.vm.Known held u := by simpa using hv
  exact hS.hold hknown hw

theorem note (hS : Simulation fair R) {entry : Entry} (hentry : entry.isScripts = true)
    (hw : R held w) :
    Agrees (World.note entry) (World.note entry) w (fun _ => R held) (R []) :=
  .onVm (hS.move ((Machine.windowFrame_moves held).note w.vm entry) (.note w.vm hentry) hw)

/-- Several expressions leave their values in hand if each does. -/
theorem evalAll (hS : Simulation fair R) (module : String) {es : List Expr}
    (heval : ∀ e ∈ es, ∀ {held : List ScriptValue} {w : World (H × H') Machine},
      (∀ token ∈ e.forged, fair token) → R held w →
        R ((w.vm.eval module e).1 :: held) { w with vm := (w.vm.eval module e).2 })
    (hfair : ∀ token ∈ Expr.forged.forgedAll es, fair token) (hw : R held w) :
    R ((Machine.eval.evalAll module w.vm es).1 ++ held)
      { w with vm := (Machine.eval.evalAll module w.vm es).2 } := by
  induction es generalizing held w with
  | nil =>
    simp only [Machine.eval.evalAll]
    exact hw
  | cons e es ih =>
    -- The first value stays in hand while the others are evaluated.
    have hhead := heval e List.mem_cons_self
      (fun token h => hfair token (List.mem_append_left _ h)) hw
    have htail := ih (fun e' he' => heval e' (List.mem_cons_of_mem _ he'))
      (fun token h => hfair token (List.mem_append_right _ h)) hhead
    simp only [Machine.eval.evalAll]
    refine hS.forget ?_ htail
    intro v hv
    simp only [List.cons_append, List.mem_cons, List.mem_append] at hv ⊢
    rcases hv with hv | hv | hv
    · exact .inr (.inl hv)
    · exact .inl hv
    · exact .inr (.inr hv)

/-- An expression leaves its value in hand. -/
theorem eval (hS : Simulation fair R) (module : String) :
    ∀ (e : Expr) {held : List ScriptValue} {w : World (H × H') Machine},
      (∀ token ∈ e.forged, fair token) → R held w →
        R ((w.vm.eval module e).1 :: held) { w with vm := (w.vm.eval module e).2 }
  | .list es, held, w, hfair, hw => by
    -- The elements are in hand until the list that holds them is made.
    have hall := hS.evalAll module (fun e _ => hS.eval module e) hfair hw
    simp only [Machine.eval]
    exact hS.move (w := { w with vm := (Machine.eval.evalAll module w.vm es).2 }) (.newList _)
      (.of_same rfl rfl rfl) hall
  | .foreign token, held, w, hfair, hw => by
    simp only [Machine.eval]
    exact hS.forge _ (hfair token (by simp [Expr.forged])) hw
  | .named other name, held, w, hfair, hw => by
    simp only [Machine.eval]
    exact hS.holdOne (.variable _ _) hw
  | .slot i, held, w, hfair, hw => by
    simp only [Machine.eval]
    exact hS.holdOne (.slot _) hw
  | .null, held, w, hfair, hw => by
    simp only [Machine.eval]
    exact hS.holdOne trivial hw
  | .bool b, held, w, hfair, hw => by
    simp only [Machine.eval]
    exact hS.holdOne trivial hw
  | .num x, held, w, hfair, hw => by
    simp only [Machine.eval]
    exact hS.holdOne trivial hw
  | .string b, held, w, hfair, hw => by
    simp only [Machine.eval]
    exact hS.holdOne trivial hw
  | .callHandle s, held, w, hfair, hw => by
    simp only [Machine.eval]
    exact hS.holdOne trivial hw

theorem evaluate (hS : Simulation fair R) (module : String) {e : Expr}
    (hfair : ∀ token ∈ e.forged, fair token) (hw : R held w) :
    Agrees (InMemory.evaluate module e) (InMemory.evaluate module e) w
      (fun v => R (v :: held)) (R []) :=
  Agrees.modifyGet rfl rfl (hS.eval module e hfair hw)

theorem evaluateAll (hS : Simulation fair R) (module : String) {es : List Expr}
    (hfair : ∀ token ∈ Expr.forged.forgedAll es, fair token) (hw : R held w) :
    Agrees (InMemory.evaluateAll module es) (InMemory.evaluateAll module es) w
      (fun vs => R (vs ++ held)) (R []) := by
  induction es generalizing held w with
  | nil => exact .pure hw
  | cons e es ih =>
    have hhead := hS.evaluate module (fun token h => hfair token (List.mem_append_left _ h)) hw
    refine Agrees.bind hhead fun v w' hw' => ?_
    refine Agrees.bind (ih (fun token h => hfair token (List.mem_append_right _ h)) hw')
      fun vs w'' hw'' => ?_
    -- The values are held in the order in which they were found, which is not that of the answer.
    refine Agrees.pure (hS.forget ?_ hw'')
    intro u hu
    simp only [List.cons_append, List.mem_cons, List.mem_append] at hu ⊢
    rcases hu with hu | hu | hu
    · exact .inr (.inl hu)
    · exact .inl hu
    · exact .inr (.inr hu)

theorem raise (hS : Simulation fair R) (error : ScriptValue) (trace : List TraceLine)
    (hw : R held w) :
    Agrees (InMemory.raise error trace) (InMemory.raise error trace) w
      (fun _ => R held) (R []) := by
  unfold InMemory.raise
  refine Agrees.bind (hS.report _ hw) fun _ w' hw' => ?_
  exact Agrees.bind (Agrees.forM (fun _ _ w'' hw'' => hS.report _ hw'') hw') fun _ _ h => .pure h

/-- The answer of a call is taken out of the window. -/
theorem finishCall (hS : Simulation fair R) (hw : R held w) :
    Agrees InMemory.finishCall InMemory.finishCall w
      (fun r => R (outcomeValue r :: held)) (R []) := by
  -- The answer is taken in hand before the window lets go of it.
  have hclear : ∀ v, w.vm.Known held v →
      R (v :: held) { w with vm := { w.vm with slots := [], aborted := none } } := by
    intro v hv
    refine hS.move (.giveUp ?_ ?_ ?_ ?_) (.of_same rfl rfl rfl) (hS.holdOne hv hw)
    · simp
    · exact fun _ h => h
    · simp
    · exact fun _ h => h
  unfold InMemory.finishCall
  refine Agrees.modifyGet rfl rfl ?_
  dsimp only [World.first]
  cases haborted : w.vm.aborted with
  | none => exact hclear _ (.slot 0)
  | some error => exact hclear error (.of_root (.aborted haborted))

/-- The window is made up of the receiver and the arguments in hand. -/
theorem enterCall (hS : Simulation fair R) {on : ScriptValue} {args : List ScriptValue}
    (hw : R (args ++ on :: held) w) :
    R held { w with vm := { w.vm with slots := on :: args } } := by
  have hslots : ∀ v ∈ on :: args, w.vm.Known (args ++ on :: held) v := by
    intro v hv
    refine .of_held ?_
    rcases List.mem_cons.mp hv with rfl | hv
    · simp
    · simp [hv]
  have hset := hS.move (.setSlots hslots) (.of_same rfl rfl rfl) hw
  exact hS.forget (by simp +contextual) hset

theorem construct (hS : Simulation fair R) {on : ScriptValue} {args : List ScriptValue}
    (hw : R (args ++ on :: held) w) :
    Agrees (InMemory.construct on args) (InMemory.construct on args) w
      (fun r => R (outcomeValue r :: held)) (R []) := by
  unfold InMemory.construct
  refine Agrees.get_bind ?_
  dsimp only [World.first, World.second]
  cases (w.vm.classOf? on).bind (·.allocator) with
  | none => exact .pure (hS.holdOne trivial (hS.forget (by simp +contextual) hw))
  | some allocator =>
    refine Agrees.bind (m := fun _ => R held) (Agrees.onVm (hS.enterCall hw)) fun _ w' hw' => ?_
    exact Agrees.bind (hS.allocate _ hw') fun _ w'' hw'' => hS.finishCall hw''

/-- An invocation. -/
theorem invokeOn (hS : Simulation fair R) {on : ScriptValue} (isStatic : Bool)
    (signature : String) {args : List ScriptValue} (hw : R (args ++ on :: held) w) :
    Agrees (InMemory.invoke on isStatic signature args)
      (InMemory.invoke on isStatic signature args) w
      (fun r => R (outcomeValue r :: held)) (R []) := by
  unfold InMemory.invoke
  refine Agrees.get_bind ?_
  dsimp only [World.first, World.second]
  cases (w.vm.classOf? on).bind (·.methods.lookup (isStatic, signature)) with
  | none => exact .pure (hS.holdOne trivial (hS.forget (by simp +contextual) hw))
  | some method =>
    refine Agrees.bind (m := fun _ => R held) (Agrees.onVm (hS.enterCall hw)) fun _ w' hw' => ?_
    exact Agrees.bind (hS.invoke _ hw') fun _ w'' hw'' => hS.finishCall hw''

theorem noteValue (hS : Simulation fair R) {heading : Shown → Entry}
    (hheading : ∀ v, (heading v).isScripts = true) (value : ScriptValue) (hw : R held w) :
    Agrees (InMemory.noteValue heading value) (InMemory.noteValue heading value) w
      (fun _ => R held) (R []) := by
  unfold InMemory.noteValue
  exact Agrees.get_bind (hS.note (hheading _) hw)

theorem defineVariable (hS : Simulation fair R) (module name : String) {v : ScriptValue}
    (hw : R (v :: held) w) :
    R (v :: held) { w with vm := w.vm.defineVariable module name v } :=
  hS.move (.defineVariable module name (.of_held (by simp))) (.of_same rfl rfl rfl) hw

theorem conclude (hS : Simulation fair R) (module : String) (store : Option String)
    (catches : Bool) (trace : List TraceLine) {r : Except ScriptValue ScriptValue}
    (hw : R [outcomeValue r] w) :
    Agrees (InMemory.conclude module store catches trace r)
      (InMemory.conclude module store catches trace r) w
      (fun _ => R []) (R []) := by
  cases r with
  | ok value =>
    unfold InMemory.conclude
    refine Agrees.bind (hS.noteValue (fun _ => rfl) _ hw) fun _ w₁ h₁ => ?_
    dsimp only
    cases store with
    | none => exact .pure (hS.forgetAll h₁)
    | some name =>
      have hdefined := hS.forgetAll (hS.defineVariable module name h₁)
      exact Agrees.bind (m := fun _ => R []) (Agrees.onVm hdefined) fun _ _ h => .pure h
  | error error =>
    simp only [InMemory.conclude]
    -- An error that the script does not catch ends it, and is reported with its trace.
    split
    · exact Agrees.bind (hS.noteValue (fun _ => rfl) _ hw) fun _ w₁ h₁ =>
        Agrees.pure (hS.forgetAll h₁)
    · exact Agrees.bind (hS.raise error trace hw) fun _ w₁ h₁ => .pure (hS.forgetAll h₁)

theorem bindMethods (hS : Simulation fair R) (module className : String)
    (methods : List (Bool × String)) (bound : List ((Bool × String) × Nat)) (hw : R held w) :
    Agrees (InMemory.bindMethods module className methods bound)
      (InMemory.bindMethods module className methods bound) w
      (fun _ => R held) (R []) := by
  induction methods generalizing bound w with
  | nil => exact .pure hw
  | cons m methods ih =>
    obtain ⟨isStatic, signature⟩ := m
    unfold InMemory.bindMethods
    refine Agrees.bind (hS.bindMethod _ _ _ _ hw) fun answer w₁ h₁ => ?_
    cases answer with
    | none => exact .pure h₁
    | some id => exact ih _ h₁

theorem declareClass (hS : Simulation fair R) (module className : String)
    (methods : List (Bool × String)) (hw : R [] w) :
    Agrees (InMemory.declareClass module className methods)
      (InMemory.declareClass module className methods) w
      (fun _ => R []) (R []) := by
  unfold InMemory.declareClass
  refine Agrees.bind (hS.bindClass _ _ hw) fun allocator w₁ h₁ => ?_
  refine Agrees.bind (hS.bindMethods _ _ _ _ h₁) fun answer w₂ h₂ => ?_
  cases answer with
  | error signature => exact Agrees.bind (hS.raise _ _ h₂) fun _ _ h => .pure h
  | ok bound =>
    have hheld := hS.holdOne (v := .classOf ⟨className, allocator, bound⟩) trivial h₂
    exact Agrees.onVm_bind (.pure (hS.forgetAll (hS.defineVariable module className hheld)))

/-- What calling by a raw handle does agrees, under one host and under the other. -/
def Nested (R : List ScriptValue → World (H × H') Machine → Prop)
    (nested : RawHandle → Turn H InterpretResult)
    (nested' : RawHandle → Turn H' InterpretResult) : Prop :=
  ∀ method {w}, R [] w → Agrees (nested method) (nested' method) w (fun _ => R []) (R [])

variable {nested : RawHandle → Turn H InterpretResult}
  {nested' : RawHandle → Turn H' InterpretResult}

/-- A step on the machine; `nested` is what calling by a raw handle does. -/
theorem runMachineStep (hS : Simulation fair R)
    (hnested : Nested R nested nested') {step : MachineStep}
    (hfair : ∀ token ∈ step.forged, fair token) (hw : R [] w) :
    Agrees (InMemory.runMachineStep nested step) (InMemory.runMachineStep nested' step) w
      (fun _ => R []) (R []) := by
  cases step with
  | abortMessage => exact .get_bind (.pure hw)
  | liveInstances => exact .get_bind (.pure hw)
  | call handle => exact Agrees.bind (hnested handle hw) fun _ _ h => .pure h
  | setForeign slot token =>
    have hnew := hS.forge ⟨"Foreign", none, []⟩ (hfair token (by simp [MachineStep.forged])) hw
    exact Agrees.onVm_bind (.pure (hS.forgetAll (hS.move
      (w := { w with vm := (w.vm.newInstance token ⟨"Foreign", none, []⟩).2 })
      (.setSlot slot (.of_held (.head _))) (.of_same rfl rfl rfl) hnew)))
  | window step =>
    unfold InMemory.runMachineStep
    refine Agrees.onVm? (fun reply vm hstep => ?_) fun _ _ => hw
    -- One step makes an instance, and may forge it; all others are moves.
    by_cases hnew : ∃ slot classSlot token, step = .setNewForeign slot classSlot token
    · obtain ⟨slot, classSlot, token, rfl⟩ := hnew
      have hforged := hfair token (by simp [MachineStep.forged])
      simp only [WindowStep.run, Slots.setNewForeign] at hstep
      split at hstep
      · rename_i info _
        cases hstep
        exact hS.forgetAll (hS.move
          (w := { w with vm := (w.vm.newInstance token info).2 })
          (.setSlot slot (.of_held (.head _))) (.of_same rfl rfl rfl) (hS.forge info hforged hw))
      · cases hstep
    · have hother : ∀ slot classSlot token, step ≠ .setNewForeign slot classSlot token := by
        rintro slot classSlot token rfl
        exact hnew ⟨slot, classSlot, token, rfl⟩
      have hmoves := (Machine.windowFrame_moves []).toSlotFrame.step
        (fun _ slot => .pin (.slot slot)) hother hstep
      exact hS.move hmoves (Machine.slotFrame_adds.step (fun m slot => .pin m _) hother hstep) hw

/-- A step of a script. -/
theorem runStep (hS : Simulation fair R)
    (hnested : Nested R nested nested') (module : String) {step : ScriptStep}
    (hfair : ∀ token ∈ step.forged, fair token) (hw : R [] w) :
    Agrees (InMemory.runStep nested module step) (InMemory.runStep nested' module step) w
      (fun _ => R []) (R []) := by
  cases step with
  | define name e =>
    refine Agrees.bind (hS.evaluate module hfair hw) fun v w₁ h₁ => ?_
    exact Agrees.onVm_bind (.pure (hS.forgetAll (hS.defineVariable module name h₁)))
  | declare className methods =>
    refine Agrees.bind (hS.declareClass module className methods hw) fun answer w₁ h₁ => ?_
    cases answer with
    | error result => exact .pure h₁
    | ok value => exact Agrees.bind (hS.noteValue (fun _ => rfl) _ h₁) fun _ _ h => .pure h
  | construct on args store catches trace =>
    -- The receiver stays in hand while the arguments are evaluated.
    refine Agrees.bind (hS.evaluate module
      (fun token h => hfair token (List.mem_append_left _ h)) hw) fun v w₁ h₁ => ?_
    refine Agrees.bind (hS.evaluateAll module
      (fun token h => hfair token (List.mem_append_right _ h)) h₁) fun vs w₂ h₂ => ?_
    exact Agrees.bind (hS.construct h₂) fun r w₃ h₃ =>
      hS.conclude module store catches trace h₃
  | invoke on isStatic signature args store catches trace =>
    refine Agrees.bind (hS.evaluate module
      (fun token h => hfair token (List.mem_append_left _ h)) hw) fun v w₁ h₁ => ?_
    refine Agrees.bind (hS.evaluateAll module
      (fun token h => hfair token (List.mem_append_right _ h)) h₁) fun vs w₂ h₂ => ?_
    exact Agrees.bind (hS.invokeOn isStatic signature h₂) fun r w₃ h₃ =>
      hS.conclude module store catches trace h₃
  | print text =>
    refine Agrees.bind (hS.write text hw) fun _ w₁ h₁ => ?_
    exact Agrees.bind (hS.write "\n" h₁) fun _ _ h => .pure h
  | raise e trace =>
    refine Agrees.bind (hS.evaluate module hfair hw) fun v w₁ h₁ => ?_
    exact Agrees.bind (hS.raise v trace h₁) fun _ w₂ h₂ => .pure (hS.forgetAll h₂)
  | report event => exact Agrees.bind (hS.report event hw) fun _ _ h => .pure h
  | collectGarbage => exact Agrees.bind (hS.collect hw) fun _ _ h => .pure h
  | window => exact Agrees.get_bind (Agrees.bind (hS.note rfl hw) fun _ _ h => .pure h)
  | slot step =>
    refine Agrees.bind (hS.runMachineStep hnested hfair hw) fun reply w₁ h₁ => ?_
    exact Agrees.bind (hS.note rfl h₁) fun _ _ h => .pure h
  | finish result => exact .pure hw

/-- A script. -/
theorem runScript (hS : Simulation fair R)
    (hnested : Nested R nested nested') (module : String) {script : Script}
    (hfair : ∀ step ∈ script, ∀ token ∈ ScriptStep.forged step, fair token) (hw : R [] w) :
    Agrees (InMemory.runScript nested module script) (InMemory.runScript nested' module script) w
      (fun _ => R []) (R []) := by
  induction script generalizing w with
  | nil => exact .pure hw
  | cons step steps ih =>
    unfold InMemory.runScript
    refine Agrees.bind (hS.runStep hnested module (hfair step (by simp)) hw) fun answer w₁ h₁ => ?_
    cases answer with
    | some result => exact .pure h₁
    | none => exact ih (fun step' h => hfair step' (by simp [h])) h₁

/-- The scripts of a machine forge nothing unfair. -/
theorem script_fair (hS : Simulation fair R) {name : String} {script : Script} (hw : R held w)
    (hscript : w.vm.scripts.lookup name = some script ∨ w.vm.methods.lookup name = some script) :
    ∀ step ∈ script, ∀ token ∈ ScriptStep.forged step, fair token := by
  intro step hstep token htoken
  refine hS.scripts hw token ?_
  have hmem : (name, script) ∈ w.vm.scripts ++ w.vm.methods := by
    rcases hscript with hlookup | hlookup <;>
      obtain ⟨before, after, heq, -⟩ := List.lookup_eq_some_iff.mp hlookup <;>
      simp [heq]
  rw [Machine.forged, List.mem_flatMap]
  exact ⟨(name, script), hmem, List.mem_flatMap.mpr ⟨step, hstep, htoken⟩⟩

/-- Receiver and arguments of a call are in the window, so they are known when they leave it. -/
theorem known_of_call (m : Machine) (arity : Nat) :
    ∀ v ∈ m.slot 0 :: (m.slots.drop 1).take arity, m.Known [] v := by
  intro v hv
  rcases List.mem_cons.mp hv with rfl | hv
  · exact .slot 0
  · exact .of_root (.slot (List.mem_of_mem_drop (List.mem_of_mem_take hv)))

/-- A call of a method that a script has defined, its receiver and arguments kept meanwhile. -/
theorem callScripted (hS : Simulation fair R) (hnested : Nested R nested nested')
    {script : Script} (hfair : ∀ step ∈ script, ∀ token ∈ ScriptStep.forged step, fair token)
    {values : List ScriptValue} (hvalues : ∀ v ∈ values, w.vm.Known [] v) (hw : R [] w) :
    Agrees
      (do
        World.onVm fun m => { m with running := values :: m.running }
        let result ← InMemory.runScript nested "main" script
        World.onVm fun m => { m with running := m.running.drop 1, slots := m.slots.take 1 }
        pure result)
      (do
        World.onVm fun m => { m with running := values :: m.running }
        let result ← InMemory.runScript nested' "main" script
        World.onVm fun m => { m with running := m.running.drop 1, slots := m.slots.take 1 }
        pure result) w (fun _ => R []) (R []) := by
  have hpush := hS.move (.pushRunning hvalues) (.of_same rfl rfl rfl) hw
  refine Agrees.onVm_bind ?_
  refine Agrees.bind (hS.runScript hnested "main" hfair hpush) fun result w₁ h₁ => ?_
  -- Once it is done they are given up, and so is the window but for the answer.
  refine Agrees.onVm_bind (.pure ?_)
  refine hS.move (.giveUp ?_ ?_ ?_ ?_) (.of_same rfl rfl rfl) h₁
  · exact fun _ h => List.mem_of_mem_take h
  · exact fun _ h => h
  · exact fun _ h => h
  · exact fun _ h => List.mem_of_mem_drop h

/-- A call by raw handle; `nested` is what calls within it do. -/
theorem callHandle (hS : Simulation fair R) (hnested : Nested R nested nested')
    (method : RawHandle) (hw : R [] w) :
    Agrees (InMemory.callHandle nested method) (InMemory.callHandle nested' method) w
      (fun _ => R []) (R []) := by
  unfold InMemory.callHandle
  refine Agrees.get_bind ?_
  dsimp only [World.first, World.second]
  -- Both runs look at the same machine, so they go the same way.
  cases w.vm.pinned? method with
  | none => exact hS.raise _ _ hw
  | some pinned =>
    cases pinned
    case callHandle signature =>
      have hcall := known_of_call w.vm (callArity signature)
      dsimp only
      by_cases hshort : w.vm.slots.length ≤ callArity signature
      · simp only [hshort, ↓reduceIte]
        exact Agrees.bind (Agrees.throw hw) fun _ _ h => h
      · simp only [hshort, ↓reduceIte]
        cases (w.vm.classOf? (w.vm.slot 0)).isSome with
        | true =>
          simp only [↓reduceIte]
          have hheld := hS.hold (fun v hv => hcall v
            ((List.perm_append_singleton _ _).subset hv)) hw
          rw [List.append_assoc] at hheld
          refine Agrees.bind (hS.invokeOn _ _ hheld) fun r w₁ h₁ => ?_
          cases r with
          | error error =>
            exact (hS.raise _ _ h₁).mono (fun _ _ h => hS.forgetAll h) fun _ h => h
          | ok value =>
            have hknown : ∀ v ∈ [value], w₁.vm.Known [value] v := fun v hv => .of_held hv
            have hset := hS.move (.setSlots hknown) (.of_same rfl rfl rfl) h₁
            exact Agrees.onVm_bind (.pure (hS.forgetAll hset))
        | false =>
          simp only [Bool.false_eq_true, ↓reduceIte]
          cases hscript : w.vm.methods.lookup signature with
          | none => exact hS.raise _ _ hw
          | some script =>
            exact hS.callScripted hnested (hS.script_fair hw (.inr hscript)) hcall hw
    all_goals exact hS.raise _ _ hw

theorem callNested (hS : Simulation fair R) (depth : Nat) :
    ∀ (method : RawHandle) {w : World (H × H') Machine}, R [] w →
      Agrees (InMemory.callNested depth method) (InMemory.callNested depth method) w
        (fun _ => R []) (R []) := by
  -- What runs at one depth calls at the depth below.
  induction depth with
  | zero => exact fun method w hw => Agrees.throw hw
  | succ depth ih => exact fun method w hw => hS.callHandle ih method hw

theorem call (hS : Simulation fair R) (method : RawHandle) (hw : R [] w) :
    Agrees (InMemory.call method) (InMemory.call method) w (fun _ => R []) (R []) :=
  hS.callNested callDepth method hw

/-- Running the script of a source text. -/
theorem interpret (hS : Simulation fair R) (module source : String) (hw : R [] w) :
    Agrees (InMemory.interpret module source) (InMemory.interpret module source) w
      (fun _ => R []) (R []) := by
  unfold InMemory.interpret
  split
  · exact .pure hw
  · exact .pure hw
  · have hstart : R [] { w with vm := { w.vm with slots := [], aborted := none } } := by
      refine hS.move (.giveUp ?_ ?_ ?_ ?_) (.of_same rfl rfl rfl) hw
      · simp
      · exact fun _ h => h
      · simp
      · exact fun _ h => h
    -- Before and after a source the window is empty.
    have hend : ∀ {v : World (H × H') Machine}, R [] v →
        R [] { v with vm := { v.vm with slots := [] } } :=
      fun hv => hS.move (.setSlots (by simp)) (.of_same rfl rfl rfl) hv
    refine Agrees.onVm_bind (Agrees.get_bind ?_)
    dsimp only [World.first, World.second]
    cases hscript : w.vm.scripts.lookup source with
    | some script =>
      have hfair := hS.script_fair hstart (.inl hscript)
      exact Agrees.bind (hS.runScript (fun method _ h => hS.call method h) module hfair hstart)
        fun _ _ h => Agrees.onVm_bind (.pure (hend h))
    | none =>
      refine Agrees.bind (hS.report _ hstart) fun _ _ h => ?_
      exact Agrees.bind (Agrees.pure h) fun _ _ h => Agrees.onVm_bind (.pure (hend h))

end Simulation

end InMemory

end ScriptHost
