/-
What survives the running of scripts.

`Invariant fair I` asks that `I` survives each thing a script does: moves that add to what is
pinned and to the record, callbacks, collections and forgeries, where only tokens that are
`fair` are forged and `I held world` may speak of the values held besides the machine's own.
A host simulates itself as far as `I` goes (**`Invariant.simulation`**), so `I` survives every
run of the machine's entry points, also when calls nest and when they panic:

* **`Invariant.call`**, **`Invariant.interpret`**.
-/
import ScriptHost.Proofs.ScriptSimulation

namespace ScriptHost.InMemory

open Run

/-- A property of host and machine that nothing a script does breaks. -/
structure Invariant {H : Type} [Host H] (fair : Token → Prop)
    (I : List ScriptValue → World H Machine → Prop) : Prop where
  scripts {held : List ScriptValue} {w : World H Machine} :
    I held w → ∀ token ∈ w.vm.forged, fair token
  move {held held' : List ScriptValue} {w : World H Machine} {v : Machine} :
    w.vm.Moves held v held' → w.vm.Adds v → I held w → I held' { w with vm := v }
  forge {held : List ScriptValue} {w : World H Machine} {token : Token} (info : ClassInfo) :
    fair token → I held w →
    I ((w.vm.newInstance token info).1 :: held) { w with vm := (w.vm.newInstance token info).2 }
  bindMethod {held : List ScriptValue} {w : World H Machine} (module className : String)
    (isStatic : Bool) (signature : String) : I held w →
    Leads (Host.bindMethod module className isStatic signature) w (fun _ => I held) (I [])
  bindClass {held : List ScriptValue} {w : World H Machine} (module className : String) :
    I held w → Leads (Host.bindClass module className) w (fun _ => I held) (I [])
  invoke {held : List ScriptValue} {w : World H Machine} (id : Nat) :
    I held w → Leads (Host.invoke id) w (fun _ => I held) (I [])
  allocate {held : List ScriptValue} {w : World H Machine} (id : Nat) :
    I held w → Leads (Host.allocate id) w (fun _ => I held) (I [])
  write {held : List ScriptValue} {w : World H Machine} (text : String) :
    I held w → Leads (Host.write text) w (fun _ => I held) (I [])
  report {held : List ScriptValue} {w : World H Machine} (event : StackFrame) :
    I held w → Leads (Host.report event) w (fun _ => I held) (I [])
  collect {w : World H Machine} :
    I [] w → Leads InMemory.collectGarbage w (fun _ => I []) (I [])

namespace Invariant

variable {H : Type} [Host H] {fair : Token → Prop}
  {I : List ScriptValue → World H Machine → Prop}

/-- A host and itself, side by side. -/
theorem simulation (hI : Invariant fair I) :
    Simulation fair fun held (w : World (H × H) Machine) =>
      w.host.2 = w.host.1 ∧ I held w.first where
  scripts hw := hI.scripts hw.2
  move {_ _ w _} hm hadds hw := ⟨hw.1, hI.move (w := w.first) hm hadds hw.2⟩
  forge {_ w _} info hfair hw := ⟨hw.1, hI.forge (w := w.first) info hfair hw.2⟩
  bindMethod module className isStatic signature hw :=
    (hI.bindMethod module className isStatic signature hw.2).agrees hw.1
  bindClass module className hw := (hI.bindClass module className hw.2).agrees hw.1
  invoke id hw := (hI.invoke id hw.2).agrees hw.1
  allocate id hw := (hI.allocate id hw.2).agrees hw.1
  write text hw := (hI.write text hw.2).agrees hw.1
  report event hw := (hI.report event hw.2).agrees hw.1
  collect hw := (hI.collect hw.2).agrees hw.1

omit [Host H] in
/-- What a run keeps that agrees with itself. -/
theorem leads_of_agrees {α : Type} {run : Turn H α} {w : World H Machine}
    (hrun : Agrees run run ⟨(w.host, w.host), w.vm⟩ (fun _ v => v.host.2 = v.host.1 ∧ I [] v.first)
      fun v => v.host.2 = v.host.1 ∧ I [] v.first) :
    Leads run w (fun _ => I []) (I []) :=
  hrun.leads.mono (fun _ _ ⟨_, _, h⟩ => h) fun _ ⟨_, _, h⟩ => h

theorem call (hI : Invariant fair I) (method : RawHandle) {w : World H Machine} (hw : I [] w) :
    Leads (InMemory.call method) w (fun _ => I []) (I []) :=
  leads_of_agrees (hI.simulation.call method ⟨rfl, hw⟩)

theorem interpret (hI : Invariant fair I) (module source : String) {w : World H Machine}
    (hw : I [] w) : Leads (InMemory.interpret module source) w (fun _ => I []) (I []) :=
  leads_of_agrees (hI.simulation.interpret module source ⟨rfl, hw⟩)

end Invariant

end ScriptHost.InMemory
