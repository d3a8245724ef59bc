/-
States in the midst of a run.

A run of scripts takes host and machine through many states before it is over, and every
callback starts from one of them.  `During start held w` says that a run begun at `start` may
come through `w`, with the values `held` in hand: scripts move on, forge instances, collect
garbage and call their host, in any order.  `Continues` says the same of a run that is under way
already, and `InCall start s` says that a member called meanwhile may come through `s`.

* **`Invariant.during`** — what nothing a script does breaks holds in all these states.
-/
import ScriptHost.HostState
import ScriptHost.Proofs.ScriptInvariant

namespace ScriptHost.InMemory

open Run

/-- What a script asks of its host, by what it is answered. -/
inductive HostCall : Type → Type
  | bindMethod (module className : String) (isStatic : Bool) (signature : String) :
    HostCall (Option Nat)
  | bindClass (module className : String) : HostCall (Option Nat)
  | invoke (id : Nat) : HostCall Unit
  | allocate (id : Nat) : HostCall Unit
  | write (text : String) : HostCall Unit
  | report (event : StackFrame) : HostCall Unit

section

variable {H : Type} [Host H]

def HostCall.perform {α : Type} : HostCall α → Turn H α
  | .bindMethod module className isStatic signature =>
    Host.bindMethod module className isStatic signature
  | .bindClass module className => Host.bindClass module className
  | .invoke id => Host.invoke id
  | .allocate id => Host.allocate id
  | .write text => Host.write text
  | .report event => Host.report event

/-- The states a run may still come through that has come to `start` with the values `held₀` in
hand, with the values in hand in each besides the machine's own. -/
inductive Continues (held₀ : List ScriptValue) (start : World H Machine) :
    List ScriptValue → World H Machine → Prop
  | start : Continues held₀ start held₀ start
  | move {held held' : List ScriptValue} {w : World H Machine} {v : Machine} :
    Continues held₀ start held w → w.vm.Moves held v held' → w.vm.Adds v →
    Continues held₀ start held' { w with vm := v }
  | forge {held : List ScriptValue} {w : World H Machine} (token : Token) (info : ClassInfo) :
    Continues held₀ start held w →
    Continues held₀ start ((w.vm.newInstance token info).1 :: held)
      { w with vm := (w.vm.newInstance token info).2 }
  | answered {α : Type} {held : List ScriptValue} {w v : World H Machine} (c : HostCall α)
    {a : α} : Continues held₀ start held w → c.perform w = (.ok a, v) →
    Continues held₀ start held v
  /-- After a panic nothing is in hand any more. -/
  | panicked {α : Type} {held : List ScriptValue} {w v : World H Machine} (c : HostCall α)
    {p : Panic} : Continues held₀ start held w → c.perform w = (.error p, v) →
    Continues held₀ start [] v
  | collected {w v : World H Machine} {outcome : Except Panic Unit} :
    Continues held₀ start [] w → InMemory.collectGarbage w = (outcome, v) →
    Continues held₀ start [] v

/-- The states a run of scripts may come through from its beginning. -/
abbrev During (start : World H Machine) : List ScriptValue → World H Machine → Prop :=
  Continues [] start

variable {I : List ScriptValue → World H Machine → Prop} {start w : World H Machine}
  {held₀ held : List ScriptValue}

/-- Every callback keeps what nothing a script does breaks. -/
theorem Invariant.perform {fair : Token → Prop} (hI : Invariant fair I) {α : Type}
    (c : HostCall α) (hw : I held w) : Leads c.perform w (fun _ => I held) (I []) := by
  cases c with
  | bindMethod module className isStatic signature =>
    exact hI.bindMethod module className isStatic signature hw
  | bindClass module className => exact hI.bindClass module className hw
  | invoke id => exact hI.invoke id hw
  | allocate id => exact hI.allocate id hw
  | write text => exact hI.write text hw
  | report event => exact hI.report event hw

/-- What nothing a script does breaks holds in the midst of every run. -/
theorem Invariant.during (hI : Invariant (fun _ => True) I) (hstart : I held₀ start)
    (h : Continues held₀ start held w) : I held w := by
  -- By induction on the way the run came here; every step of it is one the invariant survives.
  induction h with
  | start => exact hstart
  | move _ hmoves hadds ih => exact hI.move hmoves hadds ih
  | forge token info _ ih => exact hI.forge info trivial ih
  | answered c _ hrun ih => exact (hI.perform c ih).of_ok hrun
  | panicked c _ hrun ih => exact (hI.perform c ih).of_error hrun
  | collected _ hrun ih =>
    have hends := (hI.collect ih).ends
    rw [hrun] at hends
    exact hends

end

/-- The states a hand-written member may come through that is called in the midst of a run. -/
def InCall (start : World HostState Machine) (s : CallState Finalizer Machine) : Prop :=
  ∃ held w allocating program, During start held w ∧
    s = (runActions program (HostState.callState w allocating)).2

end ScriptHost.InMemory
