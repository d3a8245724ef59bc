/-
What running finalizers comes to.

Finalizers that are due run one after the other, up to the first that panics, and leave their
notes.  Everything that runs some is an equation on host and machine:

* **`HostState.finalize_apply`** — the finalization of one instance;
* **`HostState.clearForeign_apply`** — that of all objects still registered;
* **`VirtualMachine.dispose_apply`** — disposal.  The finalizers run on the machine as it was,
  with all its handles; freeing it finds the table empty, so none runs then.  A panic of theirs
  ends it, and frees the machine on the way out.
-/
import ScriptHost.InMemory.Script
import ScriptHost.Proofs.OperationEquations

namespace ScriptHost

open Run InMemory

/-- A finalizer that ran: what was due, what it was given, and whether the machine had been
freed by then. -/
structure FinalizerRun where
  due : Finalization Finalizer
  given : HostObject
  freed : Bool

/-- The note it left. -/
def FinalizerRun.note (r : FinalizerRun) : String × HostObject × Bool :=
  (r.due.finalizer.name, r.given, r.freed)

/-- The note on the record of the machine. -/
def FinalizerRun.entry (r : FinalizerRun) : Entry :=
  .finalized r.due.finalizer.name r.given r.freed

/-- The finalizers that are started if they run one after the other. -/
def started : List (Finalization Finalizer) → List (Finalization Finalizer)
  | [] => []
  | due :: later => due :: if due.finalizer.panics then [] else started later

/-- What they come to; a finalizer without an object does not run. -/
def finalizerRuns (objects : ObjectStore) (freed : Bool) (due : List (Finalization Finalizer)) :
    List FinalizerRun :=
  due.filterMap fun due => (objects.get? due.object).map fun given => ⟨due, given, freed⟩

theorem prefixOf_started (due : List (Finalization Finalizer)) : started due <+: due := by
  induction due with
  | nil => exact List.prefix_refl _
  | cons due later ih =>
    rw [started, List.prefix_cons_inj]
    split
    · exact List.nil_prefix
    · exact ih

/-- All are started, or the last one started panics. -/
theorem started_eq_or_panics (due : List (Finalization Finalizer)) :
    started due = due ∨ ∃ last ∈ started due, last.finalizer.panics = true := by
  induction due with
  | nil => exact .inl rfl
  | cons due later ih =>
    rw [started]
    cases hpanics : due.finalizer.panics with
    | true => exact .inr ⟨due, List.mem_cons_self, hpanics⟩
    | false =>
      rcases ih with hall | ⟨last, hlast, hpanics⟩
      · exact .inl (congrArg (due :: ·) hall)
      · exact .inr ⟨last, List.mem_cons_of_mem _ hlast, hpanics⟩

/-- Behind finalizers none of which panics, the later ones have their turn. -/
theorem started_append_of_calm {due : List (Finalization Finalizer)}
    (hcalm : ∀ d ∈ due, d.finalizer.panics = false) (later : List (Finalization Finalizer)) :
    started (due ++ later) = due ++ started later := by
  induction due with
  | nil => rfl
  | cons d due ih =>
    rw [List.cons_append, started, hcalm d List.mem_cons_self,
      ih fun d' hd' => hcalm d' (List.mem_cons_of_mem _ hd')]
    rfl

/-- Behind one that panics, none has. -/
theorem started_append_of_panics {due : List (Finalization Finalizer)}
    (hpanics : ∃ d ∈ due, d.finalizer.panics = true) (later : List (Finalization Finalizer)) :
    started (due ++ later) = started due := by
  induction due with
  | nil =>
    obtain ⟨d, hd, -⟩ := hpanics
    cases hd
  | cons d due ih =>
    rw [List.cons_append, started, started]
    cases hd : d.finalizer.panics with
    -- It stops at this one, whatever is behind it.
    | true => rfl
    | false =>
      obtain ⟨d', hd', hpanics⟩ := hpanics
      rcases List.mem_cons.mp hd' with rfl | hlater
      · rw [hd] at hpanics
        cases hpanics
      · rw [ih ⟨d', hlater, hpanics⟩]

/-- Where every object is there, every finalizer runs. -/
theorem map_due_finalizerRuns {objects : ObjectStore} (freed : Bool)
    {due : List (Finalization Finalizer)}
    (hobjects : ∀ d ∈ due, (objects.get? d.object).isSome = true) :
    (finalizerRuns objects freed due).map (·.due) = due := by
  induction due with
  | nil => rfl
  | cons d due ih =>
    obtain ⟨given, hgiven⟩ := Option.isSome_iff_exists.mp (hobjects d List.mem_cons_self)
    rw [finalizerRuns, List.filterMap_cons_some (by rw [hgiven]; rfl), List.map_cons]
    exact congrArg (d :: ·) (ih fun d' hd' => hobjects d' (List.mem_cons_of_mem _ hd'))

theorem mem_finalizerRuns {objects : ObjectStore} {freed : Bool}
    {due : List (Finalization Finalizer)} {r : FinalizerRun} :
    r ∈ finalizerRuns objects freed due ↔
      r.due ∈ due ∧ objects.get? r.due.object = some r.given ∧ r.freed = freed := by
  simp only [finalizerRuns, List.mem_filterMap, Option.map_eq_some_iff]
  constructor
  · rintro ⟨d, hd, given, hgiven, rfl⟩
    exact ⟨hd, hgiven, rfl⟩
  · rintro ⟨hd, hgiven, rfl⟩
    exact ⟨r.due, hd, r.given, hgiven, rfl⟩

/-- What a finalizer put on record: its name, what it was given, and whether the machine had been
freed. -/
def Entry.finalization? : Entry → Option (String × HostObject × Bool)
  | .finalized name object freed => some (name, object, freed)
  | _ => none

namespace InMemory.Machine

/-- The notes finalizers left. -/
def finalizations (m : Machine) : List (String × HostObject × Bool) :=
  m.journal.filterMap Entry.finalization?

/-- The machine once finalizers have left their notes. -/
def noted (m : Machine) (runs : List FinalizerRun) : Machine :=
  { m with journal := m.journal ++ runs.map (·.entry) }

@[simp] theorem noted_nil (m : Machine) : m.noted [] = m := by
  simp [noted]

theorem noted_noted (m : Machine) (runs runs' : List FinalizerRun) :
    (m.noted runs).noted runs' = m.noted (runs ++ runs') := by
  simp [noted]

@[simp] theorem finalizations_noted (m : Machine) (runs : List FinalizerRun) :
    (m.noted runs).finalizations = m.finalizations ++ runs.map (·.note) := by
  have hall : (runs.map (·.entry)).filterMap Entry.finalization? = runs.map (·.note) := by
    rw [List.filterMap_map, ← List.filterMap_eq_map]
    rfl
  rw [finalizations, noted, List.filterMap_append, hall]
  rfl

/-- The machine once it has been freed. -/
def released (m : Machine) : Machine :=
  { m with
    leakedHandles := m.handles.countP (·.isSome)
    slots := []
    globals := []
    handles := []
    tracked := []
    freed := true }

end InMemory.Machine

/-- Finalizers that are due panic if one of them does. -/
def finalizersOutcome (due : List (Finalization Finalizer)) : Except Panic Unit :=
  if due.any (·.finalizer.panics) then .error (.message "finalizer") else .ok ()

theorem finalizersOutcome_cons (d : Finalization Finalizer)
    (due : List (Finalization Finalizer)) :
    finalizersOutcome (d :: due) =
      if d.finalizer.panics then .error (.message "finalizer") else finalizersOutcome due := by
  unfold finalizersOutcome
  cases h : d.finalizer.panics <;> simp [h]

theorem finalizersOutcome_eq_ok_iff {due : List (Finalization Finalizer)} :
    finalizersOutcome due = .ok () ↔ ∀ d ∈ due, d.finalizer.panics = false := by
  unfold finalizersOutcome
  split <;> rename_i h
  · refine iff_of_false (by rintro ⟨⟩) fun hcalm => ?_
    obtain ⟨d, hd, hpanics⟩ := List.any_eq_true.mp h
    rw [hcalm d hd] at hpanics
    cases hpanics
  · exact iff_of_true rfl fun d hd => Bool.eq_false_iff.mpr fun hpanics =>
      h (List.any_eq_true.mpr ⟨d, hd, hpanics⟩)

/-- If they panic there is a first that does. -/
theorem exists_append_of_finalizersOutcome {due : List (Finalization Finalizer)} {p : Panic}
    (h : finalizersOutcome due = .error p) :
    ∃ ahead last behind, due = ahead ++ last :: behind ∧
      (∀ d ∈ ahead, d.finalizer.panics = false) ∧ last.finalizer.panics = true := by
  induction due with
  | nil => cases h
  | cons d due ih =>
    rw [finalizersOutcome_cons] at h
    cases hd : d.finalizer.panics with
    | true => exact ⟨[], d, due, rfl, by simp, hd⟩
    | false =>
      rw [hd] at h
      obtain ⟨ahead, last, behind, rfl, hcalm, hlast⟩ := ih h
      exact ⟨d :: ahead, last, behind, rfl, List.forall_mem_cons.mpr ⟨hd, hcalm⟩, hlast⟩

/-- Putting finalizers on record one after the other. -/
theorem InMemory.Machine.foldl_note (m : Machine) (runs : List FinalizerRun) :
    runs.foldl (fun m r => Chronicle.note m r.entry) m = m.noted runs := by
  induction runs generalizing m with
  | nil => exact m.noted_nil.symm
  | cons r runs ih =>
    rw [List.foldl_cons, ih]
    exact m.noted_noted [r] runs

namespace HostState

section

variable {W : Type} [Chronicle W] {host : HostState}
  {reenter : Token → Run (World HostState W) Unit}

/-- Running a finalizer whose asking for another finalization leads nowhere. -/
theorem runFinalization_apply (hreenter : ∀ token m, reenter token ⟨host, m⟩ = (.ok (), ⟨host, m⟩))
    (due : Finalization Finalizer) (m : W) :
    runFinalization reenter due ⟨host, m⟩ =
      (if due.finalizer.panics then .error (.message "finalizer") else .ok (),
        ⟨host, (finalizerRuns host.objects (Chronicle.freed m) [due]).foldl
          (fun m r => Chronicle.note m r.entry) m⟩) := by
  have hpanic : ∀ m : W,
      (if due.finalizer.panics then throw (.message "finalizer") else pure () :
        Run (World HostState W) Unit) ⟨host, m⟩ =
      (if due.finalizer.panics then .error (.message "finalizer") else .ok (), ⟨host, m⟩) := by
    intro m
    cases due.finalizer.panics <;> rfl
  -- Whether it asks for another finalization or not, all that is left is the panic.
  have hlast : ∀ token m,
      (do
        reenter token
        if due.finalizer.panics then throw (.message "finalizer") :
        Run (World HostState W) Unit) ⟨host, m⟩ =
      (if due.finalizer.panics then .error (.message "finalizer") else .ok (), ⟨host, m⟩) := by
    intro token m
    rw [bind_apply, hreenter]
    exact hpanic m
  unfold runFinalization
  rw [get_bind_apply]
  -- A finalizer with no object left to be given runs silently.
  cases hobject : host.objects.get? due.object with
  | none =>
    have hruns : finalizerRuns host.objects (Chronicle.freed m) [due] = [] := by
      simp [finalizerRuns, hobject]
    rw [hruns]
    cases due.finalizer.reenter with
    | none => exact hpanic m
    | some token => exact hlast token m
  | some object =>
    have hruns : finalizerRuns host.objects (Chronicle.freed m) [due] =
        [⟨due, object, Chronicle.freed m⟩] := by simp [finalizerRuns, hobject]
    rw [hruns]
    cases due.finalizer.reenter with
    | none => exact hpanic _
    | some token => exact hlast token _

/-- Of the host finalizers leave what there was, and they panic if one of them does. -/
theorem exists_runFinalizations_eq
    (hreenter : ∀ token m, reenter token ⟨host, m⟩ = (.ok (), ⟨host, m⟩))
    (due : List (Finalization Finalizer)) (m : W) :
    ∃ m', due.forM (runFinalization reenter) ⟨host, m⟩ = (finalizersOutcome due, ⟨host, m'⟩) := by
  induction due generalizing m with
  | nil => exact ⟨m, rfl⟩
  | cons d due ih =>
    show ∃ m', (runFinalization reenter d >>= fun _ => due.forM (runFinalization reenter)) _ = _
    rw [bind_apply, runFinalization_apply hreenter, finalizersOutcome_cons]
    cases d.finalizer.panics with
    | true => exact ⟨_, rfl⟩
    | false => exact ih _

theorem finalize_of_empty (token : Token) (h : host.foreign = .empty) (m : W) :
    finalize token ⟨host, m⟩ = (.ok (), ⟨host, m⟩) := by
  obtain ⟨_, _, _, _, _, _, foreign, _, _, _, _, _, _, _⟩ := host
  cases h
  rfl

/-- Whatever machine is cleared, a panic of a finalizer is the only one. -/
theorem exists_clearForeign_eq (w : World HostState W) :
    ∃ m, clearForeign w =
      (finalizersOutcome w.host.foreign.clear.1, ⟨{ w.host with foreign := .empty }, m⟩) :=
  exists_runFinalizations_eq (fun token m => finalize_of_empty token rfl m) _ _

end

/-- Running finalizers one after the other. -/
theorem runFinalizations_apply {host : HostState}
    {reenter : Token → Run (World HostState Machine) Unit}
    (hreenter : ∀ token m, reenter token ⟨host, m⟩ = (.ok (), ⟨host, m⟩))
    (due : List (Finalization Finalizer)) (m : Machine) :
    due.forM (runFinalization reenter) ⟨host, m⟩ =
      (finalizersOutcome due,
        ⟨host, m.noted (finalizerRuns host.objects m.freed (started due))⟩) := by
  induction due generalizing m with
  | nil =>
    show (Except.ok (), _) = _
    rw [started, finalizerRuns, List.filterMap_nil, Machine.noted_nil]
    rfl
  | cons d due ih =>
    show (runFinalization reenter d >>= fun _ => due.forM (runFinalization reenter)) _ = _
    rw [bind_apply, runFinalization_apply hreenter, Machine.foldl_note, finalizersOutcome_cons,
      started]
    cases d.finalizer.panics with
    -- Those behind one that panics are not started, so nothing is left to show.
    | true => rfl
    | false =>
      have hruns : finalizerRuns host.objects m.freed (d :: started due) =
          finalizerRuns host.objects m.freed [d] ++
            finalizerRuns host.objects m.freed (started due) :=
        List.filterMap_append (l := [d])
      show due.forM (runFinalization reenter) ⟨host, _⟩ = _
      rw [ih, Machine.noted_noted]
      show _ = (finalizersOutcome due,
        (⟨host, m.noted (finalizerRuns host.objects m.freed (d :: started due))⟩ : World _ _))
      rw [hruns]
      rfl

end HostState

/-- The finalizers that run when the instance of a token is finalized. -/
def World.finalizing (w : World HostState Machine) (token : Token) : List FinalizerRun :=
  finalizerRuns w.host.objects w.vm.freed (w.host.foreign.finalize token).1.2

/-- The entry of a token taken out, and its finalizer run. -/
def World.finalized (w : World HostState Machine) (token : Token) : World HostState Machine where
  host := { w.host with foreign := (w.host.foreign.finalize token).2 }
  vm := w.vm.noted (w.finalizing token)

/-- The finalizers that run when all objects still registered are finalized. -/
def World.clearing (w : World HostState Machine) : List FinalizerRun :=
  finalizerRuns w.host.objects w.vm.freed (started w.host.foreign.clear.1)

/-- All entries taken out, and their finalizers run. -/
def World.cleared (w : World HostState Machine) : World HostState Machine where
  host := { w.host with foreign := .empty }
  vm := w.vm.noted w.clearing

/-- A single finalizer is started, whether it panics or not. -/
theorem started_finalize (r : ForeignRegistry Finalizer) (token : Token) :
    started (r.finalize token).1.2 = (r.finalize token).1.2 := by
  unfold ForeignRegistry.finalize
  rcases r.heap.remove token with ⟨_ | entry, heap⟩
  · rfl
  · show started entry.finalizations = entry.finalizations
    unfold ForeignEntry.finalizations
    cases entry.finalizer with
    | none => rfl
    | some f =>
      show (_ :: if f.panics then [] else []) = _
      rw [ite_self]

namespace HostState

/-- A finalization takes the entry out and runs the finalizer, which may panic afterwards. -/
theorem finalize_apply (token : Token) (w : World HostState Machine) :
    finalize token w =
      (finalizersOutcome (w.host.foreign.finalize token).1.2, w.finalized token) := by
  show ((w.host.foreign.finalize token).1.2.forM (runFinalization fun _ => pure ()))
    ⟨{ w.host with foreign := (w.host.foreign.finalize token).2 }, w.vm⟩ = _
  refine (runFinalizations_apply ?_ _ _).trans ?_
  · exact fun _ _ => rfl
  · rw [started_finalize]
    rfl

/-- A finalization ends there, whether the finalizer panics or not. -/
theorem leads_finalize_iff {P : World HostState Machine → Prop} {token : Token}
    {w : World HostState Machine} :
    Leads (finalize token) w (fun _ => P) P ↔ P (w.finalized token) := by
  unfold Leads
  rw [finalize_apply]
  cases finalizersOutcome (w.host.foreign.finalize token).1.2 <;> exact Iff.rfl

/-- Clearing takes all entries out and runs the finalizers, up to the first that panics. -/
theorem clearForeign_apply (w : World HostState Machine) :
    clearForeign w = (finalizersOutcome w.host.foreign.clear.1, w.cleared) := by
  show (w.host.foreign.clear.1.forM (runFinalization finalize))
    ⟨{ w.host with foreign := .empty }, w.vm⟩ = _
  rw [runFinalizations_apply fun token m => finalize_of_empty token rfl m]
  rfl

end HostState

theorem Run.forM_of_pure {σ β : Type} {as : List β} {round : β → Run σ Unit} {s : σ}
    (hround : ∀ a ∈ as, round a s = (.ok (), s)) : as.forM round s = (.ok (), s) := by
  induction as with
  | nil => rfl
  | cons a as ih =>
    show (round a >>= fun _ => as.forM round) s = _
    rw [bind_apply, hround a List.mem_cons_self]
    exact ih fun b hb => hround b (List.mem_cons_of_mem _ hb)

/-- Freeing a machine whose host has no objects left runs no finalizer. -/
theorem InMemory.free_apply {host : HostState} (h : host.foreign = .empty) (m : Machine) :
    InMemory.free ⟨host, m⟩ = (.ok (), ⟨host, m.released⟩) := by
  unfold InMemory.free
  rw [get_bind_apply]
  show ((m.tokens m.tracked).forM HostState.finalize >>= fun _ => _) (⟨host, _⟩ : World _ _) = _
  rw [bind_apply, Run.forM_of_pure fun token _ => HostState.finalize_of_empty token h _]
  rfl

namespace VirtualMachine

variable {vm : VirtualMachine Machine}

/-- What disposal makes of host and machine, once the finalizers have run. -/
def closed (w : World HostState Machine) : World HostState Machine where
  host := (Op.drained w).host
  vm := (Op.drained w).vm.released

/-- What it makes of them if a finalizer panicked: the machine is freed as it is. -/
def cutShort (w : World HostState Machine) : World HostState Machine where
  host := w.host
  vm := w.vm.released

/-- The finalizers run while the machine is held: it is freed if one of them panics. -/
theorem holding_clearForeign_apply (w : World HostState Machine) :
    holding HostState.clearForeign w =
      match finalizersOutcome w.host.foreign.clear.1 with
      | .ok () => (.ok (), w.cleared)
      | .error p => (.error p, cutShort w.cleared) := by
  have hfree : Backend.free w.cleared = (.ok (), cutShort w.cleared) := free_apply rfl _
  unfold holding
  rw [HostState.clearForeign_apply]
  cases finalizersOutcome w.host.foreign.clear.1 with
  | ok _ => rfl
  | error p =>
    dsimp only
    rw [hfree]

/-- Disposal runs the finalizers first.  Unless one of them panics, it then gives back the
handles and frees the machine, and no finalizer runs meanwhile. -/
theorem dispose_apply (halive : vm.disposed = false) :
    dispose vm =
      match finalizersOutcome vm.world.host.foreign.clear.1 with
      | .ok () => (.ok (.ok ()), { vm with world := closed vm.world.cleared, disposed := true })
      | .error p =>
        (.error p, { vm with world := cutShort vm.world.cleared, disposed := true }) := by
  have hclear := holding_clearForeign_apply vm.world
  have hdispose : dispose vm =
      (do
        inside (holding HostState.clearForeign)
        inside (HostState.onHost (·.clearBindings))
        giveBack (← inside (HostState.onHost' fun h =>
          (h.handles.drain.1, { h with handles := h.handles.drain.2 })))
        inside Backend.free : Op Machine Unit) { vm with disposed := true } := by
    show (if vm.disposed then pure () else _ : Op Machine Unit) vm = _
    rw [halive]
    rfl
  rw [hdispose]
  cases houtcome : finalizersOutcome vm.world.host.foreign.clear.1 with
  -- The panic unwinds past the bindings and the handles, and the machine is freed on the way out.
  | error p =>
    rw [houtcome] at hclear
    have hpanic : inside (holding HostState.clearForeign) { vm with disposed := true } =
        (.error p, { vm with world := cutShort vm.world.cleared, disposed := true }) :=
      inside_of_panic hclear
    exact Op.bind_of_panic hpanic _
  | ok _ =>
    rw [houtcome] at hclear
    have hran : inside (holding HostState.clearForeign) { vm with disposed := true } =
        (.ok (.ok ()), { vm with world := vm.world.cleared, disposed := true }) :=
      inside_of_ok hclear
    have hfree : free (Op.drained vm.world.cleared) = (.ok (), closed vm.world.cleared) :=
      free_apply rfl _
    have hfreed : inside Backend.free
        { vm with world := Op.drained vm.world.cleared, disposed := true } =
        (.ok (.ok ()), { vm with world := closed vm.world.cleared, disposed := true }) :=
      inside_of_ok hfree
    rw [Op.bind_of_ok hran]
    exact hfreed

end VirtualMachine

/-- A host that keeps the name of a class behind its instances, and finalizes them by a note; some
finalizers panic after that. -/
def Configuration.closing (panics : String → Bool) : Configuration :=
  { Configuration.default with
    classBinder := some fun _ name =>
      .ok (some ⟨[], some (.of name), some ⟨"close " ++ name, none, panics name⟩⟩) }

/-- Declares classes and keeps an instance of each in the variable that named the class. -/
def opening (names : List String) : Script :=
  names.flatMap fun name =>
    [.declare name [], .construct (.named none name) [] (some name) false []]

end ScriptHost
