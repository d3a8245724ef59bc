/-
Machines side by side.

Host code may have several virtual machines at a time and use them in any order, pass the handles
of one to another, and drop handles whenever it likes: a machine is told of the handles it owns.
Members that keep to the handles of their own machine leave nothing to be told to another one, so
what is done with one machine is not noticed on any other:

* **`Row.step_apply`** — a command changes the machine it is meant for, and no other;
* **`Row.Separate`** — the handles of other machines are refused, and each machine does what it
  would do alone;
* **`Row.separate_after`** — so it is, whatever was done before.
-/
import Mathlib.Logic.Function.Basic
import ScriptHost.Proofs.OwnHandles

namespace ScriptHost

open VirtualMachine

/-- Virtual machines side by side. -/
abbrev Row (ι B : Type) := ι → VirtualMachine B

/-- What host code does with machines side by side. -/
inductive Command (ι : Type) : Type 1
  | attempt (i : ι) {α : Type} (operation : Attempt α)
  | dispose (i : ι)
  /-- A handle is dropped, whichever machine it belongs to. -/
  | drop (handle : Handle)
  /-- The closures of a machine are given handles to keep. -/
  | lend (i : ι) (keyring : Keyring)

/-- What a command answered, and on which machine. -/
structure Answer (ι : Type) : Type 1 where
  machine : ι
  type : Type
  outcome : Except Panic (Except HostError type)

namespace Row

variable {ι B : Type} [DecidableEq ι] [Backend B]

/-- An operation brought a machine to `vm`.  The handles of other machines that its members dropped
meanwhile are passed on. -/
def settle (row : Row ι B) (i : ι) (vm : VirtualMachine B) : Row ι B := fun j =>
  (Function.update row i (vm.step (.lend { vm.world.host.keyring with dropped := [] })) j).after
    (vm.world.host.keyring.dropped.map .drop)

/-- The machines after a command. -/
def step (row : Row ι B) : Command ι → Row ι B
  | .attempt i attempt => row.settle i (attempt.perform (row i)).2
  | .dispose i => row.settle i (dispose (row i)).2
  | .drop handle => fun j => (row j).step (.drop handle)
  | .lend i keyring => Function.update row i ((row i).step (.lend keyring))

/-- What a command answers. -/
def answer? (row : Row ι B) : Command ι → Option (Answer ι)
  | .attempt i attempt => some ⟨i, _, (attempt.perform (row i)).1⟩
  | .dispose i => some ⟨i, Unit, (VirtualMachine.dispose (row i)).1⟩
  | _ => none

/-- The machines after several commands. -/
def after (row : Row ι B) (commands : List (Command ι)) : Row ι B :=
  commands.foldl step row

/-- What several commands answer, in order. -/
def answers (row : Row ι B) : List (Command ι) → List (Answer ι)
  | [] => []
  | command :: commands => (row.answer? command).toList ++ (row.step command).answers commands

end Row

namespace Command

variable {ι B : Type} [DecidableEq ι] [Backend B] {owner : ι → Nat}

/-- A command is meant for a machine. -/
def concerns (owner : ι → Nat) (i : ι) : Command ι → Bool
  | .attempt j _ => j = i
  | .dispose j => j = i
  | .drop handle => handle.owner = owner i
  | .lend j _ => j = i

/-- The closures of a machine are given handles of that machine only, none of them dropped. -/
def Confined (owner : ι → Nat) : Command ι → Prop
  | .lend i keyring => keyring.KeptBy (owner i)
  | _ => True

/-- What a command does to a machine it is meant for. -/
def act (vm : VirtualMachine B) : Command ι → VirtualMachine B
  | .attempt _ operation => (operation.perform vm).2
  | .dispose _ => (VirtualMachine.dispose vm).2
  | .drop handle => vm.step (.drop handle)
  | .lend _ keyring => vm.step (.lend keyring)

end Command

namespace Row

variable {ι B : Type} [DecidableEq ι] [Backend B] {owner : ι → Nat} {row row' : Row ι B}

/-- Every machine keeps to the handles of its owner. -/
def Tidy (owner : ι → Nat) (row : Row ι B) : Prop :=
  ∀ i, (row i).Tidy (owner i)

/-- Nothing is passed on where no handle waits for that. -/
theorem settle_of_tidy {i : ι} {vm : VirtualMachine B} (h : vm.Tidy (owner i)) :
    row.settle i vm = Function.update row i vm := by
  have hdropped : vm.world.host.keyring.dropped = [] := h.keyring.dropped
  have hkeyring : vm.step (.lend { vm.world.host.keyring with dropped := [] }) = vm := by
    rw [← hdropped]
    rfl
  funext j
  unfold settle
  rw [hdropped]
  show Function.update row i (vm.step (.lend { vm.world.host.keyring with dropped := [] })) j = _
  rw [hkeyring]

theorem step_drop_of_foreign {vm : VirtualMachine B} {handle : Handle}
    (h : handle.owner ≠ vm.world.host.handles.owner) : vm.step (.drop handle) = vm :=
  if_neg h

variable [CallsBackOnly B]

/-- A command changes the machine it is meant for, and no other. -/
theorem step_apply (hrow : row.Tidy owner) (command : Command ι) (i : ι) :
    row.step command i = if command.concerns owner i then command.act (row i) else row i := by
  have hupdate : ∀ j (vm : VirtualMachine B), Function.update row j vm i =
      if j = i then vm else row i := by
    intro j vm
    by_cases hj : j = i
    · rw [if_pos hj, hj, Function.update_self]
    · rw [if_neg hj, Function.update_of_ne (Ne.symm hj)]
  -- What a command does is worked out on the machine it names.
  have hat : ∀ j (f : VirtualMachine B → VirtualMachine B),
      (if j = i then f (row j) else row i) = if j = i then f (row i) else row i := by
    intro j f
    by_cases hj : j = i
    · rw [hj]
    · rw [if_neg hj, if_neg hj]
  cases command with
  | attempt j attempt =>
    show row.settle j (attempt.perform (row j)).2 i = _
    rw [settle_of_tidy (attempt.tidy (hrow j)), hupdate, hat j fun vm => (attempt.perform vm).2]
    simp [Command.concerns, Command.act]
  | dispose j =>
    show row.settle j (VirtualMachine.dispose (row j)).2 i = _
    rw [settle_of_tidy (tidy_dispose (hrow j)), hupdate, hat j fun vm => (dispose vm).2]
    simp [Command.concerns, Command.act]
  | drop handle =>
    by_cases hown : handle.owner = owner i
    · simp [Command.concerns, Command.act, hown, step]
    -- A dropped handle goes to its owner, whichever machine is asked.
    · have hforeign : handle.owner ≠ (row i).world.host.handles.owner := by
        rw [(hrow i).owned]
        exact hown
      simp only [Command.concerns, hown, decide_false, Bool.false_eq_true, ↓reduceIte]
      exact step_drop_of_foreign hforeign
  | lend j keyring =>
    show Function.update row j ((row j).step (.lend keyring)) i = _
    rw [hupdate, hat j fun vm => vm.step (.lend keyring)]
    simp [Command.concerns, Command.act]

omit [CallsBackOnly B] in
/-- What a command answers is what its machine answers. -/
theorem answer?_congr {command : Command ι} {i : ι} (hrow : row i = row' i)
    (hconcerns : command.concerns owner i = true) : row.answer? command = row'.answer? command := by
  cases command with
  | attempt j operation =>
    obtain rfl : j = i := of_decide_eq_true hconcerns
    simp only [answer?, hrow]
  | dispose j =>
    obtain rfl : j = i := of_decide_eq_true hconcerns
    simp only [answer?, hrow]
  | drop handle => rfl
  | lend j keyring => rfl

omit [CallsBackOnly B] in
/-- A command that is not meant for a machine has no answer from it. -/
theorem machine_ne_of_answer? {command : Command ι} {i : ι}
    (hconcerns : command.concerns owner i = false) {answer : Answer ι}
    (hanswer : answer ∈ row.answer? command) : answer.machine ≠ i := by
  cases command with
  | attempt j operation =>
    cases hanswer
    exact of_decide_eq_false hconcerns
  | dispose j =>
    cases hanswer
    exact of_decide_eq_false hconcerns
  | drop handle => cases hanswer
  | lend j keyring => cases hanswer

omit [CallsBackOnly B] in
theorem machine_of_answer? {command : Command ι} {i : ι}
    (hconcerns : command.concerns owner i = true) {answer : Answer ι}
    (hanswer : answer ∈ row.answer? command) : answer.machine = i := by
  cases command with
  | attempt j operation =>
    cases hanswer
    exact of_decide_eq_true hconcerns
  | dispose j =>
    cases hanswer
    exact of_decide_eq_true hconcerns
  | drop handle => cases hanswer
  | lend j keyring => cases hanswer

/-- No command makes a machine go beyond the handles of its owner. -/
theorem Tidy.step (hrow : row.Tidy owner) {command : Command ι}
    (hconfined : command.Confined owner) : (row.step command).Tidy owner := by
  intro i
  rw [step_apply hrow]
  split
  · rename_i hconcerns
    cases command with
    | attempt j operation => exact operation.tidy (hrow i)
    | dispose j => exact tidy_dispose (hrow i)
    | drop handle =>
      show (VirtualMachine.step (row i) (.drop handle)).Tidy (owner i)
      unfold VirtualMachine.step
      dsimp only
      split
      · exact (hrow i).withHandles ((row i).world.host.handles.owner_queueRelease handle.id)
      · exact hrow i
    | lend j keyring =>
      obtain rfl : j = i := of_decide_eq_true hconcerns
      exact ⟨(hrow j).owned, hconfined⟩
  · exact hrow i

theorem Tidy.after (hrow : row.Tidy owner) {commands : List (Command ι)}
    (hconfined : ∀ command ∈ commands, command.Confined owner) :
    (row.after commands).Tidy owner := by
  induction commands generalizing row with
  | nil => exact hrow
  | cons command commands ih =>
    exact ih (hrow.step (hconfined command List.mem_cons_self))
      fun command' h => hconfined command' (List.mem_cons_of_mem _ h)

/-- Each machine does what it would do if only the commands meant for it were given. -/
theorem after_filter (hrow : row.Tidy owner) (hrow' : row'.Tidy owner) {i : ι}
    (hsame : row i = row' i) {commands : List (Command ι)}
    (hconfined : ∀ command ∈ commands, command.Confined owner) :
    row.after commands i = row'.after (commands.filter (·.concerns owner i)) i ∧
      (row.answers commands).filter (·.machine = i) =
        row'.answers (commands.filter (·.concerns owner i)) := by
  -- The rows agree on the one machine throughout, whatever they are on the others.
  induction commands generalizing row row' with
  | nil => exact ⟨hsame, rfl⟩
  | cons command commands ih =>
    have hfirst : command.Confined owner := hconfined command List.mem_cons_self
    have hrest : ∀ command ∈ commands, command.Confined owner :=
      fun command' h => hconfined command' (List.mem_cons_of_mem _ h)
    have hafter : ∀ (r : Row ι B) c cs, r.after (c :: cs) = (r.step c).after cs := fun _ _ _ => rfl
    have hanswers : ∀ (r : Row ι B) c cs,
        r.answers (c :: cs) = (r.answer? c).toList ++ (r.step c).answers cs := fun _ _ _ => rfl
    cases hconcerns : command.concerns owner i with
    | true =>
      have hstep : row.step command i = row'.step command i := by
        rw [step_apply hrow, step_apply hrow', hsame]
      obtain ⟨hstate, hlater⟩ := ih (hrow.step hfirst) (hrow'.step hfirst) hstep hrest
      have hmine : (row.answer? command).toList.filter (·.machine = i) =
          (row'.answer? command).toList := by
        rw [answer?_congr hsame hconcerns, List.filter_eq_self]
        intro answer hanswer
        exact decide_eq_true (machine_of_answer? hconcerns (Option.mem_toList.mp hanswer))
      rw [List.filter_cons_of_pos hconcerns, hafter, hafter, hanswers, hanswers,
        List.filter_append, hmine, hlater]
      exact ⟨hstate, rfl⟩
    | false =>
      have hstep : row.step command i = row' i := by
        rw [step_apply hrow, hconcerns]
        exact hsame
      obtain ⟨hstate, hlater⟩ := ih (hrow.step hfirst) hrow' hstep hrest
      have hothers : (row.answer? command).toList.filter (·.machine = i) = [] := by
        rw [List.filter_eq_nil_iff]
        intro answer hanswer hmine
        exact machine_ne_of_answer? hconcerns (Option.mem_toList.mp hanswer)
          (of_decide_eq_true hmine)
      have hskip : ¬command.concerns owner i = true := by simp [hconcerns]
      rw [List.filter_cons_of_neg hskip, hafter, hanswers, List.filter_append, hothers,
        List.nil_append]
      exact ⟨hstate, hlater⟩

/-- Machines that tell their handles apart. -/
structure Separate (owner : ι → Nat) (row : Row ι B) : Prop where
  owned : ∀ i, (row i).world.host.handles.owner = owner i
  /-- The handles a machine makes are known by its owner. -/
  made : ∀ i slot handle, (getSlotHandle slot (row i)).1 = .ok (.ok handle) →
    handle.owner = owner i
  madeForCalls : ∀ i signature handle, (makeCallHandle signature (row i)).1 = .ok (.ok handle) →
    handle.owner = owner i
  /-- An operation that is given the handle of another machine is refused, whether or not the
  handle is live and whatever its number stands for here, and no machine is changed. -/
  refuses : ∀ i j, j ≠ i → ∀ {α : Type} (operation : Attempt α) handle,
    operation.handle? = some handle → handle.owner = owner j →
    operation.perform (row i) =
      (.ok (.error (if (row i).disposed then .disposed else .foreignHandle)), row i) ∧
    row.step (.attempt i operation) = row

theorem Tidy.separate (hrow : row.Tidy owner) (howner : Function.Injective owner) :
    row.Separate owner where
  owned i := (hrow i).owned
  made i _ _ hgot := owner_of_getSlotHandle (hrow i) hgot
  madeForCalls i _ _ hmade := owner_of_makeCallHandle (hrow i) hmade
  refuses i j hj α operation handle hgiven hhandle := by
    have hforeign : handle.owner ≠ (row i).world.host.handles.owner := by
      rw [hhandle, (hrow i).owned]
      exact howner.ne hj
    have hrefused := operation.perform_of_foreign hgiven hforeign
    refine ⟨hrefused, ?_⟩
    -- The refusal leaves the machine that was asked as it is, and the command concerns no other.
    funext k
    rw [step_apply hrow]
    split
    · rename_i hconcerns
      obtain rfl : i = k := of_decide_eq_true hconcerns
      exact congrArg Prod.snd hrefused
    · rfl

/-- Whatever was done with machines side by side, in whatever order, they tell their handles apart,
and each is and has answered what it would be and have answered without the others. -/
theorem separate_after (owner : ι → Nat) (howner : Function.Injective owner)
    (config : ι → Configuration) (machine : ι → B) (commands : List (Command ι))
    (hconfined : ∀ command ∈ commands, command.Confined owner) :
    let row : Row ι B := fun i => (new (config i) (owner i) (machine i)).2
    (row.after commands).Separate owner ∧
      ∀ i, let own := commands.filter (·.concerns owner i)
        row.after commands i = row.after own i ∧
          (row.answers commands).filter (·.machine = i) = row.answers own := by
  intro row
  have hrow : row.Tidy owner := fun i => tidy_new (config i) (owner i) (machine i)
  exact ⟨(hrow.after hconfined).separate howner, fun i => after_filter hrow hrow rfl hconfined⟩

/-- Two machines each make a handle, with the same number; the first one's is given to the second,
which has a live handle of that number, and is refused. -/
theorem separate_after_sameNumber :
    let owner : Bool → Nat := Bool.toNat
    let commands : List (Command Bool) :=
      [.attempt false (.ensureSlots 1), .attempt true (.ensureSlots 1),
        .attempt false (.getSlotHandle 0), .attempt true (.getSlotHandle 0),
        .lend false ⟨[("kept", ⟨0, 0⟩)], [], []⟩, .attempt true (.releaseHandle ⟨0, 0⟩)]
    let row : Row Bool InMemory.Machine := fun i =>
      (new .default (owner i) (InMemory.Machine.new [] [] false false)).2
    Function.Injective owner ∧ (∀ command ∈ commands, command.Confined owner) ∧
      (row.after commands).Separate owner ∧
      (row.after commands true = row.after (commands.filter (·.concerns owner true)) true ∧
        (row.answers commands).filter (·.machine = true) =
          row.answers (commands.filter (·.concerns owner true))) ∧
      (row.after commands true).liveHandleCount = 1 ∧
      (releaseHandle ⟨0, 0⟩ (row.after commands true)).1 = .ok (.error .foreignHandle) ∧
      (releaseHandle ⟨1, 0⟩ (row.after commands true)).1 = .ok (.ok ()) := by
  intro owner commands row
  have howner : Function.Injective owner := fun i j => by revert i j; decide
  -- The first machine is lent its own handle.
  have hconfined : ∀ command ∈ commands, command.Confined owner := by
    have hlent : (⟨[("kept", ⟨0, 0⟩)], [], []⟩ : Keyring).KeptBy (owner false) :=
      ⟨fun x hx => by rw [List.mem_singleton.mp hx]; rfl, rfl⟩
    simpa [commands, Command.Confined] using hlent
  obtain ⟨hseparate, halone⟩ := separate_after owner howner (fun _ => .default)
    (fun _ => InMemory.Machine.new [] [] false false) commands hconfined
  exact ⟨howner, hconfined, hseparate, halone true, by decide +kernel, by decide +kernel,
    by decide +kernel⟩

end Row

end ScriptHost
