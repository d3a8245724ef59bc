/-
Aborting a fiber of an engine.

An `EngineView` tells what is in the window of an engine and what its fiber was aborted with.  An
engine that obeys `EngineLaws` does what it is documented to do there: it tells how many slots it
has, makes one if there is none, stores bytes as a string, aborts with what is in a slot, and takes
no harm from calls that it may receive.  The library asks before it calls, and what comes of that
is that a message ends up in slot 0 of the engine itself, the fiber is aborted with it, and the
engine may be called again.

* **`Guarded.whenever_inWindow_apply`** — what is guarded by a slot being there;
* **`EngineLaws.abortWith`** — aborting with a message, on a window of any size;
* **`EngineLaws.frame`** — whatever host code does to the window, the engine may be called again;
* **`Scripted.engineLaws`** — the engine that follows scripts is one that obeys.
-/
import ScriptHost.Proofs.GuardedWindow
import ScriptHost.Proofs.WindowFrame
import ScriptHost.Scripted.Machine

namespace ScriptHost

open Guarded

/-- What is in an engine of kind `C`, whose values are of type `V`. -/
structure EngineView (C V : Type) where
  slots : C → List V
  /-- What the fiber was aborted with, if it was. -/
  fault : C → Option V
  string : Bytes → V
  /-- The engine is in a state in which it may be called. -/
  Ready : C → Prop

/-- What is relied on in an engine. -/
structure EngineLaws {C V : Type} [EngineApi (StateM C)] [Chronicle C] (view : EngineView C V) :
    Prop where
  /-- As long as it is only asked, it tells the same of its window. -/
  steady {c : C} : view.Ready c → Steady c
  /-- Asking for the number of slots changes nothing. -/
  slotCount {c : C} : view.Ready c →
    stateAfter EngineApi.slotCount c = c ∧ slotsOf c = (view.slots c).length
  ensureSlots {c : C} : view.Ready c → view.slots c = [] →
    let c' := stateAfter (EngineApi.ensureSlots 1) c
    view.Ready c' ∧ (view.slots c').length = 1 ∧ view.fault c' = view.fault c
  setBytes {c : C} (bytes : Bytes) : view.Ready c → view.slots c ≠ [] →
    let c' := stateAfter (EngineApi.setBytes 0 bytes) c
    view.Ready c' ∧ view.slots c' = (view.slots c).set 0 (view.string bytes) ∧
      view.fault c' = view.fault c
  abort {c : C} : view.Ready c → view.slots c ≠ [] →
    let c' := stateAfter (EngineApi.abort 0) c
    view.Ready c' ∧ view.slots c' = view.slots c ∧ view.fault c' = (view.slots c)[0]?
  /-- It may be called again after its window was grown, -/
  grow {c : C} (count : Int32) : view.Ready c →
    view.Ready (stateAfter (EngineApi.ensureSlots count) c)
  /-- and after calls each of which it may receive. -/
  receive {c : C} {α : Type} (method : SlotMethod α) : view.Ready c →
    (∀ call ∈ (method.monitored c).2.calls, call.Fits c method.named method.place) →
    view.Ready (method.monitored c).2.engine
  /-- What is put on record is not in the engine. -/
  note {c : C} (entry : Entry) :
    let c' := Chronicle.note c entry
    (view.Ready c → view.Ready c') ∧ view.slots c' = view.slots c ∧ view.fault c' = view.fault c

/-- The fiber was aborted with a message, which is in slot 0; the other slots are as before, and
the engine may be called again. -/
structure EngineView.AbortedWith {C V : Type} (view : EngineView C V) (c c' : C)
    (message : String) : Prop where
  ready : view.Ready c'
  slots : view.slots c' = view.string (Utf8.encode message) :: (view.slots c).tail
  fault : view.fault c' = some (view.string (Utf8.encode message))

/-! ### Guards -/

section

variable {C V α : Type} [EngineApi (StateM C)]

/-- What is guarded by a slot being there. -/
theorem Guarded.whenever_inWindow_apply (slot : Nat) (default : α) (call : StateM C α) (c : C) :
    whenever (inWindow slot) default call c =
      if slot < slotsOf c then call (stateAfter EngineApi.slotCount c)
      else (default, stateAfter EngineApi.slotCount c) := by
  show (if decide (slot < slotsOf c) = true then call else pure default : StateM C α)
    (stateAfter EngineApi.slotCount c) = _
  by_cases h : slot < slotsOf c
  · rw [if_pos h, if_pos (decide_eq_true h)]
  · rw [if_neg h, if_neg fun ht => h (of_decide_eq_true ht)]
    rfl

variable [Chronicle C] {view : EngineView C V} {c : C}

namespace EngineLaws

/-- A call on slot 0 goes through if the window has any. -/
theorem whenever_zero (laws : EngineLaws view) (hready : view.Ready c) (hslots : view.slots c ≠ [])
    (default : α) (call : StateM C α) :
    whenever (inWindow 0) default call c = call c := by
  obtain ⟨hstate, hcount⟩ := laws.slotCount hready
  rw [whenever_inWindow_apply, hstate, if_pos]
  rw [hcount]
  exact List.length_pos_iff.mpr hslots

/-- Writing a message to slot 0 of a window that has slots, and aborting with it. -/
theorem setText_abort (laws : EngineLaws view) (hready : view.Ready c)
    (hslots : view.slots c ≠ []) (message : String) :
    view.AbortedWith c
      (stateAfter (Guarded.abort 0) (stateAfter (Guarded.setBytes 0 (Utf8.encode message)) c))
      message := by
  obtain ⟨hready₁, hwritten, -⟩ := laws.setBytes (Utf8.encode message) hready hslots
  have hset : stateAfter (Guarded.setBytes 0 (Utf8.encode message)) c =
      stateAfter (EngineApi.setBytes 0 (Utf8.encode message)) c :=
    congrArg Prod.snd (laws.whenever_zero hready hslots () _)
  have hhead : (view.slots c).set 0 (view.string (Utf8.encode message)) =
      view.string (Utf8.encode message) :: (view.slots c).tail := by
    cases hlist : view.slots c with
    | nil => exact absurd hlist hslots
    | cons v rest => rfl
  rw [hhead] at hwritten
  have hslots₁ : view.slots (stateAfter (EngineApi.setBytes 0 (Utf8.encode message)) c) ≠ [] := by
    rw [hwritten]
    exact List.cons_ne_nil _ _
  -- The message is in place, and aborting takes it from there.
  obtain ⟨hready₂, hkept, hfault⟩ := laws.abort hready₁ hslots₁
  have habort : ∀ c₁, view.Ready c₁ → view.slots c₁ ≠ [] →
      stateAfter (Guarded.abort 0) c₁ = stateAfter (EngineApi.abort 0) c₁ :=
    fun c₁ h h' => congrArg Prod.snd (laws.whenever_zero h h' () _)
  rw [hset, habort _ hready₁ hslots₁]
  exact ⟨hready₂, by rw [hkept, hwritten], by rw [hfault, hwritten]; rfl⟩

/-- Aborting with a message makes a slot for it if there is none. -/
theorem abortWith (laws : EngineLaws view) (hready : view.Ready c) (message : String) :
    view.AbortedWith c (@Slots.abortWith C guardedSlots c message) message := by
  have hcount : @Slots.count C guardedSlots c = (view.slots c).length := (laws.slotCount hready).2
  unfold Slots.abortWith
  cases hslots : view.slots c with
  | nil =>
    obtain ⟨hready', hlength, -⟩ := laws.ensureSlots hready hslots
    have hone : view.slots (stateAfter (EngineApi.ensureSlots 1) c) ≠ [] :=
      List.ne_nil_of_length_pos (by omega)
    obtain ⟨hready'', hwritten, hfault⟩ := laws.setText_abort hready' hone message
    rw [if_pos (by rw [hcount, hslots]; rfl)]
    -- The window that was made has no slots but the one that is written.
    have htail : (view.slots (stateAfter (EngineApi.ensureSlots 1) c)).tail = [] :=
      List.eq_nil_of_length_eq_zero (by rw [List.length_tail]; omega)
    refine ⟨hready'', ?_, hfault⟩
    rw [htail] at hwritten
    rw [hslots]
    exact hwritten
  | cons v rest =>
    have hne : view.slots c ≠ [] := by
      rw [hslots]
      exact List.cons_ne_nil _ _
    rw [if_neg (by rw [hcount, hslots]; exact Nat.succ_ne_zero _)]
    exact laws.setText_abort hready hne message

/-- A method of the window leaves the engine such that it may be called again. -/
theorem perform (laws : EngineLaws view) (method : SlotMethod α) (hready : view.Ready c) :
    view.Ready (stateAfter method.perform c) := by
  have hguards := method.guardsHold (laws.steady hready)
  rw [← hguards.engine]
  exact laws.receive method hready hguards.fits

/-- Whatever is built from the methods of a window leaves the engine such that it may be called
again. -/
theorem frame (laws : EngineLaws view) :
    @SlotFrame C guardedSlots fun c c' => view.Ready c → view.Ready c' := by
  refine @SlotFrame.mk C guardedSlots _ (fun _ h => h) (fun h h' hready => h' (h hready))
    (fun _ count => laws.grow (word count)) (fun _ slot b => laws.perform (.setBool slot b))
    (fun _ slot x => laws.perform (.setNumber slot x))
    (fun _ slot b => laws.perform (.setBytes slot b))
    (fun _ slot h => laws.perform (.setPinned slot h)) (fun _ slot => laws.perform (.setNull slot))
    (fun _ slot => laws.perform (.setNewList slot))
    (fun _ slot index element => laws.perform (.getElement slot index element)) ?_ ?_
    (fun _ slot => laws.perform (.abort slot))
  · rintro w w' slot index element ⟨⟩
    exact laws.perform (.insertElement slot index element)
  -- Reading a variable may be refused, and a refusal leaves a window behind too.
  · intro w w' module name slot hvariable hready
    have hafter := laws.perform (.getVariable module name slot) hready
    simp only [Slots.getVariable] at hvariable
    change view.Ready ((Guarded.getVariable module name slot : StateM C _).run w).2 at hafter
    rcases hrun : (Guarded.getVariable module name slot : StateM C _).run w with ⟨e | _, c⟩ <;>
      rw [hrun] at hvariable hafter <;> cases hvariable
    exact hafter

end EngineLaws

end

/-! ### The engine that follows scripts -/

namespace Scripted

/-- What is in a machine.  It may be called unless it pretends. -/
def machineView : EngineView Machine Value where
  slots := Machine.slots
  fault := Machine.aborted
  string := .string
  Ready m := m.pretendedCount = none ∧ m.slots.length ≤ Machine.maxSlots

theorem countOfWord_word {n : Nat} (h : n ≤ Machine.maxSlots) : countOfWord (word n) = n := by
  have hn : n ≤ 1000 := h
  rw [countOfWord, toInt_word (by omega)]
  rfl

theorem length_setSlot (m : Machine) (i : Nat) (v : Value) :
    (m.setSlot i v).slots.length = m.slots.length :=
  List.length_set

/-- An operation that leaves a machine such that it may be called, if it could be before. -/
def Harmless {α : Type} (operation : StateM Machine α) : Prop :=
  ∀ m, machineView.Ready m → machineView.Ready (stateAfter operation m)

namespace Harmless

variable {α β : Type} {operation : StateM Machine β} {next : β → StateM Machine α}

theorem pure (a : α) : Harmless (Pure.pure a) :=
  fun _ h => h

theorem bind (h : Harmless operation) (hnext : ∀ b, Harmless (next b)) :
    Harmless (operation >>= next) :=
  fun m hready => hnext _ _ (h m hready)

theorem ite {condition : Prop} [Decidable condition] {operation other : StateM Machine α}
    (h : Harmless operation) (hother : Harmless other) :
    Harmless (if condition then operation else other) := by
  split
  · exact h
  · exact hother

theorem whenever {permitted : StateM Machine Bool} {default : α} {operation : StateM Machine α}
    (h : Harmless permitted) (hcall : Harmless operation) :
    Harmless (whenever permitted default operation) :=
  h.bind fun _ => .ite hcall (.pure _)

/-- A change that makes no slots and loses none. -/
theorem of_slots {operation : StateM Machine α}
    (h : ∀ m : Machine, (stateAfter operation m).pretendedCount = m.pretendedCount ∧
      (stateAfter operation m).slots.length = m.slots.length) : Harmless operation := by
  intro m hready
  obtain ⟨hcount, hlength⟩ := h m
  exact ⟨hcount.trans hready.1, Nat.le_trans (Nat.le_of_eq hlength) hready.2⟩

end Harmless

theorem after_question (m : Machine) (question : Question) : question.after m = m := by
  cases question <;> rfl

theorem harmless_inWindow (slot : Nat) : Harmless (inWindow slot) :=
  fun _ h => h

theorem harmless_holds (slot : Nat) (kind : SlotType) : Harmless (holds slot kind) :=
  .bind (harmless_inWindow slot) fun _ =>
    .ite (.bind (.bind (harmless_inWindow slot) fun _ => .ite (fun _ h => h) (.pure _))
      fun _ => .pure _) (.pure _)

theorem harmless_listCount (slot : Nat) : Harmless (Guarded.listCount slot) :=
  .whenever (harmless_holds slot .list) fun _ h => h

theorem harmless_get {α : Type} {next : Machine → StateM Machine α}
    (h : ∀ m, machineView.Ready m → machineView.Ready (stateAfter (next m) m)) :
    Harmless (get >>= next) :=
  fun m hready => h m hready

theorem harmless_slotBytes (slot : Nat) : Harmless (Guarded.slotBytes slot) :=
  .whenever (harmless_holds slot _)
    (.bind (harmless_get fun m h => by split <;> exact h) fun _ => .pure _)

theorem harmless_setter (slot : Nat) (change : Machine → Machine)
    (h : ∀ m, (change m).pretendedCount = m.pretendedCount ∧
      (change m).slots.length = m.slots.length) :
    Harmless (whenever (inWindow slot) () (modify change)) :=
  .whenever (harmless_inWindow slot) (.of_slots h)

theorem harmless_slotHandle {slot : Int32} : Harmless (EngineApi.slotHandle slot) := by
  refine harmless_get fun m hready => ?_
  dsimp only
  split
  · exact hready
  · split <;> exact hready

theorem harmless_setNewForeign {slot classSlot : Int32} {size : Nat} :
    Harmless (EngineApi.setNewForeign slot classSlot size) := by
  refine .of_slots fun m => ?_
  show (m.setNewForeign slot classSlot size).2.pretendedCount = _ ∧
    (m.setNewForeign slot classSlot size).2.slots.length = _
  unfold Machine.setNewForeign
  split
  · exact ⟨rfl, length_setSlot _ _ _⟩
  · exact ⟨rfl, rfl⟩

theorem harmless_getVariable (module name : String) (slot : Nat) :
    Harmless (Guarded.getVariable module name slot) := by
  have hdefined : Harmless (isDefined module name) :=
    .bind (fun _ h => h) fun _ => .ite (fun _ h => h) (.pure _)
  have hread : Harmless (EngineApi.getVariable module name (word slot)) :=
    .of_slots fun m => ⟨rfl, length_setSlot _ _ _⟩
  have hnull : Harmless (Guarded.setNull slot) :=
    harmless_setter slot _ fun m => ⟨rfl, length_setSlot _ _ _⟩
  unfold Guarded.getVariable
  cases refuseNul module with
  | error e => exact .pure _
  | ok _ =>
    cases refuseNul name with
    | error e => exact .pure _
    | ok _ =>
      -- A variable that is not defined reads as null.
      refine .bind (harmless_inWindow slot) fun _ => .ite (.bind hdefined fun _ => ?_) ?_
      · exact .ite (.bind hread fun _ => .pure _) (.bind hnull fun _ => .pure _)
      · exact fun _ h => h

theorem harmless_perform {α : Type} (method : SlotMethod α) :
    Harmless (method.perform : StateM Machine α) := by
  cases method with
  | count => exact fun _ h => h
  | type slot => exact .bind (harmless_inWindow slot) fun _ => .ite (fun _ h => h) (.pure _)
  | bool slot =>
    exact .whenever (harmless_holds slot _) (harmless_get fun m h => by split <;> exact h)
  | number slot =>
    exact .whenever (harmless_holds slot _) (harmless_get fun m h => by split <;> exact h)
  | bytes slot => exact harmless_slotBytes slot
  | text slot => exact .bind (harmless_slotBytes slot) fun _ => .pure _
  | pin slot => exact .whenever (harmless_inWindow slot) harmless_slotHandle
  | token slot =>
    exact .whenever (harmless_holds slot _)
      (.bind (harmless_get fun m h => by split <;> exact h) fun _ => .pure _)
  | setBool slot | setNumber slot | setBytes slot | setText slot | setPinned slot | setNull slot
  | setNewList slot => exact harmless_setter slot _ fun m => ⟨rfl, length_setSlot _ _ _⟩
  | setNewForeign slot classSlot key =>
    refine .whenever (.bind (harmless_inWindow slot) fun _ =>
      .ite (harmless_inWindow classSlot) (.pure _)) (.bind (fun _ h => h) fun _ => ?_)
    refine .bind harmless_setNewForeign fun made => ?_
    cases made with
    | none => exact .pure _
    | some address => exact .of_slots fun m => ⟨rfl, rfl⟩
  | listCount slot => exact harmless_listCount slot
  -- Elements are moved between slots and lists, and the window stays as long as it is.
  | getElement listSlot index elementSlot =>
    refine .whenever (.bind (harmless_inWindow elementSlot) fun _ =>
      .ite (.bind (harmless_listCount listSlot) fun _ => .pure _) (.pure _)) (.of_slots fun m => ?_)
    show (m.getElement _ _ _).pretendedCount = _ ∧ (m.getElement _ _ _).slots.length = _
    unfold Machine.getElement
    split
    · exact ⟨rfl, length_setSlot _ _ _⟩
    · exact ⟨rfl, rfl⟩
  | insertElement listSlot index elementSlot =>
    refine .whenever (.bind (harmless_inWindow elementSlot) fun _ =>
      .ite (.bind (harmless_holds listSlot .list) fun _ =>
        .ite (.bind (harmless_listCount listSlot) fun _ => .pure _) (.pure _)) (.pure _))
      (.of_slots fun m => ?_)
    show (m.insertElement _ _ _).pretendedCount = _ ∧ (m.insertElement _ _ _).slots.length = _
    unfold Machine.insertElement
    split
    · exact ⟨rfl, rfl⟩
    · split <;> exact ⟨rfl, rfl⟩
  | getVariable module name slot => exact harmless_getVariable module name slot
  | abort slot => exact harmless_setter slot _ fun m => ⟨rfl, rfl⟩

theorem harmless_ensureSlots (count : Int32) : Harmless (EngineApi.ensureSlots count) := by
  rintro m ⟨hcount, hlength⟩
  show machineView.Ready (m.ensure count)
  unfold Machine.ensure
  split
  · exact ⟨hcount, hlength⟩
  · refine ⟨hcount, ?_⟩
    show (m.slots ++ List.replicate (count.toInt.toNat - m.slots.length) Value.null).length ≤ _
    rw [List.length_append, List.length_replicate]
    omega

theorem engineLaws : EngineLaws machineView where
  steady {m} _ questions := by
    have hsame : questions.foldl Question.after m = m := by
      induction questions with
      | nil => rfl
      | cons question questions ih => rw [List.foldl_cons, after_question, ih]
    rw [hsame]
    exact ⟨rfl, fun _ => rfl, fun _ => rfl⟩
  grow count hready := harmless_ensureSlots count _ hready
  receive {m α} method hready _ := by
    have hengine : (method.monitored m).2.engine = stateAfter method.perform m :=
      (Monitored.erases_perform method ⟨m, []⟩).2
    rw [hengine]
    exact harmless_perform method m hready
  note _ := ⟨id, rfl, rfl⟩
  slotCount {m} hready := by
    refine ⟨rfl, ?_⟩
    show countOfWord (m.pretendedCount.getD (Machine.length m.slots)) = m.slots.length
    rw [hready.1]
    exact countOfWord_word hready.2
  ensureSlots {m} hready hslots := by
    -- Without slots there is only one window.
    have hempty : m.slots = [] := hslots
    have hensure : stateAfter (EngineApi.ensureSlots 1) m = { m with slots := [.null] } := by
      show m.ensure 1 = _
      rw [Machine.ensure, if_neg (by decide), hempty]
      rfl
    rw [hensure]
    exact ⟨⟨hready.1, (by decide : 1 ≤ Machine.maxSlots)⟩, rfl, rfl⟩
  setBytes {m} bytes hready _ :=
    ⟨⟨hready.1, Nat.le_trans (Nat.le_of_eq (length_setSlot m 0 _)) hready.2⟩, rfl, rfl⟩
  abort {m} hready hslots := by
    refine ⟨hready, rfl, ?_⟩
    show (m.slots[0]? <|> m.aborted) = m.slots[0]?
    cases hlist : m.slots with
    | nil => exact absurd hlist hslots
    | cons v rest => rfl

end Scripted

end ScriptHost
