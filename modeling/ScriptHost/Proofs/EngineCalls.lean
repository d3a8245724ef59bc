/-
The calls an engine receives.

`Monitored C` is an engine of kind `C` with a record of every call of its interface, in order.
It answers what the engine answers, and what is built from the interface does the same on both:

* **`Monitored.Erases`** — an operation on the monitored engine does what one on the engine does,
  with one law for each way of putting operations together.

Some calls only ask; the others read a value or change something.  `Steady c` says that an
engine in the state `c` goes on telling the same of its window as long as it is only asked, and
`Asks` and `Calls` say what an operation tells an engine whose window is that of `c`:

* **`Asks.bind`**, **`Asks.andCall`** — guards one after another, and what they guard.

An engine that is `Unmoved` by questions is the same engine after a guard
(**`Guarded.whenever_apply`**).
-/
import ScriptHost.Engine.Guarded

namespace ScriptHost

/-- A question to an engine. -/
inductive Question where
  | slotCount
  | slotType (slot : Int32)
  | listCount (slot : Int32)
  | hasModule (module : String)
  | hasVariable (module name : String)
  | userData

/-- A call of the interface of an engine. -/
inductive ApiCall where
  | ask (question : Question)
  | ensureSlots (count : Int32)
  | slotBool (slot : Int32)
  | slotNumber (slot : Int32)
  | slotBytes (slot : Int32)
  | slotHandle (slot : Int32)
  | slotMemory (slot : Int32)
  | setBool (slot : Int32) (value : Bool)
  | setNumber (slot : Int32) (value : Number)
  | setBytes (slot : Int32) (value : Bytes)
  | setHandle (slot : Int32) (handle : RawHandle)
  | setNull (slot : Int32)
  | setNewList (slot : Int32)
  | setNewForeign (slot classSlot : Int32) (size : Nat)
  | store (address : Address) (memory : Memory)
  | getElement (listSlot index elementSlot : Int32)
  | insertElement (listSlot index elementSlot : Int32)
  | getVariable (module name : String) (slot : Int32)
  | abort (slot : Int32)

/-- An engine with the calls it received. -/
structure Monitored (C : Type) where
  engine : C
  calls : List ApiCall

section

variable {C α β : Type}

namespace Monitored

/-- Puts a call on record and makes it. -/
def record (call : ApiCall) (operation : StateM C α) : StateM (Monitored C) α := fun r =>
  (answerOf operation r.engine, ⟨stateAfter operation r.engine, r.calls ++ [call]⟩)

variable [EngineApi (StateM C)]

instance : EngineApi (StateM (Monitored C)) where
  slotCount := record (.ask .slotCount) EngineApi.slotCount
  ensureSlots count := record (.ensureSlots count) (EngineApi.ensureSlots count)
  slotType slot := record (.ask (.slotType slot)) (EngineApi.slotType slot)
  slotBool slot := record (.slotBool slot) (EngineApi.slotBool slot)
  slotNumber slot := record (.slotNumber slot) (EngineApi.slotNumber slot)
  slotBytes slot := record (.slotBytes slot) (EngineApi.slotBytes slot)
  slotHandle slot := record (.slotHandle slot) (EngineApi.slotHandle slot)
  slotMemory slot := record (.slotMemory slot) (EngineApi.slotMemory slot)
  setBool slot value := record (.setBool slot value) (EngineApi.setBool slot value)
  setNumber slot value := record (.setNumber slot value) (EngineApi.setNumber slot value)
  setBytes slot value := record (.setBytes slot value) (EngineApi.setBytes slot value)
  setHandle slot handle := record (.setHandle slot handle) (EngineApi.setHandle slot handle)
  setNull slot := record (.setNull slot) (EngineApi.setNull slot)
  setNewList slot := record (.setNewList slot) (EngineApi.setNewList slot)
  setNewForeign slot classSlot size :=
    record (.setNewForeign slot classSlot size) (EngineApi.setNewForeign slot classSlot size)
  store address memory := record (.store address memory) (EngineApi.store address memory)
  listCount slot := record (.ask (.listCount slot)) (EngineApi.listCount slot)
  getElement listSlot index elementSlot :=
    record (.getElement listSlot index elementSlot)
      (EngineApi.getElement listSlot index elementSlot)
  insertElement listSlot index elementSlot :=
    record (.insertElement listSlot index elementSlot)
      (EngineApi.insertElement listSlot index elementSlot)
  hasModule module := record (.ask (.hasModule module)) (EngineApi.hasModule module)
  hasVariable module name :=
    record (.ask (.hasVariable module name)) (EngineApi.hasVariable module name)
  getVariable module name slot :=
    record (.getVariable module name slot) (EngineApi.getVariable module name slot)
  abort slot := record (.abort slot) (EngineApi.abort slot)
  userData := record (.ask .userData) EngineApi.userData

/-! ### The record makes no difference -/

omit [EngineApi (StateM C)] in
/-- On the monitored engine an operation does what another one does on the engine. -/
def Erases (operation : StateM (Monitored C) α) (plain : StateM C α) : Prop :=
  ∀ r, (operation.run r).1 = answerOf plain r.engine ∧
    (operation.run r).2.engine = stateAfter plain r.engine

namespace Erases

omit [EngineApi (StateM C)]

theorem record (call : ApiCall) (plain : StateM C α) :
    Erases (Monitored.record call plain) plain :=
  fun _ => ⟨rfl, rfl⟩

theorem pure (a : α) : Erases (Pure.pure a : StateM (Monitored C) α) (Pure.pure a) :=
  fun _ => ⟨rfl, rfl⟩

theorem bind {operation : StateM (Monitored C) β} {plain : StateM C β}
    {next : β → StateM (Monitored C) α} {plainNext : β → StateM C α}
    (h : Erases operation plain) (hnext : ∀ b, Erases (next b) (plainNext b)) :
    Erases (operation >>= next) (plain >>= plainNext) := by
  intro r
  obtain ⟨hanswer, hengine⟩ := h r
  -- The second operation starts where the first one left the engine, with its answer.
  have hlast := hnext (operation.run r).1 (operation.run r).2
  rw [hengine, hanswer] at hlast
  show ((next (operation.run r).1).run (operation.run r).2).1 =
      answerOf (plainNext (answerOf plain r.engine)) (stateAfter plain r.engine) ∧
    ((next (operation.run r).1).run (operation.run r).2).2.engine =
      stateAfter (plainNext (answerOf plain r.engine)) (stateAfter plain r.engine)
  rw [hanswer]
  exact hlast

theorem ite {condition : Prop} [Decidable condition] {operation other : StateM (Monitored C) α}
    {plain plainOther : StateM C α} (h : Erases operation plain)
    (hother : Erases other plainOther) :
    Erases (if condition then operation else other) (if condition then plain else plainOther) := by
  split
  · exact h
  · exact hother

end Erases

end Monitored

/-! ### What an engine tells of its window -/

namespace Guarded

variable [EngineApi (StateM C)]

/-- The number of slots; a negative one counts as zero. -/
def slotsOf (c : C) : Nat :=
  countOfWord (answerOf EngineApi.slotCount c)

/-- The kind of value in a slot. -/
def kindAt (c : C) (slot : Int32) : SlotType :=
  .ofCode (answerOf (EngineApi.slotType slot) c).toInt

/-- The number of elements of the list in a slot; a negative one counts as zero. -/
def lengthAt (c : C) (slot : Int32) : Nat :=
  countOfWord (answerOf (EngineApi.listCount slot) c)

/-- There is a slot of that index. -/
def Inside (c : C) (slot : Int32) : Prop :=
  0 ≤ slot.toInt ∧ slot.toInt < slotsOf c

/-- Two states of the engine of whose windows the same is told. -/
structure SameWindow (c c' : C) : Prop where
  slots : slotsOf c' = slotsOf c
  kind : ∀ slot, kindAt c' slot = kindAt c slot
  length : ∀ slot, lengthAt c' slot = lengthAt c slot

theorem SameWindow.symm {c c' : C} (h : SameWindow c c') : SameWindow c' c :=
  ⟨h.slots.symm, fun slot => (h.kind slot).symm, fun slot => (h.length slot).symm⟩

theorem SameWindow.trans {c c' c'' : C} (h : SameWindow c c') (h' : SameWindow c' c'') :
    SameWindow c c'' :=
  ⟨h'.slots.trans h.slots, fun slot => (h'.kind slot).trans (h.kind slot),
    fun slot => (h'.length slot).trans (h.length slot)⟩

end Guarded

open Guarded

/-- The state after a question. -/
def Question.after [EngineApi (StateM C)] (c : C) : Question → C
  | .slotCount => stateAfter EngineApi.slotCount c
  | .slotType slot => stateAfter (EngineApi.slotType slot) c
  | .listCount slot => stateAfter (EngineApi.listCount slot) c
  | .hasModule module => stateAfter (EngineApi.hasModule module) c
  | .hasVariable module name => stateAfter (EngineApi.hasVariable module name) c
  | .userData => stateAfter EngineApi.userData c

namespace Guarded

variable [EngineApi (StateM C)]

/-- Whatever an engine is asked, it goes on telling the same of its window. -/
def Steady (c : C) : Prop :=
  ∀ questions : List Question, SameWindow c (questions.foldl Question.after c)

/-- The same is told of the window, and will be as long as the engine is only asked. -/
structure Alike (c c' : C) : Prop where
  same : SameWindow c c'
  steady : Steady c'

theorem Steady.alike {c : C} (h : Steady c) : Alike c c :=
  ⟨h [], h⟩

theorem Alike.ask {c c' : C} (h : Alike c c') (question : Question) :
    Alike c (question.after c') := by
  have hnext : SameWindow c' (question.after c') := h.steady [question]
  refine ⟨h.same.trans hnext, fun questions => ?_⟩
  exact hnext.symm.trans (h.steady (question :: questions))

end Guarded

/-! ### What a call may be -/

namespace ApiCall

/-- The slots a call names. -/
def slots : ApiCall → List Int32
  | .ask (.slotType slot) | .ask (.listCount slot) => [slot]
  | .slotBool slot | .slotNumber slot | .slotBytes slot | .slotHandle slot | .slotMemory slot =>
    [slot]
  | .setBool slot _ | .setNumber slot _ | .setBytes slot _ | .setHandle slot _ | .setNull slot
  | .setNewList slot | .getVariable _ _ slot | .abort slot => [slot]
  | .setNewForeign slot classSlot _ => [slot, classSlot]
  | .getElement listSlot _ elementSlot | .insertElement listSlot _ elementSlot =>
    [listSlot, elementSlot]
  | _ => []

/-- The place in a list a call names. -/
def position? : ApiCall → Option Int32
  | .getElement _ index _ | .insertElement _ index _ => some index
  | _ => none

/-- The texts a call passes. -/
def texts : ApiCall → List String
  | .ask (.hasModule module) => [module]
  | .ask (.hasVariable module name) | .getVariable module name _ => [module, name]
  | _ => []

variable [EngineApi (StateM C)]

/-- What an engine in the state `c` asks of a call besides: the kind of value it reads, and a
place that is in the list. -/
def Sound (c : C) : ApiCall → Prop
  | .slotBool slot => kindAt c slot = .bool
  | .slotNumber slot => kindAt c slot = .num
  | .slotBytes slot => kindAt c slot = .string
  | .slotMemory slot => kindAt c slot = .foreign
  | .ask (.listCount slot) => kindAt c slot = .list
  | .getElement listSlot index _ =>
    kindAt c listSlot = .list ∧ 0 ≤ index.toInt ∧ index.toInt < lengthAt c listSlot
  | .insertElement listSlot index _ =>
    kindAt c listSlot = .list ∧
      -((lengthAt c listSlot : Int) + 1) ≤ index.toInt ∧ index.toInt ≤ lengthAt c listSlot
  | .ensureSlots _ => False
  | _ => True

/-- A call an engine in the state `c` may receive, on behalf of somebody who named the slots in
`named` and the place `place`. -/
structure Fits (c : C) (named : List Nat) (place : Option Int) (call : ApiCall) : Prop where
  /-- Its slots are slots the caller named, and in the window. -/
  named : ∀ slot ∈ call.slots, (∃ n ∈ named, slot.toInt = (n : Int)) ∧ Inside c slot
  /-- Its place is the one the caller named. -/
  place : ∀ index, call.position? = some index → place = some index.toInt
  /-- None of its texts has a NUL in it. -/
  texts : ∀ text ∈ call.texts, 0 ∉ Utf8.encode text
  sound : call.Sound c

end ApiCall

/-! ### Guards, and what they guard -/

section

variable [EngineApi (StateM C)] {c : C} {named : List Nat} {place : Option Int}

/-- From wherever the window is that of `c`, an operation does nothing but ask, and answers as
`P` says. -/
def Asks (c : C) (named : List Nat) (place : Option Int) (operation : StateM (Monitored C) α)
    (P : α → Prop) : Prop :=
  ∀ r : Monitored C, Alike c r.engine →
    P (operation.run r).1 ∧ Alike c (operation.run r).2.engine ∧
      ∃ asked, (operation.run r).2.calls = r.calls ++ asked ∧
        ∀ call ∈ asked, (∃ question, call = .ask question) ∧ call.Fits c named place

/-- From wherever the window is that of `c`, an operation first does nothing but ask, and then
makes the calls `P` speaks of. -/
def Calls (c : C) (named : List Nat) (place : Option Int) (operation : StateM (Monitored C) α)
    (P : α → List ApiCall → Prop) : Prop :=
  ∀ r : Monitored C, Alike c r.engine → ∃ asked made,
    (operation.run r).2.calls = r.calls ++ (asked ++ made) ∧
      (∀ call ∈ asked, (∃ question, call = .ask question) ∧ call.Fits c named place) ∧
      (∀ call ∈ made, call.Fits c named place) ∧ P (operation.run r).1 made

namespace Asks

variable {P : α → Prop} {Q : β → Prop}

theorem pure {a : α} (h : P a) :
    Asks c named place (Pure.pure a : StateM (Monitored C) α) P :=
  fun r hr => ⟨h, hr, [], (List.append_nil _).symm, by rintro _ ⟨⟩⟩

theorem mono {operation : StateM (Monitored C) α} {P' : α → Prop}
    (h : Asks c named place operation P) (hP : ∀ a, P a → P' a) :
    Asks c named place operation P' := by
  intro r hr
  obtain ⟨hanswer, hrest⟩ := h r hr
  exact ⟨hP _ hanswer, hrest⟩

/-- One guard after another. -/
theorem bind {operation : StateM (Monitored C) β} {next : β → StateM (Monitored C) α}
    (h : Asks c named place operation Q) (hnext : ∀ b, Q b → Asks c named place (next b) P) :
    Asks c named place (operation >>= next) P := by
  intro r hr
  obtain ⟨hanswer, halike, asked, hcalls, hasked⟩ := h r hr
  -- Having been asked, the engine still tells the same of its window.
  obtain ⟨hanswer', halike', asked', hcalls', hasked'⟩ := hnext _ hanswer _ halike
  refine ⟨hanswer', halike', asked ++ asked', ?_, fun call hcall => ?_⟩
  · show ((next (operation.run r).1).run (operation.run r).2).2.calls = _
    rw [hcalls', hcalls, List.append_assoc]
  · rcases List.mem_append.mp hcall with hold | hnew
    · exact hasked call hold
    · exact hasked' call hnew

/-- A question, with what follows for its answer from the window being that of `c`. -/
theorem record {question : Question} {operation : StateM C α}
    (hafter : ∀ e, stateAfter operation e = question.after e)
    (hfits : (ApiCall.ask question).Fits c named place)
    (hanswer : ∀ e, Alike c e → P (answerOf operation e)) :
    Asks c named place (Monitored.record (.ask question) operation) P := by
  intro r hr
  refine ⟨hanswer r.engine hr, ?_, [.ask question], rfl, fun call hcall => ?_⟩
  · show Alike c (stateAfter operation r.engine)
    rw [hafter]
    exact hr.ask question
  · obtain rfl := List.mem_singleton.mp hcall
    exact ⟨⟨question, rfl⟩, hfits⟩

/-- Guards that only ask make no calls. -/
theorem calls {operation : StateM (Monitored C) α} (h : Asks c named place operation P) :
    Calls c named place operation fun a made => P a ∧ made = [] := by
  intro r hr
  obtain ⟨hanswer, -, asked, hcalls, hasked⟩ := h r hr
  exact ⟨asked, [], by rw [hcalls, List.append_nil], hasked, by rintro _ ⟨⟩, hanswer, rfl⟩

/-- What is guarded comes after the guard. -/
theorem andCall {operation : StateM (Monitored C) β} {next : β → StateM (Monitored C) α}
    {post : α → List ApiCall → Prop} (h : Asks c named place operation Q)
    (hnext : ∀ b, Q b → Calls c named place (next b) post) :
    Calls c named place (operation >>= next) post := by
  intro r hr
  obtain ⟨hanswer, halike, asked, hcalls, hasked⟩ := h r hr
  obtain ⟨asked', made, hcalls', hasked', hmade, hpost⟩ := hnext _ hanswer _ halike
  refine ⟨asked ++ asked', made, ?_, fun call hcall => ?_, hmade, hpost⟩
  · show ((next (operation.run r).1).run (operation.run r).2).2.calls = _
    rw [hcalls', hcalls, List.append_assoc, List.append_assoc]
  · rcases List.mem_append.mp hcall with hold | hnew
    · exact hasked call hold
    · exact hasked' call hnew

end Asks

namespace Calls

variable {post : α → List ApiCall → Prop}

theorem mono {operation : StateM (Monitored C) α} {post' : α → List ApiCall → Prop}
    (h : Calls c named place operation post) (hpost : ∀ a made, post a made → post' a made) :
    Calls c named place operation post' := by
  intro r hr
  obtain ⟨asked, made, hcalls, hasked, hmade, hanswer⟩ := h r hr
  exact ⟨asked, made, hcalls, hasked, hmade, hpost _ _ hanswer⟩

/-- A single call. -/
theorem record {call : ApiCall} {operation : StateM C α} (hfits : call.Fits c named place) :
    Calls c named place (Monitored.record call operation) fun _ made => made = [call] := by
  intro r _
  refine ⟨[], [call], rfl, by rintro _ ⟨⟩, fun other hother => ?_, rfl⟩
  obtain rfl := List.mem_singleton.mp hother
  exact hfits

theorem andThen {operation : StateM (Monitored C) β} {f : β → α}
    (h : Calls c named place operation fun b made => post (f b) made) :
    Calls c named place (do return f (← operation)) post :=
  h

end Calls

end

end

/-! ### Guards that leave the engine as it is -/

namespace Guarded

section

variable {C α β : Type}

theorem bind_apply (operation : StateM C β) (next : β → StateM C α) (c : C) :
    (operation >>= next) c = next (operation c).1 (operation c).2 := rfl

/-- What is guarded by a question that leaves the engine as it is. -/
theorem whenever_apply {permitted : StateM C Bool} {p : Prop} [Decidable p] {c : C}
    (hguard : permitted c = (decide p, c)) (default : α) (call : StateM C α) :
    whenever permitted default call c = if p then call c else (default, c) := by
  unfold whenever
  rw [bind_apply, hguard]
  by_cases hp : p
  · rw [if_pos hp, decide_eq_true hp]
    rfl
  · rw [if_neg hp, decide_eq_false hp]
    rfl

end

variable {C : Type} [EngineApi (StateM C)]

/-- Asking leaves an engine as it is. -/
def Unmoved (c : C) : Prop :=
  ∀ question : Question, question.after c = c

namespace Unmoved

variable {c : C}

theorem inWindow_apply (h : Unmoved c) (slot : Nat) :
    (inWindow slot : StateM C Bool) c = (decide (slot < slotsOf c), c) := by
  show (decide (slot < slotsOf c), Question.slotCount.after c) = _
  rw [h .slotCount]

theorem bothInWindow_apply (h : Unmoved c) (slot other : Nat) :
    (bothInWindow slot other : StateM C Bool) c =
      (decide (slot < slotsOf c ∧ other < slotsOf c), c) := by
  unfold bothInWindow
  rw [bind_apply, h.inWindow_apply]
  by_cases hin : slot < slotsOf c
  · simp [hin, h.inWindow_apply]
  · simp [hin]
    rfl

theorem slotType_apply (h : Unmoved c) (slot : Nat) :
    (slotType slot : StateM C SlotType) c =
      (if slot < slotsOf c then kindAt c (word slot) else .unknown, c) := by
  unfold slotType
  rw [bind_apply, h.inWindow_apply]
  by_cases hin : slot < slotsOf c
  · rw [decide_eq_true hin, if_pos rfl, if_pos hin]
    show (kindAt c (word slot), Question.after c (.slotType (word slot))) = _
    rw [h]
  · rw [decide_eq_false hin, if_neg Bool.false_ne_true, if_neg hin]
    rfl

theorem holds_apply (h : Unmoved c) (slot : Nat) (kind : SlotType) :
    (holds slot kind : StateM C Bool) c =
      (decide (slot < slotsOf c ∧ kindAt c (word slot) = kind), c) := by
  unfold holds
  rw [bind_apply, h.inWindow_apply]
  by_cases hin : slot < slotsOf c
  · rw [decide_eq_true hin, if_pos rfl, bind_apply, h.slotType_apply]
    simp [hin]
    rfl
  · simp [hin]
    rfl

end Unmoved

end Guarded

end ScriptHost
