/-
Windows that are used outside their contract.

The operations of a window are meant for slots it has, getters for slots that hold the kind of
value they get, and places for lists that have them.  Used otherwise a getter is to give a default
and a setter to do nothing.  A guarded window keeps to that, whatever engine is behind it.  The
window of a machine kept in memory has no guards: its getters give their defaults, but a setter
makes the slot it is given, a missing element is read as null, an insertion beside a list ends the
run, and an abort takes null from a slot that is not there.

* **`Guarded.keepsContract`** — guarded windows, every operation;
* **`InMemory.keepsContract_iff`** — which operations keep the contract in memory;
* **`InMemory.outsideContract`** — what the other ones do.
-/
import ScriptHost.InMemory.Machine
import ScriptHost.Proofs.GuardedWindow
import ScriptHost.Proofs.LawfulSlots
import ScriptHost.Proofs.SharedLists

namespace ScriptHost

open Guarded InMemory

/-! ### The contract -/

/-- Why a variable is not loaded into a slot that is not in the window. -/
def loadRefusal (count : Nat) (module name : String) (slot : Nat) : Except HostError Unit := do
  refuseNul module
  refuseNul name
  throw (.slotOutOfRange slot count)

namespace WindowStep

section

variable {W : Type} [Slots W]

/-- An operation that is safe to use is used on a slot that is not in the window, on a slot that
does not hold what it gets, or on a place that is not in a list. -/
def Misused (w : W) : WindowStep → Prop
  | .type slot | .pin slot | .setBool slot _ | .setNumber slot _ | .setBytes slot _
  | .setText slot _ | .setNull slot | .setNewList slot | .getVariable _ _ slot | .abort slot =>
    Slots.count w ≤ slot
  | .bool slot => Slots.type w slot ≠ .bool
  | .number slot => Slots.type w slot ≠ .num
  | .bytes slot | .text slot => Slots.type w slot ≠ .string
  | .token slot => Slots.type w slot ≠ .foreign
  | .listCount slot => Slots.type w slot ≠ .list
  | .getElement slot index element => Slots.count w ≤ element ∨ Slots.listCount w slot ≤ index
  | .insertElement slot index element =>
    Slots.count w ≤ element ∨ Slots.type w slot ≠ .list ∨
      ¬IsInsertionIndex (Slots.listCount w slot) index
  | .get .. | .set .. | .readValue _ | .writeValue .. | .ensure _ | .count | .setPinned ..
  | .setNewForeign .. => False

/-- What is to be answered then: a getter's default, and an error where there is one to give. -/
def refusal (w : W) : WindowStep → WindowReply
  | .type _ => .type .unknown
  | .bool _ => .flag false
  | .number _ => .number .zero
  | .bytes _ => .bytes []
  | .text _ => .text ""
  | .pin _ => .handle none
  | .token _ => .token none
  | .listCount _ => .natural 0
  | .getVariable module name slot => .done (loadRefusal (Slots.count w) module name slot)
  | _ => .nothing

/-- An operation answers what it is to answer when it is misused, and leaves the window and all
else as they are. -/
def KeepsContract (w : W) (step : WindowStep) : Prop :=
  step.run w = .ok (step.refusal w, w)

end

end WindowStep

/-! ### Guarded windows -/

namespace Guarded

variable {C α : Type} [EngineApi (StateM C)] {c : C}

omit [EngineApi (StateM C)] in
/-- What a guard refuses is not done. -/
theorem refused_apply {permitted : StateM C Bool} {p : Prop} [Decidable p]
    (hguard : permitted c = (decide p, c)) (hp : ¬p) (default : α) (call : StateM C α) :
    whenever permitted default call c = (default, c) := by
  rw [whenever_apply hguard, if_neg hp]

namespace Unmoved

theorem setter_apply (h : Unmoved c) {slot : Nat} (hout : slotsOf c ≤ slot) (default : α)
    (call : StateM C α) : whenever (inWindow slot) default call c = (default, c) :=
  refused_apply (h.inWindow_apply slot) (Nat.not_lt.mpr hout) default call

/-- A getter is refused where the window does not tell of the kind of value it gets. -/
theorem getter_apply (h : Unmoved c) {slot : Nat} {kind : SlotType}
    (hkind : answerOf (slotType slot) c ≠ kind) (default : α) (call : StateM C α) :
    whenever (holds slot kind) default call c = (default, c) := by
  refine refused_apply (h.holds_apply slot kind) (fun hholds => hkind ?_) default call
  show ((slotType slot : StateM C SlotType) c).1 = kind
  rw [h.slotType_apply, if_pos hholds.1, hholds.2]

theorem listCount_apply (h : Unmoved c) (slot : Nat) :
    (listCount slot : StateM C Nat) c = (answerOf (listCount slot) c, c) := by
  refine Prod.ext rfl ?_
  show ((listCount slot : StateM C Nat) c).2 = c
  rw [listCount, whenever_apply (h.holds_apply slot .list)]
  split
  · exact h (.listCount (word slot))
  · rfl

theorem hasElement_apply (h : Unmoved c) (listSlot index elementSlot : Nat) :
    (hasElement listSlot index elementSlot : StateM C Bool) c =
      (decide (elementSlot < slotsOf c ∧ index < answerOf (listCount listSlot) c), c) := by
  unfold hasElement
  rw [bind_apply, h.inWindow_apply]
  by_cases hin : elementSlot < slotsOf c
  · rw [decide_eq_true hin, if_pos rfl, bind_apply, h.listCount_apply]
    simp [hin]
    rfl
  · simp [hin]
    rfl

theorem canInsert_apply (h : Unmoved c) (listSlot : Nat) (index : Int) (elementSlot : Nat) :
    (canInsert listSlot index elementSlot : StateM C Bool) c =
      (decide (elementSlot < slotsOf c ∧
        (listSlot < slotsOf c ∧ kindAt c (word listSlot) = .list) ∧
        (Int32.minValue.toInt ≤ index ∧ index ≤ Int32.maxValue.toInt ∧
          -((answerOf (listCount listSlot) c : Int) + 1) ≤ index ∧
          index ≤ (answerOf (listCount listSlot) c : Int))), c) := by
  unfold canInsert
  rw [bind_apply, h.inWindow_apply]
  -- Slots are asked for first: a guard that fails keeps those behind it from asking the engine.
  by_cases hin : elementSlot < slotsOf c
  · rw [decide_eq_true hin, if_pos rfl, bind_apply, h.holds_apply]
    by_cases hlist : listSlot < slotsOf c ∧ kindAt c (word listSlot) = .list
    · rw [decide_eq_true hlist, if_pos rfl, bind_apply, h.listCount_apply]
      simp only [hin, hlist, true_and, and_self]
      rfl
    · simp [hlist]
      rfl
  · simp [hin]
    rfl

end Unmoved

section

omit [EngineApi (StateM C)]

variable {operation : StateM C α} {answer : α}

/-- What comes of an operation that leaves the engine as it is, told by some reply. -/
theorem ok_of_apply (h : operation c = (answer, c)) (reply : α → WindowReply) :
    (.ok (reply (operation c).1, (operation c).2) : Except Panic (WindowReply × C)) =
      .ok (reply answer, c) := by
  rw [h]

theorem ok_of_answer (h : operation c = (answer, c)) (reply : α → WindowReply) :
    (.ok (reply (answerOf operation c), c) : Except Panic (WindowReply × C)) =
      .ok (reply answer, c) := by
  rw [show answerOf operation c = answer from congrArg Prod.fst h]

theorem ok_of_state (h : operation c = (answer, c)) (reply : WindowReply) :
    (.ok (reply, stateAfter operation c) : Except Panic (WindowReply × C)) = .ok (reply, c) := by
  rw [show stateAfter operation c = c from congrArg Prod.snd h]

end

theorem Unmoved.getVariable_apply (h : Unmoved c) (module name : String) {slot : Nat}
    (hout : slotsOf c ≤ slot) :
    (getVariable module name slot : StateM C (Except HostError Unit)) c =
      (loadRefusal (slotsOf c) module name slot, c) := by
  unfold getVariable loadRefusal
  cases refuseNul module with
  | error e => rfl
  | ok _ =>
    cases refuseNul name with
    | error e => rfl
    | ok _ =>
      dsimp only
      rw [bind_apply, h.inWindow_apply, decide_eq_false (Nat.not_lt.mpr hout)]
      -- The refusal names the number of slots, which is asked for last.
      show (Except.error (HostError.slotOutOfRange slot (slotsOf c)), Question.slotCount.after c) =
        _
      rw [h]
      rfl

/-- A guarded window keeps its contract. -/
theorem keepsContract (h : Unmoved c) {step : WindowStep} :
    letI : Slots C := guardedSlots
    step.Misused c → step.KeepsContract c := by
  intro hmisused
  cases step with
  | get | set | readValue | writeValue | ensure | count | setPinned | setNewForeign =>
    exact hmisused.elim
  | type slot =>
    have hout : ¬slot < slotsOf c := Nat.not_lt.mpr hmisused
    have htype := h.slotType_apply slot
    rw [if_neg hout] at htype
    exact ok_of_answer htype .type
  | bool slot => exact ok_of_answer (h.getter_apply hmisused _ _) .flag
  | number slot => exact ok_of_answer (h.getter_apply hmisused _ _) .number
  | bytes slot => exact ok_of_answer (h.getter_apply hmisused _ _) .bytes
  | text slot =>
    exact ok_of_answer (h.getter_apply hmisused _ _) fun bytes => .text (Utf8.decode bytes)
  | token slot => exact ok_of_answer (h.getter_apply hmisused _ _) .token
  | listCount slot => exact ok_of_answer (h.getter_apply hmisused _ _) .natural
  | pin slot => exact ok_of_apply (h.setter_apply hmisused _ _) .handle
  | setBool | setNumber | setBytes | setText | setNull | setNewList | abort =>
    exact ok_of_state (h.setter_apply hmisused _ _) .nothing
  -- The guards of lists refuse what is outside in more than one way; any of them will do.
  | getElement slot index element =>
    have hnot : ¬(element < slotsOf c ∧ index < answerOf (listCount slot) c) := fun hin =>
      hmisused.elim (Nat.not_le.mpr hin.1) (Nat.not_le.mpr hin.2)
    exact ok_of_state (refused_apply (h.hasElement_apply slot index element) hnot () _) .nothing
  | insertElement slot index element =>
    refine ok_of_state (refused_apply (h.canInsert_apply slot index element) ?_ () _) .nothing
    rintro ⟨hin, hlist, hfits⟩
    rcases hmisused with hout | hkind | hplace
    · exact Nat.not_le.mpr hin hout
    · refine hkind ?_
      show ((slotType slot : StateM C SlotType) c).1 = .list
      rw [h.slotType_apply, if_pos hlist.1, hlist.2]
    · exact hplace hfits.2.2
  | getVariable module name slot =>
    have hanswer := h.getVariable_apply module name hmisused
    have hload (answer : Except HostError Unit) :
        keepOnError c (match (answer, c) with
          | (.ok (), c') => pure c'
          | (.error e, _) => throw e) = (.done answer, c) := by
      cases answer <;> rfl
    exact congrArg Except.ok ((congrArg (fun p : Except HostError Unit × C =>
      keepOnError c (match p with
        | (.ok (), c') => pure c'
        | (.error e, _) => throw e)) hanswer).trans (hload _))

end Guarded

/-! ### A window in memory -/

/-- A getter of another kind than the slot's gives its default. -/
structure SlotView.Typed (v : SlotView) : Prop where
  bool : v.type ≠ .bool → v.bool = false
  number : v.type ≠ .num → v.number = .zero
  bytes : v.type ≠ .string → v.bytes = []
  token : v.type ≠ .foreign → v.token = none

namespace InMemory

variable {m : Machine} {slot : Nat}

theorem typed_look (m : Machine) (slot : Nat) : (Slots.look m slot).Typed := by
  rw [Machine.look_eq]
  cases m.slots[slot]? with
  | none => exact ⟨fun _ => rfl, fun _ => rfl, fun _ => rfl, fun _ => rfl⟩
  | some v => cases v <;> constructor <;> simp [Machine.view, Machine.typeOf]

theorem listIn?_of_type_ne (hkind : Slots.type m slot ≠ .list) : m.listIn? slot = none := by
  cases hslot : m.slots[slot]? with
  | none => simp only [Machine.listIn?, hslot]
  | some v =>
    rw [type_of_getElem? hslot] at hkind
    cases v with
    | list => exact absurd rfl hkind
    | _ => simp only [Machine.listIn?, hslot]

theorem slot_of_ge (hout : m.slots.length ≤ slot) : m.slot slot = .null := by
  rw [Machine.slot, List.getElem?_eq_none hout, Option.getD_none]

/-- The window with a slot made behind it, and with the slots between, which hold null. -/
def Machine.grown (m : Machine) (slot : Nat) (value : ScriptValue) : Machine :=
  { m with slots := m.slots ++ List.replicate (slot - m.slots.length) .null ++ [value] }

/-- A slot that is not there is made. -/
theorem setSlot_of_ge (hout : m.slots.length ≤ slot) (value : ScriptValue) :
    m.setSlot slot value = m.grown slot value := by
  have hslots : (m.slots ++ List.replicate (slot + 1 - m.slots.length) ScriptValue.null).set slot
      value = m.slots ++ List.replicate (slot - m.slots.length) ScriptValue.null ++ [value] := by
    obtain ⟨extra, rfl⟩ := Nat.exists_eq_add_of_le hout
    rw [List.set_append_right _ _ hout, Nat.add_sub_cancel_left, Nat.add_assoc,
      Nat.add_sub_cancel_left, List.replicate_succ', List.set_append_right _ _ (by simp),
      List.append_assoc]
    simp
  rw [Machine.setSlot, Machine.ensure, Machine.grown, hslots]

/-- A write changes nothing iff the slot is there and holds the value already. -/
theorem setSlot_eq_self_iff {value : ScriptValue} :
    m.setSlot slot value = m ↔ m.slots[slot]? = some value := by
  rcases Nat.lt_or_ge slot m.slots.length with hin | hout
  · constructor
    · intro hsame
      rw [← hsame, m.slots_setSlot value hin, List.getElem?_set_self hin]
    · intro hvalue
      obtain ⟨hlt, hat⟩ := List.getElem?_eq_some_iff.mp hvalue
      rw [m.setSlot_of_lt value hin, ← hat, List.set_getElem_self]
  · refine iff_of_false (fun hsame => ?_) (by simp [hout])
    have hlength := length_setSlot_of_ge hout value
    rw [hsame] at hlength
    omega

/-- An element that is not there is read as null. -/
theorem element_of_ge {index : Nat} (hout : Slots.listCount m slot ≤ index) :
    ((m.listIn? slot).bind (·.2[index]?)).getD .null = .null := by
  cases hlist : m.listIn? slot with
  | none => rfl
  | some found =>
    rw [VirtualMachine.listCount_of_listIn? hlist] at hout
    simp [hout]

theorem insertionPoint?_le {length point : Nat} {index : Int}
    (h : insertionPoint? length index = some point) : point ≤ length := by
  obtain ⟨hindex, hpoint⟩ := insertionPoint?_eq_some.mp h
  simp only [IsInsertionIndex, insertionPoint] at hindex hpoint
  split_ifs at hpoint <;> omega

theorem getVariable_of_clean {module name : String} (hmodule : refuseNul module = .ok ())
    (hname : refuseNul name = .ok ()) :
    Slots.getVariable m module name slot = .ok (m.setSlot slot (m.readVariable module name)) := by
  simp only [Slots.getVariable, hmodule, hname]
  rfl

/-- An insertion changes nothing iff there is no list to insert into. -/
theorem insertElement_eq_self_iff {index : Int} {element : Nat} :
    Slots.insertElement m slot index element = .ok m ↔ m.listIn? slot = none := by
  cases hlist : m.listIn? slot with
  | none => exact iff_of_true (by simp only [Slots.insertElement, hlist]; rfl) rfl
  | some found =>
    obtain ⟨list, elements⟩ := found
    refine iff_of_false (fun hsame => ?_) (Option.some_ne_none _)
    cases hpoint : insertionPoint? elements.length index with
    | none =>
      simp only [Slots.insertElement, hlist, hpoint] at hsame
      cases hsame
    | some point =>
      rw [VirtualMachine.insertElement_of_listIn? hlist hpoint, Except.ok.injEq] at hsame
      -- The list is longer than before.
      have hbefore := (Machine.reaches_of_listIn? [] hlist).1
      have hafter : (m.withList list (elements.insertIdx point (m.slot element))).elements?
          (.list list) = some (elements.insertIdx point (m.slot element)) :=
        Machine.elements?_withList_self (List.getElem?_eq_some_iff.mp hbefore).1
      rw [hsame] at hafter
      have hlonger := congrArg List.length (Option.some.inj (hbefore.symm.trans hafter))
      rw [List.length_insertIdx_of_le_length (insertionPoint?_le hpoint)] at hlonger
      omega

end InMemory

namespace WindowStep

/-- The operations that put a value into a slot, with the value. -/
inductive Stores (slot : Nat) : WindowStep → ScriptValue → Prop
  | bool (b : Bool) : Stores slot (.setBool slot b) (.bool b)
  | number (x : Number) : Stores slot (.setNumber slot x) (.num x)
  | bytes (b : Bytes) : Stores slot (.setBytes slot b) (.string b)
  | text (s : String) : Stores slot (.setText slot s) (.string (Utf8.encode s))
  | null : Stores slot (.setNull slot) .null

theorem Stores.run {m : Machine} {slot : Nat} {step : WindowStep} {value : ScriptValue}
    (h : step.Stores slot value) : step.run m = .ok (.nothing, m.setSlot slot value) := by
  cases h <;> rfl

/-- The operations that answer what is in a slot. -/
def Gets : WindowStep → Prop
  | .type _ | .bool _ | .number _ | .bytes _ | .text _ | .token _ | .listCount _ => True
  | _ => False

/-- A misused operation on a machine is one that only gets, or happens to change nothing: an
element that is not there is read as null into a slot that holds null already, there is no list to
insert into, the name of a variable is refused, or the machine has aborted with null already. -/
def Harmless (m : Machine) : WindowStep → Prop
  | .pin _ | .setBool .. | .setNumber .. | .setBytes .. | .setText .. | .setNull _
  | .setNewList _ => False
  | .getElement _ _ element => m.slots[element]? = some .null
  | .insertElement slot _ _ => m.listIn? slot = none
  | .getVariable module name _ => 0 ∈ Utf8.encode module ∨ 0 ∈ Utf8.encode name
  | .abort _ => m.aborted = some .null
  | _ => True

end WindowStep

namespace InMemory

variable {m : Machine} {slot : Nat} {step : WindowStep}

theorem keepsContract_iff_of_run {reply : WindowReply} {m' : Machine}
    (hrun : step.run m = .ok (reply, m')) :
    step.KeepsContract m ↔ reply = step.refusal m ∧ m' = m := by
  rw [WindowStep.KeepsContract, hrun, Except.ok.injEq, Prod.mk.injEq]

theorem ok_of_eq {α : Type} {answer default : α} (reply : α → WindowReply)
    (h : answer = default) :
    (.ok (reply answer, m) : Except Panic (WindowReply × Machine)) = .ok (reply default, m) := by
  rw [h]

/-- A setter that is given a slot that is not there makes it. -/
theorem not_keepsContract_of_stores {value : ScriptValue} (h : step.Stores slot value)
    (hout : m.slots.length ≤ slot) : ¬step.KeepsContract m := by
  rw [keepsContract_iff_of_run h.run, setSlot_eq_self_iff, List.getElem?_eq_none hout]
  exact fun hboth => nomatch hboth.2

/-- A getter gives its default. -/
theorem keepsContract_of_gets (hgets : step.Gets) (hmisused : step.Misused m) :
    step.KeepsContract m := by
  cases step <;> try exact hgets.elim
  case type slot =>
    have htype : Slots.type m slot = .unknown := by
      show (m.slots[slot]?.map Machine.typeOf).getD .unknown = .unknown
      rw [List.getElem?_eq_none hmisused]
      rfl
    exact ok_of_eq .type htype
  case bool slot => exact ok_of_eq .flag ((typed_look m slot).bool hmisused)
  case number slot => exact ok_of_eq .number ((typed_look m slot).number hmisused)
  case bytes slot => exact ok_of_eq .bytes ((typed_look m slot).bytes hmisused)
  case text slot =>
    exact ok_of_eq .text (congrArg Utf8.decode ((typed_look m slot).bytes hmisused))
  case token slot => exact ok_of_eq .token ((typed_look m slot).token hmisused)
  case listCount slot =>
    have hdefault : Slots.listCount m slot = 0 := by
      show ((m.listIn? slot).map (·.2.length)).getD 0 = 0
      rw [listIn?_of_type_ne hmisused]
      rfl
    exact ok_of_eq .natural hdefault

theorem not_keepsContract_pin : ¬(WindowStep.pin slot).KeepsContract m := by
  intro hkeeps
  cases ((keepsContract_iff_of_run rfl).mp hkeeps).1

theorem not_keepsContract_setNewList : ¬(WindowStep.setNewList slot).KeepsContract m := by
  intro hkeeps
  have hlists := congrArg (·.lists.length) ((keepsContract_iff_of_run rfl).mp hkeeps).2
  change (m.lists ++ [[]]).length = m.lists.length at hlists
  simp at hlists

theorem keepsContract_getElement_iff {index element : Nat}
    (hmisused : (WindowStep.getElement slot index element).Misused m) :
    (WindowStep.getElement slot index element).KeepsContract m ↔
      m.slots[element]? = some .null := by
  refine (keepsContract_iff_of_run rfl).trans ((and_iff_right rfl).trans ?_)
  refine setSlot_eq_self_iff.trans ?_
  rcases hmisused with hout | hout
  · simp [List.getElem?_eq_none hout]
  · rw [element_of_ge hout]

theorem keepsContract_insertElement_iff {index : Int} {element : Nat} :
    (WindowStep.insertElement slot index element).KeepsContract m ↔ m.listIn? slot = none := by
  suffices hself : (WindowStep.insertElement slot index element).KeepsContract m ↔
      Slots.insertElement m slot index element = .ok m from
    hself.trans insertElement_eq_self_iff
  rw [WindowStep.KeepsContract, WindowStep.run]
  cases Slots.insertElement m slot index element with
  | error e => exact iff_of_false (fun hkeeps => by cases hkeeps) fun hself => by cases hself
  | ok m' =>
    show (Except.ok (WindowReply.nothing, m') : Except Panic (WindowReply × Machine)) =
      .ok (.nothing, m) ↔ (Except.ok m' : Except Panic Machine) = .ok m
    rw [Except.ok.injEq, Except.ok.injEq, Prod.mk.injEq]
    exact and_iff_right rfl

/-- A variable is not loaded only if one of the names is refused. -/
theorem keepsContract_getVariable_iff {module name : String} :
    (WindowStep.getVariable module name slot).KeepsContract m ↔
      0 ∈ Utf8.encode module ∨ 0 ∈ Utf8.encode name := by
  have hrun (reply : WindowReply × Machine)
      (hloaded : keepOnError m (Slots.getVariable m module name slot) = reply) :
      (WindowStep.getVariable module name slot).run m = .ok reply :=
    congrArg Except.ok hloaded
  rcases refuseNul_cases module with ⟨hmodule, hclean⟩ | ⟨e, hmodule, hnul⟩
  · rcases refuseNul_cases name with ⟨hname, hclean'⟩ | ⟨e, hname, hnul⟩
    -- Both names pass: the slot is grown and written, whatever the variable.
    · refine iff_of_false ?_ (not_or.mpr ⟨hclean, hclean'⟩)
      rw [keepsContract_iff_of_run (hrun _ (congrArg (keepOnError m)
        (getVariable_of_clean hmodule hname)))]
      simp only [WindowStep.refusal, loadRefusal, hmodule, hname]
      rintro ⟨hreply, -⟩
      cases hreply
    · refine iff_of_true ?_ (.inr hnul)
      simp only [WindowStep.KeepsContract, WindowStep.refusal, loadRefusal, hmodule, hname]
      exact hrun _ (by simp only [Slots.getVariable, hmodule, hname]; rfl)
  · refine iff_of_true ?_ (.inl hnul)
    simp only [WindowStep.KeepsContract, WindowStep.refusal, loadRefusal, hmodule]
    exact hrun _ (by simp only [Slots.getVariable, hmodule]; rfl)

theorem keepsContract_abort_iff (hout : m.slots.length ≤ slot) :
    (WindowStep.abort slot).KeepsContract m ↔ m.aborted = some .null := by
  refine (keepsContract_iff_of_run rfl).trans ((and_iff_right rfl).trans ?_)
  show { m with aborted := some (m.slot slot) } = m ↔ m.aborted = some .null
  rw [slot_of_ge hout]
  constructor
  · intro hsame
    rw [← hsame]
  · intro hnull
    rw [← hnull]

/-- Misused on a machine in memory, an operation keeps the contract iff it is harmless. -/
theorem keepsContract_iff (hmisused : step.Misused m) :
    step.KeepsContract m ↔ step.Harmless m := by
  have hgets : step.Gets → (step.KeepsContract m ↔ True) := fun hgets =>
    iff_true_intro (keepsContract_of_gets hgets hmisused)
  have hstores {slot : Nat} {value : ScriptValue} (h : step.Stores slot value)
      (hout : m.slots.length ≤ slot) : step.KeepsContract m ↔ False :=
    iff_false_intro (not_keepsContract_of_stores h hout)
  -- Setters and readers of variables grow the window, getters never do.
  cases step with
  | get | set | readValue | writeValue | ensure | count | setPinned | setNewForeign =>
    exact hmisused.elim
  | type | bool | number | bytes | text | token | listCount => exact hgets trivial
  | setBool slot b => exact hstores (.bool b) hmisused
  | setNumber slot x => exact hstores (.number x) hmisused
  | setBytes slot b => exact hstores (.bytes b) hmisused
  | setText slot s => exact hstores (.text s) hmisused
  | setNull slot => exact hstores .null hmisused
  | pin slot => exact iff_false_intro not_keepsContract_pin
  | setNewList slot => exact iff_false_intro not_keepsContract_setNewList
  | getElement slot index element => exact keepsContract_getElement_iff hmisused
  | insertElement slot index element => exact keepsContract_insertElement_iff
  | getVariable module name slot => exact keepsContract_getVariable_iff
  | abort slot => exact keepsContract_abort_iff hmisused

/-- Beside a list nothing can be inserted. -/
theorem insertElement_beside {list element : Nat} {elements : List ScriptValue} {index : Int}
    (hlist : m.listIn? slot = some (list, elements))
    (hplace : ¬IsInsertionIndex elements.length index) :
    (WindowStep.insertElement slot index element).run m =
      .error (.message s!"list index {index} outside a list of {elements.length} elements") := by
  simp only [WindowStep.run, Slots.insertElement, hlist, insertionPoint?_eq_none hplace]
  rfl

theorem count_grown (hout : m.slots.length ≤ slot) (value : ScriptValue) :
    Slots.count (m.grown slot value) = slot + 1 := by
  show (m.slots ++ List.replicate (slot - m.slots.length) ScriptValue.null ++ [value]).length = _
  simp only [List.length_append, List.length_replicate, List.length_singleton]
  omega

/-- What comes of operations outside their contract, on guarded windows and on a machine in
memory. -/
structure OutsideContract (m : Machine) : Prop where
  /-- A guarded window keeps the contract where the questions of its guards change nothing. -/
  guarded : ∀ {C : Type} [EngineApi (StateM C)] {c : C}, Unmoved c → ∀ step : WindowStep,
    letI : Slots C := guardedSlots
    step.Misused c → step.KeepsContract c
  /-- The machine keeps it for what is harmless, and for nothing else. -/
  keeps_iff : ∀ step : WindowStep, step.Misused m → (step.KeepsContract m ↔ step.Harmless m)
  /-- The window grows up to the slot it is made to hold. -/
  count : ∀ slot value, Slots.count m ≤ slot → Slots.count (m.grown slot value) = slot + 1
  /-- A slot that is not there is made for the value it is set to, ... -/
  stores : ∀ slot (step : WindowStep) value, step.Stores slot value → Slots.count m ≤ slot →
    step.run m = .ok (.nothing, m.grown slot value)
  /-- ... for a new list, ... -/
  newList : ∀ slot, Slots.count m ≤ slot →
    (WindowStep.setNewList slot).run m =
      .ok (.nothing, { m with lists := m.lists ++ [[]] }.grown slot (.list m.lists.length))
  /-- ... for an element, be it there or not, ... -/
  element : ∀ slot index element, Slots.count m ≤ element →
    (WindowStep.getElement slot index element).run m =
      .ok (.nothing, m.grown element (((m.listIn? slot).bind (·.2[index]?)).getD .null))
  /-- ... and for a variable. -/
  loads : ∀ module name slot, Slots.count m ≤ slot →
    0 ∉ Utf8.encode module → 0 ∉ Utf8.encode name →
    (WindowStep.getVariable module name slot).run m =
      .ok (.done (.ok ()), m.grown slot (m.readVariable module name))
  /-- A slot that is to take an element that is not there loses what it holds. -/
  missing : ∀ slot index element, element < Slots.count m → Slots.listCount m slot ≤ index →
    (WindowStep.getElement slot index element).run m =
      .ok (.nothing, { m with slots := m.slots.set element .null })
  /-- Null is inserted where the slot of the element is not there. -/
  absent : ∀ slot index element list elements point,
    m.listIn? slot = some (list, elements) →
    insertionPoint? elements.length index = some point → Slots.count m ≤ element →
    (WindowStep.insertElement slot index element).run m =
      .ok (.nothing, m.withList list (elements.insertIdx point .null))
  /-- An insertion beside the list ends the run. -/
  beside : ∀ slot index element list elements, m.listIn? slot = some (list, elements) →
    ¬IsInsertionIndex elements.length index →
    (WindowStep.insertElement slot index element).run m =
      .error (.message s!"list index {index} outside a list of {elements.length} elements")
  /-- Null is pinned for a slot that is not there, ... -/
  pins : ∀ slot, Slots.count m ≤ slot →
    (WindowStep.pin slot).run m =
      .ok (.handle (some ⟨m.handles.length + 1⟩),
        { m with handles := m.handles ++ [some .null] })
  /-- ... and null is what an abort takes from it. -/
  aborts : ∀ slot, Slots.count m ≤ slot →
    (WindowStep.abort slot).run m = .ok (.nothing, { m with aborted := some .null })

theorem outsideContract (m : Machine) : OutsideContract m where
  guarded := fun h _ => Guarded.keepsContract h
  keeps_iff _ := keepsContract_iff
  count _ value hout := count_grown hout value
  stores _ step value hstores hout := by
    rw [hstores.run, setSlot_of_ge hout]
  newList slot hout :=
    congrArg (fun m' => Except.ok (WindowReply.nothing, m')) <|
      setSlot_of_ge (m := { m with lists := m.lists ++ [[]] }) hout (.list m.lists.length)
  element slot index element hout := by
    show Except.ok (WindowReply.nothing,
      m.setSlot element (((m.listIn? slot).bind (·.2[index]?)).getD .null)) = _
    rw [setSlot_of_ge hout]
  loads module name slot hout hmodule hname := by
    show Except.ok (keepOnError m (Slots.getVariable m module name slot)) = _
    have hclean {text : String} (h : 0 ∉ Utf8.encode text) : refuseNul text = .ok () :=
      (refuseNul_cases text).elim And.left fun ⟨_, _, hnul⟩ => absurd hnul h
    rw [getVariable_of_clean (hclean hmodule) (hclean hname), setSlot_of_ge hout]
    rfl
  missing slot index element hin hmissing := by
    show Except.ok (WindowReply.nothing,
      m.setSlot element (((m.listIn? slot).bind (·.2[index]?)).getD .null)) = _
    rw [element_of_ge hmissing, m.setSlot_of_lt .null hin]
  absent slot index element list elements point hlist hpoint hout := by
    show (Slots.insertElement m slot index element >>= fun m' =>
      pure (WindowReply.nothing, m')) = _
    rw [VirtualMachine.insertElement_of_listIn? hlist hpoint, slot_of_ge hout]
    rfl
  beside _ _ _ _ _ hlist hplace := insertElement_beside hlist hplace
  pins slot hout := by
    show Except.ok (WindowReply.handle (some ⟨m.handles.length + 1⟩),
      { m with handles := m.handles ++ [some (m.slot slot)] }) = _
    rw [slot_of_ge hout]
  aborts slot hout := by
    show Except.ok (WindowReply.nothing, { m with aborted := some (m.slot slot) }) = _
    rw [slot_of_ge hout]

/-- On an empty window null is written into a slot that is not there. -/
theorem not_keepsContract_bare :
    ¬∀ (m : Machine) (step : WindowStep), step.Misused m → step.KeepsContract m := by
  intro hkeeps
  have hempty := hkeeps .bare (.setNull 0) (Nat.le_refl 0)
  have hgrows : (WindowStep.setNull 0).run Machine.bare =
      .ok (.nothing, { Machine.bare with slots := [.null] }) :=
    rfl
  have hslots := congrArg (·.slots) ((keepsContract_iff_of_run hgrows).mp hempty).2
  exact List.cons_ne_nil _ _ hslots

end InMemory

end ScriptHost
