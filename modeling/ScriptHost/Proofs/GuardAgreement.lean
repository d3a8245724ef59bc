/-
Two layers of guards.

A virtual machine checks what it is given before it touches its window, and the window of an
engine checks again before it calls the engine.  The two layers agree: whatever the first accepts
comes to a method of the window, and the guards of that method let it through.

* **`Reads`**, **`Writes`**, **`VirtualMachine.Looks`**, **`VirtualMachine.Changes`** — which
  method of the window an operation comes to;
* **`Readable.through`**, **`Writable.through`** — checked conversions;
* **`VirtualMachine.passed_of_perform`** — operations of a virtual machine, one by one;
* **`Guarded.neverMisused`** — both layers, for an engine in any state.
-/
import ScriptHost.Proofs.CheckedAccess
import ScriptHost.Proofs.Disposal
import ScriptHost.Proofs.GuardedWindow
import ScriptHost.Scripted.Run

namespace ScriptHost

open Guarded

/-! ### What an operation that answered went through -/

namespace VirtualMachine

open Op

variable {B α β : Type} {vm vm' : VirtualMachine B}

/-- One operation after another, both of which answered. -/
theorem Op.exists_of_bind_apply_eq_ok {first : Op B β} {next : β → Op B α} {a : α}
    (h : (first >>= next) vm = (.ok (.ok a), vm')) :
    ∃ b between, first vm = (.ok (.ok b), between) ∧ next b between = (.ok (.ok a), vm') := by
  rw [bind_apply] at h
  rcases hfirst : first vm with ⟨_ | _ | b, between⟩ <;> rw [hfirst] at h
  · cases h
  · cases h
  · exact ⟨b, between, rfl, h⟩

theorem Op.Leads.of_eq_ok {op : Op B α} {ok : α → VirtualMachine B → Prop}
    {stop : VirtualMachine B → Prop} (h : Leads op vm ok stop) {a : α}
    (hok : op vm = (.ok (.ok a), vm')) : ok a vm' := by
  have hend : ok a (op vm).2 := h.of_ok (congrArg Prod.fst hok)
  rw [hok] at hend
  exact hend

theorem onWindow_eq_ok {look : B → Except HostError α} {a : α}
    (h : onWindow look vm = (.ok (.ok a), vm')) : look vm.world.vm = .ok a ∧ vm' = vm := by
  have hleads : Leads (onWindow look) vm (fun a vm' => look vm.world.vm = .ok a ∧ vm' = vm)
      fun _ => True :=
    Leads.onWindow (fun _ _ hlook => ⟨hlook, rfl⟩) trivial
  exact hleads.of_eq_ok h

theorem changeWindow_eq_ok {change : B → Except HostError B} {u : Unit}
    (h : changeWindow change vm = (.ok (.ok u), vm')) :
    change vm.world.vm = .ok vm'.world.vm := by
  obtain ⟨machine, between, hchange, hset⟩ := Op.exists_of_bind_apply_eq_ok h
  obtain ⟨hmachine, rfl⟩ := onWindow_eq_ok hchange
  obtain rfl := (Prod.mk.inj hset).2
  exact hmachine

variable [Backend B]

theorem getSlotHandle_eq_ok {slot : Nat} {handle : Handle}
    (h : getSlotHandle slot vm = (.ok (.ok handle), vm')) :
    checkSlot vm.world.vm slot = .ok () ∧ vm'.world.vm = (Slots.pin vm.world.vm slot).2 := by
  obtain ⟨_, _, hlook, -⟩ := Op.exists_of_bind_apply_eq_ok h
  refine ⟨(onWindow_eq_ok hlook).1, ?_⟩
  have hleads : Leads (getSlotHandle slot) vm
      (fun _ vm' => vm'.world.vm = (Slots.pin vm.world.vm slot).2) fun _ => True :=
    leads_getSlotHandle slot trivial (fun _ _ _ => trivial) fun _ _ _ _ hpin => by
      rw [hpin]
      rfl
  exact hleads.of_eq_ok h

theorem setSlotValue_eq_ok {slot : Nat} {value : HostValue} {u : Unit}
    (h : setSlotValue slot value vm = (.ok (.ok u), vm')) :
    writeOwnedValue vm.world.vm slot value vm.world.host.handles = .ok vm'.world.vm := by
  have hchange : changeWindow (writeOwnedValue · slot value vm.world.host.handles) vm =
      (.ok (.ok u), vm') := h
  exact changeWindow_eq_ok hchange

theorem getListElement_eq_ok {listSlot index elementSlot : Nat} {u : Unit}
    (h : getListElement listSlot index elementSlot vm = (.ok (.ok u), vm')) :
    expectList vm.world.vm listSlot = .ok () ∧ checkSlot vm.world.vm elementSlot = .ok () ∧
      index < Slots.listCount vm.world.vm listSlot ∧
      vm'.world.vm = Slots.getElement vm.world.vm listSlot index elementSlot := by
  have hchange := changeWindow_eq_ok h
  obtain ⟨_, hlist, hrest⟩ := exists_of_bind_eq_ok hchange
  obtain ⟨_, helement, hget⟩ := exists_of_bind_eq_ok hrest
  dsimp only at hget
  split at hget
  · cases hget
  · rename_i hrange
    exact ⟨hlist, helement, Nat.not_le.mp hrange, (Except.ok.inj hget).symm⟩

theorem insertInList_eq_ok {listSlot elementSlot : Nat} {index : Int} {u : Unit}
    (h : insertInList listSlot index elementSlot vm = (.ok (.ok u), vm')) :
    expectList vm.world.vm listSlot = .ok () ∧ checkSlot vm.world.vm elementSlot = .ok () ∧
      (-((Slots.listCount vm.world.vm listSlot : Int) + 1) ≤ index ∧
        index ≤ Slots.listCount vm.world.vm listSlot) ∧
      Slots.insertElement vm.world.vm listSlot index elementSlot = .ok vm'.world.vm := by
  obtain ⟨_, _, hlook, -⟩ := Op.exists_of_bind_apply_eq_ok h
  obtain ⟨hcheck, -⟩ := onWindow_eq_ok hlook
  obtain ⟨_, hlist, hrest⟩ := exists_of_bind_eq_ok hcheck
  obtain ⟨_, helement, hrange⟩ := exists_of_bind_eq_ok hrest
  have hleads : Leads (insertInList listSlot index elementSlot) vm (fun _ vm' =>
      Slots.insertElement vm.world.vm listSlot index elementSlot = .ok vm'.world.vm)
      fun _ => True := by
    refine Leads.bind (m := fun _ between => between = vm)
      (Leads.onWindow (fun _ _ _ => rfl) trivial) ?_
    rintro _ between rfl
    refine Leads.inside (Run.Leads.onVm? (fun _ machine hinsert => ?_) fun _ _ => trivial)
    obtain ⟨_, hinserted, hmachine⟩ := exists_of_bind_eq_ok hinsert
    obtain rfl := (Prod.mk.inj (Except.ok.inj hmachine)).2
    exact hinserted
  refine ⟨hlist, helement, ?_, hleads.of_eq_ok h⟩
  dsimp only at hrange
  split at hrange
  · cases hrange
  · omega

theorem getVariable_eq_ok {module name : String} {slot : Nat} {u : Unit}
    (h : getVariable module name slot vm = (.ok (.ok u), vm')) :
    checkSlot vm.world.vm slot = .ok () ∧
      Slots.getVariable vm.world.vm module name slot = .ok vm'.world.vm := by
  obtain ⟨_, hslot, hload⟩ := exists_of_bind_eq_ok (changeWindow_eq_ok h)
  exact ⟨hslot, hload⟩

end VirtualMachine

/-! ### What checked reads and writes come to -/

section

variable {C : Type} [EngineApi (StateM C)] {c c' : C} {slot : Nat} {α β : Type}

/-- A checked read at the type `α`, by the getter it comes to and what it makes of the answer,
where the engine is in the state `c`. -/
inductive Reads (c : C) (slot : Nat) :
    (α : Type) → [FromSlot α] → {β : Type} → (β → α) → SlotMethod β → Prop
  | bool : Reads c slot Bool id (.bool slot)
  | number : Reads c slot Number id (.number slot)
  | int32 : Reads c slot Int32 Number.toInt32 (.number slot)
  | int64 : Reads c slot Int64 Number.toInt64 (.number slot)
  | text : Reads c slot String id (.text slot)
  | bytes : Reads c slot Bytes id (.bytes slot)
  | unit : Reads c slot Unit (fun _ => ()) (.type slot)
  /-- A value of any kind is read with the getter for what the slot holds. -/
  | valueBool : kindAt c (word slot) = .bool → Reads c slot HostValue .bool (.bool slot)
  | valueNumber : kindAt c (word slot) = .num → Reads c slot HostValue .float (.number slot)
  | valueText : kindAt c (word slot) = .string → Reads c slot HostValue .text (.text slot)
  | valueNull : kindAt c (word slot) = .null →
    Reads c slot HostValue (fun _ => .null) (.type slot)
  | absent {α : Type} [FromSlot α] : kindAt c (word slot) = .null →
    Reads c slot (Option α) (fun _ => none) (.type slot)
  | present {α β : Type} [FromSlot α] {convert : β → α} {method : SlotMethod β} :
    kindAt c (word slot) ≠ .null → Reads c slot α convert method →
    Reads c slot (Option α) (fun b => some (convert b)) method

/-- A checked write, by the setter it comes to. -/
inductive Writes (slot : Nat) : {α : Type} → [IntoSlot α] → α → SlotMethod Unit → Prop
  | bool (b : Bool) : Writes slot b (.setBool slot b)
  | number (x : Number) : Writes slot x (.setNumber slot x)
  | int32 (i : Int32) : Writes slot i (.setNumber slot (.ofInt32 i))
  | int64 (i : Int64) : Writes slot i (.setNumber slot (.ofInt64 i))
  | text (s : String) : Writes slot s (.setText slot s)
  | bytes (b : Bytes) : Writes slot b (.setBytes slot b)
  | unit : Writes slot () (.setNull slot)
  | absent {α : Type} [IntoSlot α] : Writes slot (none : Option α) (.setNull slot)
  | present {α : Type} [IntoSlot α] {a : α} {method : SlotMethod Unit} :
    Writes slot a method → Writes slot (some a) method
  | valueNull : Writes slot (.null : HostValue) (.setNull slot)
  | valueBool (b : Bool) : Writes slot (.bool b : HostValue) (.setBool slot b)
  | valueInt (i : Int64) : Writes slot (.int i : HostValue) (.setNumber slot (.ofInt64 i))
  | valueFloat (x : Number) : Writes slot (.float x : HostValue) (.setNumber slot x)
  | valueText (s : String) : Writes slot (.text s : HostValue) (.setText slot s)

/-- A write of a value that may be a handle of `owner`, by the setter it comes to. -/
inductive WritesOwned (owner : HandleRegistry) (slot : Nat) : HostValue → SlotMethod Unit → Prop
  | plain {value : HostValue} {method : SlotMethod Unit} :
    Writes slot value method → WritesOwned owner slot value method
  | pinned {reference : HandleRef} {raw : RawHandle} : owner.raw? reference.id = some raw →
    WritesOwned owner slot (.handle reference) (.setPinned slot raw)

theorem type_guarded (hsteady : Steady c) (hin : slot < slotsOf c) :
    @Slots.type C guardedSlots c slot = kindAt c (word slot) := by
  obtain ⟨_, _, -, -, hkind, -⟩ := ((SlotMethod.type slot).guardsHold hsteady).admitted hin
  exact hkind

theorem listCount_guarded (hsteady : Steady c) (hholds : Holds c slot .list) :
    @Slots.listCount C guardedSlots c slot = lengthAt c (word slot) := by
  obtain ⟨_, _, -, -, hlength, -⟩ :=
    ((SlotMethod.listCount slot).guardsHold hsteady).admitted hholds
  exact hlength

theorem holds_of_expectType (hsteady : Steady c) {wanted : SlotType} {expected : String} {u : Unit}
    (hok : @expectType C guardedSlots c slot wanted expected = .ok u) : Holds c slot wanted := by
  obtain ⟨hin, hkind⟩ := (@expectType_eq_ok C guardedSlots c slot wanted expected u).mp hok
  exact ⟨hin, (type_guarded hsteady hin).symm.trans hkind⟩

/-- A read of one kind of slot that passed its own checks. -/
theorem through_of_expectType (hsteady : Steady c) {wanted : SlotType} {expected : String}
    {a answer : α}
    (hok : (do @expectType C guardedSlots c slot wanted expected; pure answer) = .ok a) :
    Holds c slot wanted ∧ a = answer := by
  obtain ⟨_, hexpect, hanswer⟩ := exists_of_bind_eq_ok hok
  exact ⟨holds_of_expectType hsteady hexpect, (Except.ok.inj hanswer).symm⟩

/-- A value of any kind is read by the kind the engine tells. -/
theorem value_by_kind (hsteady : Steady c) {value : HostValue}
    (hok : @readValue C guardedSlots c slot = .ok value) :
    slot < slotsOf c ∧
      (match kindAt c (word slot) with
        | .bool => pure (.bool (@Slots.bool C guardedSlots c slot))
        | .num => pure (.float (@Slots.number C guardedSlots c slot))
        | .string => pure (.text (@Slots.text C guardedSlots c slot))
        | .null => pure .null
        | actual => throw (.slotTypeMismatch slot "Bool, Num, String or Null" actual) :
        Except HostError HostValue) = .ok value := by
  obtain ⟨_, hslot, hvalue⟩ := exists_of_bind_eq_ok hok
  have hin := (@checkSlot_eq_ok C guardedSlots _ _ _).mp hslot
  rw [type_guarded hsteady hin] at hvalue
  exact ⟨hin, hvalue⟩

/-- The types slots are read at. -/
inductive Readable : (α : Type) → [FromSlot α] → Prop
  | bool : Readable Bool
  | number : Readable Number
  | int32 : Readable Int32
  | int64 : Readable Int64
  | text : Readable String
  | bytes : Readable Bytes
  | unit : Readable Unit
  | value : Readable HostValue
  | option {α : Type} [FromSlot α] : Readable α → Readable (Option α)

/-- The types of values slots are written with. -/
inductive Writable : (α : Type) → [IntoSlot α] → Prop
  | bool : Writable Bool
  | number : Writable Number
  | int32 : Writable Int32
  | int64 : Writable Int64
  | text : Writable String
  | bytes : Writable Bytes
  | unit : Writable Unit
  | value : Writable HostValue
  | option {α : Type} [IntoSlot α] : Writable α → Writable (Option α)

/-- A read that passed its own checks passes those of the window. -/
theorem Readable.through [FromSlot α] (hreadable : Readable α) (hsteady : Steady c) {a : α}
    (hok : @FromSlot.read α _ C guardedSlots c slot = .ok a) :
    ∃ (β : Type) (convert : β → α) (method : SlotMethod β), Reads c slot α convert method ∧
      method.Admitted c ∧ a = convert (answerOf method.perform c) := by
  induction hreadable with
  | bool => exact ⟨_, _, _, .bool, through_of_expectType hsteady hok⟩
  | number => exact ⟨_, _, _, .number, through_of_expectType hsteady hok⟩
  | int32 => exact ⟨_, _, _, .int32, through_of_expectType hsteady hok⟩
  | int64 => exact ⟨_, _, _, .int64, through_of_expectType hsteady hok⟩
  | text => exact ⟨_, _, _, .text, through_of_expectType hsteady hok⟩
  | bytes => exact ⟨_, _, _, .bytes, through_of_expectType hsteady hok⟩
  | unit => exact ⟨_, _, _, .unit, (holds_of_expectType hsteady hok).1, rfl⟩
  | value =>
    obtain ⟨hin, hvalue⟩ := value_by_kind hsteady hok
    cases hkind : kindAt c (word slot) with
    | bool =>
      rw [hkind] at hvalue
      exact ⟨_, _, _, .valueBool hkind, ⟨hin, hkind⟩, (Except.ok.inj hvalue).symm⟩
    | num =>
      rw [hkind] at hvalue
      exact ⟨_, _, _, .valueNumber hkind, ⟨hin, hkind⟩, (Except.ok.inj hvalue).symm⟩
    | string =>
      rw [hkind] at hvalue
      exact ⟨_, _, _, .valueText hkind, ⟨hin, hkind⟩, (Except.ok.inj hvalue).symm⟩
    | null =>
      rw [hkind] at hvalue
      exact ⟨_, _, _, .valueNull hkind, hin, (Except.ok.inj hvalue).symm⟩
    | foreign | list | map | unknown =>
      -- No value is read from these.
      rw [hkind] at hvalue
      cases hvalue
  | option _ ih =>
    obtain ⟨_, hslot, hread⟩ := exists_of_bind_eq_ok hok
    have hin := (@checkSlot_eq_ok C guardedSlots _ _ _).mp hslot
    rw [type_guarded hsteady hin] at hread
    by_cases hkind : kindAt c (word slot) = .null
    · rw [if_pos hkind] at hread
      exact ⟨_, _, _, .absent hkind, hin, (Except.ok.inj hread).symm⟩
    · rw [if_neg hkind] at hread
      obtain ⟨b, hb, rfl⟩ := exists_of_map_eq_ok hread
      obtain ⟨_, _, _, hreads, hadmitted, rfl⟩ := ih hb
      exact ⟨_, _, _, .present hkind hreads, hadmitted, rfl⟩

/-- A value that was written went through the setter for its kind. -/
theorem value_through {value : HostValue}
    (hok : @writeValue C guardedSlots c slot value = .ok c') :
    ∃ method, Writes slot value method ∧ method.Admitted c ∧
      c' = stateAfter method.perform c := by
  cases value with
  | null => exact ⟨_, .valueNull, @writeChecked_eq_ok C guardedSlots _ _ _ _ hok⟩
  | bool b => exact ⟨_, .valueBool b, @writeChecked_eq_ok C guardedSlots _ _ _ _ hok⟩
  | int i => exact ⟨_, .valueInt i, @writeChecked_eq_ok C guardedSlots _ _ _ _ hok⟩
  | float x => exact ⟨_, .valueFloat x, @writeChecked_eq_ok C guardedSlots _ _ _ _ hok⟩
  | text s => exact ⟨_, .valueText s, @writeChecked_eq_ok C guardedSlots _ _ _ _ hok⟩
  | bytes b => cases hok
  | handle h => cases hok

theorem ownedValue_through {owner : HandleRegistry} {value : HostValue}
    (hok : @writeOwnedValue C guardedSlots c slot value owner = .ok c') :
    ∃ method, WritesOwned owner slot value method ∧ method.Admitted c ∧
      c' = stateAfter method.perform c := by
  unfold writeOwnedValue at hok
  cases value with
  | handle reference =>
    dsimp only at hok
    -- A handle of another owner was refused.
    split at hok
    · cases hok
    obtain ⟨_, hslot, hset⟩ := exists_of_bind_eq_ok hok
    cases hraw : owner.raw? reference.id with
    | none =>
      rw [hraw] at hset
      cases hset
    | some raw =>
      rw [hraw] at hset
      have hin := (@checkSlot_eq_ok C guardedSlots _ _ _).mp hslot
      exact ⟨_, .pinned hraw, hin, (Except.ok.inj hset).symm⟩
  | null | bool _ | int _ | float _ | text _ | bytes _ =>
    obtain ⟨method, hwrites, hpassed⟩ := value_through hok
    exact ⟨method, .plain hwrites, hpassed⟩

/-- A write that passed its own checks passes those of the window. -/
theorem Writable.through [IntoSlot α] (hwritable : Writable α) {a : α}
    (hok : @IntoSlot.write α _ C guardedSlots c slot a = .ok c') :
    ∃ method, Writes slot a method ∧ method.Admitted c ∧ c' = stateAfter method.perform c := by
  induction hwritable with
  | bool => exact ⟨_, .bool a, @writeChecked_eq_ok C guardedSlots _ _ _ _ hok⟩
  | number => exact ⟨_, .number a, @writeChecked_eq_ok C guardedSlots _ _ _ _ hok⟩
  | int32 => exact ⟨_, .int32 a, @writeChecked_eq_ok C guardedSlots _ _ _ _ hok⟩
  | int64 => exact ⟨_, .int64 a, @writeChecked_eq_ok C guardedSlots _ _ _ _ hok⟩
  | text => exact ⟨_, .text a, @writeChecked_eq_ok C guardedSlots _ _ _ _ hok⟩
  | bytes => exact ⟨_, .bytes a, @writeChecked_eq_ok C guardedSlots _ _ _ _ hok⟩
  | unit => exact ⟨_, .unit, @writeChecked_eq_ok C guardedSlots _ _ _ _ hok⟩
  | value => exact value_through hok
  | option _ ih =>
    cases a with
    | none => exact ⟨_, .absent, @writeChecked_eq_ok C guardedSlots _ _ _ _ hok⟩
    | some a =>
      obtain ⟨method, hwrites, hpassed⟩ := ih hok
      exact ⟨method, .present hwrites, hpassed⟩

/-- A variable that was loaded has a name without NUL, and a slot to be loaded into. -/
theorem loaded_through (hsteady : Steady c) {module name : String}
    (hok : @Slots.getVariable C guardedSlots c module name slot = .ok c') :
    (SlotMethod.getVariable module name slot).Admitted c ∧
      c' = stateAfter (SlotMethod.getVariable module name slot).perform c := by
  simp only [Slots.getVariable] at hok
  rcases hload : (Guarded.getVariable module name slot : StateM C _).run c with ⟨_ | _, after⟩ <;>
    rw [hload] at hok
  · cases hok
  · let method := SlotMethod.getVariable module name slot
    have hanswer : answerOf method.perform c = .ok () := congrArg Prod.fst hload
    have hstate : stateAfter method.perform c = after := congrArg Prod.snd hload
    refine ⟨?_, (Except.ok.inj hok).symm.trans hstate.symm⟩
    -- The answer of a refusal is an error.
    by_contra hnot
    have hrefused : method.refusal c = .ok () :=
      ((method.guardsHold hsteady).refused hnot).2.symm.trans hanswer
    obtain ⟨_, -, hrest⟩ := exists_of_bind_eq_ok hrefused
    obtain ⟨_, -, hout⟩ := exists_of_bind_eq_ok hrest
    cases hout

end

/-! ### Operations and the methods they come to -/

namespace VirtualMachine

open Op

section

variable {C : Type} [EngineApi (StateM C)]

/-- Operations on slots, lists and variables, less those that grow or measure the window. -/
inductive Attempt.Touches : {α : Type} → Attempt α → Prop
  | slotType (slot : Nat) : Touches (.slotType slot)
  | getSlot {α : Type} [FromSlot α] (slot : Nat) : Readable α → Touches (.getSlot α slot)
  | listCount (slot : Nat) : Touches (.listCount slot)
  | getSlotHandle (slot : Nat) : Touches (.getSlotHandle slot)
  | setSlot {α : Type} [IntoSlot α] (slot : Nat) (a : α) : Writable α → Touches (.setSlot slot a)
  | setSlotValue (slot : Nat) (value : HostValue) : Touches (.setSlotValue slot value)
  | setSlotHandle (slot : Nat) (handle : Handle) : Touches (.setSlotHandle slot handle)
  | setNewList (slot : Nat) : Touches (.setNewList slot)
  | getListElement (listSlot index elementSlot : Nat) :
    Touches (.getListElement listSlot index elementSlot)
  | insertInList (listSlot : Nat) (index : Int) (elementSlot : Nat) :
    Touches (.insertInList listSlot index elementSlot)
  | getVariable (module name : String) (slot : Nat) : Touches (.getVariable module name slot)
  | abortFiber (slot : Nat) : Touches (.abortFiber slot)

/-- An operation that looks at the window, by the getter it comes to and what it makes of the
answer, where the engine is in the state `c`. -/
inductive Looks (c : C) : {α β : Type} → Attempt α → (β → α) → SlotMethod β → Prop
  | slotType (slot : Nat) : Looks c (.slotType slot) id (.type slot)
  | listCount (slot : Nat) : Looks c (.listCount slot) id (.listCount slot)
  | getSlot {α β : Type} [FromSlot α] {slot : Nat} {convert : β → α} {method : SlotMethod β} :
    Reads c slot α convert method → Looks c (.getSlot α slot) convert method

/-- An operation that changes the window, by the method it comes to. -/
inductive Changes (vm : VirtualMachine C) : {α β : Type} → Attempt α → SlotMethod β → Prop
  | getSlotHandle (slot : Nat) : Changes vm (.getSlotHandle slot) (.pin slot)
  | setSlot {α : Type} [IntoSlot α] {slot : Nat} {a : α} {method : SlotMethod Unit} :
    Writes slot a method → Changes vm (.setSlot slot a) method
  | setSlotValue {slot : Nat} {value : HostValue} {method : SlotMethod Unit} :
    WritesOwned vm.world.host.handles slot value method →
    Changes vm (.setSlotValue slot value) method
  | setSlotHandle {slot : Nat} {handle : Handle} {method : SlotMethod Unit} :
    WritesOwned vm.world.host.handles slot (.handle handle.reference) method →
    Changes vm (.setSlotHandle slot handle) method
  | setNewList (slot : Nat) : Changes vm (.setNewList slot) (.setNewList slot)
  | getListElement (listSlot index elementSlot : Nat) :
    Changes vm (.getListElement listSlot index elementSlot)
      (.getElement listSlot index elementSlot)
  | insertInList (listSlot : Nat) (index : Int) (elementSlot : Nat) :
    Changes vm (.insertInList listSlot index elementSlot)
      (.insertElement listSlot index elementSlot)
  | getVariable (module name : String) (slot : Nat) :
    Changes vm (.getVariable module name slot) (.getVariable module name slot)
  | abortFiber (slot : Nat) : Changes vm (.abortFiber slot) (.abort slot)

/-- An operation that answered `a` came to a method the guards of the window let through, and did
what the method does. -/
inductive Passed (vm vm' : VirtualMachine C) : {α : Type} → Attempt α → α → Prop
  | looked {α β : Type} {attempt : Attempt α} {convert : β → α} {method : SlotMethod β} :
    Looks vm.world.vm attempt convert method → method.Admitted vm.world.vm → vm' = vm →
    Passed vm vm' attempt (convert (answerOf method.perform vm.world.vm))
  | changed {α β : Type} {attempt : Attempt α} {a : α} {method : SlotMethod β} :
    Changes vm attempt method → method.Admitted vm.world.vm →
    vm'.world.vm = stateAfter method.perform vm.world.vm → Passed vm vm' attempt a

/-! ### The two layers of guards -/

variable [backend : Backend C] {vm vm' : VirtualMachine C}

/-- A value that may be a handle is written, or refused. -/
theorem passed_ownedValue (hwindow : backend.toSlots = guardedSlots) {α : Type}
    {attempt : Attempt α} {a : α} {slot : Nat} {value : HostValue}
    (hchanges : ∀ {method : SlotMethod Unit},
      WritesOwned vm.world.host.handles slot value method → Changes vm attempt method)
    (hok : setSlotValue slot value vm = (.ok (.ok ()), vm')) : Passed vm vm' attempt a := by
  have hchange := setSlotValue_eq_ok hok
  rw [hwindow] at hchange
  obtain ⟨method, hwrites, hadmitted, hstate⟩ := ownedValue_through hchange
  exact .changed (hchanges hwrites) hadmitted hstate

theorem passed_getListElement (hwindow : backend.toSlots = guardedSlots)
    (hsteady : Steady vm.world.vm) {listSlot index elementSlot : Nat}
    (hok : getListElement listSlot index elementSlot vm = (.ok (.ok ()), vm')) :
    Passed vm vm' (.getListElement listSlot index elementSlot) () := by
  obtain ⟨hlist, helement, hrange, hstate⟩ := getListElement_eq_ok hok
  rw [hwindow] at hlist helement hrange hstate
  have hholds := holds_of_expectType hsteady hlist
  have hin := (@checkSlot_eq_ok C guardedSlots _ _ _).mp helement
  rw [listCount_guarded hsteady hholds] at hrange
  exact .changed (.getListElement listSlot index elementSlot) ⟨hholds, hin, hrange⟩ hstate

theorem passed_insertInList (hwindow : backend.toSlots = guardedSlots)
    (hsteady : Steady vm.world.vm) {listSlot : Nat} {index : Int} {elementSlot : Nat}
    (hok : insertInList listSlot index elementSlot vm = (.ok (.ok ()), vm')) :
    Passed vm vm' (.insertInList listSlot index elementSlot) () := by
  obtain ⟨hlist, helement, hrange, hinsert⟩ := insertInList_eq_ok hok
  rw [hwindow] at hlist helement hrange hinsert
  have hholds := holds_of_expectType hsteady hlist
  have hin := (@checkSlot_eq_ok C guardedSlots _ _ _).mp helement
  rw [listCount_guarded hsteady hholds] at hrange
  exact .changed (.insertInList listSlot index elementSlot) ⟨hholds, hin, hrange⟩
    (Except.ok.inj hinsert).symm

/-- What an operation on slots, lists or variables comes to if its own checks accept it. -/
theorem passed_of_perform (hwindow : backend.toSlots = guardedSlots)
    (hsteady : Steady vm.world.vm) {α : Type} {attempt : Attempt α} (htouches : attempt.Touches)
    {a : α} (hok : attempt.perform vm = (.ok (.ok a), vm')) : Passed vm vm' attempt a := by
  -- Each operation is taken apart into its checks, which speak of the window of the machine;
  -- on the window of an engine they say what its guards ask for.
  cases htouches <;> unfold Attempt.perform at hok <;> dsimp only at hok
  case slotType slot =>
    obtain ⟨hlook, rfl⟩ := onWindow_eq_ok hok
    rw [hwindow] at hlook
    obtain ⟨_, hslot, hanswer⟩ := exists_of_bind_eq_ok hlook
    obtain rfl := Except.ok.inj hanswer
    exact .looked (.slotType slot) ((@checkSlot_eq_ok C guardedSlots _ _ _).mp hslot) rfl
  case getSlot slot hreadable =>
    obtain ⟨hlook, rfl⟩ := onWindow_eq_ok hok
    rw [hwindow] at hlook
    obtain ⟨_, _, _, hreads, hadmitted, rfl⟩ := hreadable.through hsteady hlook
    exact .looked (.getSlot hreads) hadmitted rfl
  case listCount slot =>
    obtain ⟨hlook, rfl⟩ := onWindow_eq_ok hok
    rw [hwindow] at hlook
    obtain ⟨hholds, rfl⟩ := through_of_expectType hsteady hlook
    exact .looked (.listCount slot) hholds rfl
  case getSlotHandle slot =>
    obtain ⟨hslot, hstate⟩ := getSlotHandle_eq_ok hok
    rw [hwindow] at hslot hstate
    have hin := (@checkSlot_eq_ok C guardedSlots _ _ _).mp hslot
    exact .changed (.getSlotHandle slot) hin hstate
  case setSlot slot a hwritable =>
    have hchange := changeWindow_eq_ok hok
    rw [hwindow] at hchange
    obtain ⟨method, hwrites, hadmitted, hstate⟩ := hwritable.through hchange
    exact .changed (.setSlot hwrites) hadmitted hstate
  case setSlotValue slot value => exact passed_ownedValue hwindow .setSlotValue hok
  case setSlotHandle slot handle => exact passed_ownedValue hwindow .setSlotHandle hok
  case setNewList slot =>
    have hchange := changeWindow_eq_ok hok
    rw [hwindow] at hchange
    obtain ⟨hin, hstate⟩ := @writeChecked_eq_ok C guardedSlots _ _ _ _ hchange
    exact .changed (.setNewList slot) hin hstate
  case getListElement listSlot index elementSlot =>
    exact passed_getListElement hwindow hsteady hok
  case insertInList listSlot index elementSlot => exact passed_insertInList hwindow hsteady hok
  case getVariable module name slot =>
    obtain ⟨-, hload⟩ := getVariable_eq_ok hok
    rw [hwindow] at hload
    obtain ⟨hadmitted, hstate⟩ := loaded_through hsteady hload
    exact .changed (.getVariable module name slot) hadmitted hstate
  case abortFiber slot =>
    have hchange := changeWindow_eq_ok hok
    rw [hwindow] at hchange
    obtain ⟨hin, hstate⟩ := @writeChecked_eq_ok C guardedSlots _ _ _ _ hchange
    exact .changed (.abortFiber slot) hin hstate

/-- The checks of a virtual machine on the window of an engine are those of the window: they say
the same of a slot and of what it holds, and what they accept passes the guards. -/
structure GuardsAgree (vm : VirtualMachine C) : Prop where
  slot : ∀ slot, checkSlot vm.world.vm slot = .ok () ↔ slot < slotsOf vm.world.vm
  kind : ∀ slot kind expected, expectType vm.world.vm slot kind expected = .ok () ↔
    Holds vm.world.vm slot kind
  passed : ∀ {α : Type} {attempt : Attempt α}, attempt.Touches → ∀ {a vm'},
    attempt.perform vm = (.ok (.ok a), vm') → Passed vm vm' attempt a

theorem guardsAgree (hwindow : backend.toSlots = guardedSlots) (hsteady : Steady vm.world.vm) :
    vm.GuardsAgree where
  slot slot := by
    rw [hwindow]
    exact @checkSlot_eq_ok C guardedSlots _ _ _
  kind slot kind expected := by
    rw [hwindow]
    refine ⟨holds_of_expectType hsteady, fun hholds => ?_⟩
    have hkind := (type_guarded hsteady hholds.1).trans hholds.2
    exact (@expectType_eq_ok C guardedSlots _ _ _ _ _).mpr ⟨hholds.1, hkind⟩
  passed htouches _ _ hok := passed_of_perform hwindow hsteady htouches hok

end

end VirtualMachine

/-! ### The window of an engine -/

namespace Guarded

/-- Of an engine in any state in which it goes on telling the same of its window, whatever that
is: no method of the window calls it with what it may not be called with, and what a virtual
machine on that window accepts is accepted by the window. -/
theorem neverMisused {C : Type} [EngineApi (StateM C)] {c : C} (hsteady : Steady c) :
    (∀ {α : Type} (method : SlotMethod α), GuardsHold c method) ∧
      ∀ [backend : Backend C], backend.toSlots = guardedSlots →
        ∀ vm : VirtualMachine C, vm.world.vm = c → vm.GuardsAgree := by
  refine ⟨fun method => method.guardsHold hsteady, ?_⟩
  rintro backend hwindow vm rfl
  exact vm.guardsAgree hwindow hsteady

end Guarded

namespace Scripted

/-- An engine that follows scripts goes on telling the same. -/
theorem steady (m : Machine) : Steady m := by
  have hafter : ∀ m question, Question.after (C := Machine) m question = m := by
    intro m question
    cases question <;> rfl
  intro questions
  have hfold : questions.foldl Question.after m = m := by
    induction questions with
    | nil => rfl
    | cons question questions ih =>
      rw [List.foldl_cons, hafter]
      exact ih
  rw [hfold]
  exact ⟨rfl, fun _ => rfl, fun _ => rfl⟩

/-- A machine with a list of one element in its window, and a number. -/
def listed : Machine :=
  { Machine.new ⟨[], [], false, false, false⟩ with
    slots := [.list 0, .num .zero]
    lists := [[.null]] }

end Scripted

open Scripted in
theorem Guarded.neverMisused_listed :
    let inserted := (SlotMethod.insertElement 0 (-2) 1).monitored listed
    let vm : VirtualMachine Machine := ⟨⟨.new .default 0, listed⟩, false, false⟩
    inserted.2.calls.getLast? = some (.insertElement 0 (-2) 1) ∧
      (∀ call ∈ inserted.2.calls, call.Fits listed [0, 1] (some (-2))) ∧
      answerOf (SlotMethod.number 0).perform listed = .zero ∧
      vm.Passed (VirtualMachine.insertInList 0 (-2) 1 vm).2 (.insertInList 0 (-2) 1) () := by
  intro inserted vm
  obtain ⟨hguards, hagree⟩ := neverMisused (steady listed)
  refine ⟨rfl, (hguards (.insertElement 0 (-2) 1)).fits, ?_, ?_⟩
  · have hnot : ¬(SlotMethod.number 0).Admitted listed := by
      rintro ⟨-, hkind⟩
      cases hkind
    exact ((hguards (.number 0)).refused hnot).2
  · exact (hagree rfl vm rfl).passed (.insertInList 0 (-2) 1) rfl

end ScriptHost
