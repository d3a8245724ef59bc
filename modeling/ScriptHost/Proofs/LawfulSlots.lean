/-
Windows whose operations do what they say.

`LawfulSlots W` collects what the library relies on when it writes to a window: a write
inside the window changes one slot and nothing else, growing a window keeps what is in it,
and aborting leaves the value of a slot as the fault of the fiber.  The machine kept in
memory is such a window.

From the laws follow the effects of the two operations in which every call ends:

* **`abortWith_aborts`** — aborting with a message, which makes a slot for it if need be;
* **`writeValue_zero`** — writing an answer to slot 0, which is refused for two kinds of
  value and for a window without slots.
-/
import ScriptHost.InMemory.Machine
import ScriptHost.Marshal

namespace ScriptHost

/-- What the getters tell of one slot. -/
structure SlotView where
  type : SlotType
  bool : Bool
  number : Number
  bytes : Bytes
  token : Option Token

/-- The fiber a window belongs to: the value it has been aborted with, if it has. -/
class Fiber (W : Type) where
  fault : W → Option SlotView

namespace Slots

variable {W : Type} [Slots W]

/-- What the getters tell of a slot. -/
def look (w : W) (slot : Nat) : SlotView :=
  ⟨type w slot, bool w slot, number w slot, bytes w slot, token w slot⟩

/-- A slot holds a value.  None holds bytes or a handle, which no writer of single slots
takes. -/
def Holds (w : W) (slot : Nat) : HostValue → Prop
  | .null => type w slot = .null
  | .bool b => type w slot = .bool ∧ bool w slot = b
  | .int i => type w slot = .num ∧ number w slot = .ofInt64 i
  | .float x => type w slot = .num ∧ number w slot = x
  | .text s => type w slot = .string ∧ bytes w slot = Utf8.encode s
  | .bytes _ | .handle _ => False

variable [Fiber W]

/-- At most one slot differs: the window is as long as before, every other slot looks the
same, and the fiber goes on as it did. -/
structure WritesOnly (w w' : W) (slot : Nat) : Prop where
  count : count w' = count w
  look : ∀ other, other ≠ slot → look w' other = look w other
  fault : Fiber.fault w' = Fiber.fault w

/-- The fiber was aborted with a message, which stands in slot 0; there is such a slot even
if the window had none, and the others look the same. -/
structure AbortedWith (w w' : W) (message : String) : Prop where
  count : count w' = max (count w) 1
  message : Holds w' 0 (.text message)
  look : ∀ other, other < Slots.count w → other ≠ 0 → look w' other = look w other
  fault : Fiber.fault w' = some (Slots.look w' 0)

end Slots

open Slots

/-- What is relied on in the operations of a window. -/
class LawfulSlots (W : Type) [Slots W] [Fiber W] : Prop where
  count_ensure (w : W) (n : Nat) : count (ensure w n) = max (count w) n
  look_ensure (w : W) (n slot : Nat) : slot < count w → look (ensure w n) slot = look w slot
  fault_ensure (w : W) (n : Nat) : Fiber.fault (ensure w n) = Fiber.fault w
  setNull (w : W) (slot : Nat) : slot < count w →
    WritesOnly w (setNull w slot) slot ∧ type (setNull w slot) slot = .null
  setBool (w : W) (slot : Nat) (b : Bool) : slot < count w →
    WritesOnly w (setBool w slot b) slot ∧ type (setBool w slot b) slot = .bool ∧
      bool (setBool w slot b) slot = b
  setNumber (w : W) (slot : Nat) (x : Number) : slot < count w →
    WritesOnly w (setNumber w slot x) slot ∧ type (setNumber w slot x) slot = .num ∧
      number (setNumber w slot x) slot = x
  setBytes (w : W) (slot : Nat) (b : Bytes) : slot < count w →
    WritesOnly w (setBytes w slot b) slot ∧ type (setBytes w slot b) slot = .string ∧
      bytes (setBytes w slot b) slot = b
  count_abort (w : W) (slot : Nat) : count (abort w slot) = count w
  look_abort (w : W) (slot other : Nat) : look (abort w slot) other = look w other
  fault_abort (w : W) (slot : Nat) : slot < count w →
    Fiber.fault (abort w slot) = some (look w slot)

section

variable {W : Type} [Slots W] [Fiber W] [LawfulSlots W]

/-- Aborting with a message in a window that has slots. -/
theorem setText_abort (w : W) (message : String) (hslot : 0 < count w) :
    AbortedWith w (abort (setText w 0 message) 0) message := by
  obtain ⟨hwrites, htype, hbytes⟩ := LawfulSlots.setBytes w 0 (Utf8.encode message) hslot
  have hlook : ∀ other, look (abort (setText w 0 message) 0) other =
      look (setText w 0 message) other := LawfulSlots.look_abort _ 0
  have hzero := hlook 0
  simp only [look, SlotView.mk.injEq] at hzero
  refine ⟨?_, ⟨?_, ?_⟩, ?_, ?_⟩
  · rw [LawfulSlots.count_abort]
    have hcount : count (setText w 0 message) = count w := hwrites.count
    omega
  · rw [hzero.1]
    exact htype
  · rw [hzero.2.2.2.1]
    exact hbytes
  · intro other _ hne
    rw [hlook]
    exact hwrites.look other hne
  · rw [hlook]
    refine LawfulSlots.fault_abort _ 0 ?_
    have hcount : count (setText w 0 message) = count w := hwrites.count
    omega

/-- Aborting with a message makes a slot for it if there is none. -/
theorem abortWith_aborts (w : W) (message : String) :
    AbortedWith w (abortWith w message) message := by
  by_cases hempty : count w = 0
  · -- A slot is made for the message, and there are no others to keep.
    have hcount : count (ensure w 1) = 1 := by
      rw [LawfulSlots.count_ensure]
      omega
    have hgrown := setText_abort (ensure w 1) message (by omega)
    rw [show abortWith w message = abort (setText (ensure w 1) 0 message) 0 by
      simp [abortWith, hempty]]
    refine ⟨?_, hgrown.message, ?_, hgrown.fault⟩
    · have := hgrown.count
      omega
    · intro other hlt
      omega
  · rw [show abortWith w message = abort (setText w 0 message) 0 by simp [abortWith, hempty]]
    exact setText_abort w message (by omega)

/-- Why a value cannot be written to slot 0 of a window: its kind, or there is no slot. -/
def HostValue.refusal? (v : HostValue) (slotCount : Nat) : Option HostError :=
  match v with
  | .bytes _ | .handle _ => some (.unsupportedValue v.kindName)
  | _ => if slotCount = 0 then some (.slotOutOfRange 0 0) else none

omit [Fiber W] [LawfulSlots W] in
/-- A checked write to slot 0 is carried out iff there is a slot. -/
theorem writeChecked_zero (w : W) (set : W → W) :
    writeChecked w 0 set =
      if count w = 0 then .error (.slotOutOfRange 0 0) else .ok (set w) := by
  unfold writeChecked checkSlot
  by_cases hempty : count w = 0
  · simp [hempty, throw, throwThe, MonadExceptOf.throw, bind, Except.bind]
  · have hslot : 0 < count w := by omega
    simp [hempty, hslot, pure, Except.pure, bind, Except.bind]

/-- Writing a value to slot 0: refused as `refusal?` says, or done, and then the slot holds
it. -/
theorem writeValue_zero (w : W) (v : HostValue) :
    match v.refusal? (count w) with
    | some e => writeValue w 0 v = .error e
    | none => ∃ w', writeValue w 0 v = .ok w' ∧ WritesOnly w w' 0 ∧ Holds w' 0 v := by
  by_cases hempty : count w = 0
  · -- Without a slot every write is refused, for its kind in the first place.
    cases v <;>
      simp [HostValue.refusal?, writeValue, IntoSlot.write, writeChecked_zero, hempty, throw,
        throwThe, MonadExceptOf.throw]
  · have hslot : 0 < count w := by omega
    cases v with
    | null =>
      simpa [HostValue.refusal?, writeValue, IntoSlot.write, writeChecked_zero, hempty, Holds]
        using LawfulSlots.setNull w 0 hslot
    | bool b =>
      simpa [HostValue.refusal?, writeValue, IntoSlot.write, writeChecked_zero, hempty, Holds]
        using LawfulSlots.setBool w 0 b hslot
    | int i =>
      simpa [HostValue.refusal?, writeValue, IntoSlot.write, writeChecked_zero, hempty, Holds]
        using LawfulSlots.setNumber w 0 (.ofInt64 i) hslot
    | float x =>
      simpa [HostValue.refusal?, writeValue, IntoSlot.write, writeChecked_zero, hempty, Holds]
        using LawfulSlots.setNumber w 0 x hslot
    | text s =>
      simpa [HostValue.refusal?, writeValue, IntoSlot.write, writeChecked_zero, hempty, Holds,
          setText]
        using LawfulSlots.setBytes w 0 (Utf8.encode s) hslot
    | bytes b => simp [HostValue.refusal?, writeValue, throw, throwThe, MonadExceptOf.throw]
    | handle h => simp [HostValue.refusal?, writeValue, throw, throwThe, MonadExceptOf.throw]

end

namespace InMemory.Machine

/-- What the getters would tell of a slot holding a value. -/
def view (m : Machine) (v : ScriptValue) : SlotView where
  type := typeOf v
  bool :=
    match v with
    | .bool b => b
    | _ => false
  number :=
    match v with
    | .num x => x
    | _ => .zero
  bytes :=
    match v with
    | .string b => b
    | _ => []
  token :=
    match v with
    | .instanceOf id => m.instances[id]?.map (·.token)
    | _ => none

instance : Fiber Machine where
  fault m := m.aborted.map m.view

theorem look_eq (m : Machine) (i : Nat) :
    Slots.look m i =
      (m.slots[i]?.map m.view).getD ⟨.unknown, false, .zero, [], none⟩ := by
  cases hslot : m.slots[i]? with
  | none => simp [Slots.look, Slots.type, Slots.bool, Slots.number, Slots.bytes, Slots.token, hslot]
  | some v =>
    simp only [Slots.look, Slots.type, Slots.bool, Slots.number, Slots.bytes, Slots.token, hslot,
      Option.map_some, Option.getD_some, view]
    cases v <;> rfl

theorem slots_setSlot (m : Machine) {i : Nat} (v : ScriptValue) (hi : i < m.slots.length) :
    (m.setSlot i v).slots = m.slots.set i v := by
  have : i + 1 - m.slots.length = 0 := by omega
  simp [setSlot, ensure, this]

/-- A write inside the window changes the slot it is made to. -/
theorem setSlot_writesOnly (m : Machine) {i : Nat} (v : ScriptValue) (hi : i < m.slots.length) :
    Slots.WritesOnly m (m.setSlot i v) i ∧ Slots.look (m.setSlot i v) i = m.view v := by
  have hslots := m.slots_setSlot v hi
  refine ⟨⟨?_, ?_, rfl⟩, ?_⟩
  · show (m.setSlot i v).slots.length = m.slots.length
    rw [hslots, List.length_set]
  · intro other hne
    rw [look_eq, look_eq, hslots, List.getElem?_set_ne (Ne.symm hne)]
    rfl
  · rw [look_eq, hslots, List.getElem?_set_self hi]
    rfl

instance : LawfulSlots Machine where
  count_ensure m n := by
    show (m.slots ++ _).length = _
    rw [List.length_append, List.length_replicate]
    show _ = max m.slots.length n
    omega
  look_ensure m n i hi := by
    rw [look_eq, look_eq]
    show ((m.slots ++ _)[i]?.map m.view).getD _ = _
    rw [List.getElem?_append_left hi]
  fault_ensure _ _ := rfl
  setNull m i hi := by
    obtain ⟨hwrites, hlook⟩ := m.setSlot_writesOnly .null hi
    exact ⟨hwrites, congrArg SlotView.type hlook⟩
  setBool m i b hi := by
    obtain ⟨hwrites, hlook⟩ := m.setSlot_writesOnly (.bool b) hi
    exact ⟨hwrites, congrArg SlotView.type hlook, congrArg SlotView.bool hlook⟩
  setNumber m i x hi := by
    obtain ⟨hwrites, hlook⟩ := m.setSlot_writesOnly (.num x) hi
    exact ⟨hwrites, congrArg SlotView.type hlook, congrArg SlotView.number hlook⟩
  setBytes m i b hi := by
    obtain ⟨hwrites, hlook⟩ := m.setSlot_writesOnly (.string b) hi
    exact ⟨hwrites, congrArg SlotView.type hlook, congrArg SlotView.bytes hlook⟩
  count_abort _ _ := rfl
  look_abort _ _ _ := rfl
  fault_abort m i hi := by
    rw [look_eq, List.getElem?_eq_getElem hi]
    show some (m.view (m.slot i)) = _
    rw [show m.slot i = m.slots[i] by simp [slot, List.getElem?_eq_getElem hi]]
    rfl

end InMemory.Machine

end ScriptHost
