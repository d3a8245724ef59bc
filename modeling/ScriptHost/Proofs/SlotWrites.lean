/-
Checked writes to a machine kept in memory.

A checked writer that succeeds has written one slot of the window, and nothing else happened.
Which value it wrote differs from writer to writer, but not where:

* **`writePayload_eq_ok`** — the writers for values of a type;
* **`writeOwnedValue_apply`** — the writer for handles, cause of refusal by cause.
-/
import ScriptHost.Proofs.LawfulSlots
import ScriptHost.Proofs.CheckedAccess
import ScriptHost.Marshal.Dynamic

namespace ScriptHost

open InMemory

namespace InMemory.Machine

theorem setSlot_of_lt (m : Machine) {i : Nat} (v : ScriptValue) (hi : i < m.slots.length) :
    m.setSlot i v = { m with slots := m.slots.set i v } := by
  rw [← m.slots_setSlot v hi]
  rfl

end InMemory.Machine

variable {m m' : Machine} {slot : Nat}

/-- A value was written into a slot of the window. -/
def InMemory.Machine.Writes (m m' : Machine) (slot : Nat) : Prop :=
  slot < m.slots.length ∧ ∃ v, m' = { m with slots := m.slots.set slot v }

theorem writes_of_writeChecked {v : ScriptValue}
    (h : writeChecked m slot (Machine.setSlot · slot v) = .ok m') : m.Writes m' slot := by
  obtain ⟨hslot, rfl⟩ := writeChecked_eq_ok h
  exact ⟨hslot, v, m.setSlot_of_lt v hslot⟩

theorem writeValue_eq_ok {v : HostValue} (h : writeValue m slot v = .ok m') :
    m.Writes m' slot := by
  cases v with
  | bytes b => cases h
  | handle r => cases h
  | _ => exact writes_of_writeChecked h

/-- A typed value that is written is written into its slot and nowhere else. -/
theorem writePayload_eq_ok {payload : Payload HostValue}
    (h : writePayload m slot payload = .ok m') : m.Writes m' slot := by
  cases payload with
  | value v => exact writeValue_eq_ok h
  | optionalBool b => cases b <;> exact writes_of_writeChecked h
  | optionalInt32 i => cases i <;> exact writes_of_writeChecked h
  | optionalText s => cases s <;> exact writes_of_writeChecked h
  | _ => exact writes_of_writeChecked h

/-- Writing a handle is refused for the first cause that applies: it is foreign, its slot is
outside the window, it is not live.  Otherwise the slot holds what it pins. -/
theorem writeOwnedValue_apply (m : Machine) (slot : Nat) (h : HandleRef) (r : HandleRegistry) :
    writeOwnedValue m slot (.handle h) r =
      if h.owner ≠ r.owner then .error .foreignHandle
      else if slot < m.slots.length then
        match r.raw? h.id with
        | some raw => .ok { m with slots := m.slots.set slot ((m.pinned? raw).getD .null) }
        | none => .error .handleReleased
      else .error (.slotOutOfRange slot m.slots.length) := by
  simp only [writeOwnedValue]
  by_cases howner : h.owner ≠ r.owner
  · rw [if_pos howner, if_pos howner]
    rfl
  · rw [if_neg howner, if_neg howner]
    by_cases hslot : slot < m.slots.length
    · rw [if_pos hslot, checkSlot_of_lt hslot]
      cases r.raw? h.id with
      | none => rfl
      | some raw =>
        exact congrArg Except.ok (m.setSlot_of_lt ((m.pinned? raw).getD .null) hslot)
    · rw [if_neg hslot, checkSlot_of_ge (Nat.not_lt.mp hslot)]
      rfl

theorem writeOwnedValue_eq_ok {v : HostValue} {r : HandleRegistry}
    (h : writeOwnedValue m slot v r = .ok m') : m.Writes m' slot := by
  cases v with
  | handle reference =>
    rw [writeOwnedValue_apply] at h
    split at h
    · cases h
    · split at h
      · rename_i hslot
        split at h
        · cases h
          exact ⟨hslot, _, rfl⟩
        · cases h
      · cases h
  -- Other values are written as they are.
  | _ =>
    simp only [writeOwnedValue] at h
    exact writeValue_eq_ok h

end ScriptHost
