/-
What a check that passes says.

A checked access to a window is a sequence of checks with the access at its end, and it succeeds
only if all of them pass.  So a success can be taken apart, check by check
(`checkSlot_eq_ok`, `expectType_eq_ok`, `writeChecked_eq_ok`).
-/
import ScriptHost.Marshal
import ScriptHost.Proofs.Sequences

namespace ScriptHost

section

variable {W : Type} [Slots W] {w w' : W} {slot : Nat}

theorem checkSlot_of_lt (h : slot < Slots.count w) : checkSlot w slot = .ok () :=
  if_pos h

theorem checkSlot_of_ge (h : Slots.count w ≤ slot) :
    checkSlot w slot = .error (.slotOutOfRange slot (Slots.count w)) :=
  if_neg (Nat.not_lt.mpr h)

theorem checkSlot_eq_ok {u : Unit} : checkSlot w slot = .ok u ↔ slot < Slots.count w := by
  refine ⟨fun h => ?_, checkSlot_of_lt⟩
  rcases Nat.lt_or_ge slot (Slots.count w) with hin | hout
  · exact hin
  · rw [checkSlot_of_ge hout] at h
    cases h

theorem expectType_eq_ok {wanted : SlotType} {expected : String} {u : Unit} :
    expectType w slot wanted expected = .ok u ↔
      slot < Slots.count w ∧ Slots.type w slot = wanted := by
  constructor
  · intro h
    obtain ⟨_, hslot, hkind⟩ := exists_of_bind_eq_ok h
    refine ⟨checkSlot_eq_ok.mp hslot, ?_⟩
    split at hkind
    · assumption
    · cases hkind
  · rintro ⟨hslot, hkind⟩
    rw [expectType, checkSlot_of_lt hslot]
    exact if_pos hkind

theorem expectType_of_ne {wanted : SlotType} (h : Slots.type w slot ≠ wanted)
    (expected : String) : ∃ e, expectType w slot wanted expected = .error e := by
  cases hexpect : expectType w slot wanted expected with
  | error e => exact ⟨e, rfl⟩
  | ok _ => exact absurd (expectType_eq_ok.mp hexpect).2 h

theorem writeChecked_eq_ok {set : W → W} (h : writeChecked w slot set = .ok w') :
    slot < Slots.count w ∧ w' = set w := by
  obtain ⟨_, hslot, hset⟩ := exists_of_bind_eq_ok h
  exact ⟨checkSlot_eq_ok.mp hslot, (Except.ok.inj hset).symm⟩

end

end ScriptHost
