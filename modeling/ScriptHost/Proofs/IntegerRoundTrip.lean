/-
What becomes of integers in a slot.

Writing an integer into a slot rounds it, and reading one cuts and clamps.  Cutting does nothing to
what is left of an integer, so one of 64 bits comes back just if rounding did nothing either, with
one exception: the greatest is rounded up, out of the range, and clamped back to itself.  Rounding
does not reach down to where 32 bits end, so these are read as if there had been none:

* **`Number.toInt64_ofInt64_eq_iff`** — which integers come back;
* **`Number.toInt_toInt32_ofInt64`** — what is read with 32 bits;
* **`integersReturn`** — the slot.
-/
import ScriptHost.Proofs.RoundedIntegers
import ScriptHost.Proofs.SlotRoundTrip

namespace ScriptHost

open InMemory

namespace Number

/-- An integer that some number stands for. -/
def IsExact (i : Int) : Prop :=
  ∃ y : Number, y.value = .exactly i

theorem natAbs_toInt_lt (v : Int64) : v.toInt.natAbs < 2 ^ 64 := by
  have hlow := v.le_toInt
  have hhigh := v.toInt_lt
  omega

/-- What is left of an integer is the integer itself just if a number stands for it. -/
theorem isExact_iff {i : Int} (h : i.natAbs < 2 ^ 64) :
    IsExact i ↔ signed (i < 0) (rounded i.natAbs) = i := by
  constructor
  · rintro ⟨y, hy⟩
    obtain ⟨v, hv, hnearest⟩ := isNearest_ofInt h
    rw [value_ofInt h] at hv
    cases hv
    obtain ⟨hnear, -⟩ := hnearest y i hy
    rw [sub_self, abs_zero] at hnear
    exact_mod_cast sub_eq_zero.mp (abs_nonpos_iff.mp hnear)
  · intro heq
    refine ⟨ofInt i, ?_⟩
    rw [value_ofInt h, heq]

theorem toInt_toInt64_ofInt64 (v : Int64) : (ofInt64 v).toInt64.toInt =
    max (-2 ^ 63) (min (2 ^ 63 - 1) (signed (v.toInt < 0) (rounded v.toInt.natAbs))) := by
  rw [toInt_toInt64, ofInt64, truncate_ofInt_eq (natAbs_toInt_lt v), Int64.toInt_minValue,
    Int64.toInt_maxValue]

/-- An integer comes back just if a number stands for it or it is the greatest one. -/
theorem toInt64_ofInt64_eq_iff (v : Int64) :
    (ofInt64 v).toInt64 = v ↔ IsExact v.toInt ∨ v = Int64.maxValue := by
  have hlow := v.le_toInt
  have hhigh := v.toInt_lt
  rw [isExact_iff (natAbs_toInt_lt v)]
  constructor
  · intro h
    have hclamped := toInt_toInt64_ofInt64 v
    rw [h] at hclamped
    by_cases hmax : v.toInt = 2 ^ 63 - 1
    · exact .inr (Int64.toInt_inj.mp (hmax.trans Int64.toInt_maxValue.symm))
    by_cases hmin : v.toInt = -2 ^ 63
    · refine .inl ?_
      rw [hmin]
      decide
    · exact .inl (by omega)
  · rintro (hexact | rfl)
    · refine Int64.toInt_inj.mp ?_
      rw [toInt_toInt64_ofInt64, hexact]
      omega
    · decide

theorem le_rounded {n : Nat} (h : 2 ^ 53 ≤ n) : 2 ^ 53 ≤ rounded n := by
  have hn : n ≠ 0 := by omega
  have hlog : 53 ≤ n.log2 := (Nat.le_log2 hn).mpr h
  have hmantissa := (mantissa_bounds hn).1
  rw [mantissa, if_neg (by omega), hiddenBit_eq] at hmantissa
  rw [rounded, if_neg (by omega)]
  calc 2 ^ 53 = 4503599627370496 * 2 ^ 1 := rfl
    _ ≤ roundShift n (n.log2 - 52) * 2 ^ (n.log2 - 52) :=
      Nat.mul_le_mul hmantissa (Nat.pow_le_pow_right (by decide) (by omega))

/-- What is read with 32 bits is the integer clamped. -/
theorem toInt_toInt32_ofInt64 (v : Int64) :
    (ofInt64 v).toInt32.toInt = max (-2 ^ 31) (min (2 ^ 31 - 1) v.toInt) := by
  rw [toInt_toInt32, ofInt64, Int32.toInt_minValue, Int32.toInt_maxValue]
  by_cases hsmall : v.toInt.natAbs < 2 ^ 53
  · exact truncate_ofInt hsmall
  · -- Both are beyond 32 bits, on the same side of zero.
    have hrounded := le_rounded (Nat.not_lt.mp hsmall)
    rw [truncate_ofInt_eq (natAbs_toInt_lt v)]
    by_cases hneg : v.toInt < 0
    · simp only [signed, hneg, decide_true, ↓reduceIte]
      omega
    · simp only [signed, hneg, decide_false, Bool.false_eq_true, ↓reduceIte]
      omega

theorem toInt64_ofInt32 (i : Int32) : (ofInt32 i).toInt64 = i.toInt64 := by
  have hlow := i.le_toInt
  have hhigh := i.toInt_lt
  refine Int64.toInt_inj.mp ?_
  rw [toInt_toInt64, ofInt32, truncate_ofInt (by omega), Int32.toInt_toInt64, Int64.toInt_minValue,
    Int64.toInt_maxValue]
  omega

end Number

/-! ### Slots -/

/-- What is read from a slot after an integer was written into it. -/
structure IntegersReturn (m : Machine) (slot : Nat) : Prop where
  stored : ∀ v : Int64, ∃ m' x, IntoSlot.write m slot v = .ok m' ∧ ChangesSlot m m' slot ∧
    m'.slots[slot]? = some (.num x) ∧ x.IsNearest v.toInt
  read64 : ∀ v : Int64, ∃ w : Int64, Returns m slot v w ∧
    (w = v ↔ Number.IsExact v.toInt ∨ v = Int64.maxValue)
  read32 : ∀ v : Int64, ∃ w : Int32, Returns m slot v w ∧
    w.toInt = max (-2 ^ 31) (min (2 ^ 31 - 1) v.toInt)
  int32 : ∀ i : Int32, Returns m slot i i ∧ Returns m slot i i.toInt64

section

variable {m : Machine} {slot : Nat} {x : Number}

/-- A reader returns what it makes of a number that was written. -/
theorem Returns.of_number {α β : Type} [IntoSlot α] [FromSlot β] {a : α} {b : β}
    (hwrite : IntoSlot.write m slot a = .ok (m.setSlot slot (.num x)))
    (hread : ∀ m' : Machine, m'.slots[slot]? = some (.num x) → FromSlot.read m' slot = .ok b)
    (hslot : slot < m.slots.length) : Returns m slot a b := by
  refine ⟨_, hwrite, hread _ ?_, changesSlot_setSlot hslot _⟩
  rw [m.slots_setSlot _ hslot, List.getElem?_set_self hslot]

theorem write_int64 (hslot : slot < m.slots.length) (v : Int64) :
    IntoSlot.write m slot v = .ok (m.setSlot slot (.num (.ofInt64 v))) :=
  writeChecked_setSlot hslot _

theorem read_int64 (h : m.slots[slot]? = some (.num x)) :
    FromSlot.read m slot = .ok x.toInt64 :=
  (read_of_typeOf h rfl "Num").trans (by rw [number_of_getElem? h])

theorem read_int32 (h : m.slots[slot]? = some (.num x)) :
    FromSlot.read m slot = .ok x.toInt32 :=
  (Gets.int32 x).read_eq h

/-- Integers written into a slot of the window are rounded, and cut and clamped where they are
read. -/
theorem integersReturn (hslot : slot < m.slots.length) : IntegersReturn m slot where
  stored v := by
    refine ⟨_, .ofInt64 v, write_int64 hslot v, changesSlot_setSlot hslot _, ?_,
      Number.isNearest_ofInt (Number.natAbs_toInt_lt v)⟩
    rw [m.slots_setSlot _ hslot, List.getElem?_set_self hslot]
  read64 v := ⟨(Number.ofInt64 v).toInt64,
    .of_number (write_int64 hslot v) (fun _ => read_int64) hslot, Number.toInt64_ofInt64_eq_iff v⟩
  read32 v := ⟨(Number.ofInt64 v).toInt32,
    .of_number (write_int64 hslot v) (fun _ => read_int32) hslot, Number.toInt_toInt32_ofInt64 v⟩
  int32 i := by
    have hwrite := (Puts.int32 i).write_eq hslot
    refine ⟨.of (.int32 i) (gets_int32 i) hslot, .of_number hwrite (fun m' h => ?_) hslot⟩
    rw [read_int64 h, Number.toInt64_ofInt32]

/-- One slot, for the first integer that does not come back and for the greatest, which does. -/
theorem integersReturn_single :
    let m := Machine.ofWindow [.null]
    IntegersReturn m 0 ∧ (Number.ofInt64 9007199254740993).toInt64 = 9007199254740992 ∧
      (Number.ofInt64 Int64.maxValue).toInt64 = Int64.maxValue :=
  ⟨integersReturn (by decide), by decide, by decide⟩

end

end ScriptHost
