/-
What the pattern of a number stands for.

A pattern stands for a rational, for one of the infinities or for nothing, by the sign, the
exponent and the fraction in it.  `Extended.cut` is what the integer counterpart of such a value
should be: what is not a number counts as zero, everything else is cut toward zero and clamped to a
range.  Numbers are cut with shifts of their mantissas, and that comes to the same for every
pattern:

* **`Number.value_eq`** — the value, from mantissa and exponent;
* **`Number.truncate_eq_cut`** — cutting a number is cutting its value;
* **`givesIntegers`** — the integers that a slot gives to host code and to a parameter.
-/
import Mathlib.Algebra.Order.Field.Power
import Mathlib.Data.Rat.Floor
import Mathlib.Tactic.Positivity
import Mathlib.Tactic.Ring
import ScriptHost.Proofs.ArgumentAgreement

namespace ScriptHost

/-- What a pattern can stand for. -/
inductive Extended where
  | notANumber
  | infinite (negative : Bool)
  | exactly (value : ℚ)

/-- The whole part of a rational, on the side of zero. -/
def towardZero (v : ℚ) : Int :=
  if v < 0 then ⌈v⌉ else ⌊v⌋

/-- The value cut toward zero and clamped to `lo..hi`; what is not a number counts as zero. -/
def Extended.cut (lo hi : Int) : Extended → Int
  | .notANumber => 0
  | .infinite negative => if negative then lo else hi
  | .exactly v => max lo (min hi (towardZero v))

/-! ### Whole parts -/

/-- A mantissa times a power of two, cut down to an integer. -/
theorem floor_mul_two_zpow (m : Nat) (q : Int) : ⌊(m : ℚ) * 2 ^ q⌋ = Number.wholePart m q := by
  rw [Number.wholePart]
  rcases Int.eq_nat_or_neg q with ⟨n, rfl | rfl⟩
  · have hcast : (m : ℚ) * 2 ^ (n : Int) = ((m * 2 ^ n : Nat) : ℚ) := by
      push_cast
      rfl
    rw [hcast, Int.floor_natCast, if_pos (by omega), Int.toNat_natCast, Nat.shiftLeft_eq]
  · have hcast : (m : ℚ) * 2 ^ (-(n : Int)) = (m : ℚ) / ((2 ^ n : Nat) : ℚ) := by
      rw [zpow_neg, ← div_eq_mul_inv]
      push_cast
      rfl
    rw [hcast, Rat.floor_natCast_div_natCast]
    -- An exponent of zero counts as not negative, where nothing is shifted out.
    by_cases hn : n = 0
    · subst hn
      simp
    · rw [if_neg (by omega), Int.neg_neg, Int.toNat_natCast, Nat.shiftRight_eq_div_pow]
      rfl

theorem towardZero_of_nonneg {v : ℚ} (h : 0 ≤ v) : towardZero v = ⌊v⌋ :=
  if_neg (not_lt.mpr h)

theorem towardZero_neg (v : ℚ) : towardZero (-v) = -towardZero v := by
  rcases lt_trichotomy v 0 with h | rfl | h
  · rw [towardZero_of_nonneg (by linarith), towardZero, if_pos h, Int.floor_neg]
  · rfl
  · rw [towardZero_of_nonneg h.le, towardZero, if_pos (by linarith), Int.ceil_neg]

theorem towardZero_intCast (i : Int) : towardZero i = i := by
  rw [towardZero, Int.ceil_intCast, Int.floor_intCast, ite_self]

theorem towardZero_signed (negative : Bool) (m : Nat) (q : Int) :
    towardZero ((Number.signed negative m : Int) * 2 ^ q) =
      Number.signed negative (Number.wholePart m q) := by
  have hpos : towardZero ((m : ℚ) * 2 ^ q) = Number.wholePart m q := by
    rw [towardZero_of_nonneg (by positivity), floor_mul_two_zpow]
  cases negative with
  | false => simpa [Number.signed] using hpos
  | true => simpa [Number.signed, towardZero_neg] using hpos

namespace Number

/-! ### Values -/

/-- What a pattern stands for.  Below the sign bit are eleven bits of exponent, all ones for what
is no rational and all zeros for the subnormals, and fifty-two bits of fraction. -/
def value (x : Number) : Extended :=
  let bits := x.bits.toNat
  let negative := 2 ^ 63 ≤ bits
  let exponent : Nat := bits / 2 ^ 52 % 2 ^ 11
  let fraction : ℚ := ((bits % 2 ^ 52 : Nat) : ℚ) / 2 ^ 52
  let sign : ℚ := if negative then -1 else 1
  if exponent = 2047 then if fraction = 0 then .infinite negative else .notANumber
  else if exponent = 0 then .exactly (sign * fraction * 2 ^ (-1022 : Int))
  else .exactly (sign * (1 + fraction) * 2 ^ ((exponent : Int) - 1023))

theorem hiddenBit_eq : hiddenBit = 4503599627370496 :=
  rfl

theorem isNegative_eq (x : Number) : x.isNegative = decide (2 ^ 63 ≤ x.bits.toNat) := by
  have hbits := x.bits.toNat_lt
  rw [isNegative, Nat.shiftRight_eq_div_pow, decide_eq_decide]
  omega

theorem exponentField_eq (x : Number) : x.exponentField = x.bits.toNat / 2 ^ 52 % 2 ^ 11 := by
  rw [exponentField, Nat.shiftRight_eq_div_pow]
  rfl

theorem signed_cast (negative : Bool) (n : Nat) :
    ((signed negative n : Int) : ℚ) = (if negative then -1 else 1) * n := by
  cases negative <;> simp [signed]

/-- The value of a number, by its mantissa and its exponent. -/
theorem value_eq (x : Number) : x.value =
    match x.magnitude with
    | .notANumber => .notANumber
    | .infinite => .infinite x.isNegative
    | .finite m q => .exactly ((signed x.isNegative m : Int) * 2 ^ q) := by
  have hfraction : x.fractionField = x.bits.toNat % 2 ^ 52 := rfl
  have hzero : ((x.fractionField : ℚ) / 2 ^ 52 = 0) = (x.fractionField = 0) := by
    simp
  simp only [value, magnitude, signed_cast, isNegative_eq, ← exponentField_eq, ← hfraction, hzero,
    decide_eq_true_eq]
  -- All ones in the exponent stand for no finite number, all zeros for one without the hidden bit.
  by_cases hones : x.exponentField = 2047
  · rw [if_pos hones, if_pos hones]
    by_cases hfrac : x.fractionField = 0
    · rw [if_pos hfrac, if_pos hfrac]
    · rw [if_neg hfrac, if_neg hfrac]
  · rw [if_neg hones, if_neg hones]
    by_cases hzeros : x.exponentField = 0
    · rw [if_pos hzeros, if_pos hzeros]
      dsimp only
      rw [show (-1074 : Int) = -1022 - 52 by norm_num, zpow_sub₀ two_ne_zero]
      congr 1
      ring
    · rw [if_neg hzeros, if_neg hzeros]
      dsimp only
      rw [show (x.exponentField : Int) - 1075 = (x.exponentField : Int) - 1023 - 52 by ring,
        zpow_sub₀ two_ne_zero _ 52, hiddenBit_eq]
      congr 1
      push_cast
      ring

/-- Cutting a number is cutting its value. -/
theorem truncate_eq_cut (lo hi : Int) (x : Number) : x.truncate lo hi = x.value.cut lo hi := by
  rw [truncate, value_eq]
  cases x.magnitude with
  | notANumber => rfl
  | infinite => rfl
  | finite m q =>
    show max lo (min hi (signed x.isNegative (wholePart m q))) = max lo (min hi (towardZero _))
    rw [towardZero_signed]

theorem toInt_toInt32 (x : Number) :
    x.toInt32.toInt = x.truncate Int32.minValue.toInt Int32.maxValue.toInt := by
  have hneg : Int32.minValue.toInt ≤ 0 := by decide
  have hpos : 0 ≤ Int32.maxValue.toInt := by decide
  obtain ⟨hlo, hhi⟩ := x.truncate_mem hneg hpos
  rw [Int32.toInt_minValue, Int32.toInt_maxValue] at hlo hhi
  rw [toInt32, Int32.toInt_minValue, Int32.toInt_maxValue,
    Int32.toInt_ofInt_of_le (by omega) (by omega)]

theorem toInt32_eq_cut (x : Number) : x.toInt32.toInt = x.value.cut (-2 ^ 31) (2 ^ 31 - 1) := by
  rw [toInt_toInt32, truncate_eq_cut, Int32.toInt_minValue, Int32.toInt_maxValue]

theorem toInt64_eq_cut (x : Number) : x.toInt64.toInt = x.value.cut (-2 ^ 63) (2 ^ 63 - 1) := by
  rw [toInt_toInt64, truncate_eq_cut, Int64.toInt_minValue, Int64.toInt_maxValue]

end Number

/-! ### Slots -/

section

variable {W : Type} [Slots W] {w : W} {slot : Nat} {x : Number}

/-- The integers that a slot with the number `x` in it gives: to host code that reads it, and to a
parameter of either width on the way of a call. -/
structure GivesIntegers (w : W) (slot : Nat) (x : Number) : Prop where
  read32 : ∃ i : Int32, FromSlot.read w slot = .ok i ∧
    i.toInt = x.value.cut (-2 ^ 31) (2 ^ 31 - 1)
  read64 : ∃ i : Int64, FromSlot.read w slot = .ok i ∧
    i.toInt = x.value.cut (-2 ^ 63) (2 ^ 63 - 1)
  param : ∃ i : Int64, coerce w slot .int = .ok (.int i) ∧
    i.toInt = x.value.cut (-2 ^ 63) (2 ^ 63 - 1) ∧
    FromArg.ofValue? (.int i) = some i ∧
    ∃ j : Int32, FromArg.ofValue? (.int i) = some j ∧
      j.toInt = max (-2 ^ 31) (min (2 ^ 31 - 1) i.toInt) ∧
      j.toInt = x.value.cut (-2 ^ 31) (2 ^ 31 - 1)

/-- Every number a slot can hold is cut to its value, exactly. -/
theorem givesIntegers (hin : slot < Slots.count w) (htype : Slots.type w slot = .num)
    (hx : Slots.number w slot = x) : GivesIntegers w slot x := by
  have hexpect : expectType w slot .num "Num" = .ok () := expectType_eq_ok.mpr ⟨hin, htype⟩
  have hcoerce : coerce w slot .int = .ok (.int x.toInt64) := by
    refine coerce_of_some ?_
    rw [htype, ← hx]
    rfl
  constructor
  case read32 =>
    refine ⟨x.toInt32, ?_, x.toInt32_eq_cut⟩
    show (do expectType w slot .num "Num"; pure (Slots.number w slot).toInt32) = _
    rw [hexpect, hx]
    rfl
  case read64 =>
    refine ⟨x.toInt64, ?_, x.toInt64_eq_cut⟩
    show (do expectType w slot .num "Num"; pure (Slots.number w slot).toInt64) = _
    rw [hexpect, hx]
    rfl
  case param =>
    refine ⟨x.toInt64, hcoerce, x.toInt64_eq_cut, rfl, x.toInt32,
      congrArg some (Number.clamp_toInt64 x), ?_, x.toInt32_eq_cut⟩
    -- Cutting to the wide range first makes no difference, as the narrow one lies within it.
    have hlo : Int64.minValue.toInt ≤ Int32.minValue.toInt := by decide
    have hhi : Int32.maxValue.toInt ≤ Int64.maxValue.toInt := by decide
    rw [x.toInt_toInt32, x.toInt_toInt64]
    exact (Number.clamp_truncate hlo (by decide) (by decide) hhi x).symm

/-- The number before `2 ^ 63`, the greatest of all, and the one just below zero. -/
example : (⟨0x43DFFFFFFFFFFFFF⟩ : Number).toInt64 = 9223372036854774784 ∧
    (⟨0x7FEFFFFFFFFFFFFF⟩ : Number).toInt64 = Int64.maxValue ∧
    (⟨0x8000000000000001⟩ : Number).toInt64 = 0 := by
  decide

/-- One below the least integer of 32 bits, and the first number past the greatest of 64. -/
theorem givesIntegers_beyond :
    let m : InMemory.Machine := { InMemory.Machine.bare with
      slots := [.num ⟨0xC1E0000000200000⟩, .num ⟨0x43E0000000000000⟩] }
    GivesIntegers m 0 ⟨0xC1E0000000200000⟩ ∧ GivesIntegers m 1 ⟨0x43E0000000000000⟩ :=
  ⟨givesIntegers (by decide) rfl rfl, givesIntegers (by decide) rfl rfl⟩

end

end ScriptHost
