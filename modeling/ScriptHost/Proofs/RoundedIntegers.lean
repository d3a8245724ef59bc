/-
The number of an integer.

Fifty-three bits of an integer go into the mantissa of its number, and what is left over is rounded
off.  Rounding may carry the mantissa to the next power of two, and then the exponent takes up the
carry.  No number is nearer to the integer, and below `2 ^ 53` nothing is left over:

* **`Number.value_ofInt`** — what the number of an integer stands for;
* **`Number.isNearest_ofInt`** — no number is nearer, and no other as near if its mantissa is odd;
* **`Number.truncate_ofInt`**, **`Number.toInt32_ofInt32`** — small integers are read back.
-/
import ScriptHost.Proofs.NumberValues

namespace ScriptHost

namespace Number

/-! ### Fields -/

section

variable {s e f : Nat}

/-- A sign, an exponent field and fraction bits, packed. -/
def packed (s e f : Nat) : Number :=
  ⟨UInt64.ofNat (s * 9223372036854775808 + (e * hiddenBit + f))⟩

theorem toNat_packed (hs : s < 2) (he : e < 2048) (hf : f < hiddenBit) :
    (packed s e f).bits.toNat = s * 9223372036854775808 + (e * 4503599627370496 + f) := by
  rw [hiddenBit_eq] at hf
  rw [packed, UInt64.toNat_ofNat', hiddenBit_eq]
  omega

theorem isNegative_packed (hs : s < 2) (he : e < 2048) (hf : f < hiddenBit) :
    (packed s e f).isNegative = decide (s = 1) := by
  have hbits := toNat_packed hs he hf
  rw [hiddenBit_eq] at hf
  rw [isNegative_eq, decide_eq_decide]
  omega

theorem exponentField_packed (hs : s < 2) (he : e < 2048) (hf : f < hiddenBit) :
    (packed s e f).exponentField = e := by
  have hbits := toNat_packed hs he hf
  rw [hiddenBit_eq] at hf
  rw [exponentField, Nat.shiftRight_eq_div_pow]
  omega

theorem fractionField_packed (hs : s < 2) (he : e < 2048) (hf : f < hiddenBit) :
    (packed s e f).fractionField = f := by
  have hbits := toNat_packed hs he hf
  rw [hiddenBit_eq] at hf
  rw [fractionField, hiddenBit_eq]
  omega

/-- A fraction that is full is carried into the exponent. -/
theorem packed_hiddenBit (s e : Nat) : packed s e hiddenBit = packed s (e + 1) 0 := by
  rw [packed, packed, Nat.add_mul, Nat.one_mul, Nat.add_zero]

theorem value_packed_of_lt (hs : s < 2) (hpos : 0 < e) (he : e < 2047) (hf : f < hiddenBit) :
    (packed s e f).value =
      .exactly ((signed (s = 1) (hiddenBit + f) : Int) * 2 ^ ((e : Int) - 1075)) := by
  have hmagnitude : (packed s e f).magnitude = .finite (hiddenBit + f) ((e : Int) - 1075) := by
    rw [magnitude, exponentField_packed hs (by omega) hf, fractionField_packed hs (by omega) hf,
      if_neg (by omega), if_neg (by omega)]
  rw [value_eq, hmagnitude, isNegative_packed hs (by omega) hf]

/-- The value of a packed pattern, also when the fraction is carried. -/
theorem value_packed (hs : s < 2) (hpos : 0 < e) (he : e < 2046) (hf : f ≤ hiddenBit) :
    (packed s e f).value =
      .exactly ((signed (s = 1) (hiddenBit + f) : Int) * 2 ^ ((e : Int) - 1075)) := by
  rcases hf.lt_or_eq with hlt | rfl
  · exact value_packed_of_lt hs hpos (by omega) hlt
  · rw [packed_hiddenBit, value_packed_of_lt hs (by omega) (by omega) (by decide)]
    rw [signed_cast, signed_cast, show ((e + 1 : Nat) : Int) - 1075 = (e : Int) - 1075 + 1 by omega,
      zpow_add_one₀ two_ne_zero]
    congr 1
    push_cast
    ring

end

/-! ### Rounding -/

section

variable {n s : Nat}

theorem roundShift_eq (n s : Nat) : roundShift n s =
    if 2 ^ s < 2 * (n % 2 ^ s) ∨ 2 * (n % 2 ^ s) = 2 ^ s ∧ n / 2 ^ s % 2 = 1 then n / 2 ^ s + 1
    else n / 2 ^ s := by
  simp only [roundShift, Nat.one_shiftLeft]

theorem roundShift_bounds (n s : Nat) : n / 2 ^ s ≤ roundShift n s ∧
    roundShift n s ≤ n / 2 ^ s + 1 := by
  rw [roundShift_eq]
  split <;> omega

/-- How far two natural numbers are apart. -/
def gap (a b : Nat) : Nat :=
  ((a : Int) - b).natAbs

/-- No multiple of `2 ^ s` is nearer to `n` than the rounded one, and another one is as near only
if the rounded one is even. -/
theorem roundShift_nearest (n s c : Nat) :
    gap (roundShift n s * 2 ^ s) n ≤ gap (c * 2 ^ s) n ∧
      (gap (c * 2 ^ s) n = gap (roundShift n s * 2 ^ s) n → c ≠ roundShift n s →
        roundShift n s % 2 = 0) := by
  have hdiv : n / 2 ^ s * 2 ^ s + n % 2 ^ s = n := Nat.div_add_mod' n (2 ^ s)
  have hmod : n % 2 ^ s < 2 ^ s := Nat.mod_lt n (Nat.two_pow_pos s)
  rw [roundShift_eq, gap, gap]
  generalize n / 2 ^ s = q at hdiv ⊢
  generalize n % 2 ^ s = r at hdiv hmod ⊢
  generalize 2 ^ s = u at hdiv hmod ⊢
  have hnext : (q + 1) * u = q * u + u := Nat.succ_mul q u
  -- The other multiples lie a whole unit away from the two around `n`.
  have hbelow : c < q → c * u + u ≤ q * u := by
    intro h
    rw [← Nat.succ_mul]
    exact Nat.mul_le_mul_right u h
  have habove : q + 1 < c → (q + 1) * u + u ≤ c * u := by
    intro h
    rw [← Nat.succ_mul]
    exact Nat.mul_le_mul_right u h
  rcases Nat.lt_or_ge c q with hlt | hge
  · have := hbelow hlt
    split <;> omega
  · rcases Nat.lt_or_ge (q + 1) c with hgt | hle
    · have := habove hgt
      split <;> omega
    · obtain rfl | rfl : c = q ∨ c = q + 1 := by omega
      · split <;> omega
      · split <;> omega

end

/-! ### Mantissas -/

/-- The mantissa of the number of `n`: fifty-three bits, unless rounding carries. -/
def mantissa (n : Nat) : Nat :=
  if n.log2 ≤ 52 then n <<< (52 - n.log2) else roundShift n (n.log2 - 52)

/-- What is left of `n`. -/
def rounded (n : Nat) : Nat :=
  if n.log2 ≤ 52 then n else roundShift n (n.log2 - 52) * 2 ^ (n.log2 - 52)

theorem mantissa_bounds {n : Nat} (hn : n ≠ 0) :
    hiddenBit ≤ mantissa n ∧ mantissa n ≤ 2 * hiddenBit := by
  obtain ⟨hlow, hhigh⟩ := (Nat.log2_eq_iff hn).mp rfl
  rw [mantissa]
  split
  case isTrue hlog =>
    have hscale : 2 ^ n.log2 * 2 ^ (52 - n.log2) = hiddenBit := by
      rw [← Nat.pow_add, Nat.add_sub_of_le hlog, hiddenBit_eq]
    rw [Nat.shiftLeft_eq, ← hscale]
    constructor
    · exact Nat.mul_le_mul_right _ hlow
    · rw [← Nat.mul_assoc, ← Nat.pow_succ']
      exact Nat.mul_le_mul_right _ hhigh.le
  case isFalse hlog =>
    have hscale : 2 ^ n.log2 = hiddenBit * 2 ^ (n.log2 - 52) := by
      rw [hiddenBit_eq, show (4503599627370496 : Nat) = 2 ^ 52 from rfl, ← Nat.pow_add,
        Nat.add_sub_of_le (by omega)]
    have hunit : 0 < 2 ^ (n.log2 - 52) := Nat.two_pow_pos _
    have hge : hiddenBit ≤ n / 2 ^ (n.log2 - 52) := by
      rw [Nat.le_div_iff_mul_le hunit, ← hscale]
      exact hlow
    have hlt : n / 2 ^ (n.log2 - 52) < 2 * hiddenBit := by
      rw [Nat.div_lt_iff_lt_mul hunit, Nat.mul_assoc, ← hscale, ← Nat.pow_succ']
      exact hhigh
    have hround := roundShift_bounds n (n.log2 - 52)
    omega

/-- The mantissa, scaled back. -/
theorem mantissa_mul (n : Nat) : (mantissa n : ℚ) * 2 ^ ((n.log2 : Int) - 52) = rounded n := by
  rw [mantissa, rounded]
  split
  case isTrue hlog =>
    rw [Nat.shiftLeft_eq, show (n.log2 : Int) - 52 = -((52 - n.log2 : Nat) : Int) by omega,
      zpow_neg]
    push_cast
    exact mul_inv_cancel_right₀ (by positivity) _
  case isFalse hlog =>
    rw [show (n.log2 : Int) - 52 = ((n.log2 - 52 : Nat) : Int) by omega]
    push_cast
    rfl

/-! ### Integers -/

theorem ofInt_eq_packed {i : Int} (hi : i ≠ 0) :
    ofInt i = packed (if i < 0 then 1 else 0) (i.natAbs.log2 + 1023)
      (mantissa i.natAbs - hiddenBit) := by
  rw [ofInt, packed, patternOfNat, if_neg (Int.natAbs_ne_zero.mpr hi), mantissa]
  congr 3
  split <;> rfl

/-- The number of an integer stands for what is left of it, with its sign. -/
theorem value_ofInt {i : Int} (h : i.natAbs < 2 ^ 64) :
    (ofInt i).value = .exactly (signed (i < 0) (rounded i.natAbs) : Int) := by
  by_cases hi : i = 0
  · subst hi
    have hmagnitude : (ofInt 0).magnitude = .finite 0 (-1074) := rfl
    have hrounded : rounded 0 = 0 := rfl
    rw [value_eq, hmagnitude, Int.natAbs_zero, hrounded]
    simp [signed_cast]
  have hn : i.natAbs ≠ 0 := Int.natAbs_ne_zero.mpr hi
  have hlog : i.natAbs.log2 < 64 := (Nat.log2_lt hn).mpr h
  obtain ⟨hlow, hhigh⟩ := mantissa_bounds hn
  have hs : (if i < 0 then 1 else 0) < 2 := by
    split <;> omega
  rw [ofInt_eq_packed hi, value_packed hs (by omega) (by omega) (by omega),
    Nat.add_sub_of_le hlow, show ((i.natAbs.log2 + 1023 : Nat) : Int) - 1075 =
      (i.natAbs.log2 : Int) - 52 by omega,
    signed_cast, signed_cast, mul_assoc, mantissa_mul]
  by_cases hneg : i < 0 <;> simp [hneg]

/-- Below `2 ^ 53` nothing is left over. -/
theorem rounded_of_lt {n : Nat} (h : n < 2 ^ 53) : rounded n = n := by
  by_cases hn : n = 0
  · subst hn
    rfl
  · have := (Nat.log2_lt hn).mpr h
    exact if_pos (by omega)

theorem truncate_ofInt_eq {i lo hi : Int} (h : i.natAbs < 2 ^ 64) :
    (ofInt i).truncate lo hi = max lo (min hi (signed (i < 0) (rounded i.natAbs))) := by
  rw [truncate_eq_cut, value_ofInt h, Extended.cut, towardZero_intCast]

theorem signed_natAbs (i : Int) : signed (i < 0) i.natAbs = i := by
  by_cases h : i < 0
  · simp only [signed, h, decide_true, ↓reduceIte]
    omega
  · simp only [signed, h, decide_false, Bool.false_eq_true, ↓reduceIte]
    omega

theorem truncate_ofInt {i lo hi : Int} (h : i.natAbs < 2 ^ 53) :
    (ofInt i).truncate lo hi = max lo (min hi i) := by
  rw [truncate_ofInt_eq (by omega), rounded_of_lt h, signed_natAbs]

/-- An integer of 32 bits is what its number counts as. -/
theorem toInt32_ofInt32 (i : Int32) : (ofInt32 i).toInt32 = i := by
  have hlow := i.le_toInt
  have hhigh := i.toInt_lt
  rw [toInt32, ofInt32, truncate_ofInt (by omega), Int32.toInt_minValue, Int32.toInt_maxValue,
    show max (-2 ^ 31) (min (2 ^ 31 - 1) i.toInt) = i.toInt by omega, Int32.ofInt_toInt]

/-! ### Nearest numbers -/

/-- `x` is a number nearest to `i`, and no other number is as near unless the mantissa of `x` is
even. -/
def IsNearest (x : Number) (i : Int) : Prop :=
  ∃ v, x.value = .exactly v ∧ ∀ (y : Number) (u : ℚ), y.value = .exactly u →
    |v - i| ≤ |u - i| ∧ (|u - i| = |v - i| → u ≠ v → x.fractionField % 2 = 0)

theorem abs_signed (negative : Bool) (n : Nat) : |((signed negative n : Int) : ℚ)| = n := by
  rw [signed_cast, abs_mul, Nat.abs_cast]
  split <;> simp

/-- On the same side of zero, signs do not matter for distances. -/
theorem abs_signed_sub (negative : Bool) (m n : Nat) :
    |((signed negative m : Int) : ℚ) - (signed negative n : Int)| = |(m : ℚ) - n| := by
  rw [signed_cast, signed_cast, ← mul_sub, abs_mul]
  split <;> simp

/-- On the other side of zero, everything is farther away. -/
theorem abs_neg_signed_sub (negative : Bool) (m n : Nat) :
    |-((signed negative m : Int) : ℚ) - (signed negative n : Int)| = m + n := by
  have hpos : (0 : ℚ) ≤ m + n := by positivity
  rw [signed_cast, signed_cast, ← neg_add', ← mul_add, abs_neg, abs_mul, abs_of_nonneg hpos]
  split <;> simp

/-- A number has at most fifty-three bits. -/
theorem abs_of_value_eq {y : Number} {u : ℚ} (h : y.value = .exactly u) :
    ∃ (m : Nat) (q : Int), m < 2 ^ 53 ∧ |u| = m * 2 ^ q := by
  have hfraction : y.fractionField < hiddenBit := Nat.mod_lt _ (by decide)
  rw [value_eq] at h
  cases hmagnitude : y.magnitude with
  | notANumber =>
    rw [hmagnitude] at h
    cases h
  | infinite =>
    rw [hmagnitude] at h
    cases h
  | finite m q =>
    rw [hmagnitude] at h
    cases h
    refine ⟨m, q, ?_, ?_⟩
    · rw [hiddenBit_eq] at hfraction
      simp only [magnitude, hiddenBit_eq] at hmagnitude
      split_ifs at hmagnitude <;> cases hmagnitude <;> omega
    · rw [abs_mul, abs_signed, abs_of_pos (show (0 : ℚ) < 2 ^ q by positivity)]

theorem gap_cast (a b : Nat) : (gap a b : ℚ) = |(a : ℚ) - b| := by
  rw [gap, Nat.cast_natAbs]
  push_cast
  rfl

/-- With fifty-three bits, above a power of two there are no odd multiples of small units. -/
theorem exists_multiple {m s : Nat} {q : Int} (hm : m < 2 ^ 53)
    (hge : (2 : ℚ) ^ (52 + s) ≤ m * 2 ^ q) : ∃ c : Nat, (m : ℚ) * 2 ^ q = (c * 2 ^ s : Nat) := by
  have hq : (s : Int) ≤ q := by
    by_contra hlt
    have hle : (m : ℚ) * 2 ^ q ≤ m * 2 ^ ((s : Int) - 1) :=
      mul_le_mul_of_nonneg_left (zpow_le_zpow_right₀ one_le_two (by omega)) (by positivity)
    have hless : (m : ℚ) * 2 ^ ((s : Int) - 1) < 2 ^ 53 * 2 ^ ((s : Int) - 1) :=
      mul_lt_mul_of_pos_right (by exact_mod_cast hm) (by positivity)
    have hpow : (2 : ℚ) ^ 53 * 2 ^ ((s : Int) - 1) = 2 ^ (52 + s) := by
      rw [zpow_sub_one₀ two_ne_zero, zpow_natCast, pow_add]
      ring
    linarith
  obtain ⟨d, rfl⟩ := Int.le.dest hq
  refine ⟨m * 2 ^ d, ?_⟩
  rw [zpow_add₀ two_ne_zero, zpow_natCast, zpow_natCast]
  push_cast
  ring

/-- Nothing with fifty-three bits is nearer to `n` than what is left of it. -/
theorem rounded_nearest (n : Nat) {m : Nat} {q : Int} (hm : m < 2 ^ 53) :
    |(rounded n : ℚ) - n| ≤ |(m : ℚ) * 2 ^ q - n| ∧
      (|(m : ℚ) * 2 ^ q - n| = |(rounded n : ℚ) - n| → (m : ℚ) * 2 ^ q ≠ rounded n →
        mantissa n % 2 = 0) := by
  by_cases hlog : n.log2 ≤ 52
  · rw [rounded, if_pos hlog, sub_self, abs_zero]
    exact ⟨abs_nonneg _, fun heq hne => absurd (sub_eq_zero.mp (abs_eq_zero.mp heq)) hne⟩
  · have hn : n ≠ 0 := by
      rintro rfl
      exact hlog (by decide)
    have hlow : 2 ^ (52 + (n.log2 - 52)) ≤ n := by
      rw [Nat.add_sub_of_le (by omega)]
      exact Nat.log2_self_le hn
    rw [rounded, mantissa, if_neg hlog, if_neg hlog, ← gap_cast]
    generalize n.log2 - 52 = s at hlow
    by_cases hge : (2 : ℚ) ^ (52 + s) ≤ m * 2 ^ q
    · -- It is a multiple of the unit that `n` is rounded to.
      obtain ⟨c, hc⟩ := exists_multiple hm hge
      obtain ⟨hnear, htie⟩ := roundShift_nearest n s c
      rw [hc, ← gap_cast]
      refine ⟨by exact_mod_cast hnear, fun heq hne => htie (by exact_mod_cast heq) ?_⟩
      rintro rfl
      exact hne rfl
    · -- It is farther away than the power of two at or below `n`.
      obtain ⟨hnear, -⟩ := roundShift_nearest n s (2 ^ 52)
      have hpow : (gap (2 ^ 52 * 2 ^ s) n : ℚ) = n - 2 ^ (52 + s) := by
        have hlow' : ((2 ^ (52 + s) : Nat) : ℚ) ≤ n := by exact_mod_cast hlow
        rw [← pow_add, gap_cast, abs_sub_comm, abs_of_nonneg (by linarith)]
        push_cast
        rfl
      have hnear' : (gap (roundShift n s * 2 ^ s) n : ℚ) ≤ n - 2 ^ (52 + s) := by
        rw [← hpow]
        exact_mod_cast hnear
      have hless : (n : ℚ) - 2 ^ (52 + s) < |(m : ℚ) * 2 ^ q - n| := by
        rw [abs_sub_comm]
        exact lt_of_lt_of_le (by linarith) (le_abs_self _)
      exact ⟨by linarith, fun heq => by linarith⟩

theorem even_fractionField_ofInt {i : Int} (h : i.natAbs < 2 ^ 64)
    (heven : mantissa i.natAbs % 2 = 0) : (ofInt i).fractionField % 2 = 0 := by
  by_cases hi : i = 0
  · subst hi
    rfl
  have hn : i.natAbs ≠ 0 := Int.natAbs_ne_zero.mpr hi
  have hlog : i.natAbs.log2 < 64 := (Nat.log2_lt hn).mpr h
  obtain ⟨hlow, hhigh⟩ := mantissa_bounds hn
  have hs : (if i < 0 then 1 else 0) < 2 := by
    split <;> omega
  rw [ofInt_eq_packed hi]
  rcases hhigh.lt_or_eq with hlt | heq
  · rw [fractionField_packed hs (by omega) (by omega)]
    rw [hiddenBit_eq] at hlow ⊢
    omega
  · rw [heq, show 2 * hiddenBit - hiddenBit = hiddenBit from rfl, packed_hiddenBit,
      fractionField_packed hs (by omega) (by decide)]

theorem eq_zero_or_eq_zero_of_add_eq_abs_sub {r n : ℚ} (hr : 0 ≤ r) (hn : 0 ≤ n)
    (h : r + n = |r - n|) : r = 0 ∨ n = 0 := by
  rcases le_total r n with hle | hge
  · rw [abs_of_nonpos (by linarith)] at h
    exact .inl (by linarith)
  · rw [abs_of_nonneg (by linarith)] at h
    exact .inr (by linarith)

/-- The number of an integer is nearest to it, ties to the even mantissa. -/
theorem isNearest_ofInt {i : Int} (h : i.natAbs < 2 ^ 64) : (ofInt i).IsNearest i := by
  refine ⟨_, value_ofInt h, fun y u hu => ?_⟩
  obtain ⟨m, q, hm, habs⟩ := abs_of_value_eq hu
  obtain ⟨hnear, htie⟩ := rounded_nearest i.natAbs (q := q) hm
  rw [← habs] at hnear htie
  -- Signs aside, the integer and what is left of it are natural numbers.
  have hi : ((signed (i < 0) i.natAbs : Int) : ℚ) = i := by rw [signed_natAbs]
  have hdist := abs_signed_sub (i < 0) (rounded i.natAbs) i.natAbs
  have hless : |(|u| - i.natAbs)| ≤ |u - i| := by
    have := abs_abs_sub_abs_le u i
    rwa [← Int.cast_abs, Int.abs_eq_natAbs, Int.cast_natCast] at this
  rw [hi] at hdist
  rw [hdist]
  refine ⟨hnear.trans hless, fun heq hne => even_fractionField_ofInt h (htie ?_ ?_)⟩
  · exact le_antisymm (hless.trans heq.le) hnear
  · intro hu
    have hopposite : u = -(signed (i < 0) (rounded i.natAbs) : Int) :=
      (abs_eq_abs.mp (hu.trans (abs_signed _ _).symm)).resolve_left hne
    rw [hopposite, ← hi, abs_neg_signed_sub] at heq
    have hzero : rounded i.natAbs = 0 := by
      rcases eq_zero_or_eq_zero_of_add_eq_abs_sub (by positivity) (by positivity) heq with hr | hn
      · exact_mod_cast hr
      · have hn : i.natAbs = 0 := by exact_mod_cast hn
        rw [hn]
        rfl
    rw [hopposite, hzero, signed_cast] at hne
    exact hne (by simp)

end Number

end ScriptHost
