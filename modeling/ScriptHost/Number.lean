/-
Numbers as scripts see them: 64-bit binary floating point, kept by bit pattern.

A `Number` is its pattern, so two numbers are equal as data exactly when a slot
holding one cannot be told from a slot holding the other.  What a pattern stands
for is read off by `Number.magnitude`: a mantissa times a power of two, infinite,
or not a number at all.  Everything that has to be exact is computed from that
reading in whole numbers:

* **`Number.truncate`** — the value cut toward zero and clamped to a range,
* **`Number.ofInt`** — the nearest number to an integer, ties to the even mantissa,
* **`Number.ieeeEq`** — numeric equality, under which no NaN equals anything and
  the two zeros are equal.

Arithmetic, which nothing here reasons about, goes through the hardware type.
-/

namespace ScriptHost

/-- A 64-bit floating point number, by its bit pattern. -/
structure Number where
  bits : UInt64
deriving DecidableEq, Inhabited

namespace Number

/-- The size of a number, its sign left out. -/
inductive Magnitude where
  /-- `mantissa * 2 ^ exponent` -/
  | finite (mantissa : Nat) (exponent : Int)
  | infinite
  | notANumber
deriving DecidableEq

/-- The bit above the fraction bits, which a pattern leaves out of its mantissa. -/
def hiddenBit : Nat :=
  1 <<< 52

/-- The top bit. -/
def isNegative (x : Number) : Bool :=
  x.bits.toNat >>> 63 = 1

/-- The eleven exponent bits. -/
def exponentField (x : Number) : Nat :=
  x.bits.toNat >>> 52 % 2048

/-- The fifty-two fraction bits. -/
def fractionField (x : Number) : Nat :=
  x.bits.toNat % hiddenBit

/-- What the pattern stands for, up to sign. -/
def magnitude (x : Number) : Magnitude :=
  if x.exponentField = 2047 then
    if x.fractionField = 0 then .infinite else .notANumber
  else if x.exponentField = 0 then .finite x.fractionField (-1074)
  else .finite (hiddenBit + x.fractionField) ((x.exponentField : Int) - 1075)

def isNaN (x : Number) : Bool :=
  x.magnitude = .notANumber

/-- The whole part of `m * 2 ^ q`. -/
def wholePart (m : Nat) (q : Int) : Nat :=
  if 0 ≤ q then m <<< q.toNat else m >>> (-q).toNat

/-- `n` with a sign. -/
def signed (negative : Bool) (n : Nat) : Int :=
  if negative then -(n : Int) else n

/-- The value cut toward zero and clamped to `lo..hi`; what is not a number counts
as zero. -/
def truncate (lo hi : Int) (x : Number) : Int :=
  match x.magnitude with
  | .notANumber => 0
  | .infinite => if x.isNegative then lo else hi
  | .finite m q => max lo (min hi (signed x.isNegative (wholePart m q)))

/-- The 64-bit integer a number counts as. -/
def toInt64 (x : Number) : Int64 :=
  Int64.ofInt (x.truncate Int64.minValue.toInt Int64.maxValue.toInt)

/-- The 32-bit integer a number counts as. -/
def toInt32 (x : Number) : Int32 :=
  Int32.ofInt (x.truncate Int32.minValue.toInt Int32.maxValue.toInt)

/-- `n / 2 ^ s` rounded to the nearest integer, ties to even. -/
def roundShift (n s : Nat) : Nat :=
  let unit := 1 <<< s
  let q := n / unit
  let r := n % unit
  if unit < 2 * r ∨ (2 * r = unit ∧ q % 2 = 1) then q + 1 else q

/-- The pattern, sign bit aside, of the number nearest to `n`.

The mantissa is brought to fifty-three bits; when rounding carries it to the next
power of two, the carry lands in the exponent field, which is what it should do. -/
def patternOfNat (n : Nat) : Nat :=
  if n = 0 then 0
  else
    let k := n.log2
    let mantissa := if k ≤ 52 then n <<< (52 - k) else roundShift n (k - 52)
    (k + 1023) * hiddenBit + (mantissa - hiddenBit)

/-- The number nearest to an integer, ties to the even mantissa. -/
def ofInt (i : Int) : Number :=
  ⟨UInt64.ofNat ((if i < 0 then 1 <<< 63 else 0) + patternOfNat i.natAbs)⟩

def ofInt64 (i : Int64) : Number :=
  ofInt i.toInt

def ofInt32 (i : Int32) : Number :=
  ofInt i.toInt

/-- The positive zero, which is also what a read that finds no number answers. -/
def zero : Number :=
  ⟨0⟩

/-- Numeric equality. -/
def ieeeEq (x y : Number) : Bool :=
  !x.isNaN && !y.isNaN &&
    (x.bits = y.bits ||
      (x.magnitude = .finite 0 (-1074) && y.magnitude = .finite 0 (-1074)))

def toFloat (x : Number) : Float :=
  Float.ofBits x.bits

def ofFloat (f : Float) : Number :=
  ⟨f.toBits⟩

instance : Add Number := ⟨fun x y => ofFloat (x.toFloat + y.toFloat)⟩

instance : Mul Number := ⟨fun x y => ofFloat (x.toFloat * y.toFloat)⟩

instance : Div Number := ⟨fun x y => ofFloat (x.toFloat / y.toFloat)⟩

def sqrt (x : Number) : Number :=
  ofFloat x.toFloat.sqrt

end Number

end ScriptHost
