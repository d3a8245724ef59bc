/-
What is kept in the memory of a foreign instance.

An engine gives every instance a block of memory and knows nothing of what is in it.
The library writes a cell there: a tag that marks the memory as its own, the address of
the host, and the token of the host object.  `ForeignCell.read?` trusts nothing else:
memory that does not begin with the tag, or holds no host's address, has no cell in it.

* **`ForeignCell.decode_encode`** — a cell that was written is read back.
-/
import ScriptHost.ObjectHeap
import ScriptHost.Engine.Api

namespace ScriptHost

/-- The lowest `width` bytes of a number, the lowest first. -/
def littleEndian : (width : Nat) → Nat → Bytes
  | 0, _ => []
  | width + 1, n => UInt8.ofNat (n % 256) :: littleEndian width (n / 256)

/-- The number whose bytes these are, the lowest first. -/
def ofLittleEndian : Bytes → Nat
  | [] => 0
  | b :: bytes => b.toNat + 256 * ofLittleEndian bytes

@[simp] theorem length_littleEndian (width n : Nat) : (littleEndian width n).length = width := by
  induction width generalizing n with
  | zero => rfl
  | succ width ih => simp [littleEndian, ih]

theorem ofLittleEndian_littleEndian (width n : Nat) :
    ofLittleEndian (littleEndian width n) = n % Nat.pow 256 width := by
  induction width generalizing n with
  | zero => simp [littleEndian, ofLittleEndian, Nat.mod_one]
  | succ width ih =>
    have : (UInt8.ofNat (n % 256)).toNat = n % 256 := by
      simp [UInt8.toNat_ofNat']
    simp only [littleEndian, ofLittleEndian, ih, this]
    have step : Nat.pow 256 (width + 1) = 256 * Nat.pow 256 width := Nat.mul_comm _ _
    rw [step, Nat.mod_mul]

/-- The host and the object of an instance. -/
structure ForeignCell where
  userData : UInt64
  token : Token
deriving DecidableEq

namespace ForeignCell

/-- The tag memory written by the library begins with. -/
def magic : Nat := 0x5752454E464F524E

/-- How much memory a cell takes. -/
def size : Nat := 24

/-- The memory of a cell. -/
def encode (c : ForeignCell) : Memory :=
  littleEndian 8 magic ++ littleEndian 8 c.userData.toNat ++
    littleEndian 4 c.token.index.toNat ++ littleEndian 4 c.token.generation.toNat

/-- The cell in some memory, whatever the memory holds. -/
def decode (memory : Memory) : ForeignCell where
  userData := UInt64.ofNat (ofLittleEndian ((memory.drop 8).take 8))
  token :=
    { index := UInt32.ofNat (ofLittleEndian ((memory.drop 16).take 4))
      generation := UInt32.ofNat (ofLittleEndian ((memory.drop 20).take 4)) }

/-- The cell in the memory of an instance, if the library wrote one there. -/
def read? (memory : Option Memory) : Option ForeignCell := do
  let memory ← memory
  if size ≤ memory.length ∧ ofLittleEndian (memory.take 8) = magic ∧
      (decode memory).userData ≠ 0 then
    pure (decode memory)
  else none

theorem length_encode (c : ForeignCell) : c.encode.length = size := by
  simp [encode, size]

theorem decode_encode (c : ForeignCell) : decode c.encode = c := by
  have h₁ : (c.encode.drop 8).take 8 = littleEndian 8 c.userData.toNat := by
    simp [encode]
  have h₂ : (c.encode.drop 16).take 4 = littleEndian 4 c.token.index.toNat := by
    simp [encode, List.drop_append, List.drop_of_length_le]
  have h₃ : (c.encode.drop 20).take 4 = littleEndian 4 c.token.generation.toNat := by
    simp [encode, List.drop_append, List.drop_of_length_le, List.take_of_length_le]
  have word (x : UInt32) : UInt32.ofNat (x.toNat % Nat.pow 256 4) = x := by
    apply UInt32.toNat_inj.1
    simp
  have long (x : UInt64) : UInt64.ofNat (x.toNat % Nat.pow 256 8) = x := by
    apply UInt64.toNat_inj.1
    simp
  simp only [decode, h₁, h₂, h₃, ofLittleEndian_littleEndian, word, long]

end ForeignCell

end ScriptHost
