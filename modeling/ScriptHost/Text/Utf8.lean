/-
Text as bytes and back.

Host text is a `String`; a script holds strings as bytes, which need not be text at
all.  Writing encodes each character in one to four bytes.  Reading is lossy and
always succeeds: `Utf8.decode` runs a small machine over the bytes, one state per
place inside a character, and puts one U+FFFD for every maximal run of bytes that
begins a character and cannot be completed.

* **`Utf8.run_start`** — what the machine does with a first byte.
-/

namespace ScriptHost

/-- The contents of a script string. -/
abbrev Bytes := List UInt8

namespace Utf8

/-- The bytes of a text. -/
def encode (s : String) : Bytes :=
  s.toList.flatMap String.utf8EncodeChar

/-- What stands for bytes that are no text. -/
def replacement : Char := '\uFFFD'

/-- Where the decoder stands: between characters, or inside one with `owed` bytes to
come, the bits read so far, and the range the next byte has to be in. -/
inductive State where
  | start
  | inside (owed : Nat) (bits : Nat) (low high : Nat)
deriving DecidableEq

/-- The state after the first byte of a character, or the character itself; `none` where
no character begins. -/
def lead (b : Nat) : Option (Sum Char State) :=
  if b < 0x80 then some (.inl (Char.ofNat b))
  else if b < 0xC2 then none
  else if b < 0xE0 then some (.inr (.inside 1 (b % 32) 0x80 0xBF))
  else if b = 0xE0 then some (.inr (.inside 2 0 0xA0 0xBF))
  else if b = 0xED then some (.inr (.inside 2 0xD 0x80 0x9F))
  else if b < 0xF0 then some (.inr (.inside 2 (b % 16) 0x80 0xBF))
  else if b = 0xF0 then some (.inr (.inside 3 0 0x90 0xBF))
  else if b < 0xF4 then some (.inr (.inside 3 (b % 8) 0x80 0xBF))
  else if b = 0xF4 then some (.inr (.inside 3 4 0x80 0x8F))
  else none

/-- One byte read between characters. -/
def stepStart (b : Nat) : List Char × State :=
  match lead b with
  | some (.inl c) => ([c], .start)
  | some (.inr s) => ([], s)
  | none => ([replacement], .start)

/-- One byte read in any state: the characters it completes, and the state after it. -/
def step : State → Nat → List Char × State
  | .start, b => stepStart b
  | .inside owed bits low high, b =>
    if low ≤ b ∧ b ≤ high then
      let bits := bits * 64 + b % 64
      if owed ≤ 1 then ([Char.ofNat bits], .start)
      else ([], .inside (owed - 1) bits 0x80 0xBF)
    else
      let (cs, s) := stepStart b
      (replacement :: cs, s)

/-- The characters of `bytes`, read from a state. -/
def run : State → Bytes → List Char
  | .start, [] => []
  | .inside .., [] => [replacement]
  | s, b :: bytes => (step s b.toNat).1 ++ run (step s b.toNat).2 bytes

/-- The text of `bytes`, with U+FFFD where they are no text. -/
def decode (bytes : Bytes) : String :=
  String.ofList (run .start bytes)

/-- The text whose bytes these are, if there is one. -/
def decode? (bytes : Bytes) : Option String :=
  if encode (decode bytes) = bytes then some (decode bytes) else none

theorem run_start (b : UInt8) (bytes : Bytes) :
    run .start (b :: bytes) = (stepStart b.toNat).1 ++ run (stepStart b.toNat).2 bytes := rfl

/-- The position of the first NUL byte, which no text handed to a machine may hold. -/
def nulPosition? (s : String) : Option Nat :=
  (encode s).findIdx? (· = 0)

end Utf8

end ScriptHost
