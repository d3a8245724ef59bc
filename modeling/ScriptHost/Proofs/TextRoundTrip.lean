/-
Text comes back from its bytes.

Reading bytes is lossy, but not on bytes that were written: a character is encoded in bytes that
the decoder passes through one state after another, and completes with the last.

* **`Utf8.run_utf8EncodeChar`** — the bytes of one character, with others after them;
* **`Utf8.decode_encode`** — a whole text.
-/
import ScriptHost.Text.Utf8

namespace ScriptHost

namespace Utf8

variable {bytes : Bytes}

/-- A byte that begins a character and does not complete it. -/
theorem run_lead {b : UInt8} {s : State} (h : lead b.toNat = some (.inr s)) :
    run .start (b :: bytes) = run s bytes := by
  rw [run_start, stepStart, h]
  rfl

/-- A byte inside a character, with more to come. -/
theorem run_inside {b : UInt8} {owed bits low high : Nat} (hlow : low ≤ b.toNat)
    (hhigh : b.toNat ≤ high) :
    run (.inside (owed + 2) bits low high) (b :: bytes) =
      run (.inside (owed + 1) (bits * 64 + b.toNat % 64) 0x80 0xBF) bytes := by
  rw [run, step, if_pos ⟨hlow, hhigh⟩, if_neg (by omega)]
  rfl

/-- The last byte of a character. -/
theorem run_last {b : UInt8} {bits low high : Nat} (hlow : low ≤ b.toNat)
    (hhigh : b.toNat ≤ high) :
    run (.inside 1 bits low high) (b :: bytes) =
      Char.ofNat (bits * 64 + b.toNat % 64) :: run .start bytes := by
  rw [run, step, if_pos ⟨hlow, hhigh⟩, if_pos (Nat.le_refl 1)]
  rfl

/-- A byte inside a character has six bits of it. -/
theorem toNat_continuation (v : Nat) : (UInt8.ofNat (v % 64 + 128)).toNat = v % 64 + 128 := by
  rw [UInt8.toNat_ofNat']
  omega

section

variable {v : Nat}

theorem run_one (h : v < 0x80) :
    run .start (UInt8.ofNat v :: bytes) = Char.ofNat v :: run .start bytes := by
  have hv : (UInt8.ofNat v).toNat = v := by
    rw [UInt8.toNat_ofNat']
    omega
  rw [run_start, stepStart, hv, lead, if_pos h]
  rfl

theorem run_two (hlow : 0x80 ≤ v) (hhigh : v < 0x800) :
    run .start (UInt8.ofNat (v / 64 % 32 + 192) :: UInt8.ofNat (v % 64 + 128) :: bytes) =
      Char.ofNat v :: run .start bytes := by
  have hfirst : (UInt8.ofNat (v / 64 % 32 + 192)).toNat = v / 64 % 32 + 192 := by
    rw [UInt8.toNat_ofNat']
    omega
  have hlead : lead (v / 64 % 32 + 192) =
      some (.inr (.inside 1 ((v / 64 % 32 + 192) % 32) 0x80 0xBF)) := by
    rw [lead, if_neg (by omega), if_neg (by omega), if_pos (by omega)]
  have hsecond := toNat_continuation v
  rw [run_lead (by rw [hfirst, hlead]), run_last (by omega) (by omega), hsecond]
  congr 2
  omega

/-- In three bytes the range of the second depends on the first. -/
theorem lead_three (hlow : 0x800 ≤ v) (hhigh : v < 0x10000) (hscalar : v < 0xD800 ∨ 0xDFFF < v) :
    ∃ low high, lead (v / 4096 % 16 + 224) = some (.inr (.inside 2 (v / 4096) low high)) ∧
      low ≤ v / 64 % 64 + 128 ∧ v / 64 % 64 + 128 ≤ high := by
  rw [lead, if_neg (by omega), if_neg (by omega), if_neg (by omega)]
  split
  · exact ⟨0xA0, 0xBF, by rw [show v / 4096 = 0 by omega], by omega, by omega⟩
  · split
    · exact ⟨0x80, 0x9F, by rw [show v / 4096 = 0xD by omega], by omega, by omega⟩
    · rw [if_pos (by omega), show (v / 4096 % 16 + 224) % 16 = v / 4096 by omega]
      exact ⟨0x80, 0xBF, rfl, by omega, by omega⟩

theorem run_three (hlow : 0x800 ≤ v) (hhigh : v < 0x10000) (hscalar : v < 0xD800 ∨ 0xDFFF < v) :
    run .start (UInt8.ofNat (v / 4096 % 16 + 224) :: UInt8.ofNat (v / 64 % 64 + 128) ::
      UInt8.ofNat (v % 64 + 128) :: bytes) = Char.ofNat v :: run .start bytes := by
  have hfirst : (UInt8.ofNat (v / 4096 % 16 + 224)).toNat = v / 4096 % 16 + 224 := by
    rw [UInt8.toNat_ofNat']
    omega
  obtain ⟨low, high, hlead, hin⟩ := lead_three hlow hhigh hscalar
  have hsecond := toNat_continuation (v / 64)
  have hthird := toNat_continuation v
  rw [run_lead (by rw [hfirst, hlead]), run_inside (by omega) (by omega),
    run_last (by omega) (by omega), hsecond, hthird]
  congr 2
  omega

/-- In four bytes it does too. -/
theorem lead_four (hlow : 0x10000 ≤ v) (hhigh : v < 0x110000) :
    ∃ low high, lead (v / 262144 % 8 + 240) = some (.inr (.inside 3 (v / 262144) low high)) ∧
      low ≤ v / 4096 % 64 + 128 ∧ v / 4096 % 64 + 128 ≤ high := by
  rw [lead, if_neg (by omega), if_neg (by omega), if_neg (by omega), if_neg (by omega),
    if_neg (by omega), if_neg (by omega)]
  split
  · exact ⟨0x90, 0xBF, by rw [show v / 262144 = 0 by omega], by omega, by omega⟩
  · split
    · rw [show (v / 262144 % 8 + 240) % 8 = v / 262144 by omega]
      exact ⟨0x80, 0xBF, rfl, by omega, by omega⟩
    · rw [if_pos (by omega), show v / 262144 = 4 by omega]
      exact ⟨0x80, 0x8F, rfl, by omega, by omega⟩

theorem run_four (hlow : 0x10000 ≤ v) (hhigh : v < 0x110000) :
    run .start (UInt8.ofNat (v / 262144 % 8 + 240) :: UInt8.ofNat (v / 4096 % 64 + 128) ::
      UInt8.ofNat (v / 64 % 64 + 128) :: UInt8.ofNat (v % 64 + 128) :: bytes) =
      Char.ofNat v :: run .start bytes := by
  have hfirst : (UInt8.ofNat (v / 262144 % 8 + 240)).toNat = v / 262144 % 8 + 240 := by
    rw [UInt8.toNat_ofNat']
    omega
  -- The lead byte bounds the byte behind it, and the two after that are free.
  obtain ⟨low, high, hlead, hin⟩ := lead_four hlow hhigh
  have hsecond := toNat_continuation (v / 4096)
  have hthird := toNat_continuation (v / 64)
  have hfourth := toNat_continuation v
  rw [run_lead (by rw [hfirst, hlead]), run_inside (by omega) (by omega),
    run_inside (by omega) (by omega), run_last (by omega) (by omega), hsecond, hthird, hfourth]
  congr 2
  omega

end

/-- The decoder reads a character out of its bytes and goes on with the next. -/
theorem run_utf8EncodeChar (c : Char) (bytes : Bytes) :
    run .start (String.utf8EncodeChar c ++ bytes) = c :: run .start bytes := by
  have hscalar : c.val.toNat < 0xD800 ∨ 0xDFFF < c.val.toNat ∧ c.val.toNat < 0x110000 := c.valid
  have hc : Char.ofNat c.val.toNat = c := Char.ofNat_toNat c
  rw [String.utf8EncodeChar]
  split
  · rw [List.singleton_append, run_one (by omega), hc]
  · split
    · rw [List.cons_append, List.singleton_append, run_two (by omega) (by omega), hc]
    · split
      · rw [List.cons_append, List.cons_append, List.singleton_append,
          run_three (by omega) (by omega) (by omega), hc]
      · rw [List.cons_append, List.cons_append, List.cons_append, List.singleton_append,
          run_four (by omega) (by omega), hc]

theorem run_encode (cs : List Char) : run .start (cs.flatMap String.utf8EncodeChar) = cs := by
  induction cs with
  | nil => rfl
  | cons c cs ih => rw [List.flatMap_cons, run_utf8EncodeChar, ih]

/-- Text is read as it was written, whatever characters it has. -/
theorem decode_encode (s : String) : decode (encode s) = s := by
  rw [decode, encode, run_encode, String.ofList_toList]

end Utf8

end ScriptHost
