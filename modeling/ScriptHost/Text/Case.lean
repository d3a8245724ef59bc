/-
Upper and lower case of one character, which may be several characters: the upper
case of `ß` is `SS`.

What depends on the case of characters takes a `CaseMapping`; the one in use is
`CaseMapping.unicode`.
-/
import ScriptHost.Text.CaseTable

namespace ScriptHost

/-- The character a range maps `c` to. -/
def CaseRange.map? (r : CaseRange) (c : Nat) : Option Nat :=
  if r.first ≤ c ∧ c ≤ r.last ∧ (c - r.first) % r.step = 0 then
    some ((c : Int) + r.offset).toNat
  else none

namespace CaseTable

/-- The mapping of `c` by ranges and sequences; a character in neither stays. -/
def map (ranges : List CaseRange) (sequences : List (Nat × List Nat)) (c : Char) : List Char :=
  match ranges.findSome? (·.map? c.toNat) with
  | some d => [Char.ofNat d]
  | none =>
    match sequences.lookup c.toNat with
    | some ds => ds.map Char.ofNat
    | none => [c]

end CaseTable

/-- The lower case of a character. -/
def lowerCase (c : Char) : List Char :=
  CaseTable.map CaseTable.lowerRanges CaseTable.lowerSequences c

/-- The upper case of a character. -/
def upperCase (c : Char) : List Char :=
  CaseTable.map CaseTable.upperRanges CaseTable.upperSequences c

/-- The two cases of characters. -/
structure CaseMapping where
  lower : Char → List Char
  upper : Char → List Char

/-- The cases the tables tell. -/
def CaseMapping.unicode : CaseMapping :=
  ⟨lowerCase, upperCase⟩

end ScriptHost
