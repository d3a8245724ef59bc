/-
The window of slots through which host and machine exchange values.

`Slots W` is what every machine offers on its window `W`.  The operations are
unchecked: calls are meant for indices inside the window, and getters for slots
holding the matching kind of value.  The layer that turns other calls into errors is
`ScriptHost.Marshal`.

Two operations may panic, that is, end the run on the spot: inserting outside a list,
and creating an instance of what is not a class.
-/
import ScriptHost.ObjectHeap
import ScriptHost.HandleRegistry
import ScriptHost.Number
import ScriptHost.Text.Utf8

namespace ScriptHost

/-- A run that ended on the spot, with a text saying why or without one. -/
inductive Panic where
  | message (text : String)
  | wordless
deriving DecidableEq

/-- A window of slots on a machine. -/
class Slots (W : Type) where
  /-- Grows the window to at least `count` slots. -/
  ensure : W → (count : Nat) → W
  count : W → Nat
  /-- The kind of value in a slot; `unknown` outside the window. -/
  type : W → (slot : Nat) → SlotType
  bool : W → (slot : Nat) → Bool
  number : W → (slot : Nat) → Number
  bytes : W → (slot : Nat) → Bytes
  /-- Pins the value in a slot. -/
  pin : W → (slot : Nat) → Option RawHandle × W
  /-- The token kept in a foreign instance made by this library; nothing for any other
  value. -/
  token : W → (slot : Nat) → Option Token
  setBool : W → (slot : Nat) → Bool → W
  setNumber : W → (slot : Nat) → Number → W
  setBytes : W → (slot : Nat) → Bytes → W
  /-- Writes the value a raw handle pins. -/
  setPinned : W → (slot : Nat) → RawHandle → W
  setNull : W → (slot : Nat) → W
  setNewList : W → (slot : Nat) → W
  /-- Makes an instance of the class in `classSlot`, with `token` in its memory. -/
  setNewForeign : W → (slot classSlot : Nat) → Token → Except Panic W
  listCount : W → (slot : Nat) → Nat
  getElement : W → (listSlot index elementSlot : Nat) → W
  /-- Negative indices count from the end; `-1` appends. -/
  insertElement : W → (listSlot : Nat) → (index : Int) → (elementSlot : Nat) → Except Panic W
  getVariable : W → (module name : String) → (slot : Nat) → Except HostError W
  /-- Aborts the running fiber with the value in a slot as the error. -/
  abort : W → (slot : Nat) → W

namespace Slots

variable {W : Type} [Slots W]

/-- The text in a slot. -/
def text (w : W) (slot : Nat) : String :=
  Utf8.decode (bytes w slot)

def setText (w : W) (slot : Nat) (text : String) : W :=
  setBytes w slot (Utf8.encode text)

/-- How many arguments the window holds: all slots but the first. -/
def argCount (w : W) : Nat :=
  count w - 1

/-- Aborts the running fiber with `message` as its error, making a slot for it if there is
none. -/
def abortWith (w : W) (message : String) : W :=
  let w := if count w = 0 then ensure w 1 else w
  abort (setText w 0 message) 0

end Slots

/-- Where an insertion at `index` lands in a list of `length` elements, if it does. -/
def insertionPoint? (length : Nat) (index : Int) : Option Nat :=
  let point : Int := if index < 0 then (length : Int) + 1 + index else index
  if 0 ≤ point ∧ point ≤ length then some point.toNat else none

/-- Refuses a text with a NUL byte in it, which no machine can take. -/
def refuseNul (s : String) : Except HostError Unit :=
  match Utf8.nulPosition? s with
  | some position => throw (.stringConversion position)
  | none => pure ()

end ScriptHost
