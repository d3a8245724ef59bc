/-
Checked conversions between host values and slots.

`FromSlot` reads a value of a type out of a slot and `IntoSlot` writes one in.  Both
refuse a slot outside the window, and a read refuses a slot holding another kind of
value; a refused operation leaves the window as it was.

* **`readValue`**, **`writeValue`** — the same for values whose kind is known at run
  time only.  Bytes and handles are refused: bytes share their kind with text, and a
  bare window cannot tell which machine a handle belongs to.
* **`writeOwnedValue`** — writes handles too, on a window of the machine that owns
  them.
-/
import ScriptHost.Slots
import ScriptHost.HostValue

namespace ScriptHost

variable {W : Type} [Slots W]

/-- Reads a value of type `α` out of a slot. -/
class FromSlot (α : Type) where
  read : {W : Type} → [Slots W] → W → (slot : Nat) → Except HostError α

/-- Writes a value of type `α` into a slot. -/
class IntoSlot (α : Type) where
  write : {W : Type} → [Slots W] → W → (slot : Nat) → α → Except HostError W

/-- Refuses a slot outside the window. -/
def checkSlot (w : W) (slot : Nat) : Except HostError Unit :=
  if slot < Slots.count w then pure () else throw (.slotOutOfRange slot (Slots.count w))

/-- Refuses a slot outside the window or holding another kind of value; `expected` is how
the wanted kind is named. -/
def expectType (w : W) (slot : Nat) (wanted : SlotType) (expected : String) :
    Except HostError Unit := do
  checkSlot w slot
  if Slots.type w slot = wanted then pure ()
  else throw (.slotTypeMismatch slot expected (Slots.type w slot))

/-- Writes with `set` if the slot is in the window. -/
def writeChecked (w : W) (slot : Nat) (set : W → W) : Except HostError W := do
  checkSlot w slot
  pure (set w)

instance : FromSlot Bool where
  read w slot := do
    expectType w slot .bool "Bool"
    pure (Slots.bool w slot)

instance : FromSlot Number where
  read w slot := do
    expectType w slot .num "Num"
    pure (Slots.number w slot)

instance : FromSlot Int32 where
  read w slot := do
    expectType w slot .num "Num"
    pure (Slots.number w slot).toInt32

instance : FromSlot Int64 where
  read w slot := do
    expectType w slot .num "Num"
    pure (Slots.number w slot).toInt64

instance : FromSlot String where
  read w slot := do
    expectType w slot .string "String"
    pure (Slots.text w slot)

instance : FromSlot Bytes where
  read w slot := do
    expectType w slot .string "String"
    pure (Slots.bytes w slot)

instance : FromSlot Unit where
  read w slot := expectType w slot .null "Null"

/-- Null reads as nothing, anything else as the type itself does. -/
instance {α : Type} [FromSlot α] : FromSlot (Option α) where
  read w slot := do
    checkSlot w slot
    if Slots.type w slot = .null then pure none
    else some <$> FromSlot.read w slot

/-- Reads whatever a slot holds; numbers come back as floats. -/
def readValue (w : W) (slot : Nat) : Except HostError HostValue := do
  checkSlot w slot
  match Slots.type w slot with
  | .bool => pure (.bool (Slots.bool w slot))
  | .num => pure (.float (Slots.number w slot))
  | .string => pure (.text (Slots.text w slot))
  | .null => pure .null
  | actual => throw (.slotTypeMismatch slot "Bool, Num, String or Null" actual)

instance : FromSlot HostValue where
  read := readValue

instance : IntoSlot Bool where
  write w slot b := writeChecked w slot (Slots.setBool · slot b)

instance : IntoSlot Number where
  write w slot x := writeChecked w slot (Slots.setNumber · slot x)

instance : IntoSlot Int32 where
  write w slot i := writeChecked w slot (Slots.setNumber · slot (.ofInt32 i))

instance : IntoSlot Int64 where
  write w slot i := writeChecked w slot (Slots.setNumber · slot (.ofInt64 i))

instance : IntoSlot String where
  write w slot s := writeChecked w slot (Slots.setText · slot s)

instance : IntoSlot Bytes where
  write w slot b := writeChecked w slot (Slots.setBytes · slot b)

instance : IntoSlot Unit where
  write w slot _ := writeChecked w slot (Slots.setNull · slot)

instance {α : Type} [IntoSlot α] : IntoSlot (Option α) where
  write w slot
    | some a => IntoSlot.write w slot a
    | none => IntoSlot.write w slot ()

/-- Writes a value with the writer for its kind. -/
def writeValue (w : W) (slot : Nat) : HostValue → Except HostError W
  | .null => IntoSlot.write w slot ()
  | .bool b => IntoSlot.write w slot b
  | .int i => IntoSlot.write w slot i
  | .float x => IntoSlot.write w slot x
  | .text s => IntoSlot.write w slot s
  | .bytes b => throw (.unsupportedValue (HostValue.bytes b).kindName)
  | .handle h => throw (.unsupportedValue (HostValue.handle h).kindName)

instance : IntoSlot HostValue where
  write := writeValue

/-- Writes a value, handles of `owner` included. -/
def writeOwnedValue (w : W) (slot : Nat) (value : HostValue) (owner : HandleRegistry) :
    Except HostError W :=
  match value with
  | .handle h => do
    if h.owner ≠ owner.owner then throw .foreignHandle
    checkSlot w slot
    match owner.raw? h.id with
    | some raw => pure (Slots.setPinned w slot raw)
    | none => throw .handleReleased
  | value => writeValue w slot value

end ScriptHost
