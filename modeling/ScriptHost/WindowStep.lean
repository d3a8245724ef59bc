/-
Single operations on a window, as data.

A `WindowStep` is one call of `Slots` or of the checked conversions above it, and
`WindowStep.run` carries it out on any window and says what it answered.
-/
import ScriptHost.Marshal.Dynamic

namespace ScriptHost

/-- One operation on a window. -/
inductive WindowStep where
  | get (slot : Nat) (type : ReadType)
  | set (slot : Nat) (payload : Payload HostValue)
  | readValue (slot : Nat)
  | writeValue (slot : Nat) (value : HostValue)
  | ensure (count : Nat)
  | count
  | type (slot : Nat)
  | bool (slot : Nat)
  | number (slot : Nat)
  | bytes (slot : Nat)
  | text (slot : Nat)
  | pin (slot : Nat)
  | token (slot : Nat)
  | setBool (slot : Nat) (value : Bool)
  | setNumber (slot : Nat) (value : Number)
  | setBytes (slot : Nat) (value : Bytes)
  | setText (slot : Nat) (value : String)
  | setNull (slot : Nat)
  | setPinned (slot : Nat) (handle : RawHandle)
  | setNewList (slot : Nat)
  | setNewForeign (slot classSlot : Nat) (token : Token)
  | listCount (slot : Nat)
  | getElement (slot index element : Nat)
  | insertElement (slot : Nat) (index : Int) (element : Nat)
  | getVariable (module name : String) (slot : Nat)
  | abort (slot : Nat)

/-- What an operation on a window answered. -/
inductive WindowReply where
  | nothing
  | flag (value : Bool)
  | natural (value : Nat)
  | number (value : Number)
  | bytes (value : Bytes)
  | text (value : String)
  | type (value : SlotType)
  | token (value : Option Token)
  | handle (value : Option RawHandle)
  | reading (value : Except HostError Reading)
  | value (value : Except HostError HostValue)
  | done (outcome : Except HostError Unit)
  | abortMessage (aborted : Bool) (message : Option String)
  | result (value : InterpretResult)
  /-- The number of a bound target. -/
  | target (id : Option Nat)
  | code (value : Int32)

/-- The window after a write that may have been refused, with the outcome. -/
def keepOnError {W : Type} (w : W) : Except HostError W → WindowReply × W
  | .ok w' => (.done (.ok ()), w')
  | .error e => (.done (.error e), w)

/-- Carries out one operation. -/
def WindowStep.run {W : Type} [Slots W] (w : W) :
    WindowStep → Except Panic (WindowReply × W)
  | .get slot t => pure (.reading (readAs w slot t), w)
  | .set slot payload => pure (keepOnError w (writePayload w slot payload))
  | .readValue slot => pure (.value (ScriptHost.readValue w slot), w)
  | .writeValue slot v => pure (keepOnError w (ScriptHost.writeValue w slot v))
  | .ensure n => pure (.nothing, Slots.ensure w n)
  | .count => pure (.natural (Slots.count w), w)
  | .type slot => pure (.type (Slots.type w slot), w)
  | .bool slot => pure (.flag (Slots.bool w slot), w)
  | .number slot => pure (.number (Slots.number w slot), w)
  | .bytes slot => pure (.bytes (Slots.bytes w slot), w)
  | .text slot => pure (.text (Slots.text w slot), w)
  | .pin slot =>
    let (handle, w) := Slots.pin w slot
    pure (.handle handle, w)
  | .token slot => pure (.token (Slots.token w slot), w)
  | .setBool slot v => pure (.nothing, Slots.setBool w slot v)
  | .setNumber slot v => pure (.nothing, Slots.setNumber w slot v)
  | .setBytes slot v => pure (.nothing, Slots.setBytes w slot v)
  | .setText slot v => pure (.nothing, Slots.setText w slot v)
  | .setNull slot => pure (.nothing, Slots.setNull w slot)
  | .setPinned slot handle => pure (.nothing, Slots.setPinned w slot handle)
  | .setNewList slot => pure (.nothing, Slots.setNewList w slot)
  | .setNewForeign slot classSlot t => do
    pure (.nothing, ← Slots.setNewForeign w slot classSlot t)
  | .listCount slot => pure (.natural (Slots.listCount w slot), w)
  | .getElement slot index element => pure (.nothing, Slots.getElement w slot index element)
  | .insertElement slot index element => do
    pure (.nothing, ← Slots.insertElement w slot index element)
  | .getVariable module name slot => pure (keepOnError w (Slots.getVariable w module name slot))
  | .abort slot => pure (.nothing, Slots.abort w slot)

end ScriptHost
