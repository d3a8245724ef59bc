/-
Slots read and written at a type chosen at run time.
-/
import ScriptHost.Marshal

namespace ScriptHost

/-- A type a slot can be read at. -/
inductive ReadType where
  | bool | number | int32 | int64 | text | bytes | unit | value
  | optional (type : ReadType)
deriving DecidableEq

/-- What a read answers. -/
inductive Reading where
  | bool (value : Bool)
  | number (value : Number)
  | int32 (value : Int32)
  | int64 (value : Int64)
  | text (value : String)
  | bytes (value : Bytes)
  | unit
  | value (value : HostValue)
  | absent
  | present (value : Reading)

/-- A value to be written at the type it comes with; `V` stands for dynamically typed
values. -/
inductive Payload (V : Type) where
  | bool (value : Bool)
  | number (value : Number)
  | int32 (value : Int32)
  | int64 (value : Int64)
  | text (value : String)
  | bytes (value : Bytes)
  | unit
  | optionalBool (value : Option Bool)
  | optionalInt32 (value : Option Int32)
  | optionalText (value : Option String)
  | value (value : V)

variable {W : Type} [Slots W]

/-- Reads a slot at a type. -/
def readAs (w : W) (slot : Nat) : ReadType → Except HostError Reading
  | .bool => .bool <$> FromSlot.read w slot
  | .number => .number <$> FromSlot.read w slot
  | .int32 => .int32 <$> FromSlot.read w slot
  | .int64 => .int64 <$> FromSlot.read w slot
  | .text => .text <$> FromSlot.read w slot
  | .bytes => .bytes <$> FromSlot.read w slot
  | .unit => (fun _ => .unit) <$> (FromSlot.read w slot : Except HostError Unit)
  | .value => .value <$> FromSlot.read w slot
  | .optional type => do
    checkSlot w slot
    if Slots.type w slot = .null then pure .absent
    else .present <$> readAs w slot type

/-- Writes a value at its type. -/
def writePayload (w : W) (slot : Nat) : Payload HostValue → Except HostError W
  | .bool b => IntoSlot.write w slot b
  | .number x => IntoSlot.write w slot x
  | .int32 i => IntoSlot.write w slot i
  | .int64 i => IntoSlot.write w slot i
  | .text s => IntoSlot.write w slot s
  | .bytes b => IntoSlot.write w slot b
  | .unit => IntoSlot.write w slot ()
  | .optionalBool b => IntoSlot.write w slot b
  | .optionalInt32 i => IntoSlot.write w slot i
  | .optionalText s => IntoSlot.write w slot s
  | .value v => IntoSlot.write w slot v

/-- The same payload with the dynamically typed value looked up. -/
def Payload.map {V V' : Type} (f : V → V') : Payload V → Payload V'
  | .bool b => .bool b
  | .number x => .number x
  | .int32 i => .int32 i
  | .int64 i => .int64 i
  | .text s => .text s
  | .bytes b => .bytes b
  | .unit => .unit
  | .optionalBool b => .optionalBool b
  | .optionalInt32 i => .optionalInt32 i
  | .optionalText s => .optionalText s
  | .value v => .value (f v)

end ScriptHost
