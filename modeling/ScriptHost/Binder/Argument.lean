/-
Arguments of a call, from slots to host functions.

`coerce` turns a slot into the kind of value a parameter asks for, or says what it
found instead.  The coerced values are handed to a host function as `Args`, which the
function takes one by one with `Args.take`, each at its own type; `IntoReturn` turns
what it answers into the value for slot 0.
-/
import ScriptHost.Slots
import ScriptHost.HostValue

namespace ScriptHost

/-- What kind of value a parameter asks for.  `any` accepts a bool, a number or a text. -/
inductive ParamKind where
  | bool | int | float | text | any
deriving DecidableEq

def ParamKind.name : ParamKind → String
  | .bool => "Bool"
  | .int => "Int"
  | .float => "Float"
  | .text => "Text"
  | .any => "Any"

/-- A parameter: its name, its kind, and how its type is named in messages. -/
structure Param where
  name : String
  kind : ParamKind
  typeName : String
deriving DecidableEq

/-- A slot that could not be coerced: what kind of value it holds, and the value's text if
its kind has one. -/
structure Mismatch where
  slot : Nat
  actual : SlotType
  observed : String
deriving DecidableEq

section

variable {W : Type} [Slots W]

/-- The text of the value found in a slot. -/
def observe (w : W) (slot : Nat) : SlotType → String
  | .bool => if Slots.bool w slot then "true" else "false"
  | .num => (Slots.number w slot).toText
  | .string => Slots.text w slot
  | .null => "null"
  | _ => ""

/-- The value a slot gives to a parameter of a kind, if it gives one. -/
def coerce? (w : W) (slot : Nat) : SlotType → ParamKind → Option HostValue
  | .bool, .bool | .bool, .any => some (.bool (Slots.bool w slot))
  | .num, .int => some (.int (Slots.number w slot).toInt64)
  | .num, .float | .num, .any => some (.float (Slots.number w slot))
  | .string, .text | .string, .any => some (.text (Slots.text w slot))
  | _, _ => none

/-- Coerces the value in a slot. -/
def coerce (w : W) (slot : Nat) (kind : ParamKind) : Except Mismatch HostValue :=
  let actual := Slots.type w slot
  match coerce? w slot actual kind with
  | some value => pure value
  | none => throw ⟨slot, actual, observe w slot actual⟩

/-- Coerces the arguments of `params`, the first of them in `slot`; the first parameter that
does not coerce is the one reported. -/
def coerceAll (w : W) : (slot : Nat) → List Param → Except (Param × Mismatch) (List HostValue)
  | _, [] => pure []
  | slot, param :: params =>
    match coerce w slot param.kind with
    | .error mismatch => throw (param, mismatch)
    | .ok value => do
      let values ← coerceAll w (slot + 1) params
      pure (value :: values)

end

/-- The message of an argument that did not coerce. -/
def Mismatch.message (m : Mismatch) (method : String) (param : Param) : String :=
  s!"Foreign method '{method}' parameter '{param.name}' type mismatch given actual " ++
    s!"parameter of type {m.actual.name} ({m.observed} in slot {m.slot}), " ++
    s!"expected type {param.typeName}"

/-- The failure of a host function; it aborts the calling fiber with its message. -/
structure ForeignError where
  message : String
deriving DecidableEq

/-- A type a host function can take an argument at. -/
class FromArg (α : Type) where
  kind : ParamKind
  typeName : String
  ofValue? : HostValue → Option α

instance : FromArg Bool where
  kind := .bool
  typeName := "Bool"
  ofValue?
    | .bool b => some b
    | _ => none

instance : FromArg Int64 where
  kind := .int
  typeName := "Int64"
  ofValue?
    | .int i => some i
    | _ => none

/-- Integers out of range are clamped. -/
instance : FromArg Int32 where
  kind := .int
  typeName := "Int32"
  ofValue?
    | .int i => some (Int32.ofInt (max Int32.minValue.toInt (min Int32.maxValue.toInt i.toInt)))
    | _ => none

instance : FromArg Number where
  kind := .float
  typeName := "Double"
  ofValue?
    | .float x => some x
    | _ => none

instance : FromArg String where
  kind := .text
  typeName := "String"
  ofValue?
    | .text s => some s
    | _ => none

instance : FromArg HostValue where
  kind := .any
  typeName := "Object"
  ofValue? := some

/-- The parameter `name` taken at type `α`. -/
def Param.of (α : Type) [FromArg α] (name : String) : Param :=
  ⟨name, FromArg.kind α, FromArg.typeName α⟩

/-- The arguments not yet taken. -/
abbrev Args := List HostValue

/-- What a host function does with its arguments; a failure keeps what was left of them. -/
abbrev Taking (α : Type) := ExceptT ForeignError (StateM Args) α

/-- Takes the next argument.  One that is not of the type is taken all the same. -/
def Args.take (α : Type) [FromArg α] : Taking α := do
  match ← get with
  | [] => throw ⟨"Foreign call received fewer arguments than it declares"⟩
  | value :: rest =>
    set rest
    match FromArg.ofValue? value with
    | some a => pure a
    | none => throw ⟨s!"Foreign call argument is not a {FromArg.typeName α}"⟩

/-- What a host function answers: possibly a value for slot 0, or a failure. -/
abbrev ForeignReturn := Except ForeignError (Option HostValue)

/-- A type a host function can answer with. -/
class IntoReturn (α : Type) where
  toReturn : α → ForeignReturn

instance : IntoReturn Unit := ⟨fun _ => .ok none⟩

instance : IntoReturn Bool := ⟨fun b => .ok (some (.bool b))⟩

instance : IntoReturn Int32 := ⟨fun i => .ok (some (.int i.toInt64))⟩

instance : IntoReturn Int64 := ⟨fun i => .ok (some (.int i))⟩

instance : IntoReturn Number := ⟨fun x => .ok (some (.float x))⟩

instance : IntoReturn String := ⟨fun s => .ok (some (.text s))⟩

instance : IntoReturn HostValue := ⟨fun v => .ok (some v)⟩

/-- A function that can fail answers with its value, or fails with the text of its error. -/
instance {α : Type} [IntoReturn α] : IntoReturn (Except String α) where
  toReturn
    | .ok a => IntoReturn.toReturn a
    | .error message => .error ⟨message⟩

end ScriptHost
