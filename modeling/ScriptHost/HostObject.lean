/-
Host objects: the values that live behind foreign instances.

A program exposes values of many types through one table, so a value is kept as a
`HostObject`: the name of its type and its fields.  `HostType` ties a Lean type to
that form; its law says that a value survives being kept.
-/
import ScriptHost.Number

namespace ScriptHost

/-- One field of a host object. -/
inductive Field where
  | flag (value : Bool)
  | int (value : Int64)
  | number (value : Number)
  | text (value : String)
deriving DecidableEq

/-- A value of some host type. -/
structure HostObject where
  typeName : String
  fields : List Field
deriving DecidableEq

/-- A type whose values can live behind foreign instances.  Types are told apart by
name. -/
class HostType (α : Type) where
  typeName : String
  fields : α → List Field
  ofFields? : List Field → Option α
  ofFields_fields : ∀ a, ofFields? (fields a) = some a

namespace HostObject

/-- The kept form of a value. -/
def of {α : Type} [HostType α] (a : α) : HostObject :=
  ⟨HostType.typeName α, HostType.fields a⟩

/-- Whether an object is a value of the type. -/
def is (α : Type) [HostType α] (o : HostObject) : Bool :=
  o.typeName = HostType.typeName α

/-- The value, if the object is of the type. -/
def as? (α : Type) [HostType α] (o : HostObject) : Option α :=
  if o.typeName = HostType.typeName α then HostType.ofFields? o.fields else none

theorem as?_of {α : Type} [HostType α] (a : α) : as? α (of a) = some a := by
  simp [as?, of, HostType.ofFields_fields]

/-- A one-line summary. -/
def summary (o : HostObject) : String :=
  s!"ForeignObject \x7b type_name: \"{o.typeName}\", .. \x7d"

end HostObject

instance : HostType Int64 where
  typeName := "i64"
  fields a := [.int a]
  ofFields?
    | [.int a] => some a
    | _ => none
  ofFields_fields _ := rfl

instance : HostType Bool where
  typeName := "bool"
  fields a := [.flag a]
  ofFields?
    | [.flag a] => some a
    | _ => none
  ofFields_fields _ := rfl

instance : HostType String where
  typeName := "alloc::string::String"
  fields a := [.text a]
  ofFields?
    | [.text a] => some a
    | _ => none
  ofFields_fields _ := rfl

end ScriptHost
