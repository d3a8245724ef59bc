/-
Documents: what is answered and recorded, as nested records of plain values.

A document can be written in any notation that has texts, whole numbers, lists and
records.  `Documented α` says how values of a type are written; numbers go by their bit
patterns, so that nothing is lost, and every NaN is the same.
-/
import ScriptHost.HostObject
import ScriptHost.HostValue
import ScriptHost.Marshal.Dynamic

namespace ScriptHost

/-- A nested record of plain values. -/
inductive Document where
  | null
  | bool (value : Bool)
  | int (value : Int)
  | text (value : String)
  | list (elements : List Document)
  | record (fields : List (String × Document))

/-- A type whose values can be written as documents. -/
class Documented (α : Type) where
  document : α → Document

export Documented (document)

/-- The fields of a record. -/
abbrev Fields := List (String × Document)

section

variable {α β : Type} [Documented α] [Documented β]

instance : Documented Document := ⟨id⟩

instance : Documented Unit := ⟨fun _ => .null⟩

instance : Documented Bool := ⟨.bool⟩

instance : Documented Int := ⟨.int⟩

instance : Documented Nat := ⟨fun n => .int n⟩

instance : Documented String := ⟨.text⟩

instance : Documented (Option α) := ⟨fun o => (o.map document).getD .null⟩

instance : Documented (List α) := ⟨fun l => .list (l.map document)⟩

/-- A pair is a list of two. -/
instance : Documented (α × β) := ⟨fun p => .list [document p.1, document p.2]⟩

end

namespace Document

/-- A field of a record. -/
def field {α : Type} [Documented α] (name : String) (a : α) : String × Document :=
  (name, document a)

/-- A record of one field. -/
def tagged {α : Type} [Documented α] (name : String) (a : α) : Document :=
  .record [field name a]

/-- A pattern of 64 bits in hexadecimal. -/
def hexadecimal (bits : UInt64) : String :=
  let digits := Nat.toDigits 16 bits.toNat
  String.ofList (List.replicate (16 - digits.length) '0' ++ digits)

/-- Bytes, one number for each. -/
def ofBytes (bytes : Bytes) : Document :=
  tagged "bytes" (bytes.map (·.toNat))

/-- Text, told apart from names. -/
def ofText (s : String) : Document :=
  tagged "str" s

/-- A string of a machine: text if its bytes are text. -/
def ofString (bytes : Bytes) : Document :=
  match Utf8.decode? bytes with
  | some s => ofText s
  | none => ofBytes bytes

end Document

open Document (field tagged hexadecimal ofBytes ofText ofString)

instance : Documented Number :=
  ⟨fun x => tagged "num" (if x.isNaN then "nan" else hexadecimal x.bits)⟩

/-- A fixed-width integer is written in decimal. -/
instance : Documented Int64 := ⟨fun i => tagged "int" (toString i.toInt)⟩

instance : Documented Int32 := ⟨fun i => tagged "int" (toString i.toInt)⟩

instance : Documented Token := ⟨fun t => document [t.index.toNat, t.generation.toNat]⟩

instance : Documented SlotType := ⟨fun t => document t.name⟩

instance : Documented ErrorKind := ⟨fun k => document k.name⟩

instance : Documented InterpretResult := ⟨fun r => document r.name⟩

instance : Documented RawHandle := ⟨fun h => document h.bits⟩

instance : Documented HostValue where
  document
    | .null => .null
    | .bool b => document b
    | .int i => document i
    | .float x => document x
    | .text s => ofText s
    | .bytes b => ofBytes b
    | .handle h => tagged "handle" h.summary

/-- What a read answers. -/
def Reading.document : Reading → Document
  | .bool b => ScriptHost.document b
  | .number x => ScriptHost.document x
  | .int32 i => ScriptHost.document i
  | .int64 i => ScriptHost.document i
  | .text s => ofText s
  | .bytes b => ofBytes b
  | .unit | .absent => .null
  | .value v => ScriptHost.document v
  | .present r => .record [("some", r.document)]

instance : Documented Reading := ⟨Reading.document⟩

instance : Documented Field where
  document
    | .flag b => document b
    | .int i => document i
    | .number x => document x
    | .text s => ofText s

/-- The fields of a report. -/
def StackFrame.toFields (f : StackFrame) : Fields :=
  [field "kind" f.kind, field "module" f.module, field "line" f.line, field "message" f.message]

/-- A frame with its text. -/
instance : Documented StackFrame := ⟨fun f => .record (f.toFields ++ [field "display" f.display])⟩

instance : Documented VmError where
  document e :=
    .record (e.primary.toFields ++
      [field "is_compile" e.isCompileError, field "is_runtime" e.isRuntimeError,
        field "display" e.display, field "trace" e.trace])

/-- The fields of an error: its cause, its text, and the failure of a run in full. -/
def HostError.toFields (e : HostError) : Fields :=
  [field "error" e.name, field "message" e.message] ++
    match e with
    | .vm error => [field "vm" error]
    | _ => []

/-- The fields of an outcome. -/
def outcomeFields {α : Type} [Documented α] : Except HostError α → Fields
  | .ok a => [field "ok" a]
  | .error e => e.toFields

instance {α : Type} [Documented α] : Documented (Except HostError α) :=
  ⟨fun outcome => .record (outcomeFields outcome)⟩

end ScriptHost
