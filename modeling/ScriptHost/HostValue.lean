/-
Dynamically typed values on the host's side.
-/
import ScriptHost.HandleRegistry
import ScriptHost.Number.Shortest
import ScriptHost.Text.Utf8

namespace ScriptHost

/-- A value as host code handles it. -/
inductive HostValue where
  | null
  | bool (value : Bool)
  | int (value : Int64)
  | float (value : Number)
  | text (value : String)
  | bytes (value : Bytes)
  | handle (value : HandleRef)

namespace HostValue

/-- The name of a value's kind. -/
def kindName : HostValue → String
  | .null => "Null"
  | .bool _ => "Bool"
  | .int _ => "Int"
  | .float _ => "Float"
  | .text _ => "String"
  | .bytes _ => "Bytes"
  | .handle _ => "Handle"

def isNull : HostValue → Bool
  | .null => true
  | _ => false

def asBool? : HostValue → Option Bool
  | .bool b => some b
  | _ => none

/-- The value as a number; integers widen. -/
def asNumber? : HostValue → Option Number
  | .int i => some (.ofInt64 i)
  | .float x => some x
  | _ => none

def asText? : HostValue → Option String
  | .text s => some s
  | _ => none

/-- The text of a value. -/
def display : HostValue → String
  | .null => "null"
  | .bool b => if b then "true" else "false"
  | .int i => toString i.toInt
  | .float x => x.toText
  | .text s => s
  | .bytes b => s!"<{b.length} bytes>"
  | .handle _ => "<handle>"

/-- Equality: within a kind, and numerically between floats. -/
def equal : HostValue → HostValue → Bool
  | .null, .null => true
  | .bool a, .bool b => a = b
  | .int a, .int b => a = b
  | .float a, .float b => a.ieeeEq b
  | .text a, .text b => a = b
  | .bytes a, .bytes b => a = b
  | .handle a, .handle b => a = b
  | _, _ => false

end HostValue

end ScriptHost
