/-
The three enumerations shared with a machine, each with its raw code: the kinds of
value a slot can hold, the kinds of error report, and the outcomes of a run.
-/

namespace ScriptHost

/-- What kind of value a slot holds. -/
inductive SlotType where
  | bool | num | foreign | list | map | null | string | unknown
deriving DecidableEq

namespace SlotType

/-- The raw tag of a kind. -/
def code : SlotType → Int
  | .bool => 0
  | .num => 1
  | .foreign => 2
  | .list => 3
  | .map => 4
  | .null => 5
  | .string => 6
  | .unknown => 7

/-- The kind of a raw tag; every tag without a kind of its own is `unknown`. -/
def ofCode (code : Int) : SlotType :=
  if code = 0 then .bool
  else if code = 1 then .num
  else if code = 2 then .foreign
  else if code = 3 then .list
  else if code = 4 then .map
  else if code = 5 then .null
  else if code = 6 then .string
  else .unknown

/-- The name a kind is reported under. -/
def name : SlotType → String
  | .bool => "Bool"
  | .num => "Num"
  | .foreign => "Foreign"
  | .list => "List"
  | .map => "Map"
  | .null => "Null"
  | .string => "String"
  | .unknown => "Unknown"

theorem ofCode_code (t : SlotType) : ofCode t.code = t := by
  cases t <;> rfl

end SlotType

/-- What an error report says: a compile error, the message of a runtime error, or one
line of the trace that follows it. -/
inductive ErrorKind where
  | compile | runtime | stackTrace
deriving DecidableEq

namespace ErrorKind

def code : ErrorKind → Int
  | .compile => 0
  | .runtime => 1
  | .stackTrace => 2

def ofCode? (code : Int) : Option ErrorKind :=
  if code = 0 then some .compile
  else if code = 1 then some .runtime
  else if code = 2 then some .stackTrace
  else none

def name : ErrorKind → String
  | .compile => "Compile"
  | .runtime => "Runtime"
  | .stackTrace => "StackTrace"

end ErrorKind

/-- How a run ended. -/
inductive InterpretResult where
  | success | compileError | runtimeError
deriving DecidableEq

namespace InterpretResult

def code : InterpretResult → Int
  | .success => 0
  | .compileError => 1
  | .runtimeError => 2

def ofCode? (code : Int) : Option InterpretResult :=
  if code = 0 then some .success
  else if code = 1 then some .compileError
  else if code = 2 then some .runtimeError
  else none

def name : InterpretResult → String
  | .success => "Success"
  | .compileError => "CompileError"
  | .runtimeError => "RuntimeError"

def isSuccess (r : InterpretResult) : Bool :=
  r = .success

end InterpretResult

/-- Why a raw code was refused by the enumeration named `enumeration`. -/
def unknownCodeMessage (enumeration : String) (code : Int) : String :=
  s!"No discriminant in enum `{enumeration}` matches the value `{code}`"

end ScriptHost
