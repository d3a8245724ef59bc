/-
The foreign class an exposed block becomes.

What is generated for a function of the block declares a parameter for each of its own, takes
the arguments in the same order, each at the type of its parameter, and calls the function.

* **`takeAll`** — the arguments of a function, taken one after the other;
* **`ExposedClass.generate?`** — the foreign class of an exposed block, for whatever the
  functions of the block do.
-/
import ScriptHost.Exposure
import ScriptHost.Binder.ForeignClass

namespace ScriptHost.Exposure

/-- The types arguments are taken at. -/
inductive ArgType where
  | bool | int32 | int64 | number | text | value
deriving DecidableEq

namespace ArgType

/-- The type a name stands for. -/
def ofName? : String → Option ArgType
  | "bool" => some .bool
  | "i32" => some .int32
  | "i64" => some .int64
  | "f64" => some .number
  | "String" => some .text
  | "Value" => some .value
  | _ => none

def Carrier : ArgType → Type
  | .bool => Bool
  | .int32 => Int32
  | .int64 => Int64
  | .number => Number
  | .text => String
  | .value => HostValue

instance : (t : ArgType) → FromArg t.Carrier
  | .bool => inferInstanceAs (FromArg Bool)
  | .int32 => inferInstanceAs (FromArg Int32)
  | .int64 => inferInstanceAs (FromArg Int64)
  | .number => inferInstanceAs (FromArg Number)
  | .text => inferInstanceAs (FromArg String)
  | .value => inferInstanceAs (FromArg HostValue)

end ArgType

/-- A parameter with the type its argument is taken at. -/
structure TypedParam where
  name : String
  type : ArgType

/-- The parameter as it is declared. -/
def TypedParam.param (p : TypedParam) : Param :=
  .of p.type.Carrier p.name

/-- The type of an exposed parameter is the one its path ends with. -/
def ExposedParam.typed? (p : ExposedParam) : Option TypedParam := do
  let name ← p.typePath.getLast?
  let type ← ArgType.ofName? name
  pure ⟨p.name, type⟩

/-- One value for each parameter. -/
def Values : List TypedParam → Type
  | [] => Unit
  | p :: params => p.type.Carrier × Values params

/-- Takes the arguments of all parameters, in order. -/
def takeAll : (params : List TypedParam) → Taking (Values params)
  | [] => pure ()
  | p :: params => do
    let first ← Args.take p.type.Carrier
    let rest ← takeAll params
    pure (first, rest)

variable {α : Type}

/-- A function of a block that is exposed as a method: one of the values of its parameters, or
of those and of the receiver, which it may change. -/
inductive MethodBody (α : Type) (params : List TypedParam) where
  | onClass (body : Values params → ForeignReturn)
  | onReceiver (body : Values params → α → ForeignReturn × α)

/-- The constructor generated for a function. -/
def generatedConstructor (params : List TypedParam) (make : Values params → α) :
    Constructor α where
  params := params.map (·.param)
  construct := do return make (← takeAll params)

/-- What is generated to run a function as a method. -/
def MethodBody.invocation {params : List TypedParam} : MethodBody α params → Invocation α
  | .onClass body => .onClass do
    let values ← takeAll params
    MonadExcept.ofExcept (body values)
  | .onReceiver body => .onReceiver do
    let values ← takeAll params
    let answer ← modifyGet (body values)
    MonadExcept.ofExcept answer

/-- What the functions of a block do, by their names. -/
structure Implementation (α : Type) where
  make : (function : String) → (params : List TypedParam) → Values params → α
  onClass : (function : String) → (params : List TypedParam) → Values params → ForeignReturn
  onReceiver : (function : String) → (params : List TypedParam) → Values params → α →
    ForeignReturn × α

/-- The function an exposed method calls. -/
def Implementation.body (impl : Implementation α) (m : ExposedMethod)
    (params : List TypedParam) : MethodBody α params :=
  if m.isStatic then .onClass (impl.onClass m.calls params)
  else .onReceiver (impl.onReceiver m.calls params)

def ExposedConstructor.generate? (impl : Implementation α) (c : ExposedConstructor) :
    Option (Constructor α) := do
  let params ← c.params.mapM (·.typed?)
  pure (generatedConstructor params (impl.make c.calls params))

def ExposedMethod.generate? (impl : Implementation α) (m : ExposedMethod) :
    Option (Method α) := do
  let params ← m.params.mapM (·.typed?)
  pure
    { name := m.name
      scriptName := m.scriptName
      params := params.map (·.param)
      invocation := (impl.body m params).invocation }

/-- The foreign class of an exposed block; there is none if a parameter has a type no argument
can be taken at. -/
def ExposedClass.generate? (impl : Implementation α) (e : ExposedClass) :
    Option (ForeignClass α) := do
  let constructors ← e.constructors.mapM (·.generate? impl)
  let methods ← e.methods.mapM (·.generate? impl)
  pure { name := e.className, constructors, methods }

end ScriptHost.Exposure
