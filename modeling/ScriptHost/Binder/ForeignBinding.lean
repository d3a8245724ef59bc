/-
Host types bound as foreign classes.

`ForeignBinding.of` turns the description of a class into a table: constructors by
descending number of parameters, and methods in the order of their declaration, with
their positions by signature, no signature twice.  When a script calls, the binding
coerces the window into arguments, runs the host function and writes its answer to
slot 0.  Whatever fails on the way aborts the calling fiber.

* **`ForeignBinding.allocate`** — the first constructor whose parameters all coerce
  makes the object.
* **`ForeignBinding.invoke`** — finds the receiver, coerces, calls, answers.
-/
import ScriptHost.Binder.ForeignClass
import ScriptHost.ForeignRegistry
import ScriptHost.Marshal
import ScriptHost.Signature
import ScriptHost.Text.Quoted

namespace ScriptHost

/-- A method under its signature. -/
structure BoundMethod where
  name : String
  signature : String
  isStatic : Bool
  params : List Param
  call : Option ObjectId → Args → ObjectStore → ForeignReturn × ObjectStore

/-- The method under the name scripts use for it. -/
def ObjectMethod.bind (m : ObjectMethod) : BoundMethod where
  name := m.name
  signature := signature (m.scriptName.getD (ScriptHost.scriptName m.name)) m.params.length
  isStatic := m.isStatic
  params := m.params
  call := m.call

/-- What scripts call a bound method by: whether it is static, and its signature. -/
def BoundMethod.key (m : BoundMethod) : Bool × String :=
  (m.isStatic, m.signature)

/-- Bound methods in the order in which they were bound, and their positions by what scripts
call them by. -/
structure MethodTable where
  methods : List BoundMethod
  dispatch : List ((Bool × String) × Nat)

namespace MethodTable

def empty : MethodTable :=
  ⟨[], []⟩

/-- Binds one more method. -/
def add (t : MethodTable) (m : BoundMethod) : MethodTable :=
  ⟨t.methods ++ [m], (m.key, t.methods.length) :: t.dispatch⟩

/-- Binds methods in order; one that scripts would call like an earlier one is refused. -/
def bindAll (className : String) (t : MethodTable) :
    List ObjectMethod → Except HostError MethodTable
  | [] => pure t
  | m :: methods =>
    match t.dispatch.lookup m.bind.key with
    | some _ => throw (.duplicateSignature className m.bind.signature)
    | none => (t.add m.bind).bindAll className methods

end MethodTable

/-- The table of one host type. -/
structure ForeignBinding extends MethodTable where
  className : String
  typeName : String
  constructors : List ObjectConstructor

namespace ForeignBinding

/-- The table of a described class. -/
def of (c : ClassDescription) : Except HostError ForeignBinding := do
  let table ← MethodTable.empty.bindAll c.className c.methods
  pure
    { table with
      className := c.className
      typeName := c.typeName
      -- The sort is stable, so declaration order settles ties.
      constructors := c.constructors.mergeSort fun a b => b.params.length ≤ a.params.length }

/-- The position of the method bound to a signature. -/
def findMethod? (b : ForeignBinding) (isStatic : Bool) (signature : String) : Option Nat :=
  b.dispatch.lookup (isStatic, signature)

/-- All bound signatures, in declaration order. -/
def signatures (b : ForeignBinding) : List (Bool × String) :=
  b.methods.map fun m => (m.isStatic, m.signature)

/-- The parameter counts of the constructors, in the order in which they are tried. -/
def constructorArities (b : ForeignBinding) : List Nat :=
  b.constructors.map (·.params.length)

section

variable {W F : Type} [Slots W]

/-- The arguments a constructor gets from the window, if it fits. -/
def constructorArguments? (c : ObjectConstructor) (w : W) : Option Args :=
  if Slots.argCount w < c.params.length then none
  else (coerceAll w 1 c.params).toOption

/-- The first constructor that fits the window, with its arguments. -/
def chooseConstructor (b : ForeignBinding) (w : W) : Option (ObjectConstructor × Args) :=
  b.constructors.findSome? fun c => (constructorArguments? c w).map fun args => (c, args)

/-- Makes the object of a new instance from the arguments in the slots after the first.
There is none if no constructor fits, or if the one that fits failed. -/
def allocate (b : ForeignBinding) (w : W) : Option HostObject × W :=
  match b.chooseConstructor w with
  | none => (none, w)
  | some (c, args) =>
    match c.construct args with
    | .ok object => (some object, w)
    | .error e => (none, Slots.abortWith w e.message)

/-- The live object of the bound type behind the instance in slot 0. -/
def receiver? (b : ForeignBinding) (w : W) (registry : ForeignRegistry F)
    (objects : ObjectStore) : Option ObjectId := do
  let token ← Slots.token w 0
  let id ← registry.resolve? token
  let object ← objects.get? id
  if object.typeName = b.typeName then some id else none

/-- The receiver a method runs on: none for a static one; `none` outside if it needs one and
there is none. -/
def receiverFor? (b : ForeignBinding) (m : BoundMethod) (w : W) (registry : ForeignRegistry F)
    (objects : ObjectStore) : Option (Option ObjectId) :=
  if m.isStatic then some none
  else (b.receiver? w registry objects).map some

/-- The message of a call without a receiver that it needs. -/
def noReceiver (b : ForeignBinding) (m : BoundMethod) : String :=
  s!"Foreign method '{m.name}' called on a receiver that is not a live " ++
    s!"'{b.className}' instance"

/-- Writes the answer of a host function to slot 0. -/
def answer (w : W) : ForeignReturn → W
  | .ok none => w
  | .ok (some value) =>
    match writeValue w 0 value with
    | .ok w' => w'
    | .error e => Slots.abortWith w e.message
  | .error e => Slots.abortWith w e.message

/-- Runs the method at a position on the window. -/
def invoke (b : ForeignBinding) (index : Nat) (w : W) (registry : ForeignRegistry F)
    (objects : ObjectStore) : W × ObjectStore :=
  match b.methods[index]? with
  | none => (w, objects)
  | some m =>
    match b.receiverFor? m w registry objects with
    | none =>
      (Slots.abortWith w (b.noReceiver m), objects)
    | some receiver =>
      match coerceAll w 1 m.params with
      | .error (param, mismatch) =>
        (Slots.abortWith w (mismatch.message m.name param), objects)
      | .ok args =>
        let (result, objects) := m.call receiver args objects
        (answer w result, objects)

end

/-- A one-line summary. -/
def summary (b : ForeignBinding) : String :=
  let methods := ", ".intercalate <| b.signatures.map fun (isStatic, signature) =>
    s!"({isStatic}, {quoted signature})"
  let arities := ", ".intercalate (b.constructorArities.map toString)
  s!"ForeignBinding \x7b class_name: {quoted b.className}, " ++
    s!"constructors: [{arities}], methods: [{methods}] \x7d"

end ForeignBinding

end ScriptHost
