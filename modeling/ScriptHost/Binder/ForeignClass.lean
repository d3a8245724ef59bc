/-
Host types described for scripts.

A `ForeignClass α` says how scripts see the host type `α`: under which name, with
which constructors, tried in some order, and with which methods.  What runs is an
ordinary function that takes its arguments one at a time.  `ForeignClass.describe`
forgets the type: a `ClassDescription` works on shared objects, finds out for itself
whether the receiver is one of its own, and keeps hands off one that is in use.
-/
import ScriptHost.Binder.Argument
import ScriptHost.ObjectStore

namespace ScriptHost

/-- What a method does with its receiver and its arguments; a failure keeps the changes made
to either. -/
abbrev Working (α : Type) (β : Type) := ExceptT ForeignError (StateT α (StateM Args)) β

instance (priority := low) {α : Type} : MonadLift Taking (Working α) where
  monadLift taking := ExceptT.mk (StateT.lift taking.run)

/-- One way to make a value of the type. -/
structure Constructor (α : Type) where
  params : List Param
  construct : Taking α

/-- What runs when a method is called: a function of a value of the type, or one of the
arguments alone. -/
inductive Invocation (α : Type) where
  | onReceiver (work : Working α (Option HostValue))
  | onClass (work : Taking (Option HostValue))

/-- A method: its name on the host's side, the name scripts use if it is not derived from that,
and its parameters. -/
structure Method (α : Type) where
  name : String
  scriptName : Option String
  params : List Param
  invocation : Invocation α

/-- A host type as scripts see it. -/
structure ForeignClass (α : Type) where
  name : String
  constructors : List (Constructor α)
  methods : List (Method α)

/-- The outcome of a host function as the answer of the call. -/
def Taking.answer {α : Type} (work : Taking α) (args : Args) : Except ForeignError α :=
  (work.run.run args).1

/-- The outcome of a method, with the receiver as it is afterwards. -/
def Working.answer {α β : Type} (work : Working α β) (receiver : α) (args : Args) :
    Except ForeignError β × α :=
  ((work.run.run receiver).run args).1

/-- A host value answered as is. -/
def respond {α : Type} [IntoReturn α] {m : Type → Type} [Monad m] [MonadExceptOf ForeignError m]
    (a : α) : m (Option HostValue) :=
  match IntoReturn.toReturn a with
  | .ok value => pure value
  | .error e => throw e

/-- A constructor that makes an object. -/
structure ObjectConstructor where
  params : List Param
  construct : Args → Except ForeignError HostObject

/-- A method that works on shared objects. -/
structure ObjectMethod where
  name : String
  scriptName : Option String
  isStatic : Bool
  params : List Param
  call : Option ObjectId → Args → ObjectStore → ForeignReturn × ObjectStore

/-- A class that works on shared objects of the type named `typeName`. -/
structure ClassDescription where
  className : String
  typeName : String
  constructors : List ObjectConstructor
  methods : List ObjectMethod

section

variable {α : Type} [HostType α]

def Constructor.describe (c : Constructor α) : ObjectConstructor :=
  ⟨c.params, fun args => HostObject.of <$> c.construct.answer args⟩

/-- Calls a function of the receiver on the object behind `receiver`. -/
def callOnReceiver (className : String) (work : Working α (Option HostValue))
    (receiver : Option ObjectId) (args : Args) (objects : ObjectStore) :
    ForeignReturn × ObjectStore :=
  match receiver.bind fun id => (objects.as? α id).map fun a => (id, a) with
  | none => (.error ⟨s!"receiver is not a '{className}' instance"⟩, objects)
  | some (id, a) =>
    if objects.isInUse id then
      (.error ⟨s!"'{className}' instance is already in use"⟩, objects)
    else
      let (answer, a') := work.answer a args
      (answer, objects.put id (HostObject.of a'))

def Method.describe (className : String) (m : Method α) : ObjectMethod :=
  match m.invocation with
  | .onReceiver work =>
    ⟨m.name, m.scriptName, false, m.params, callOnReceiver className work⟩
  | .onClass work =>
    ⟨m.name, m.scriptName, true, m.params, fun _ args objects => (work.answer args, objects)⟩

/-- The class, its type forgotten. -/
def ForeignClass.describe (c : ForeignClass α) : ClassDescription :=
  ⟨c.name, HostType.typeName α, c.constructors.map (·.describe),
    c.methods.map (·.describe c.name)⟩

end

end ScriptHost
