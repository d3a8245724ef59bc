/-
Which functions of a block scripts can call.

Of the functions of a block those are exposed that are public, plain, take their
receiver by reference if at all, and whose parameters all have types an argument can be
taken at.  Without a receiver, one that answers with the block's own type is a
constructor.  What else answers with nothing, with a type a script can be given, or
with either or a failure, is a method.

* **`Block.expose`** — the exposed class, or the first mistake in an attribute.
-/
import ScriptHost.Exposure.Attributes

namespace ScriptHost.Exposure

/-- The types arguments are taken at and answers given at. -/
def supportedTypes : List String :=
  ["bool", "i32", "i64", "f64", "String", "Value"]

/-- Whether a type is one of the supported ones, going by the end of its path. -/
def TypeExpr.isSupported (t : TypeExpr) : Bool :=
  match t.lastName? with
  | some name => supportedTypes.contains name
  | none => false

/-- Whether a type can be given to a script, or is nothing. -/
def TypeExpr.isAnswer (t : TypeExpr) : Bool :=
  t.isUnit || t.isSupported

/-- What a type that may fail answers with otherwise, wherever its path starts. -/
def TypeExpr.resultType? : TypeExpr → Option TypeExpr
  | .path segments | .qualified segments =>
    match segments.getLast? with
    | some ("Result", some t :: _) => some t
    | _ => none
  | _ => none

/-- A parameter of an exposed function: its name and the path of its type. -/
structure ExposedParam where
  name : String
  typePath : List String

structure ExposedConstructor where
  calls : String
  params : List ExposedParam

structure ExposedMethod where
  name : String
  scriptName : Option String
  isStatic : Bool
  calls : String
  params : List ExposedParam

/-- What is exposed of a block, and of every function that is left in place its name and the
attributes that stay on it. -/
structure ExposedClass where
  className : String
  constructors : List ExposedConstructor
  methods : List ExposedMethod
  functions : List (Option (String × List String))

namespace Function

def hasReceiver (f : Function) : Bool :=
  f.receiver ≠ .none

/-- Public, plain, and taking the receiver by reference if at all. -/
def isExposable (f : Function) : Bool :=
  f.isPublic && !f.isAsync && !f.isUnsafe && !f.isGeneric && !f.isVariadic &&
    f.receiver ≠ .otherwise

/-- The parameters as they are exposed; `index` counts them, the receiver included. -/
def exposeParams : (index : Nat) → List FunctionParam → Option (List ExposedParam)
  | _, [] => some []
  | index, p :: ps =>
    if p.type.isSupported then do
      let params ← exposeParams (index + 1) ps
      pure (⟨p.name.getD s!"arg{index}", p.type.pathNames⟩ :: params)
    else none

/-- The parameters after the receiver, if all have supported types. -/
def exposedParams? (f : Function) : Option (List ExposedParam) :=
  exposeParams (if f.hasReceiver then 1 else 0) f.params

/-- Whether the function answers with the type of its block. -/
def answersSelf (f : Function) (typeName : Option String) : Bool :=
  match f.result.bind (·.lastName?) with
  | some name => name = "Self" || some name = typeName
  | none => false

/-- Whether a script can be given what the function answers with. -/
def hasAnswer (f : Function) : Bool :=
  match f.result with
  | none => true
  | some t => t.isAnswer || (t.resultType?.map (·.isAnswer)).getD false

/-- What a function is exposed as. -/
inductive Member where
  | constructor (c : ExposedConstructor)
  | method (m : ExposedMethod)
  | hidden

/-- What a function of the block of a type is exposed as. -/
def member (f : Function) (typeName : Option String) (said : MemberAttributes) : Member :=
  if said.isIgnored || !f.isExposable then .hidden
  else
    match f.exposedParams? with
    | none => .hidden
    | some params =>
      if !f.hasReceiver && f.answersSelf typeName then .constructor ⟨f.name, params⟩
      else if f.hasAnswer then .method ⟨f.name, said.name, !f.hasReceiver, f.name, params⟩
      else .hidden

/-- The attributes that stay on a function. -/
def otherAttributes (f : Function) : List String :=
  (f.attributes.filter (!·.isMemberAttribute)).map (·.path)

end Function

/-- What an item is exposed as. -/
def Item.member (typeName : Option String) : Item → Except ExposureError Function.Member
  | .function f => do return f.member typeName (← f.memberAttributes)
  | .other => pure .hidden

/-- An item as it is left in place. -/
def Item.remaining : Item → Option (String × List String)
  | .function f => some (f.name, f.otherAttributes)
  | .other => none

/-- The class a block is exposed as. -/
def Block.expose (b : Block) (arguments : List AttributeItem) :
    Except ExposureError ExposedClass := do
  let given ← classNameGiven none arguments
  if b.ofTrait then throw .traitBlock
  if b.isGeneric then throw .genericBlock
  match given <|> b.type.lastName? with
  | none => throw .namelessType
  | some className =>
    let members ← b.items.mapM (·.member b.type.lastName?)
    pure
      { className := className
        constructors := members.filterMap fun
          | .constructor c => some c
          | _ => none
        methods := members.filterMap fun
          | .method m => some m
          | _ => none
        functions := b.items.map (·.remaining) }

end ScriptHost.Exposure
