/-
Blocks of functions as they are written.

A block belongs to a type and holds functions, among other items.  Only what bears on
exposing the functions to scripts is kept of it: of a type the path it is written as,
of a pattern the name it binds, and the attributes in full.
-/

namespace ScriptHost.Exposure

/-- A type, as written. -/
inductive TypeExpr where
  /-- Segments with their arguments, `none` standing for an argument that is no type. -/
  | path (segments : List (String × List (Option TypeExpr)))
  /-- The segments of a path that starts at another type, as in `<T as Trait>::Item`. -/
  | qualified (segments : List (String × List (Option TypeExpr)))
  | tuple (elements : List TypeExpr)
  /-- A type written in any other way. -/
  | other
deriving Inhabited

namespace TypeExpr

/-- The name of the last segment of a path; one that starts at another type names nothing. -/
def lastName? : TypeExpr → Option String
  | .path segments => segments.getLast?.map (·.1)
  | _ => none

/-- The empty tuple. -/
def isUnit : TypeExpr → Bool
  | .tuple elements => elements.isEmpty
  | _ => false

/-- The names of a path. -/
def pathNames : TypeExpr → List String
  | .path segments => segments.map (·.1)
  | _ => []

end TypeExpr

/-- What is written after the key of an attribute's item. -/
inductive ItemValue where
  | absent
  /-- An equals sign and nothing else. -/
  | missing
  | text (value : String)
  | integer

/-- One item of an attribute's argument list. -/
structure AttributeItem where
  key : String
  value : ItemValue

/-- The arguments of an attribute. -/
inductive AttributeForm where
  | bare
  | value
  | list (items : List AttributeItem)

structure Attribute where
  path : String
  form : AttributeForm

/-- A parameter: the name its pattern binds, if it binds just one, and its type. -/
structure FunctionParam where
  name : Option String
  type : TypeExpr

/-- How a function takes its receiver. -/
inductive Receiver where
  | none
  | byReference
  | otherwise
deriving DecidableEq

structure Function where
  name : String
  isPublic : Bool
  isAsync : Bool
  isUnsafe : Bool
  isGeneric : Bool
  isVariadic : Bool
  receiver : Receiver
  params : List FunctionParam
  result : Option TypeExpr
  attributes : List Attribute

/-- An item of a block. -/
inductive Item where
  | function (f : Function)
  | other

structure Block where
  type : TypeExpr
  ofTrait : Bool
  isGeneric : Bool
  items : List Item

end ScriptHost.Exposure
