/-
The attributes that steer what is exposed.

The argument list of an attribute is read from left to right and the first mistake is
the one reported.  `foreign`, on a block, knows one key, the class name; `wren`, on a
function, knows two: a name for scripts, and leaving the function out.
-/
import ScriptHost.Exposure.Block

namespace ScriptHost.Exposure

/-- Why a block cannot be exposed. -/
inductive ExposureError where
  | unknownKey (owner key : String)
  | equalsExpected
  | commaExpected
  | textExpected
  /-- A text was expected where the list ended. -/
  | endOfList
  | emptyName
  | argumentsExpected
  | parenthesesExpected
  | traitBlock
  | genericBlock
  | namelessType
deriving DecidableEq

namespace ExposureError

def message : ExposureError → String
  | .unknownKey owner key => s!"unknown {owner} attribute: {key}"
  | .equalsExpected => "expected `=`"
  | .commaExpected => "expected `,`"
  | .textExpected => "expected string literal"
  | .endOfList => "unexpected end of input, expected string literal"
  | .emptyName => "script name must not be empty"
  | .argumentsExpected => "expected attribute arguments in parentheses: #[wren(...)]"
  | .parenthesesExpected => "expected parentheses: #[wren(...)]"
  | .traitBlock => "#[foreign] goes on an inherent impl block"
  | .genericBlock => "#[foreign] does not support generic types"
  | .namelessType => "cannot derive a class name from this type; use #[foreign(name = \"...\")]"

end ExposureError

/-- The name a key stands for; a key of several segments stands for none. -/
def keyName? (key : String) : Option String :=
  if key.toList.contains ':' then none else some key

/-- The text after a key, `rest` being the items that follow. -/
def textOf (item : AttributeItem) (rest : List AttributeItem) : Except ExposureError String :=
  match item.value with
  | .absent => throw .equalsExpected
  | .missing => throw (if rest.isEmpty then .endOfList else .textExpected)
  | .integer => throw .textExpected
  | .text value => pure value

/-- Fails for a key that is not known. -/
def unknown {α : Type} (owner : String) (item : AttributeItem) : Except ExposureError α :=
  throw (.unknownKey owner ((keyName? item.key).getD ""))

/-- The class name given to a block, the last one if there are several; `given` is the one so
far. -/
def classNameGiven (given : Option String) :
    List AttributeItem → Except ExposureError (Option String)
  | [] => pure given
  | item :: items =>
    if keyName? item.key = some "name" then do
      classNameGiven (some (← textOf item items)) items
    else unknown "foreign" item

/-- What the attributes of a function say of it. -/
structure MemberAttributes where
  isIgnored : Bool
  name : Option String

/-- Reads the items of one attribute into what has been said so far. -/
def readItems (said : MemberAttributes) :
    List AttributeItem → Except ExposureError MemberAttributes
  | [] => pure said
  | item :: items =>
    if keyName? item.key = some "ignore" then
      match item.value with
      | .absent => readItems { said with isIgnored := true } items
      | _ => throw .commaExpected
    else if keyName? item.key = some "name" then do
      let name ← textOf item items
      if name.isEmpty then throw .emptyName
      readItems { said with name := some name } items
    else unknown "wren" item

/-- The attribute on functions. -/
def Attribute.isMemberAttribute (a : Attribute) : Bool :=
  a.path = "wren"

/-- Reads the attributes of a function into what has been said so far; attributes of other
names say nothing. -/
def readAttributes (said : MemberAttributes) :
    List Attribute → Except ExposureError MemberAttributes
  | [] => pure said
  | a :: attributes =>
    if a.isMemberAttribute then
      match a.form with
      | .bare => throw .argumentsExpected
      | .value => throw .parenthesesExpected
      | .list items => do readAttributes (← readItems said items) attributes
    else readAttributes said attributes

/-- What the attributes of a function say of it. -/
def Function.memberAttributes (f : Function) : Except ExposureError MemberAttributes :=
  readAttributes ⟨false, none⟩ f.attributes

end ScriptHost.Exposure
