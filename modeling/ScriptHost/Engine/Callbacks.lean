/-
What an engine calls when a script needs its host.

An engine calls back through plain functions that say nothing of which bound method or
class is meant, so there is one function for each number: a table of `methodEntries`
and one of `classEntries`.  A target whose number lies past the table stays unbound.

Nothing of a callback's panic reaches the engine.  A method or an allocator that
panics aborts the fiber, a binder that panics binds nothing, and a panic anywhere else
is dropped: every callback below has a type without panics.
-/
import ScriptHost.Host
import ScriptHost.Engine.ForeignCell

namespace ScriptHost

/-- Text as an engine passes it: nothing, or bytes up to the first zero. -/
abbrev CText := Option Bytes

/-- The text, if there is any. -/
def CText.read? (text : CText) : Option String :=
  text.map fun bytes => Utf8.decode (bytes.takeWhile (· ≠ 0))

/-- What a fiber is aborted with when a method or an allocator panics. -/
def Panic.report : Panic → String
  | .message text => s!"Foreign method panicked: {text}"
  | .wordless => "Foreign method panicked: unknown panic"

/-- How many entries a row of a table has. -/
def rowLength : Nat := 16

/-- The numbers of the entries in a table of `rows` rows. -/
def entryTable (rows : Nat) : List (List Nat) :=
  (List.range rows).map fun row => (List.range rowLength).map fun column => row * rowLength + column

/-- The entry for a target, if the table reaches so far. -/
def entryOf? (table : List (List Nat)) (target : Nat) : Option Nat := do
  let row ← table[target / rowLength]?
  row[target % rowLength]?

def methodEntries : List (List Nat) := entryTable 16

def classEntries : List (List Nat) := entryTable 4

/-- How many methods and how many classes can be bound on one engine. -/
def entryLimits : Nat × Nat :=
  (methodEntries.flatten.length, classEntries.flatten.length)

/-- The functions of a bound class: the entry of its allocator, and whether instances are
finalized. -/
structure ClassEntries where
  allocator : Option Nat
  finalizes : Bool
deriving DecidableEq

namespace ClassEntries

def unbound : ClassEntries :=
  ⟨none, false⟩

end ClassEntries

/-- A computation on a host and the engine below it, from which no panic escapes. -/
abbrev Contained (H C : Type) (α : Type) := StateM (World H C) α

/-- A computation without panics among those that may panic. -/
def Contained.lift {H C α : Type} (computation : Contained H C α) : Run (World H C) α :=
  ExceptT.lift computation

namespace Callback

variable {H C : Type} [Host H] [Slots C] [Chronicle C]

/-- The answer of a callback, if it did not panic. -/
def caught {α : Type} (callback : Run (World H C) α) : Contained H C (Option α) := do
  match ← callback.run with
  | .ok a => return some a
  | .error _ => return none

/-- Runs a callback with the window of the caller; if it panics the fiber is aborted. -/
def dispatch (callback : Run (World H C) Unit) : Contained H C Unit := do
  match ← callback.run with
  | .ok () => return ()
  | .error p => modify fun world => { world with vm := Slots.abortWith world.vm p.report }

/-- The method of an entry is called. -/
def method (entry : Nat) : Contained H C Unit :=
  dispatch (Host.invoke entry)

/-- The allocator of an entry is called. -/
def allocator (entry : Nat) : Contained H C Unit :=
  dispatch (Host.allocate entry)

/-- An instance with that memory was collected. -/
def finalizer (memory : Option Memory) : Contained H C Unit := do
  match ForeignCell.read? memory with
  | some cell => discard (caught (Host.finalize cell.token))
  | none => return ()

/-- The entry for a method of a class being declared. -/
def bindMethod (module className : CText) (isStatic : Bool) (signature : CText) :
    Contained H C (Option Nat) := do
  match module.read?, className.read?, signature.read? with
  | some module, some className, some signature =>
    let target ← caught (Host.bindMethod module className isStatic signature)
    return target.join.bind (entryOf? methodEntries)
  | _, _, _ => return none

/-- The entries for a class being declared. -/
def bindClass (module className : CText) : Contained H C ClassEntries := do
  match module.read?, className.read? with
  | some module, some className =>
    let target ← caught (Host.bindClass module className)
    match target.join.bind (entryOf? classEntries) with
    | some entry => return ⟨some entry, true⟩
    | none => return .unbound
  | _, _ => return .unbound

/-- A script prints. -/
def write (text : CText) : Contained H C Unit := do
  match text.read? with
  | some text => discard (caught (Host.write text))
  | none => return ()

/-- The engine reports an error; a report of a kind nobody knows is dropped. -/
def report (kind : Int32) (module : CText) (line : Int32) (message : CText) :
    Contained H C Unit := do
  match ErrorKind.ofCode? kind.toInt with
  | some kind =>
    let event := ⟨kind, module.read?, line.toInt, message.read?.getD ""⟩
    discard (caught (Host.report event))
  | none => return ()

end Callback

end ScriptHost
