/-
Options of a virtual machine.

Besides switches and heap settings a configuration may bring two binders, which are
asked for methods and classes that were not bound as host types.  What they answer
with is data: a list of actions, and for a class possibly an object to be placed and a
finalizer for it.
-/
import ScriptHost.Call.CallProgram

namespace ScriptHost

/-- What is run when an object is finalized: it leaves a note, then possibly asks for
another finalization, or panics. -/
structure Finalizer where
  name : String
  reenter : Option Token
  panics : Bool

/-- A hand-written class. -/
structure RawClass where
  program : List CallAction
  object : Option HostObject
  finalizer : Option Finalizer

/-- Answers a request for a method of a class in a module, static or not, by signature. -/
abbrev MethodBinder := String → String → Bool → String → Except Panic (Option (List CallAction))

/-- Answers a request for a class in a module. -/
abbrev ClassBinder := String → String → Except Panic (Option RawClass)

/-- The options of a virtual machine. -/
structure Configuration where
  /-- Print script output. -/
  writeToConsole : Bool
  /-- Return the error of a run instead of only reporting it to subscribers. -/
  raiseOnError : Bool
  methodBinder : Option MethodBinder
  classBinder : Option ClassBinder
  initialHeapSize : Option Nat
  minHeapSize : Option Nat
  heapGrowthPercent : Option Nat

namespace Configuration

/-- Quiet, without binders, and with the machine's own heap settings. -/
def default : Configuration :=
  ⟨false, false, none, none, none, none, none⟩

/-- One setting of a configuration. -/
inductive Setting where
  | writeToConsole (enabled : Bool)
  | raiseOnError (enabled : Bool)
  | methodBinder (binder : MethodBinder)
  | classBinder (binder : ClassBinder)
  | initialHeapSize (bytes : Nat)
  | minHeapSize (bytes : Nat)
  | heapGrowthPercent (percent : Nat)

def apply (c : Configuration) : Setting → Configuration
  | .writeToConsole enabled => { c with writeToConsole := enabled }
  | .raiseOnError enabled => { c with raiseOnError := enabled }
  | .methodBinder binder => { c with methodBinder := some binder }
  | .classBinder binder => { c with classBinder := some binder }
  | .initialHeapSize bytes => { c with initialHeapSize := some bytes }
  | .minHeapSize bytes => { c with minHeapSize := some bytes }
  | .heapGrowthPercent percent => { c with heapGrowthPercent := some percent }

/-- The configuration after settings in order; the last one of a kind counts. -/
def ofSettings (settings : List Setting) : Configuration :=
  settings.foldl apply default

/-- How a heap setting is shown. -/
def showOption : Option Nat → String
  | none => "None"
  | some n => s!"Some({n})"

/-- A one-line summary. -/
def summary (c : Configuration) : String :=
  let sizes :=
    ", ".intercalate
      [s!"initial_heap_size: {showOption c.initialHeapSize}",
        s!"min_heap_size: {showOption c.minHeapSize}",
        s!"heap_growth_percent: {showOption c.heapGrowthPercent}"]
  let switches :=
    ", ".intercalate
      [s!"write_to_console: {c.writeToConsole}",
        s!"raise_on_error: {c.raiseOnError}",
        s!"bind_foreign_method: {c.methodBinder.isSome}",
        s!"bind_foreign_class: {c.classBinder.isSome}"]
  s!"Configuration \x7b {switches}, {sizes} \x7d"

end Configuration

end ScriptHost
