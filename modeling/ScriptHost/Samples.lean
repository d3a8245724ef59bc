/-
The sample classes by name.
-/
import ScriptHost.Samples.Calculator
import ScriptHost.Samples.Counter
import ScriptHost.Samples.File
import ScriptHost.Samples.Vector

namespace ScriptHost.Samples

/-- What the sample class of a name describes; counters offer what was chosen for them, and
nothing if nothing was. -/
def describe? (counters : List CounterChoice) (name : String) : Option ClassDescription :=
  let counter (k : Nat) := some (counterClass k (counters[k]?.getD ⟨[], []⟩)).describe
  match name with
  | "Calculator" => some calculatorClass.describe
  | "File" => some fileClass.describe
  | "Vector" => some vectorClass.describe
  | "Dyn0" => counter 0
  | "Dyn1" => counter 1
  | "Dyn2" => counter 2
  | "Dyn3" => counter 3
  | _ => none

end ScriptHost.Samples
