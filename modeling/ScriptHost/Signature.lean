/-
Names and call signatures on the script's side.

* **`scriptName`** — the script's name for a host function: words joined at
  underscores, the first one starting in lower case and the others in upper case.
* **`signature`** — a name with one placeholder for each parameter: `name(_,_)`.
* **`callArity`** — how many arguments a signature asks for.
-/
import ScriptHost.Text.Case

namespace ScriptHost

namespace CaseMapping

/-- Reads the rest of a host name, `started` telling whether anything has been written, and
`boundary` whether the next character opens a word. -/
def scriptNameChars (m : CaseMapping) : (started boundary : Bool) → List Char → List Char
  | _, _, [] => []
  | started, boundary, c :: cs =>
    if c = '_' then
      -- Leading underscores open no word.
      m.scriptNameChars started started cs
    else
      let written := if started then if boundary then m.upper c else [c] else m.lower c
      written ++ m.scriptNameChars (started || !written.isEmpty) false cs

/-- The script's name for a host function, by some mapping of cases. -/
def scriptName (m : CaseMapping) (hostName : String) : String :=
  String.ofList (m.scriptNameChars false false hostName.toList)

end CaseMapping

/-- The script's name for a host function: `add_ints` and `AddInts` are both `addInts`. -/
def scriptName (hostName : String) : String :=
  CaseMapping.unicode.scriptName hostName

/-- `n` placeholders, separated by commas. -/
def placeholders : Nat → List Char
  | 0 => []
  | 1 => ['_']
  | n + 1 => '_' :: ',' :: placeholders n

/-- The signature of a method with `arity` parameters. -/
def signature (name : String) (arity : Nat) : String :=
  String.ofList (name.toList ++ '(' :: (placeholders arity ++ [')']))

/-- What follows the last `c`, or nothing without one. -/
def afterLast? (c : Char) (cs : List Char) : Option (List Char) :=
  if c ∈ cs then some (cs.reverse.takeWhile (· ≠ c)).reverse else none

/-- How many arguments a signature asks for: its placeholders in the closing parameter list
and in an opening subscript, so `[_,_]=(_)` asks for three.  Underscores in the name do
not count. -/
def callArity (signature : String) : Nat :=
  let cs := signature.toList
  let listed :=
    if cs.getLast? = some ')' then ((afterLast? '(' cs).map (·.count '_')).getD 0 else 0
  let subscripted :=
    if cs.head? = some '[' ∧ ']' ∈ cs then (cs.takeWhile (· ≠ ']')).count '_' else 0
  listed + subscripted

end ScriptHost
