/-
Counters as foreign classes put together at run time.

A counter holds a count and a text.  There are several types of counter, told apart by
number, and what a class of counters offers is chosen from a list of ready-made
constructors and methods.  The parameters a method declares are chosen apart from
what it takes, so that the two can disagree.
-/
import ScriptHost.Binder.ForeignClass

namespace ScriptHost.Samples

/-- A counter of the type numbered `k`. -/
structure Counter (k : Nat) where
  count : Int64
  text : String

instance {k : Nat} : HostType (Counter k) where
  typeName := s!"Dyn{k}"
  fields c := [.int c.count, .text c.text]
  ofFields?
    | [.int count, .text text] => some ⟨count, text⟩
    | _ => none
  ofFields_fields _ := rfl

/-- Ready-made constructors. -/
inductive CounterMake where
  | blank | int | int32 | text | both | describe | fail | failText

/-- Ready-made functions that need no counter. -/
inductive CounterStatic where
  | describe | echo | takeBool | takeInt32 | takeInt64 | takeNumber | takeText
  | unit | null | bytes | fail | failText | okText

/-- Ready-made functions of a counter. -/
inductive CounterWork where
  | describe | echo | add | add32 | append | count | text | scale | negate
  | unit | null | bytes | fail | failAfter

/-- Takes all remaining arguments and describes them: kind and text of each. -/
def describeArgs : Taking (Nat × String) := do
  let args ← get
  set ([] : Args)
  let described := args.map fun value => value.kindName ++ "=" ++ value.display
  return (args.length, ";".intercalate described)

/-- Fails with a text. -/
def failWith {α : Type} {m : Type → Type} [Monad m] [MonadExceptOf ForeignError m]
    (message : String) : m α :=
  throw (⟨message⟩ : ForeignError)

def CounterMake.construct (k : Nat) : CounterMake → Taking (Counter k)
  | .blank => pure ⟨0, ""⟩
  | .int => do return ⟨← Args.take Int64, ""⟩
  | .int32 => do return ⟨(← Args.take Int32).toInt64, ""⟩
  | .text => do return ⟨0, ← Args.take String⟩
  | .both => do
    let start ← Args.take Int64
    return ⟨start, ← Args.take String⟩
  | .describe => do
    let (number, described) ← describeArgs
    return ⟨Int64.ofNat number, described⟩
  | .fail => failWith "cannot construct"
  | .failText => do failWith (← Args.take String)

def CounterStatic.run : CounterStatic → Taking (Option HostValue)
  | .describe => do respond (← describeArgs).2
  | .echo => do respond (← Args.take HostValue)
  | .takeBool => do respond (← Args.take Bool)
  | .takeInt32 => do respond (← Args.take Int32)
  | .takeInt64 => do respond (← Args.take Int64)
  | .takeNumber => do respond (← Args.take Number)
  | .takeText => do respond (← Args.take String)
  | .unit => respond ()
  | .null => respond HostValue.null
  | .bytes => respond (HostValue.bytes [1, 2, 3])
  | .fail => failWith "host function failed"
  | .failText => do failWith (← Args.take String)
  | .okText => do respond (← Args.take String)

def CounterWork.run (k : Nat) : CounterWork → Working (Counter k) (Option HostValue)
  | .describe => do respond (← describeArgs).2
  | .echo => do respond (← Args.take HostValue)
  | .add => do
    let amount ← Args.take Int64
    modify fun c : Counter k => { c with count := c.count + amount }
    respond (← get).count
  | .add32 => do
    let amount ← Args.take Int32
    modify fun c : Counter k => { c with count := c.count + amount.toInt64 }
    respond (← get).count
  | .append => do
    let text ← Args.take String
    modify fun c : Counter k => { c with text := c.text ++ text }
    respond ()
  | .count => do respond (← get).count
  | .text => do respond (← get).text
  | .scale => do
    let factor ← Args.take Number
    respond (Number.ofInt64 (← get).count * factor)
  | .negate => do respond (!(← Args.take Bool))
  | .unit => respond ()
  | .null => respond HostValue.null
  | .bytes => respond (HostValue.bytes [9])
  | .fail => failWith "host function failed"
  | .failAfter => do
    modify fun c : Counter k => { c with count := c.count + 1 }
    failWith (← Args.take String)

/-- A constructor chosen for a class of counters. -/
structure CounterConstructor where
  make : CounterMake
  params : List Param

/-- A method chosen for a class of counters. -/
structure CounterMethod where
  name : String
  scriptName : Option String
  run : Sum CounterStatic CounterWork
  params : List Param

/-- What a class of counters offers. -/
structure CounterChoice where
  constructors : List CounterConstructor
  methods : List CounterMethod

/-- The class of the counters numbered `k`. -/
def counterClass (k : Nat) (choice : CounterChoice) : ForeignClass (Counter k) where
  name := s!"Dyn{k}"
  constructors := choice.constructors.map fun c => ⟨c.params, c.make.construct k⟩
  methods := choice.methods.map fun m =>
    { name := m.name
      scriptName := m.scriptName
      params := m.params
      invocation :=
        match m.run with
        | .inl run => .onClass run.run
        | .inr run => .onReceiver (run.run k) }

namespace CounterMake

def ofName? : String → Option CounterMake
  | "blank" => some .blank
  | "int" => some .int
  | "int32" => some .int32
  | "text" => some .text
  | "both" => some .both
  | "describe" => some .describe
  | "fail" => some .fail
  | "fail_text" => some .failText
  | _ => none

end CounterMake

namespace CounterStatic

def ofName? : String → Option CounterStatic
  | "describe" => some .describe
  | "echo" => some .echo
  | "take_bool" => some .takeBool
  | "take_i32" => some .takeInt32
  | "take_i64" => some .takeInt64
  | "take_f64" => some .takeNumber
  | "take_string" => some .takeText
  | "unit" => some .unit
  | "null" => some .null
  | "bytes" => some .bytes
  | "fail" => some .fail
  | "fail_text" => some .failText
  | "ok_text" => some .okText
  | _ => none

end CounterStatic

namespace CounterWork

def ofName? : String → Option CounterWork
  | "describe" => some .describe
  | "echo" => some .echo
  | "add" => some .add
  | "add32" => some .add32
  | "append" => some .append
  | "count" => some .count
  | "text" => some .text
  | "scale" => some .scale
  | "not" => some .negate
  | "unit" => some .unit
  | "null" => some .null
  | "bytes" => some .bytes
  | "fail" => some .fail
  | "fail_after" => some .failAfter
  | _ => none

end CounterWork

end ScriptHost.Samples
