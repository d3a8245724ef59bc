/-
Which instances of a machine are still referred to.
-/
import ScriptHost.InMemory.Machine
import ScriptHost.References

namespace ScriptHost.InMemory.Machine

/-- What slots, variables, live handles, the abort, running calls and lists refer to. -/
def references (m : Machine) : References ScriptValue where
  roots := m.slots ++ m.globals.map (·.2) ++ m.handles.filterMap id ++ m.aborted.toList ++
    m.running.flatten
  lists := m.lists
  list := .list

/-- How many instances not finalized yet are referred to. -/
def liveInstances (m : Machine) : Nat :=
  let values := m.references.aliveValues
  m.tracked.countP fun id => .instanceOf id ∈ values

/-- The instances not finalized yet, split into those nothing refers to any more and the
others. -/
def deadAndLive (m : Machine) : List Nat × List Nat :=
  let values := m.references.aliveValues
  m.tracked.partition fun id => .instanceOf id ∉ values

/-- The tokens of instances. -/
def tokens (m : Machine) (ids : List Nat) : List Token :=
  ids.filterMap fun id => m.instances[id]?.map (·.token)

end ScriptHost.InMemory.Machine
