/-
The slot interface of an engine, as the engine itself offers it.

An engine counts in 32-bit signed words, hands out null for what it does not have, and
checks nothing: an index outside the window, a slot read as another kind of value, or
an index outside a list is a mistake of the caller, and nobody says what happens then.
`EngineApi m` lists these entry points for an engine that works in the monad `m`.
What calls them only as they may be called is `ScriptHost.Engine.Guarded`.
-/
import ScriptHost.Slots

namespace ScriptHost

/-- The memory of a foreign instance. -/
abbrev Memory := Bytes

/-- Where the memory of an instance is. -/
abbrev Address := Nat

/-- The unchecked slot operations of an engine. -/
class EngineApi (m : Type → Type) where
  /-- The number of slots; it may be negative while there is no window. -/
  slotCount : m Int32
  ensureSlots : (count : Int32) → m Unit
  /-- The raw tag of the value in a slot. -/
  slotType : (slot : Int32) → m Int32
  slotBool : (slot : Int32) → m Bool
  slotNumber : (slot : Int32) → m Number
  /-- The bytes of a string, unless the engine gives none away, and their number. -/
  slotBytes : (slot : Int32) → m (Option Bytes × Int32)
  /-- Pins the value in a slot. -/
  slotHandle : (slot : Int32) → m (Option RawHandle)
  /-- The memory of the instance in a slot, unless it has none. -/
  slotMemory : (slot : Int32) → m (Option Memory)
  setBool : (slot : Int32) → Bool → m Unit
  setNumber : (slot : Int32) → Number → m Unit
  setBytes : (slot : Int32) → Bytes → m Unit
  setHandle : (slot : Int32) → RawHandle → m Unit
  setNull : (slot : Int32) → m Unit
  setNewList : (slot : Int32) → m Unit
  /-- Makes an instance of the class in `classSlot`: where its memory is. -/
  setNewForeign : (slot classSlot : Int32) → (size : Nat) → m (Option Address)
  /-- Writes the memory at an address. -/
  store : Address → Memory → m Unit
  listCount : (slot : Int32) → m Int32
  getElement : (listSlot index elementSlot : Int32) → m Unit
  insertElement : (listSlot index elementSlot : Int32) → m Unit
  hasModule : (module : String) → m Bool
  hasVariable : (module name : String) → m Bool
  getVariable : (module name : String) → (slot : Int32) → m Unit
  /-- Ends the running fiber with the value in a slot as its error. -/
  abort : (slot : Int32) → m Unit
  /-- The address of the host the engine reports to. -/
  userData : m UInt64

end ScriptHost
