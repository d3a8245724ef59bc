/-
The window of an engine, made safe to touch.

Each operation asks the engine first, for the number of slots, for the tag of a slot,
for the length of a list, and goes through with the unchecked call only if the answer
allows it.  Otherwise a getter gives the default of its type and a setter does
nothing.

* **`guardedSlots`** — the operations taken together are a window in the sense of
  `Slots`, for any engine that works on a state.
-/
import ScriptHost.Engine.Api
import ScriptHost.Engine.ForeignCell

namespace ScriptHost

namespace Guarded

variable {m : Type → Type} [Monad m] [EngineApi m]

/-- An index or a count as a word; one that does not fit becomes the greatest word. -/
def word (n : Nat) : Int32 :=
  Int32.ofInt (min (n : Int) Int32.maxValue.toInt)

/-- A word as a count; a negative one counts as zero. -/
def countOfWord (n : Int32) : Nat :=
  n.toInt.toNat

def slotCount : m Nat := do
  return countOfWord (← EngineApi.slotCount)

/-- Whether there is a slot of that index. -/
def inWindow (slot : Nat) : m Bool := do
  return decide (slot < (← slotCount))

/-- The kind of value in a slot; `unknown` outside the window. -/
def slotType (slot : Nat) : m SlotType := do
  if ← inWindow slot then
    return .ofCode (← EngineApi.slotType (word slot)).toInt
  else return .unknown

/-- Whether there is a slot of that index and it holds that kind of value. -/
def holds (slot : Nat) (kind : SlotType) : m Bool := do
  if ← inWindow slot then return decide ((← slotType slot) = kind) else return false

/-- Goes through with `call` if `permitted`, and answers `default` otherwise. -/
def whenever {α : Type} (permitted : m Bool) (default : α) (call : m α) : m α := do
  if ← permitted then call else return default

def ensureSlots (count : Nat) : m Unit :=
  EngineApi.ensureSlots (word count)

def slotBool (slot : Nat) : m Bool :=
  whenever (holds slot .bool) false (EngineApi.slotBool (word slot))

def slotNumber (slot : Nat) : m Number :=
  whenever (holds slot .num) .zero (EngineApi.slotNumber (word slot))

/-- The bytes an engine gave away with their number. -/
def bytesGiven : Option Bytes × Int32 → Bytes
  | (some bytes, length) => bytes.take (countOfWord length)
  | (none, _) => []

def slotBytes (slot : Nat) : m Bytes :=
  whenever (holds slot .string) [] do
    return bytesGiven (← EngineApi.slotBytes (word slot))

def slotHandle (slot : Nat) : m (Option RawHandle) :=
  whenever (inWindow slot) none (EngineApi.slotHandle (word slot))

/-- The token kept in the instance in a slot, if the library made the instance. -/
def slotToken (slot : Nat) : m (Option Token) :=
  whenever (holds slot .foreign) none do
    return (ForeignCell.read? (← EngineApi.slotMemory (word slot))).map (·.token)

def setBool (slot : Nat) (value : Bool) : m Unit :=
  whenever (inWindow slot) () (EngineApi.setBool (word slot) value)

def setNumber (slot : Nat) (value : Number) : m Unit :=
  whenever (inWindow slot) () (EngineApi.setNumber (word slot) value)

def setBytes (slot : Nat) (value : Bytes) : m Unit :=
  whenever (inWindow slot) () (EngineApi.setBytes (word slot) value)

def setHandle (slot : Nat) (handle : RawHandle) : m Unit :=
  whenever (inWindow slot) () (EngineApi.setHandle (word slot) handle)

def setNull (slot : Nat) : m Unit :=
  whenever (inWindow slot) () (EngineApi.setNull (word slot))

def setNewList (slot : Nat) : m Unit :=
  whenever (inWindow slot) () (EngineApi.setNewList (word slot))

/-- Whether both slots are there. -/
def bothInWindow (slot other : Nat) : m Bool := do
  if ← inWindow slot then inWindow other else return false

/-- Makes an instance with a cell in its memory. -/
def setNewForeign (slot classSlot : Nat) (token : Token) : m Unit :=
  whenever (bothInWindow slot classSlot) () do
    let userData ← EngineApi.userData
    match ← EngineApi.setNewForeign (word slot) (word classSlot) ForeignCell.size with
    | some address => EngineApi.store address (ForeignCell.encode ⟨userData, token⟩)
    | none => return ()

def listCount (slot : Nat) : m Nat :=
  whenever (holds slot .list) 0 do
    return countOfWord (← EngineApi.listCount (word slot))

/-- Whether a list has an element of that index and there is a slot for it. -/
def hasElement (listSlot index elementSlot : Nat) : m Bool := do
  if ← inWindow elementSlot then return decide (index < (← listCount listSlot)) else return false

def getElement (listSlot index elementSlot : Nat) : m Unit :=
  whenever (hasElement listSlot index elementSlot) ()
    (EngineApi.getElement (word listSlot) (word index) (word elementSlot))

/-- Whether an element can be inserted at that index. -/
def canInsert (listSlot : Nat) (index : Int) (elementSlot : Nat) : m Bool := do
  if ← inWindow elementSlot then
    if ← holds listSlot .list then
      let count : Int := (← listCount listSlot)
      return decide (Int32.minValue.toInt ≤ index ∧ index ≤ Int32.maxValue.toInt ∧
        -(count + 1) ≤ index ∧ index ≤ count)
    else return false
  else return false

def insertElement (listSlot : Nat) (index : Int) (elementSlot : Nat) : m Unit :=
  whenever (canInsert listSlot index elementSlot) ()
    (EngineApi.insertElement (word listSlot) (Int32.ofInt index) (word elementSlot))

/-- Whether a variable is defined. -/
def isDefined (module name : String) : m Bool := do
  if ← EngineApi.hasModule module then EngineApi.hasVariable module name else return false

/-- Loads a variable into a slot, null if it is not defined. -/
def getVariable (module name : String) (slot : Nat) : m (Except HostError Unit) := do
  match refuseNul module, refuseNul name with
  | .error e, _ => return .error e
  | .ok (), .error e => return .error e
  | .ok (), .ok () =>
    if ← inWindow slot then
      if ← isDefined module name then EngineApi.getVariable module name (word slot)
      else setNull slot
      return .ok ()
    else return .error (.slotOutOfRange slot (← slotCount))

def abort (slot : Nat) : m Unit :=
  whenever (inWindow slot) () (EngineApi.abort (word slot))

end Guarded

section

variable {C : Type}

/-- What an operation answers in a state. -/
def answerOf {α : Type} (operation : StateM C α) (c : C) : α :=
  (operation.run c).1

/-- The state after an operation. -/
def stateAfter {α : Type} (operation : StateM C α) (c : C) : C :=
  (operation.run c).2

/-- The window of an engine. -/
@[reducible] def guardedSlots [EngineApi (StateM C)] : Slots C where
  ensure c count := stateAfter (Guarded.ensureSlots count) c
  count := answerOf Guarded.slotCount
  type c slot := answerOf (Guarded.slotType slot) c
  bool c slot := answerOf (Guarded.slotBool slot) c
  number c slot := answerOf (Guarded.slotNumber slot) c
  bytes c slot := answerOf (Guarded.slotBytes slot) c
  pin c slot := (Guarded.slotHandle slot : StateM C _).run c
  token c slot := answerOf (Guarded.slotToken slot) c
  setBool c slot value := stateAfter (Guarded.setBool slot value) c
  setNumber c slot value := stateAfter (Guarded.setNumber slot value) c
  setBytes c slot value := stateAfter (Guarded.setBytes slot value) c
  setPinned c slot handle := stateAfter (Guarded.setHandle slot handle) c
  setNull c slot := stateAfter (Guarded.setNull slot) c
  setNewList c slot := stateAfter (Guarded.setNewList slot) c
  setNewForeign c slot classSlot token :=
    pure (stateAfter (Guarded.setNewForeign slot classSlot token) c)
  listCount c slot := answerOf (Guarded.listCount slot) c
  getElement c listSlot index elementSlot :=
    stateAfter (Guarded.getElement listSlot index elementSlot) c
  insertElement c listSlot index elementSlot :=
    pure (stateAfter (Guarded.insertElement listSlot index elementSlot) c)
  getVariable c module name slot :=
    match (Guarded.getVariable module name slot : StateM C _).run c with
    | (.ok (), c) => pure c
    | (.error e, _) => throw e
  abort c slot := stateAfter (Guarded.abort slot) c

end

end ScriptHost
