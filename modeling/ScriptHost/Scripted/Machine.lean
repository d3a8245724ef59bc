/-
An engine that follows scripts.

It stands in for an engine with a compiler: a source text is the name of a program,
and a program is a list of plain steps.  What it offers is the unchecked slot interface
of an engine.  Besides ordinary values it can hold ones of a kind nobody knows, strings
that keep their bytes to themselves, and instances whose memory somebody else wrote.

Lists and instances live in stores of the machine and are referred to by number;
instances are numbered in the order in which they were made.
-/
import ScriptHost.Engine
import ScriptHost.References

namespace ScriptHost.Scripted

/-- A class: its name and the entries it was bound with. -/
structure ClassInfo where
  name : String
  entries : ClassEntries
deriving DecidableEq

/-- A value of the engine. -/
inductive Value where
  | null
  | bool (value : Bool)
  | num (value : Number)
  | string (value : Bytes)
  /-- A list, by its number. -/
  | list (id : Nat)
  /-- An instance, by its number. -/
  | instanceOf (id : Nat)
  | classOf (info : ClassInfo)
  /-- A value with a raw tag of its own. -/
  | odd (tag : Int32)
  /-- A string that is said to have a length, and no bytes to show if `noBytes`. -/
  | oddString (noBytes : Bool) (length : Int32)
deriving DecidableEq

/-- Instance memory written by somebody else: blank, or marked but without a host, or no
memory at all. -/
inductive AlienMemory where
  | blank | hostless | missing

/-- The memory itself. -/
def AlienMemory.memory : AlienMemory → Option Memory
  | .blank => some (List.replicate ForeignCell.size 0)
  | .hostless => some (ForeignCell.encode ⟨0, ⟨0, 0⟩⟩)
  | .missing => none

/-- A value as a program writes it down. -/
inductive Expr where
  | null
  | bool (value : Bool)
  | num (value : Number)
  | string (value : Bytes)
  | list (elements : List Expr)
  /-- A variable of the running module. -/
  | named (name : String)
  | slot (slot : Nat)
  | odd (tag : Int32)
  | oddString (noBytes : Bool) (length : Int32)
  /-- A new instance with such memory. -/
  | alien (memory : AlienMemory)
deriving Inhabited

/-- One step of a program. -/
inductive Step where
  | bindMethod (module className : CText) (isStatic : Bool) (signature : CText)
      (method : String) (times : Nat)
  | bindClass (module className : CText) (name : String) (times : Nat)
  | construct (on : Expr) (args : List Expr) (store : Option String)
  | invoke (method : String) (slots : List Expr) (store : Option String)
  | write (text : CText)
  | report (kind : Int32) (module : CText) (line : Int32) (message : CText)
  | finalize (class' : Expr) (memory : AlienMemory)
  | define (name : String) (value : Expr)
  | setSlot (slot : Nat) (value : Expr)
  /-- Makes the engine answer with a slot count of its own, or with the true one again. -/
  | pretendCount (count : Option Int32)
  | window
  | collectGarbage
  | finish (code : Int32)

abbrev Program := List Step

/-- What a handle pins. -/
inductive Pinned where
  | value (value : Value)
  | method (signature : String)

/-- An instance. -/
structure Instance where
  memory : Option Memory
  info : ClassInfo

/-- An engine that follows scripts. -/
structure Machine where
  slots : List Value
  pretendedCount : Option Int32
  /-- Pinned values; a place is emptied when its handle is given back. -/
  handles : List (Option Pinned)
  globals : List ((String × String) × Value)
  /-- Bound methods by name, with their entries. -/
  bound : List (String × Option Nat)
  /-- Programs by source text. -/
  scripts : List (String × Program)
  /-- Programs by the signature of the method that runs them. -/
  methods : List (String × Program)
  /-- All instances ever made, in order. -/
  instances : List Instance
  /-- The instances with memory that are not finalized yet. -/
  tracked : List Nat
  /-- All lists ever made. -/
  lists : List (List Value)
  aborted : Option Value
  refusesToStart : Bool
  refusesCallHandles : Bool
  refusesSlotHandles : Bool
  freed : Bool
  leakedHandles : Nat
  releasedHandles : Nat
  journal : List Entry

/-- How a machine is to behave. -/
structure Behaviour where
  scripts : List (String × Program)
  methods : List (String × Program)
  refusesToStart : Bool
  refusesCallHandles : Bool
  refusesSlotHandles : Bool

namespace Machine

def new (b : Behaviour) : Machine where
  slots := []
  pretendedCount := none
  handles := []
  globals := []
  bound := []
  scripts := b.scripts
  methods := b.methods
  instances := []
  tracked := []
  lists := []
  aborted := none
  refusesToStart := b.refusesToStart
  refusesCallHandles := b.refusesCallHandles
  refusesSlotHandles := b.refusesSlotHandles
  freed := false
  leakedHandles := 0
  releasedHandles := 0
  journal := []

def note (m : Machine) (entry : Entry) : Machine :=
  { m with journal := m.journal ++ [entry] }

/-- The most slots the machine makes. -/
def maxSlots : Nat := 1000

/-- The value in a slot, null outside the window. -/
def slot (m : Machine) (i : Nat) : Value :=
  m.slots[i]?.getD .null

/-- The index a word stands for; a negative one is far outside every window. -/
def index (word : Int32) : Nat :=
  if word < 0 then 1 <<< 32 else word.toInt.toNat

/-- The value in the slot a word names. -/
def at? (m : Machine) (word : Int32) : Option Value :=
  m.slots[index word]?

/-- Writes a slot, if it is there. -/
def setSlot (m : Machine) (i : Nat) (value : Value) : Machine :=
  { m with slots := m.slots.set i value }

/-- Grows the window with nulls; a window that would be too large is not made. -/
def ensure (m : Machine) (count : Int32) : Machine :=
  if (maxSlots : Int) < count.toInt then m.note (.tooManySlots count.toInt)
  else
    { m with
      slots := m.slots ++ List.replicate (count.toInt.toNat - m.slots.length) .null }

def defineVariable (m : Machine) (module name : String) (value : Value) : Machine :=
  { m with
    globals := ((module, name), value) :: m.globals.filter (·.1 ≠ (module, name)) }

/-- A variable of a module, null if it is not defined. -/
def readVariable (m : Machine) (module name : String) : Value :=
  (m.globals.lookup (module, name)).getD .null

def newList (m : Machine) (elements : List Value) : Value × Machine :=
  (.list m.lists.length, { m with lists := m.lists ++ [elements] })

/-- Makes an instance; one without memory takes a number, but is none that could ever be
finalized. -/
def newInstance (m : Machine) (memory : Option Memory) (info : ClassInfo) : Value × Machine :=
  (.instanceOf m.instances.length,
    { m with
      instances := m.instances ++ [⟨memory, info⟩]
      tracked := if memory.isSome then m.tracked ++ [m.instances.length] else m.tracked })

def pin (m : Machine) (pinned : Pinned) : RawHandle × Machine :=
  (⟨m.handles.length + 1⟩, { m with handles := m.handles ++ [some pinned] })

/-- What a raw handle pins, if it is live. -/
def pinned? (m : Machine) (h : RawHandle) : Option Pinned :=
  if h.bits = 0 then none else (m.handles[h.bits - 1]?).join

/-- The value a raw handle pins; a method is no value. -/
def pinnedValue (m : Machine) (h : RawHandle) : Value :=
  match m.pinned? h with
  | some (.value v) => v
  | _ => .null

/-- The raw tag of a value. -/
def tagOf : Value → Int32
  | .null => 5
  | .bool _ => 0
  | .num _ => 1
  | .string _ | .oddString .. => 6
  | .list _ => 3
  | .instanceOf _ => 2
  | .classOf _ => 7
  | .odd tag => tag

/-- The list in a slot, if there is one. -/
def listAt? (m : Machine) (word : Int32) : Option (Nat × List Value) :=
  match m.at? word with
  | some (.list id) => m.lists[id]?.map fun elements => (id, elements)
  | _ => none

/-- The number of a list of that many elements, as a word. -/
def length (elements : List Value) : Int32 :=
  Guarded.word elements.length

/-- Inserts the value of a slot into a list. -/
def insertElement (m : Machine) (listSlot position elementSlot : Int32) : Machine :=
  match m.listAt? listSlot with
  | none => m
  | some (id, elements) =>
    match insertionPoint? elements.length position.toInt with
    | some point =>
      { m with lists := m.lists.set id (elements.insertIdx point (m.slot (index elementSlot))) }
    | none => m

/-- Copies an element of a list into a slot. -/
def getElement (m : Machine) (listSlot position elementSlot : Int32) : Machine :=
  match (m.listAt? listSlot).bind (·.2[index position]?) with
  | some value => m.setSlot (index elementSlot) value
  | none => m

/-- Makes an instance of the class in a slot, its memory blank: where the memory is. -/
def setNewForeign (m : Machine) (slot classSlot : Int32) (size : Nat) :
    Option Address × Machine :=
  match m.at? classSlot with
  | some (.classOf info) =>
    let address := m.instances.length
    let (value, m) := m.newInstance (some (List.replicate size 0)) info
    (some address, m.setSlot (index slot) value)
  | _ => (none, m.note (.remark "new foreign without a class"))

/-- Writes the memory of an instance; its number is where its memory is. -/
def store (m : Machine) (address : Address) (memory : Memory) : Machine :=
  { m with instances := m.instances.modify address ({ · with memory := some memory }) }

/-- The address of the host. -/
def hostAddress : UInt64 := 1

end Machine

instance : EngineApi (StateM Machine) where
  slotCount := do
    let m ← get
    return m.pretendedCount.getD (Machine.length m.slots)
  ensureSlots count := modify (·.ensure count)
  slotType slot := do return (((← get).at? slot).map Machine.tagOf).getD 7
  slotBool slot := do
    match (← get).at? slot with
    | some (.bool b) => return b
    | _ => return false
  slotNumber slot := do
    match (← get).at? slot with
    | some (.num x) => return x
    | _ => return .zero
  slotBytes slot := do
    match (← get).at? slot with
    | some (.string b) => return (some b, Guarded.word b.length)
    | some (.oddString noBytes length) => return (if noBytes then none else some [], length)
    | _ => return (none, 0)
  slotHandle slot := do
    let m ← get
    if m.refusesSlotHandles then return none
    match m.at? slot with
    | some v =>
      let (handle, m) := m.pin (.value v)
      set m
      return some handle
    | none => return none
  slotMemory slot := do
    let m ← get
    match m.at? slot with
    | some (.instanceOf id) => return m.instances[id]?.bind (·.memory)
    | _ => return none
  setBool slot value := modify (·.setSlot (Machine.index slot) (.bool value))
  setNumber slot value := modify (·.setSlot (Machine.index slot) (.num value))
  setBytes slot value := modify (·.setSlot (Machine.index slot) (.string value))
  setHandle slot handle := modify fun m => m.setSlot (Machine.index slot) (m.pinnedValue handle)
  setNull slot := modify (·.setSlot (Machine.index slot) .null)
  setNewList slot := modify fun m =>
    let (value, m) := m.newList []
    m.setSlot (Machine.index slot) value
  setNewForeign slot classSlot size := modifyGet (·.setNewForeign slot classSlot size)
  store address memory := modify (·.store address memory)
  listCount slot := do
    return (((← get).listAt? slot).map fun l => Machine.length l.2).getD 0
  getElement listSlot index elementSlot := modify (·.getElement listSlot index elementSlot)
  insertElement listSlot index elementSlot :=
    modify (·.insertElement listSlot index elementSlot)
  hasModule module := do return (← get).globals.any (·.1.1 = module)
  hasVariable module name := do return ((← get).globals.lookup (module, name)).isSome
  getVariable module name slot := modify fun m =>
    m.setSlot (Machine.index slot) (m.readVariable module name)
  abort slot := modify fun m => { m with aborted := m.at? slot <|> m.aborted }
  userData := return Machine.hostAddress

instance : Chronicle Machine where
  note := Machine.note
  freed m := m.freed

namespace Machine

/-- The value an expression stands for in a module; lists and instances are made anew. -/
def eval (module : String) (m : Machine) : Expr → Value × Machine
  | .null => (.null, m)
  | .bool b => (.bool b, m)
  | .num x => (.num x, m)
  | .string b => (.string b, m)
  | .list es =>
    let (values, m) := evalAll m es
    m.newList values
  | .named name => (m.readVariable module name, m)
  | .slot i => (m.slot i, m)
  | .odd tag => (.odd tag, m)
  | .oddString noBytes length => (.oddString noBytes length, m)
  | .alien memory => m.newInstance memory.memory ⟨"Alien", .unbound⟩
where
  /-- The values of several expressions, in order. -/
  evalAll (m : Machine) : List Expr → List Value × Machine
    | [] => ([], m)
    | e :: es =>
      let (value, m) := eval module m e
      let (values, m) := evalAll m es
      (value :: values, m)

/-- A value as it is shown, lists opened up to `depth` levels. -/
def display (m : Machine) : (depth : Nat) → Value → Shown
  | _, .null => .null
  | _, .bool b => .bool b
  | _, .num x => .number x
  | _, .string b => .string b
  | _, .instanceOf id =>
    match m.instances[id]? with
    | some i => .numbered id i.info.name
    | none => .null
  | _, .classOf info => .classNamed info.name
  | _, .odd tag => .unknownTag tag.toInt
  | _, .oddString noBytes length => .stringOfLength noBytes length.toInt
  | 0, .list _ => .deep
  | depth + 1, .list id => .list ((m.lists[id]?.getD []).map (m.display depth))

/-- A value as it is shown. -/
def shown (m : Machine) (value : Value) : Shown :=
  m.display shownDepth value

def shownSlots (m : Machine) : List Shown :=
  m.slots.map m.shown

/-- What slots, variables, live handles, the abort and lists refer to. -/
def references (m : Machine) : References Value where
  roots := m.slots ++ m.globals.map (·.2) ++
    (m.handles.filterMap fun
      | some (.value v) => some v
      | _ => none) ++
    m.aborted.toList
  lists := m.lists
  list := .list

/-- How many instances not finalized yet are referred to. -/
def liveInstances (m : Machine) : Nat :=
  let values := m.references.aliveValues
  m.tracked.countP fun id => .instanceOf id ∈ values

/-- The instances not finalized yet, split into those nothing refers to any more and the
others. -/
def deadAndLive (m : Machine) : List Nat × List Nat :=
  let values := m.references.aliveValues
  m.tracked.partition fun id => .instanceOf id ∉ values

end Machine

end ScriptHost.Scripted
