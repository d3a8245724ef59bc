/-
A machine kept in memory.

It has no compiler: a source text runs the script registered for it, and any other
source fails to compile.  Values are passed by reference where scripts share them:
lists and foreign instances live in stores of the machine and are referred to by
number.  The window grows under writes past its end, and reads outside it, or of
another kind of value, give a default.
-/
import ScriptHost.Backend

namespace ScriptHost.InMemory

/-- A class a script declared: its name, its allocator and its methods, by whether they are
static and by signature. -/
structure ClassInfo where
  name : String
  allocator : Option Nat
  methods : List ((Bool × String) × Nat)
deriving DecidableEq

/-- A value of a script. -/
inductive ScriptValue where
  | null
  | bool (value : Bool)
  | num (value : Number)
  | string (value : Bytes)
  /-- A list, by its number. -/
  | list (id : Nat)
  /-- A foreign instance, by its number. -/
  | instanceOf (id : Nat)
  | classOf (info : ClassInfo)
  | callHandle (signature : String)
deriving DecidableEq

/-- A value as a script writes it down. -/
inductive Expr where
  | null
  | bool (value : Bool)
  | num (value : Number)
  | string (value : Bytes)
  | list (elements : List Expr)
  | callHandle (signature : String)
  /-- A new foreign instance with a token of its own. -/
  | foreign (token : Token)
  /-- A variable, of the running module if none is named. -/
  | named (module : Option String) (name : String)
  | slot (slot : Nat)
deriving Inhabited

/-- One line of a stack trace: module, line, function. -/
abbrev TraceLine := String × Int × String

/-- One step on the machine itself, from a script or from outside. -/
inductive MachineStep where
  | window (step : WindowStep)
  | setForeign (slot : Nat) (token : Token)
  | abortMessage
  | liveInstances
  | call (handle : RawHandle)

/-- One step of a script. -/
inductive ScriptStep where
  | define (name : String) (value : Expr)
  | declare (className : String) (methods : List (Bool × String))
  | construct (on : Expr) (args : List Expr) (store : Option String) (catches : Bool)
      (trace : List TraceLine)
  | invoke (on : Expr) (isStatic : Bool) (signature : String) (args : List Expr)
      (store : Option String) (catches : Bool) (trace : List TraceLine)
  | print (text : String)
  | raise (error : Expr) (trace : List TraceLine)
  | report (event : StackFrame)
  | collectGarbage
  | window
  | slot (step : MachineStep)
  | finish (result : InterpretResult)

abbrev Script := List ScriptStep

/-- A foreign instance. -/
structure Instance where
  token : Token
  info : ClassInfo

/-- A machine kept in memory. -/
structure Machine where
  slots : List ScriptValue
  /-- Pinned values; a place is emptied when its handle is given back. -/
  handles : List (Option ScriptValue)
  globals : List ((String × String) × ScriptValue)
  /-- Scripts by source text. -/
  scripts : List (String × Script)
  /-- Methods of receivers that are not foreign, by signature. -/
  methods : List (String × Script)
  /-- All instances ever made, in order. -/
  instances : List Instance
  /-- The instances not finalized yet. -/
  tracked : List Nat
  /-- All lists ever made. -/
  lists : List (List ScriptValue)
  aborted : Option ScriptValue
  /-- Receivers and arguments of the calls that are running. -/
  running : List (List ScriptValue)
  refusesToStart : Bool
  refusesCallHandles : Bool
  freed : Bool
  leakedHandles : Nat
  releasedHandles : Nat
  journal : List Entry

namespace Machine

/-- An empty machine with some scripts and methods. -/
def new (scripts methods : List (String × Script)) (refusesToStart refusesCallHandles : Bool) :
    Machine where
  slots := []
  handles := []
  globals := []
  scripts := scripts
  methods := methods
  instances := []
  tracked := []
  lists := []
  aborted := none
  running := []
  refusesToStart := refusesToStart
  refusesCallHandles := refusesCallHandles
  freed := false
  leakedHandles := 0
  releasedHandles := 0
  journal := []

/-- A machine without scripts. -/
def bare : Machine :=
  new [] [] false false

/-- The value in a slot, null outside the window. -/
def slot (m : Machine) (i : Nat) : ScriptValue :=
  m.slots[i]?.getD .null

/-- Grows the window with nulls. -/
def ensure (m : Machine) (count : Nat) : Machine :=
  { m with slots := m.slots ++ List.replicate (count - m.slots.length) .null }

/-- Writes a slot, growing the window if it is too small. -/
def setSlot (m : Machine) (i : Nat) (value : ScriptValue) : Machine :=
  { m.ensure (i + 1) with slots := (m.ensure (i + 1)).slots.set i value }

def defineVariable (m : Machine) (module name : String) (value : ScriptValue) : Machine :=
  { m with
    globals := ((module, name), value) :: m.globals.filter (·.1 ≠ (module, name)) }

/-- A variable of a module, null if it is not defined. -/
def readVariable (m : Machine) (module name : String) : ScriptValue :=
  (m.globals.lookup (module, name)).getD .null

def newList (m : Machine) (elements : List ScriptValue) : ScriptValue × Machine :=
  (.list m.lists.length, { m with lists := m.lists ++ [elements] })

def newInstance (m : Machine) (token : Token) (info : ClassInfo) : ScriptValue × Machine :=
  (.instanceOf m.instances.length,
    { m with
      instances := m.instances ++ [⟨token, info⟩]
      tracked := m.tracked ++ [m.instances.length] })

/-- Pins a value. -/
def pin (m : Machine) (value : ScriptValue) : RawHandle × Machine :=
  (⟨m.handles.length + 1⟩, { m with handles := m.handles ++ [some value] })

/-- The value a raw handle pins, if it is live. -/
def pinned? (m : Machine) (h : RawHandle) : Option ScriptValue :=
  if h.bits = 0 then none else (m.handles[h.bits - 1]?).join

/-- The elements of the list in a slot, if there is one. -/
def listIn? (m : Machine) (i : Nat) : Option (Nat × List ScriptValue) :=
  match m.slots[i]? with
  | some (.list id) => m.lists[id]?.map fun elements => (id, elements)
  | _ => none

/-- The class of an instance, or a class itself. -/
def classOf? (m : Machine) : ScriptValue → Option ClassInfo
  | .instanceOf id => m.instances[id]?.map (·.info)
  | .classOf info => some info
  | _ => none

/-- The kind of a value. -/
def typeOf : ScriptValue → SlotType
  | .null => .null
  | .bool _ => .bool
  | .num _ => .num
  | .string _ => .string
  | .list _ => .list
  | .instanceOf _ => .foreign
  | .classOf _ | .callHandle _ => .unknown

/-- Puts a foreign instance with a token into a slot, as if the machine had made it. -/
def setForeign (m : Machine) (i : Nat) (token : Token) : Machine :=
  let (value, m) := m.newInstance token ⟨"Foreign", none, []⟩
  m.setSlot i value

/-- The text of the abort, if it is one. -/
def abortMessage? (m : Machine) : Option String :=
  match m.aborted with
  | some (.string bytes) => some (Utf8.decode bytes)
  | _ => none

end Machine

instance : Slots Machine where
  ensure := Machine.ensure
  count m := m.slots.length
  type m i := (m.slots[i]?.map Machine.typeOf).getD .unknown
  bool m i :=
    match m.slots[i]? with
    | some (.bool b) => b
    | _ => false
  number m i :=
    match m.slots[i]? with
    | some (.num x) => x
    | _ => .zero
  bytes m i :=
    match m.slots[i]? with
    | some (.string b) => b
    | _ => []
  pin m i :=
    let (handle, m) := m.pin (m.slot i)
    (some handle, m)
  token m i :=
    match m.slots[i]? with
    | some (.instanceOf id) => m.instances[id]?.map (·.token)
    | _ => none
  setBool m i b := m.setSlot i (.bool b)
  setNumber m i x := m.setSlot i (.num x)
  setBytes m i b := m.setSlot i (.string b)
  setPinned m i h := m.setSlot i ((m.pinned? h).getD .null)
  setNull m i := m.setSlot i .null
  setNewList m i :=
    let (value, m) := m.newList []
    m.setSlot i value
  setNewForeign m i classSlot token :=
    match m.slot classSlot with
    | .classOf info =>
      let (value, m) := m.newInstance token info
      pure (m.setSlot i value)
    | _ => throw (.message s!"slot {classSlot} does not hold a class")
  listCount m i := ((m.listIn? i).map (·.2.length)).getD 0
  getElement m i index element :=
    m.setSlot element (((m.listIn? i).bind (·.2[index]?)).getD .null)
  insertElement m i index element :=
    match m.listIn? i with
    | none => pure m
    | some (id, elements) =>
      match insertionPoint? elements.length index with
      | some at' =>
        let elements := elements.insertIdx at' (m.slot element)
        pure { m with lists := m.lists.set id elements }
      | none =>
        throw (.message s!"list index {index} outside a list of {elements.length} elements")
  getVariable m module name i := do
    refuseNul module
    refuseNul name
    pure (m.setSlot i (m.readVariable module name))
  abort m i := { m with aborted := some (m.slot i) }

instance : Chronicle Machine where
  note m entry := { m with journal := m.journal ++ [entry] }
  freed m := m.freed

namespace Machine

/-- The value an expression stands for in a module; lists and instances are made anew. -/
def eval (module : String) (m : Machine) : Expr → ScriptValue × Machine
  | .null => (.null, m)
  | .bool b => (.bool b, m)
  | .num x => (.num x, m)
  | .string b => (.string b, m)
  | .list es =>
    let (values, m) := evalAll m es
    m.newList values
  | .callHandle s => (.callHandle s, m)
  | .foreign token => m.newInstance token ⟨"Foreign", none, []⟩
  | .named other name => (m.readVariable (other.getD module) name, m)
  | .slot i => (m.slot i, m)
where
  /-- The values of several expressions, in order. -/
  evalAll (m : Machine) : List Expr → List ScriptValue × Machine
    | [] => ([], m)
    | e :: es =>
      let (value, m) := eval module m e
      let (values, m) := evalAll m es
      (value :: values, m)

/-- A machine without scripts whose window holds the given values. -/
def ofWindow (window : List Expr) : Machine :=
  let (values, m) := eval.evalAll "main" bare window
  { m with slots := values }

/-- A value as it is shown, lists opened up to `depth` levels. -/
def display (m : Machine) : (depth : Nat) → ScriptValue → Shown
  | _, .null => .null
  | _, .bool b => .bool b
  | _, .num x => .number x
  | _, .string b => .string b
  | _, .instanceOf id =>
    match m.instances[id]? with
    | some i => .instanceOf i.token i.info.name
    | none => .null
  | _, .classOf info => .classNamed info.name
  | _, .callHandle s => .callHandle s
  | 0, .list _ => .deep
  | depth + 1, .list id => .list ((m.lists[id]?.getD []).map (m.display depth))

/-- A value as it is shown. -/
def shown (m : Machine) (value : ScriptValue) : Shown :=
  m.display shownDepth value

def shownSlots (m : Machine) : List Shown :=
  m.slots.map m.shown

end Machine

end ScriptHost.InMemory
