/-
What a machine and its host leave on record.

Scripts, hand-written members, finalizers and subscribers do nothing but leave notes
of what they saw, as `Entry`s in the order in which things happened.
-/
import ScriptHost.HostObject
import ScriptHost.WindowStep

namespace ScriptHost

/-- A value of a machine as it is shown: a snapshot, lists opened up to some depth. -/
inductive Shown where
  | null
  | bool (value : Bool)
  | number (value : Number)
  | string (value : Bytes)
  | list (elements : List Shown)
  /-- A list too far down to be opened. -/
  | deep
  /-- An instance, by its token. -/
  | instanceOf (token : Token) (className : String)
  /-- An instance, by its number. -/
  | numbered (number : Nat) (className : String)
  | classNamed (name : String)
  | callHandle (signature : String)
  /-- A value of a kind nobody knows, by its raw tag. -/
  | unknownTag (tag : Int)
  /-- A string that gives away its length and possibly no bytes. -/
  | stringOfLength (noBytes : Bool) (length : Int)

/-- How many levels of lists are opened when a value is shown. -/
def shownDepth : Nat := 6

/-- What an operation of a hand-written member answered. -/
inductive CallReply where
  | nothing
  | counts (slots args : Nat)
  | flag (value : Bool)
  | summary (text : String)
  | slotType (outcome : Except HostError SlotType)
  | reading (outcome : Except HostError Reading)
  | done (outcome : Except HostError Unit)
  | object (object : Option HostObject)
  /-- The object that was detached from its instance, and the token of that instance. -/
  | released (token : Option Token) (object : Option HostObject)
  | int (value : Option Int64)
  | text (value : Option String)
  | nested (values : Option (Int64 × Option Int64))

/-- A call from the machine into its host. -/
inductive HostCall where
  | bindMethod (module className : String) (isStatic : Bool) (signature : String)
  | bindClass (module className : String)
  | invoke (id : Nat)
  | allocate (id : Nat)
  | finalize (token : Token)
  | write (text : String)
  | report (event : StackFrame)

/-- One thing that happened. -/
inductive Entry where
  /-- A script declared a class. -/
  | declared (value : Shown)
  /-- A construction or an invocation gave a value. -/
  | value (value : Shown)
  /-- A script caught an error. -/
  | caught (error : Shown)
  /-- A script looked at the window. -/
  | slots (values : List Shown)
  /-- A script, or the host, carried out an operation on the window. -/
  | slot (reply : WindowReply)
  /-- A hand-written member did something. -/
  | raw (reply : CallReply)
  /-- A hand-written class was bound; `finalize` says whether a finalizer is there yet. -/
  | classMethods (finalize : Bool)
  | finalized (name : String) (object : HostObject) (freed : Bool)
  | onWrite (label text : String)
  | onError (label : String) (event : StackFrame)
  /-- A machine was made with these heap settings. -/
  | newVm (initialHeap minHeap : Nat) (growthPercent : Int)
  /-- A window of that many slots was asked for and not made. -/
  | tooManySlots (count : Int)
  /-- How many of several requests to bind a method were granted. -/
  | bound (count : Nat)
  /-- How many of several requests to bind a class gave an allocator and a finalizer. -/
  | boundClass (allocate finalize : Nat)
  /-- A construction or an invocation was aborted. -/
  | aborted (error : Shown)
  /-- Whether a class had a finalizer to be run. -/
  | finalizer (present : Bool)
  | hostCall (call : HostCall)
  | remark (text : String)

/-- A machine on which things are put on record. -/
class Chronicle (W : Type) where
  note : W → Entry → W
  /-- Whether the machine has been freed. -/
  freed : W → Bool

end ScriptHost
