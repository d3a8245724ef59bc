/-
The table of host objects behind foreign instances, keyed by the token kept in the
machine's memory.

The table, not the collector, owns the objects.  An entry leaves it exactly once:
when the machine finalizes the instance, when host code releases it early, or when
everything is cleared.  Leaving by the first and the last way, the entry's finalizer
is due; `finalize` and `clear` answer with the finalizers that are due, in order, and
running them is up to the caller.
-/
import ScriptHost.ObjectHeap
import ScriptHost.ObjectStore

namespace ScriptHost

/-- An object and what is to be run when it is finalized; `F` is the type of finalizers. -/
structure ForeignEntry (F : Type) where
  object : ObjectId
  finalizer : Option F

/-- A finalizer that is due, with the object it is due for. -/
structure Finalization (F : Type) where
  finalizer : F
  object : ObjectId

/-- The finalization an entry asks for, if it has a finalizer. -/
def ForeignEntry.finalizations {F : Type} (e : ForeignEntry F) : List (Finalization F) :=
  match e.finalizer with
  | some f => [⟨f, e.object⟩]
  | none => []

/-- The table of live foreign objects. -/
structure ForeignRegistry (F : Type) where
  heap : ObjectHeap (ForeignEntry F)

namespace ForeignRegistry

variable {F : Type}

def empty : ForeignRegistry F :=
  ⟨.empty⟩

def register (r : ForeignRegistry F) (object : ObjectId) (finalizer : Option F) :
    Token × ForeignRegistry F :=
  let (token, heap) := r.heap.insert ⟨object, finalizer⟩
  (token, ⟨heap⟩)

/-- The object registered under a token. -/
def resolve? (r : ForeignRegistry F) (t : Token) : Option ObjectId :=
  (r.heap.get? t).map (·.object)

/-- The object registered under a token, if it is of the type. -/
def resolveAs? (r : ForeignRegistry F) (objects : ObjectStore) (α : Type) [HostType α]
    (t : Token) : Option ObjectId :=
  (r.resolve? t).filter fun id => (objects.get? id).any (·.is α)

def contains (r : ForeignRegistry F) (t : Token) : Bool :=
  r.heap.contains t

/-- Takes an entry out ahead of collection; its finalizer will not run. -/
def release (r : ForeignRegistry F) (t : Token) : Option ObjectId × ForeignRegistry F :=
  let (entry, heap) := r.heap.remove t
  (entry.map (·.object), ⟨heap⟩)

/-- Takes an entry out because its instance was collected: whether there was one, and the
finalization that is due. -/
def finalize (r : ForeignRegistry F) (t : Token) :
    (Bool × List (Finalization F)) × ForeignRegistry F :=
  match r.heap.remove t with
  | (some entry, heap) => ((true, entry.finalizations), ⟨heap⟩)
  | (none, heap) => ((false, []), ⟨heap⟩)

/-- Takes all entries out. -/
def clear (r : ForeignRegistry F) : List (Finalization F) × ForeignRegistry F :=
  let (entries, heap) := r.heap.drain
  (entries.flatMap (·.finalizations), ⟨heap⟩)

/-- How many entries hold an object. -/
def holders (r : ForeignRegistry F) (object : ObjectId) : Nat :=
  r.heap.slots.countP fun slot => (slot.value.map (·.object)) = some object

def size (r : ForeignRegistry F) : Nat :=
  r.heap.size

def isEmpty (r : ForeignRegistry F) : Bool :=
  r.heap.isEmpty

/-- A one-line summary. -/
def summary (r : ForeignRegistry F) : String :=
  s!"ForeignRegistry \x7b heap: {r.heap.summary} \x7d"

end ForeignRegistry

end ScriptHost
