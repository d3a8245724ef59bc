/-
Shared host objects.

A host object is reached by several holders at once: the table of foreign objects,
and whoever looked it up there.  They all hold an `ObjectId`, and the object itself
sits in an `ObjectStore`, so a change made through one of them is seen by all.  While
somebody works on an object it is in use, and nobody else gets at it.
-/
import ScriptHost.HostObject

namespace ScriptHost

/-- A reference to a shared object. -/
abbrev ObjectId := Nat

/-- A shared object, and whether somebody is working on it. -/
structure Cell where
  object : HostObject
  inUse : Bool

/-- Objects in the order in which they were placed. -/
structure ObjectStore where
  cells : List Cell

namespace ObjectStore

def empty : ObjectStore :=
  ⟨[]⟩

/-- Places a new object. -/
def place (s : ObjectStore) (object : HostObject) : ObjectId × ObjectStore :=
  (s.cells.length, ⟨s.cells ++ [⟨object, false⟩]⟩)

/-- The object behind a reference. -/
def get? (s : ObjectStore) (id : ObjectId) : Option HostObject :=
  s.cells[id]?.map (·.object)

/-- Replaces the object behind a reference. -/
def put (s : ObjectStore) (id : ObjectId) (object : HostObject) : ObjectStore :=
  ⟨s.cells.modify id ({ · with object := object })⟩

def isInUse (s : ObjectStore) (id : ObjectId) : Bool :=
  (s.cells[id]?.map (·.inUse)).getD false

/-- Marks an object as in use, or as free again. -/
def setInUse (s : ObjectStore) (id : ObjectId) (inUse : Bool) : ObjectStore :=
  ⟨s.cells.modify id ({ · with inUse := inUse })⟩

/-- The value behind a reference, if it is of the type. -/
def as? (s : ObjectStore) (α : Type) [HostType α] (id : ObjectId) : Option α :=
  (s.get? id).bind (HostObject.as? α)

/-- Works on the value behind a reference.  Nothing happens if the object is of another
type or in use already.  The work sees the store with the object marked. -/
def update {α β : Type} [HostType α] (s : ObjectStore) (id : ObjectId)
    (work : α → ObjectStore → β × α × ObjectStore) : Option β × ObjectStore :=
  match s.as? α id with
  | none => (none, s)
  | some a =>
    if s.isInUse id then (none, s)
    else
      let (answer, a', s') := work a (s.setInUse id true)
      (some answer, (s'.put id (HostObject.of a')).setInUse id false)

end ObjectStore

end ScriptHost
