/-
A table of entries with generational keys.

An `ObjectHeap` hands out a `Token` for each entry.  Taking an entry out bumps the
generation of its place and puts the place on the free list, so a token that
outlived its entry resolves to nothing, also after the place has been used again.
Generations are 32 bits wide and wrap.
-/

namespace ScriptHost

/-- The key of an entry: its place and the generation of the place. -/
structure Token where
  index : UInt32
  generation : UInt32
deriving DecidableEq, Inhabited

/-- One place of a heap. -/
structure HeapSlot (α : Type) where
  generation : UInt32
  value : Option α

/-- A place after its entry, if it had one, has been taken out. -/
def HeapSlot.vacated {α : Type} (slot : HeapSlot α) : HeapSlot α :=
  match slot.value with
  | some _ => ⟨slot.generation + 1, none⟩
  | none => slot

/-- Places in order, the free ones among them with the next to be used at the head, and
the number of entries. -/
structure ObjectHeap (α : Type) where
  slots : List (HeapSlot α)
  freeList : List UInt32
  live : Nat

namespace ObjectHeap

variable {α : Type}

def empty : ObjectHeap α :=
  ⟨[], [], 0⟩

/-- Puts an entry into the place freed last, or into a new one. -/
def insert (h : ObjectHeap α) (value : α) : Token × ObjectHeap α :=
  match h.freeList with
  | index :: free =>
    let generation := (h.slots[index.toNat]?.map (·.generation)).getD 0
    (⟨index, generation⟩,
      ⟨h.slots.set index.toNat ⟨generation, some value⟩, free, h.live + 1⟩)
  | [] =>
    (⟨UInt32.ofNat h.slots.length, 0⟩, ⟨h.slots ++ [⟨0, some value⟩], [], h.live + 1⟩)

/-- The entry of a token; nothing if the token is stale or was never issued. -/
def get? (h : ObjectHeap α) (t : Token) : Option α :=
  match h.slots[t.index.toNat]? with
  | some slot => if slot.generation = t.generation then slot.value else none
  | none => none

def contains (h : ObjectHeap α) (t : Token) : Bool :=
  (h.get? t).isSome

/-- Changes the entry of a token in place. -/
def modify (h : ObjectHeap α) (t : Token) (f : α → α) : ObjectHeap α :=
  match h.get? t with
  | some value => { h with slots := h.slots.set t.index.toNat ⟨t.generation, some (f value)⟩ }
  | none => h

/-- Takes an entry out; the token and all its copies go stale. -/
def remove (h : ObjectHeap α) (t : Token) : Option α × ObjectHeap α :=
  match h.get? t with
  | some value =>
    (some value,
      ⟨h.slots.set t.index.toNat ⟨t.generation + 1, none⟩, t.index :: h.freeList, h.live - 1⟩)
  | none => (none, h)

/-- The indices of the occupied places among `slots`, which start at `base`, the last one
first. -/
def occupied : Nat → List (HeapSlot α) → List UInt32
  | _, [] => []
  | base, slot :: slots =>
    occupied (base + 1) slots ++ if slot.value.isSome then [UInt32.ofNat base] else []

/-- Takes all entries out, in the order of their places. -/
def drain (h : ObjectHeap α) : List α × ObjectHeap α :=
  (h.slots.filterMap (·.value),
    ⟨h.slots.map HeapSlot.vacated, occupied 0 h.slots ++ h.freeList, 0⟩)

def size (h : ObjectHeap α) : Nat :=
  h.live

def isEmpty (h : ObjectHeap α) : Bool :=
  h.live = 0

/-- A one-line summary. -/
def summary (h : ObjectHeap α) : String :=
  s!"ObjectHeap \x7b slot_count: {h.slots.length}, free_count: {h.freeList.length}, " ++
    s!"live: {h.live} \x7d"

end ObjectHeap

end ScriptHost
