/-
Lists that are shared.

Slots, variables, handles and other lists that hold the same list hold its number, so all of them
see what is inserted into it, also where a list holds itself.  An index is looked at twice: when
the operation is checked, and when the place of the insertion is found.  Both agree on which
indices are good, up to the ends of the range of an index, and neither leaves that range.

* **`InMemory.ListChange`** — what everybody sees of an insertion;
* **`staysInRange`** — the computations with an index, in machine words;
* **`OffersList.insertInList_apply`**, **`OffersList.getListElement_apply`** — the two operations;
* **`VirtualMachine.insertInList_answers`** — no insertion panics;
* **`VirtualMachine.listOperations`** — all of it.
-/
import ScriptHost.InMemory.Script
import ScriptHost.Proofs.Disposal
import ScriptHost.Proofs.OperationEquations
import ScriptHost.Proofs.Sequences
import ScriptHost.Proofs.SlotRoundTrip

namespace ScriptHost

open InMemory

/-! ### Indices -/

/-- An index counts from the start, or from behind the end if it is negative. -/
def insertionPoint (length : Nat) (index : Int) : Int :=
  if 0 ≤ index then index else length + 1 + index

/-- The indices at which something can be inserted into a list of `length` elements. -/
def IsInsertionIndex (length : Nat) (index : Int) : Prop :=
  -((length : Int) + 1) ≤ index ∧ index ≤ length

instance (length : Nat) (index : Int) : Decidable (IsInsertionIndex length index) :=
  inferInstanceAs (Decidable (_ ∧ _))

theorem insertionPoint?_eq_some {length p : Nat} {index : Int} :
    insertionPoint? length index = some p ↔
      IsInsertionIndex length index ∧ (p : Int) = insertionPoint length index := by
  simp only [insertionPoint?, IsInsertionIndex, insertionPoint]
  split_ifs <;> simp <;> omega

theorem exists_insertionPoint?_eq_some {length : Nat} {index : Int}
    (h : IsInsertionIndex length index) :
    ∃ p, insertionPoint? length index = some p ∧ (p : Int) = insertionPoint length index := by
  have hpoint : ((insertionPoint length index).toNat : Int) = insertionPoint length index := by
    simp only [IsInsertionIndex, insertionPoint] at h ⊢
    split_ifs <;> omega
  exact ⟨_, insertionPoint?_eq_some.mpr ⟨h, hpoint⟩, hpoint⟩

theorem insertionPoint?_eq_none {length : Nat} {index : Int} (h : ¬IsInsertionIndex length index) :
    insertionPoint? length index = none :=
  Option.eq_none_iff_forall_ne_some.mpr fun _ hpoint => h (insertionPoint?_eq_some.mp hpoint).1

/-- The number of elements as an index; a list too long for that counts as the longest. -/
def lengthWord (length : Nat) : Int64 :=
  Int64.ofInt (min length VirtualMachine.greatestIndex : Nat)

theorem greatestIndex_eq : VirtualMachine.greatestIndex = 2 ^ 63 - 1 := by
  decide

theorem toInt_lengthWord (length : Nat) :
    (lengthWord length).toInt = (min length VirtualMachine.greatestIndex : Nat) :=
  have hmax := greatestIndex_eq
  Int64.toInt_ofInt_of_le (by omega) (by omega)

/-- The check leaves out the indices that are no good for insertions, and no others. -/
theorem outside_iff (length : Nat) (index : Int64) :
    ((min length VirtualMachine.greatestIndex : Nat) < index.toInt ∨
        index.toInt < -((min length VirtualMachine.greatestIndex : Nat) : Int) - 1) ↔
      ¬IsInsertionIndex length index.toInt := by
  have hmax := greatestIndex_eq
  have hle := index.le_toInt
  have hlt := index.toInt_lt
  unfold IsInsertionIndex
  omega

theorem toInt_add_of_mem {a b : Int64} (hle : -2 ^ 63 ≤ a.toInt + b.toInt)
    (hlt : a.toInt + b.toInt < 2 ^ 63) : (a + b).toInt = a.toInt + b.toInt := by
  rw [Int64.toInt_add]
  exact Int.bmod_eq_of_le (by omega) (by omega)

/-- The computations with the index of an insertion, in machine words: the check is what it is
without an end to the integers, and so is the place of the insertion in a list that fits into
memory. -/
structure StaysInRange (length : Nat) (index : Int64) : Prop where
  negated : (-lengthWord length).toInt = -(lengthWord length).toInt
  least : (-lengthWord length - 1).toInt = -(lengthWord length).toInt - 1
  refused : lengthWord length < index ∨ index < -lengthWord length - 1 ↔
    ¬IsInsertionIndex length index.toInt
  behind : length < VirtualMachine.greatestIndex →
    (lengthWord length + 1).toInt = (length : Int) + 1
  found : length < VirtualMachine.greatestIndex → IsInsertionIndex length index.toInt →
    (if index < 0 then lengthWord length + 1 + index else index).toInt =
      insertionPoint length index.toInt

theorem staysInRange (length : Nat) (index : Int64) : StaysInRange length index := by
  have hmax := greatestIndex_eq
  have hword := toInt_lengthWord length
  have hone : (1 : Int64).toInt = 1 := rfl
  have hnegated : (-lengthWord length).toInt = -(lengthWord length).toInt := by
    rw [Int64.toInt_neg]
    exact Int.bmod_eq_of_le (by omega) (by omega)
  have hleast : (-lengthWord length - 1).toInt = -(lengthWord length).toInt - 1 := by
    rw [Int64.toInt_sub, hnegated, hone]
    exact Int.bmod_eq_of_le (by omega) (by omega)
  -- The place behind the last element is the one sum that could leave the range.
  have hbehind (h : length < VirtualMachine.greatestIndex) :
      (lengthWord length + 1).toInt = (length : Int) + 1 := by
    rw [toInt_add_of_mem] <;> omega
  refine ⟨hnegated, hleast, ?_, hbehind, fun h hindex => ?_⟩
  · rw [Int64.lt_iff_toInt_lt, Int64.lt_iff_toInt_lt, hleast, hword]
    exact outside_iff length index
  · have hle := index.le_toInt
    unfold IsInsertionIndex at hindex
    unfold insertionPoint
    rw [apply_ite Int64.toInt]
    by_cases hneg : index < 0
    · have hbelow : index.toInt < 0 := Int64.lt_iff_toInt_lt.mp hneg
      rw [if_pos hneg, if_neg (by omega), toInt_add_of_mem (by omega) (by omega), hbehind h]
    · have habove : ¬index.toInt < 0 := fun hlt => hneg (Int64.lt_iff_toInt_lt.mpr hlt)
      rw [if_neg hneg, if_pos (by omega)]

/-! ### What is shared -/

namespace InMemory

/-- Where a machine keeps a value. -/
inductive Place where
  | slot (i : Nat)
  | global (module name : String)
  | handle (raw : RawHandle)
  | element (list index : Nat)

/-- Where a place is after an insertion into a list. -/
def Place.shifted (list point : Nat) : Place → Place
  | .element other i => .element other (if other = list ∧ point ≤ i then i + 1 else i)
  | place => place

namespace Machine

/-- The value in a place. -/
def held? (m : Machine) : Place → Option ScriptValue
  | .slot i => m.slots[i]?
  | .global module name => m.globals.lookup (module, name)
  | .handle raw => m.pinned? raw
  | .element list i => m.lists[list]?.bind (·[i]?)

/-- The elements of a list. -/
def elements? (m : Machine) : ScriptValue → Option (List ScriptValue)
  | .list id => m.lists[id]?
  | _ => none

end Machine

/-- A value was inserted into a list, and nothing else happened: all places keep what they hold,
but for the elements of the list behind the point of the insertion, which move up by one; and
whatever holds the list holds the longer one. -/
structure ListChange (m m' : Machine) (list : Nat) (elements : List ScriptValue) (point : Nat)
    (value : ScriptValue) : Prop where
  becomes : m'.elements? (.list list) = some (elements.take point ++ value :: elements.drop point)
  keeps : ∀ place, m'.held? (place.shifted list point) = m.held? place
  sees : ∀ place, m.held? place = some (.list list) →
    (m'.held? (place.shifted list point)).bind m'.elements? =
      some (elements.take point ++ value :: elements.drop point)
  others : ∀ v, v ≠ .list list → m'.elements? v = m.elements? v
  rest : { m' with lists := m.lists } = m

variable {m : Machine} {list point : Nat} {elements : List ScriptValue} {value : ScriptValue}

/-- The machine with a list replaced. -/
def Machine.withList (m : Machine) (list : Nat) (elements : List ScriptValue) : Machine :=
  { m with lists := m.lists.set list elements }

theorem Machine.elements?_withList_self (hlist : list < m.lists.length) :
    (m.withList list elements).elements? (.list list) = some elements :=
  List.getElem?_set_self hlist

theorem Machine.elements?_withList_of_ne {v : ScriptValue} (hne : v ≠ .list list) :
    (m.withList list elements).elements? v = m.elements? v := by
  cases v with
  | list other => exact List.getElem?_set_ne fun heq => hne (congrArg _ heq.symm)
  | _ => rfl

/-- Where the elements of a list are after an insertion. -/
theorem getElem?_insertIdx_shifted (i : Nat) :
    (elements.insertIdx point value)[if point ≤ i then i + 1 else i]? = elements[i]? := by
  split_ifs with hle
  · rw [List.getElem?_insertIdx_of_gt (by omega), Nat.add_sub_cancel]
  · rw [List.getElem?_insertIdx_of_lt (by omega)]

/-- Whatever was in a place is where the place is now. -/
theorem held?_shifted (hlist : m.lists[list]? = some elements) (place : Place) :
    (m.withList list (elements.insertIdx point value)).held? (place.shifted list point) =
      m.held? place := by
  have hlt : list < m.lists.length := (List.getElem?_eq_some_iff.mp hlist).1
  cases place with
  | element other i =>
    show ((m.lists.set list _)[other]?.bind (·[if other = list ∧ point ≤ i then i + 1 else i]?)) =
      m.lists[other]?.bind (·[i]?)
    by_cases heq : other = list
    · subst heq
      simp only [List.getElem?_set_self hlt, hlist, true_and, Option.bind_some]
      exact getElem?_insertIdx_shifted i
    · simp only [List.getElem?_set_ne (Ne.symm heq), heq, false_and, if_false]
  | _ => rfl

theorem listChange_insertIdx (hlist : m.lists[list]? = some elements)
    (hpoint : point ≤ elements.length) :
    ListChange m (m.withList list (elements.insertIdx point value)) list elements point value := by
  have hlt : list < m.lists.length := (List.getElem?_eq_some_iff.mp hlist).1
  have hbecomes : (m.withList list (elements.insertIdx point value)).elements? (.list list) =
      some (elements.take point ++ value :: elements.drop point) := by
    rw [Machine.elements?_withList_self hlt, insertIdx_eq_take_append value hpoint]
  refine ⟨hbecomes, held?_shifted hlist, fun place hplace => ?_,
    fun _ => Machine.elements?_withList_of_ne, rfl⟩
  rw [held?_shifted hlist, hplace]
  exact hbecomes

end InMemory

/-! ### The operations -/

/-- What is checked before an insertion. -/
def insertionCheck {W : Type} [Slots W] (w : W) (listSlot : Nat) (index : Int)
    (elementSlot : Nat) : Except HostError Unit := do
  VirtualMachine.expectList w listSlot
  checkSlot w elementSlot
  let count := Slots.listCount w listSlot
  let length : Int := (min count VirtualMachine.greatestIndex : Nat)
  if length < index ∨ index < -length - 1 then throw (.listIndexOutOfRange index count)

namespace VirtualMachine

/-- A list in one slot, a value in another, possibly the same. -/
structure OffersList (vm : VirtualMachine Machine) (listSlot elementSlot list : Nat)
    (elements : List ScriptValue) (value : ScriptValue) : Prop where
  alive : vm.disposed = false
  inSlot : vm.world.vm.slots[listSlot]? = some (.list list)
  elements : vm.world.vm.lists[list]? = some elements
  value : vm.world.vm.slots[elementSlot]? = some value

section

variable {m : Machine} {listSlot list : Nat} {elements : List ScriptValue}

theorem listIn?_of_getElem? (hslot : m.slots[listSlot]? = some (.list list))
    (hlist : m.lists[list]? = some elements) : m.listIn? listSlot = some (list, elements) := by
  simp only [Machine.listIn?, hslot, hlist, Option.map_some]

theorem expectList_of_getElem? (hslot : m.slots[listSlot]? = some (.list list)) :
    expectList m listSlot = .ok () :=
  expectType_eq_ok.mpr ⟨lt_length_of_getElem? hslot, type_of_getElem? hslot⟩

theorem listCount_of_listIn? (h : m.listIn? listSlot = some (list, elements)) :
    Slots.listCount m listSlot = elements.length := by
  show ((m.listIn? listSlot).map (·.2.length)).getD 0 = _
  rw [h]
  rfl

theorem insertElement_of_listIn? {index : Int} {element point : Nat}
    (h : m.listIn? listSlot = some (list, elements))
    (hpoint : insertionPoint? elements.length index = some point) :
    Slots.insertElement m listSlot index element =
      .ok (m.withList list (elements.insertIdx point (m.slot element))) := by
  simp only [Slots.insertElement, h, hpoint]
  rfl

/-- An index that passed the check is good for an insertion. -/
theorem insertElement_of_check {index : Int} {element : Nat}
    (h : insertionCheck m listSlot index element = .ok ()) :
    ∃ m', Slots.insertElement m listSlot index element = .ok m' := by
  cases hlist : m.listIn? listSlot with
  | none => exact ⟨m, by simp only [Slots.insertElement, hlist]; rfl⟩
  | some found =>
    obtain ⟨list, elements⟩ := found
    -- The first two checks are of the slots, the third is of the index.
    obtain ⟨_, -, h⟩ := exists_of_bind_eq_ok h
    obtain ⟨_, -, h⟩ := exists_of_bind_eq_ok h
    have hcount := listCount_of_listIn? hlist
    have hindex : IsInsertionIndex elements.length index := by
      simp only [hcount] at h
      split at h
      · cases h
      · unfold IsInsertionIndex
        omega
    obtain ⟨point, hpoint, -⟩ := exists_insertionPoint?_eq_some hindex
    exact ⟨_, insertElement_of_listIn? hlist hpoint⟩

end

variable {vm : VirtualMachine Machine} {listSlot elementSlot list : Nat}
  {elements : List ScriptValue} {value : ScriptValue}

/-- An insertion is checked, then made. -/
theorem insertInList_of_alive (h : vm.disposed = false) (listSlot : Nat) (index : Int)
    (elementSlot : Nat) :
    insertInList listSlot index elementSlot vm =
      match insertionCheck vm.world.vm listSlot index elementSlot with
      | .error e => (.ok (.error e), vm)
      | .ok () =>
        match Slots.insertElement vm.world.vm listSlot index elementSlot with
        | .ok m => (.ok (.ok ()), vm.withWindow m)
        | .error p => (.error p, vm) := by
  show (onWindow (insertionCheck · listSlot index elementSlot) >>= fun _ => inside (World.onVm?
    fun w => do pure ((), ← Slots.insertElement w listSlot index elementSlot))) vm = _
  rw [Op.bind_apply, onWindow_of_alive h]
  cases insertionCheck vm.world.vm listSlot index elementSlot with
  | error e => rfl
  | ok _ =>
    show inside (World.onVm? _) vm = _
    rw [inside_onVm?]
    cases Slots.insertElement vm.world.vm listSlot index elementSlot <;> rfl

/-- No insertion panics, whatever slots and index it is given. -/
theorem insertInList_answers (vm : VirtualMachine Machine) (listSlot : Nat) (index : Int)
    (elementSlot : Nat) :
    ∃ outcome, (insertInList listSlot index elementSlot vm).1 = .ok outcome := by
  cases hdisposed : vm.disposed with
  | true =>
    have hrefused : insertInList listSlot index elementSlot vm = (.ok (.error .disposed), vm) :=
      Attempt.perform_of_disposed hdisposed (.insertInList listSlot index elementSlot)
    exact ⟨_, congrArg Prod.fst hrefused⟩
  | false =>
    rw [insertInList_of_alive hdisposed]
    cases hcheck : insertionCheck vm.world.vm listSlot index elementSlot with
    | error e => exact ⟨_, rfl⟩
    | ok _ =>
      obtain ⟨m, hinsert⟩ := insertElement_of_check hcheck
      dsimp only
      rw [hinsert]
      exact ⟨_, rfl⟩

namespace OffersList

theorem slot_eq (h : vm.OffersList listSlot elementSlot list elements value) :
    vm.world.vm.slot elementSlot = value := by
  rw [Machine.slot, h.value]
  rfl

theorem checks (h : vm.OffersList listSlot elementSlot list elements value) :
    expectList vm.world.vm listSlot = .ok () ∧ checkSlot vm.world.vm elementSlot = .ok () ∧
      vm.world.vm.listIn? listSlot = some (list, elements) :=
  ⟨expectList_of_getElem? h.inSlot, checkSlot_of_lt (lt_length_of_getElem? h.value),
    listIn?_of_getElem? h.inSlot h.elements⟩

theorem insertionCheck_eq (h : vm.OffersList listSlot elementSlot list elements value)
    (index : Int64) :
    insertionCheck vm.world.vm listSlot index.toInt elementSlot =
      if IsInsertionIndex elements.length index.toInt then .ok ()
      else .error (.listIndexOutOfRange index.toInt elements.length) := by
  obtain ⟨hlist, hslot, hlistIn⟩ := h.checks
  unfold insertionCheck
  rw [hlist, hslot, listCount_of_listIn? hlistIn]
  show (if (_ < _ ∨ _ < _) then throw _ else pure ()) = _
  simp only [outside_iff, ite_not]
  rfl

/-- An insertion goes where its index points, or is refused. -/
theorem insertInList_apply (h : vm.OffersList listSlot elementSlot list elements value)
    (index : Int64) :
    insertInList listSlot index.toInt elementSlot vm =
      match insertionPoint? elements.length index.toInt with
      | some point =>
        (.ok (.ok ()), vm.withWindow
          (vm.world.vm.withList list (elements.insertIdx point value)))
      | none => (.ok (.error (.listIndexOutOfRange index.toInt elements.length)), vm) := by
  rw [insertInList_of_alive h.alive, h.insertionCheck_eq]
  by_cases hindex : IsInsertionIndex elements.length index.toInt
  · obtain ⟨point, hpoint, -⟩ := exists_insertionPoint?_eq_some hindex
    rw [if_pos hindex, hpoint]
    dsimp only
    rw [insertElement_of_listIn? h.checks.2.2 hpoint, h.slot_eq]
  · rw [if_neg hindex, insertionPoint?_eq_none hindex]

/-- An element is copied into its slot, or there is none. -/
theorem getListElement_apply (h : vm.OffersList listSlot elementSlot list elements value)
    (index : Nat) :
    getListElement listSlot index elementSlot vm =
      match elements[index]? with
      | some element => (.ok (.ok ()), vm.withWindow (vm.world.vm.setSlot elementSlot element))
      | none =>
        (.ok (.error (.listIndexOutOfRange (min index greatestIndex : Nat) elements.length)),
          vm) := by
  obtain ⟨hlist, hslot, hlistIn⟩ := h.checks
  unfold getListElement
  rw [changeWindow_of_alive h.alive, hlist, hslot, listCount_of_listIn? hlistIn]
  have hget : Slots.getElement vm.world.vm listSlot index elementSlot =
      vm.world.vm.setSlot elementSlot ((elements[index]?).getD .null) := by
    show vm.world.vm.setSlot elementSlot
      (((vm.world.vm.listIn? listSlot).bind (·.2[index]?)).getD .null) = _
    rw [hlistIn]
    rfl
  rw [hget]
  -- The copy is made in any case; the check that comes first decides whether it counts.
  by_cases hindex : elements.length ≤ index
  · rw [List.getElem?_eq_none hindex]
    dsimp only [bind, Except.bind]
    rw [if_pos hindex]
    rfl
  · rw [List.getElem?_eq_getElem (Nat.not_le.mp hindex)]
    dsimp only [bind, Except.bind]
    rw [if_neg hindex]
    rfl

/-- Where an index is good, the value is inserted there. -/
theorem exists_insertInList_eq (h : vm.OffersList listSlot elementSlot list elements value)
    {index : Int64} (hindex : IsInsertionIndex elements.length index.toInt) :
    ∃ (m' : Machine) (point : Nat), insertInList listSlot index.toInt elementSlot vm =
        (.ok (.ok ()), vm.withWindow m') ∧
      (point : Int) = insertionPoint elements.length index.toInt ∧
      ListChange vm.world.vm m' list elements point value := by
  obtain ⟨point, hfound, hpoint⟩ := exists_insertionPoint?_eq_some hindex
  refine ⟨_, point, by rw [h.insertInList_apply, hfound], hpoint, ?_⟩
  refine listChange_insertIdx h.elements ?_
  unfold IsInsertionIndex at hindex
  unfold insertionPoint at hpoint
  split at hpoint <;> omega

theorem insertInList_eq_error (h : vm.OffersList listSlot elementSlot list elements value)
    {index : Int64} (hindex : ¬IsInsertionIndex elements.length index.toInt) :
    insertInList listSlot index.toInt elementSlot vm =
      (.ok (.error (.listIndexOutOfRange index.toInt elements.length)), vm) := by
  rw [h.insertInList_apply, insertionPoint?_eq_none hindex]

theorem getListElement_of_lt (h : vm.OffersList listSlot elementSlot list elements value) {k : Nat}
    (hk : k < elements.length) : getListElement listSlot k elementSlot vm =
      (.ok (.ok ()), vm.withWindow (vm.world.vm.setSlot elementSlot elements[k])) := by
  rw [h.getListElement_apply, List.getElem?_eq_getElem hk]

theorem getListElement_of_ge (h : vm.OffersList listSlot elementSlot list elements value) {k : Nat}
    (hk : elements.length ≤ k) : getListElement listSlot k elementSlot vm =
      (.ok (.error (.listIndexOutOfRange (min k greatestIndex : Nat) elements.length)), vm) := by
  rw [h.getListElement_apply, List.getElem?_eq_none hk]

end OffersList

/-- What is done to a list that is in one slot, with what is in another.  Insertions answer for
any slots and indices. -/
structure ListOperations (vm : VirtualMachine Machine) (listSlot elementSlot list : Nat)
    (elements : List ScriptValue) (value : ScriptValue) : Prop where
  succeeds : ∀ index : Int64, (insertInList listSlot index.toInt elementSlot vm).1 = .ok (.ok ()) ↔
    IsInsertionIndex elements.length index.toInt
  inserts : ∀ index : Int64, IsInsertionIndex elements.length index.toInt →
    ∃ (m' : Machine) (point : Nat), insertInList listSlot index.toInt elementSlot vm =
        (.ok (.ok ()), vm.withWindow m') ∧
      (point : Int) = insertionPoint elements.length index.toInt ∧
      ListChange vm.world.vm m' list elements point value
  refuses : ∀ index : Int64, ¬IsInsertionIndex elements.length index.toInt →
    insertInList listSlot index.toInt elementSlot vm =
      (.ok (.error (.listIndexOutOfRange index.toInt elements.length)), vm)
  inRange : ∀ index, StaysInRange elements.length index
  answers : ∀ (slot : Nat) (index : Int) (other : Nat),
    ∃ outcome, (insertInList slot index other vm).1 = .ok outcome
  finds : ∀ k, (getListElement listSlot k elementSlot vm).1 = .ok (.ok ()) ↔ k < elements.length
  copies : ∀ (k : Nat) (h : k < elements.length),
    ∃ m', getListElement listSlot k elementSlot vm = (.ok (.ok ()), vm.withWindow m') ∧
      m'.slots[elementSlot]? = some elements[k] ∧ ChangesSlot vm.world.vm m' elementSlot
  misses : ∀ k, elements.length ≤ k → getListElement listSlot k elementSlot vm =
    (.ok (.error (.listIndexOutOfRange (min k greatestIndex : Nat) elements.length)), vm)

/-- Whatever shares a list sees what is inserted into it, and an element is copied from it into
any slot, its own included. -/
theorem listOperations (h : vm.OffersList listSlot elementSlot list elements value) :
    vm.ListOperations listSlot elementSlot list elements value := by
  have hslot : elementSlot < vm.world.vm.slots.length := lt_length_of_getElem? h.value
  refine ⟨fun index => ⟨fun hok => ?_, fun hindex => ?_⟩, fun _ => h.exists_insertInList_eq,
    fun _ => h.insertInList_eq_error, staysInRange elements.length, insertInList_answers vm,
    fun k => ⟨fun hok => ?_, fun hk => ?_⟩,
    fun k hk => ⟨_, h.getListElement_of_lt hk, ?_, changesSlot_setSlot hslot _⟩,
    fun _ => h.getListElement_of_ge⟩
  -- What was answered tells whether the index was good, as bad ones are refused.
  · by_contra hindex
    rw [h.insertInList_eq_error hindex] at hok
    cases hok
  · obtain ⟨_, _, hinsert, -⟩ := h.exists_insertInList_eq hindex
    rw [hinsert]
  · by_contra hk
    rw [h.getListElement_of_ge (Nat.not_lt.mp hk)] at hok
    cases hok
  · rw [h.getListElement_of_lt hk]
  · rw [Machine.slots_setSlot _ _ hslot, List.getElem?_set_self hslot]

/-- A list that holds itself, and that two slots, a variable and a handle share with it. -/
def cyclic : VirtualMachine Machine :=
  let machine : Machine :=
    { Machine.bare with
      slots := [.list 0, .list 0]
      globals := [(("main", "xs"), .list 0)]
      handles := [some (.list 0)]
      lists := [[.list 0, .bool true]] }
  (new .default 0 machine).2

/-- The list is inserted into itself once more; the least of all indices is refused; and the other
element replaces the list in its own slot. -/
theorem listOperations_cyclic :
    cyclic.OffersList 0 1 0 [.list 0, .bool true] (.list 0) ∧
      cyclic.ListOperations 0 1 0 [.list 0, .bool true] (.list 0) ∧
      (insertInList 0 (-2) 1 cyclic).2.world.vm.lists = [[.list 0, .list 0, .bool true]] ∧
      (insertInList 0 Int64.minValue.toInt 1 cyclic).1 =
        .ok (.error (.listIndexOutOfRange Int64.minValue.toInt 2)) ∧
      (getListElement 0 1 0 cyclic).2.world.vm.slots = [.bool true, .list 0] := by
  have h : cyclic.OffersList 0 1 0 [.list 0, .bool true] (.list 0) :=
    ⟨by decide, by decide, by decide, by decide⟩
  exact ⟨h, listOperations h, by decide, by decide, by decide⟩

end VirtualMachine

end ScriptHost
