/-
What holds of a heap at every moment of its life.

A heap that started out empty is `Sound`: the free list names exactly the empty places,
each of them once, and the generation of a place counts, modulo `2 ^ 32`, how often it
has been vacated.  Every action keeps this:

* **`sound_empty`** — an empty heap is sound, nothing having been vacated;
* **`Sound.step`** — so is a sound heap after an action, the places the action vacated
  counted once more;
* **`Sound.after`** — so is a sound heap after a run, as long as 32 bits number its places.

The laws of lookup (`get?_insert`, `get?_modify`, `get?_remove`, `get?_drain`) say what
each action does to the entries.
-/
import ScriptHost.ObjectHeap

namespace ScriptHost

/-- One thing that is done to a heap. -/
inductive HeapAction (α : Type) where
  | insert (value : α)
  | get (token : Token)
  | modify (token : Token) (change : α → α)
  | remove (token : Token)
  | drain

/-- The place a token names. -/
def Token.place (t : Token) : Nat :=
  t.index.toNat

theorem Token.eq_iff {t t' : Token} :
    t = t' ↔ t.place = t'.place ∧ t.generation = t'.generation := by
  unfold Token.place
  rw [UInt32.toNat_inj]
  cases t
  cases t'
  simp

namespace ObjectHeap

variable {α : Type}

/-- The heap after an action. -/
def step (h : ObjectHeap α) : HeapAction α → ObjectHeap α
  | .insert value => (h.insert value).2
  | .get _ => h
  | .modify t change => h.modify t change
  | .remove t => (h.remove t).2
  | .drain => h.drain.2

/-- The heap after a run of actions. -/
def after (h : ObjectHeap α) (actions : List (HeapAction α)) : ObjectHeap α :=
  actions.foldl step h

/-- The entry in a place. -/
def entryAt (h : ObjectHeap α) (place : Nat) : Option α :=
  h.slots[place]?.bind (·.value)

/-- Whether an action takes the entry out of a place. -/
def vacates (h : ObjectHeap α) (action : HeapAction α) (place : Nat) : Bool :=
  (h.entryAt place).isSome && ((h.step action).entryAt place).isNone

/-- How often a place is vacated in a run. -/
def vacations (place : Nat) : ObjectHeap α → List (HeapAction α) → Nat
  | _, [] => 0
  | h, action :: actions =>
    (h.vacates action place).toNat + vacations place (h.step action) actions

@[simp] theorem after_nil (h : ObjectHeap α) : h.after [] = h := rfl

@[simp] theorem after_cons (h : ObjectHeap α) (action : HeapAction α)
    (actions : List (HeapAction α)) :
    h.after (action :: actions) = (h.step action).after actions := rfl

theorem after_append (h : ObjectHeap α) (as bs : List (HeapAction α)) :
    h.after (as ++ bs) = (h.after as).after bs :=
  List.foldl_append

theorem vacations_append (place : Nat) (h : ObjectHeap α) (as bs : List (HeapAction α)) :
    vacations place h (as ++ bs) = vacations place h as + vacations place (h.after as) bs := by
  induction as generalizing h with
  | nil => simp [vacations]
  | cons a as ih =>
    simp only [List.cons_append, vacations, after_cons, ih]
    omega

/-- The place the next entry is put into: the one freed last, or a new one. -/
def nextPlace (h : ObjectHeap α) : Nat :=
  match h.freeList with
  | index :: _ => index.toNat
  | [] => h.slots.length

/-- The generation of a place, zero for one not made yet. -/
def generationAt (h : ObjectHeap α) (place : Nat) : UInt32 :=
  (h.slots[place]?.map (·.generation)).getD 0

theorem insert_fst (h : ObjectHeap α) (value : α) :
    (h.insert value).1 = ⟨UInt32.ofNat h.nextPlace, h.generationAt h.nextPlace⟩ := by
  unfold insert nextPlace generationAt
  cases hfree : h.freeList with
  | nil => simp
  | cons index free => simp

theorem insert_freeList (h : ObjectHeap α) (value : α) :
    (h.insert value).2.freeList = h.freeList.tail := by
  unfold insert
  cases h.freeList <;> rfl

theorem insert_live (h : ObjectHeap α) (value : α) :
    (h.insert value).2.live = h.live + 1 := by
  unfold insert
  cases h.freeList <;> rfl

/-- The invariant of a heap whose places have been vacated `vacated place` times each. -/
structure Sound (h : ObjectHeap α) (vacated : Nat → Nat) : Prop where
  places : h.slots.length ≤ UInt32.size
  free_nodup : h.freeList.Nodup
  mem_free : ∀ index, index ∈ h.freeList ↔
    ∃ slot, h.slots[index.toNat]? = some slot ∧ slot.value = none
  generation : ∀ place slot, h.slots[place]? = some slot →
    slot.generation = UInt32.ofNat (vacated place)
  unused : ∀ place, h.slots.length ≤ place → vacated place = 0
  live : h.live = h.slots.countP (·.value.isSome)

theorem sound_empty : (empty : ObjectHeap α).Sound fun _ => 0 where
  places := by simp [empty]
  free_nodup := List.nodup_nil
  mem_free := by simp [empty]
  generation := by simp [empty]
  unused := by simp
  live := rfl

/-- A token resolves iff its place holds an entry and has the token's generation. -/
theorem get?_eq_some_iff {h : ObjectHeap α} {t : Token} {value : α} :
    h.get? t = some value ↔ h.slots[t.place]? = some ⟨t.generation, some value⟩ := by
  unfold get? Token.place
  constructor
  · intro hget
    split at hget
    · rename_i slot hslot
      split at hget
      · rename_i hgen
        rw [hslot]
        obtain ⟨generation, entry⟩ := slot
        simp only at hgen hget
        rw [hgen, hget]
      · simp at hget
    · simp at hget
  · intro hslot
    simp [hslot]

namespace Sound

variable {h : ObjectHeap α} {vacated : Nat → Nat}

/-- The next place is free, and one of the places there are or the one right after. -/
theorem nextPlace_free (hs : h.Sound vacated) :
    h.entryAt h.nextPlace = none ∧ h.nextPlace ≤ h.slots.length := by
  unfold entryAt nextPlace
  cases hfree : h.freeList with
  | nil => simp
  | cons index free =>
    obtain ⟨slot, hslot, hempty⟩ := (hs.mem_free index).mp (by simp [hfree])
    have hlt := (List.getElem?_eq_some_iff.mp hslot).1
    exact ⟨by simp [hslot, hempty], by simpa using Nat.le_of_lt hlt⟩

/-- The generation the next token gets counts how often its place has been vacated. -/
theorem generationAt_eq (hs : h.Sound vacated) (place : Nat) :
    h.generationAt place = UInt32.ofNat (vacated place) := by
  unfold generationAt
  cases hslot : h.slots[place]? with
  | none =>
    rw [hs.unused place (List.getElem?_eq_none_iff.mp hslot)]
    rfl
  | some slot => simpa using hs.generation place slot hslot

theorem insert_slots (hs : h.Sound vacated) (value : α) (place : Nat) :
    (h.insert value).2.slots[place]? =
      if place = h.nextPlace then some ⟨h.generationAt h.nextPlace, some value⟩
      else h.slots[place]? := by
  have hnext := hs.nextPlace_free
  unfold insert nextPlace generationAt
  unfold nextPlace entryAt at hnext
  cases hfree : h.freeList with
  | nil =>
    -- A new place is made behind all others.
    by_cases hp : place = h.slots.length
    · simp [hp]
    · rcases Nat.lt_or_ge place h.slots.length with hlt | hge
      · simp [hp, List.getElem?_append_left hlt]
      · have hgt : h.slots.length < place := by omega
        rw [List.getElem?_eq_none (by simp; omega), if_neg hp, List.getElem?_eq_none hge]
  | cons index free =>
    -- A free place is used again, and keeps its generation.
    obtain ⟨slot, hslot, -⟩ := (hs.mem_free index).mp (by simp [hfree])
    have hlt := (List.getElem?_eq_some_iff.mp hslot).1
    by_cases hp : place = index.toNat
    · simp [hp, hlt]
    · rw [List.getElem?_set_ne (Ne.symm hp), if_neg hp]

theorem insert_length (hs : h.Sound vacated) (value : α) :
    (h.insert value).2.slots.length = max h.slots.length (h.nextPlace + 1) := by
  have hnext := hs.nextPlace_free.2
  unfold insert nextPlace
  unfold nextPlace at hnext
  cases hfree : h.freeList with
  | nil => simp
  | cons index free =>
    obtain ⟨slot, hslot, -⟩ := (hs.mem_free index).mp (by simp [hfree])
    have hlt := (List.getElem?_eq_some_iff.mp hslot).1
    simp only [List.length_set]
    omega

/-- The token of a new entry names the next place. -/
theorem insert_place (hs : h.Sound vacated) (value : α)
    (hfit : (h.insert value).2.slots.length ≤ UInt32.size) :
    (h.insert value).1.place = h.nextPlace := by
  rw [hs.insert_length] at hfit
  rw [insert_fst, Token.place]
  exact UInt32.toNat_ofNat_of_lt' (by omega)

theorem insert_occupied (hs : h.Sound vacated) (value : α) :
    (h.insert value).2.slots.countP (·.value.isSome) = h.slots.countP (·.value.isSome) + 1 := by
  unfold insert
  cases hfree : h.freeList with
  | nil => simp [List.countP_append]
  | cons index free =>
    obtain ⟨slot, hslot, hempty⟩ := (hs.mem_free index).mp (by simp [hfree])
    obtain ⟨hlt, rfl⟩ := List.getElem?_eq_some_iff.mp hslot
    simp [List.countP_set hlt, hempty]

theorem insert (hs : h.Sound vacated) (value : α)
    (hfit : (h.insert value).2.slots.length ≤ UInt32.size) : (h.insert value).2.Sound vacated where
  places := hfit
  free_nodup := by
    rw [insert_freeList]
    exact hs.free_nodup.sublist (List.tail_sublist _)
  mem_free index := by
    rw [insert_freeList, hs.insert_slots]
    have hfree := hs.mem_free index
    have hnodup := hs.free_nodup
    have hnext := hs.nextPlace_free.1
    by_cases hp : index.toNat = h.nextPlace
    · rw [if_pos hp]
      constructor
      · intro hmem
        -- The next place is the head of the free list, which has no place twice.
        unfold nextPlace at hp
        cases hlist : h.freeList with
        | nil => simp [hlist] at hmem
        | cons first free =>
          rw [hlist] at hp hmem hnodup
          rw [UInt32.toNat_inj.mp hp] at hmem
          exact absurd hmem (List.nodup_cons.mp hnodup).1
      · rintro ⟨slot, hslot, hempty⟩
        simp only [Option.some.injEq] at hslot
        simp [← hslot] at hempty
    · -- No other place leaves the free list or comes to it.
      rw [if_neg hp, ← hfree]
      unfold nextPlace at hp
      cases hlist : h.freeList with
      | nil => simp
      | cons first free =>
        simp only [hlist, UInt32.toNat_inj] at hp
        simp [hp]
  generation place slot hslot := by
    rw [hs.insert_slots] at hslot
    by_cases hp : place = h.nextPlace
    · rw [if_pos hp, Option.some.injEq] at hslot
      rw [← hslot, hp]
      exact hs.generationAt_eq _
    · rw [if_neg hp] at hslot
      exact hs.generation place slot hslot
  unused place hplace := by
    rw [hs.insert_length] at hplace
    exact hs.unused place (by omega)
  live := by
    rw [insert_live, hs.insert_occupied, hs.live]

end Sound

section

variable {h : ObjectHeap α} {t : Token} {value : α}

theorem slots_of_get? (hget : h.get? t = some value) :
    h.slots[t.place]? = some ⟨t.generation, some value⟩ :=
  get?_eq_some_iff.mp hget

theorem modify_slots (hget : h.get? t = some value) (change : α → α) (place : Nat) :
    (h.modify t change).slots[place]? =
      if place = t.place then some ⟨t.generation, some (change value)⟩
      else h.slots[place]? := by
  have hlt := (List.getElem?_eq_some_iff.mp (slots_of_get? hget)).1
  unfold Token.place at hlt ⊢
  simp only [modify, hget]
  by_cases hp : place = t.index.toNat
  · simp [hp, hlt]
  · rw [List.getElem?_set_ne (Ne.symm hp), if_neg hp]

theorem remove_slots (hget : h.get? t = some value) (place : Nat) :
    (h.remove t).2.slots[place]? =
      if place = t.place then some ⟨t.generation + 1, none⟩ else h.slots[place]? := by
  have hlt := (List.getElem?_eq_some_iff.mp (slots_of_get? hget)).1
  unfold Token.place at hlt ⊢
  simp only [remove, hget]
  by_cases hp : place = t.index.toNat
  · simp [hp, hlt]
  · rw [List.getElem?_set_ne (Ne.symm hp), if_neg hp]

theorem drain_slots (h : ObjectHeap α) (place : Nat) :
    h.drain.2.slots[place]? = h.slots[place]?.map HeapSlot.vacated :=
  List.getElem?_map

end

theorem modify_of_get?_eq_none {h : ObjectHeap α} {t : Token} (hget : h.get? t = none)
    (change : α → α) : h.modify t change = h := by
  simp [modify, hget]

theorem remove_of_get?_eq_none {h : ObjectHeap α} {t : Token} (hget : h.get? t = none) :
    h.remove t = (none, h) := by
  simp [remove, hget]

theorem remove_fst (h : ObjectHeap α) (t : Token) : (h.remove t).1 = h.get? t := by
  unfold remove
  cases h.get? t <;> rfl

@[simp] theorem vacated_value (slot : HeapSlot α) : slot.vacated.value = none := by
  obtain ⟨generation, _ | value⟩ := slot <;> rfl

theorem vacated_generation (slot : HeapSlot α) :
    slot.vacated.generation = slot.generation + if slot.value.isSome then 1 else 0 := by
  obtain ⟨generation, _ | value⟩ := slot <;> simp [HeapSlot.vacated]

/-- The occupied places of a run of slots starting at `base`, as far as 32 bits number
them. -/
theorem mem_occupied {base : Nat} {slots : List (HeapSlot α)}
    (hfit : base + slots.length ≤ UInt32.size) (index : UInt32) :
    index ∈ occupied base slots ↔
      ∃ place slot, slots[place]? = some slot ∧ slot.value.isSome ∧
        index.toNat = base + place := by
  induction slots generalizing base with
  | nil => simp [occupied]
  | cons first slots ih =>
    simp only [List.length_cons] at hfit
    have hbase : index = UInt32.ofNat base ↔ index.toNat = base := by
      rw [← UInt32.toNat_inj, UInt32.toNat_ofNat_of_lt' (by omega)]
    have hrest : base + 1 + slots.length ≤ UInt32.size := by omega
    -- A place is the first one, or one of the rest, whose numbers start one higher.
    simp only [occupied, List.mem_append, ih hrest]
    constructor
    · rintro (⟨place, slot, hslot, hsome, hindex⟩ | hmem)
      · exact ⟨place + 1, slot, by simpa using hslot, hsome, by omega⟩
      · split at hmem
        · rename_i hsome
          exact ⟨0, first, rfl, hsome, by simpa [hbase] using hmem⟩
        · simp at hmem
    · rintro ⟨place, slot, hslot, hsome, hindex⟩
      cases place with
      | zero =>
        simp only [List.getElem?_cons_zero, Option.some.injEq] at hslot
        subst hslot
        right
        simpa [hsome, hbase] using hindex
      | succ place =>
        left
        exact ⟨place, slot, by simpa using hslot, hsome, by omega⟩

theorem nodup_occupied {base : Nat} {slots : List (HeapSlot α)}
    (hfit : base + slots.length ≤ UInt32.size) : (occupied base slots).Nodup := by
  induction slots generalizing base with
  | nil => exact List.nodup_nil
  | cons first slots ih =>
    simp only [List.length_cons] at hfit
    rw [occupied, List.nodup_append]
    refine ⟨ih (by omega), ?_, ?_⟩
    · split
      · simp
      · exact List.nodup_nil
    · -- The rest is numbered from `base + 1` on, so `base` is not among it.
      intro a ha b hb hab
      obtain ⟨place, slot, -, -, hindex⟩ := (mem_occupied (by omega) a).mp ha
      split at hb
      · simp only [List.mem_singleton] at hb
        rw [hab, hb, UInt32.toNat_ofNat_of_lt' (by omega)] at hindex
        omega
      · simp at hb

namespace Sound

variable {h : ObjectHeap α} {vacated : Nat → Nat} {t : Token} {value : α}

theorem modify (hs : h.Sound vacated) (hget : h.get? t = some value) (change : α → α) :
    (h.modify t change).Sound vacated := by
  have hslot := slots_of_get? hget
  have hlt := (List.getElem?_eq_some_iff.mp hslot).1
  have hslots : (h.modify t change).slots =
      h.slots.set t.place ⟨t.generation, some (change value)⟩ := by
    simp [ObjectHeap.modify, hget, Token.place]
  have hfree : (h.modify t change).freeList = h.freeList := by
    simp [ObjectHeap.modify, hget]
  have hlive : (h.modify t change).live = h.live := by
    simp [ObjectHeap.modify, hget]
  refine ⟨?_, ?_, ?_, ?_, ?_, ?_⟩
  · rw [hslots, List.length_set]
    exact hs.places
  · rw [hfree]
    exact hs.free_nodup
  · intro index
    rw [hfree, hs.mem_free, modify_slots hget]
    by_cases hp : index.toNat = t.place
    · simp [hp, hslot]
    · simp [hp]
  · intro place slot hplace
    rw [modify_slots hget] at hplace
    by_cases hp : place = t.place
    · rw [if_pos hp, Option.some.injEq] at hplace
      have hgen := hs.generation t.place _ hslot
      rw [← hplace, hp]
      exact hgen
    · rw [if_neg hp] at hplace
      exact hs.generation place slot hplace
  · intro place hplace
    rw [hslots, List.length_set] at hplace
    exact hs.unused place hplace
  · have hat := (List.getElem?_eq_some_iff.mp hslot).2
    rw [hlive, hslots, hs.live, List.countP_set hlt, hat]
    -- The place was occupied and still is; the count loses it and gets it back.
    have hpos : 0 < h.slots.countP (·.value.isSome) :=
      List.countP_pos_iff.mpr ⟨_, List.mem_of_getElem? hslot, rfl⟩
    simp only [Option.isSome_some, ↓reduceIte]
    omega

/-- Taking an entry out counts its place as vacated once more. -/
theorem remove (hs : h.Sound vacated) (hget : h.get? t = some value) :
    (h.remove t).2.Sound fun place => vacated place + (decide (place = t.place)).toNat := by
  have hslot := slots_of_get? hget
  have hlt := (List.getElem?_eq_some_iff.mp hslot).1
  have hslots : (h.remove t).2.slots = h.slots.set t.place ⟨t.generation + 1, none⟩ := by
    simp [ObjectHeap.remove, hget, Token.place]
  have hfree : (h.remove t).2.freeList = t.index :: h.freeList := by
    simp [ObjectHeap.remove, hget]
  have hlive : (h.remove t).2.live = h.live - 1 := by
    simp [ObjectHeap.remove, hget]
  refine ⟨?_, ?_, ?_, ?_, ?_, ?_⟩
  · rw [hslots, List.length_set]
    exact hs.places
  · rw [hfree, List.nodup_cons]
    refine ⟨fun hmem => ?_, hs.free_nodup⟩
    -- A place on the free list is empty, and this one is not.
    obtain ⟨slot, hfound, hempty⟩ := (hs.mem_free t.index).mp hmem
    have hfound : h.slots[t.place]? = some slot := hfound
    rw [hslot, Option.some.injEq] at hfound
    simp [← hfound] at hempty
  · intro index
    rw [hfree, List.mem_cons, hs.mem_free, remove_slots hget]
    have hindex : index = t.index ↔ index.toNat = t.place := UInt32.toNat_inj.symm
    by_cases hp : index.toNat = t.place
    · simp [hindex, hp]
    · simp [hindex, hp]
  · intro place slot hplace
    rw [remove_slots hget] at hplace
    by_cases hp : place = t.place
    · rw [if_pos hp, Option.some.injEq] at hplace
      have hgen := hs.generation t.place _ hslot
      simp only at hgen
      -- The generation wraps around as the count does modulo `2 ^ 32`.
      rw [← hplace, hp, hgen]
      simp
    · rw [if_neg hp] at hplace
      simpa [hp] using hs.generation place slot hplace
  · intro place hplace
    rw [hslots, List.length_set] at hplace
    rw [hs.unused place hplace]
    have hp : place ≠ t.place := by omega
    simp [hp]
  · have hat := (List.getElem?_eq_some_iff.mp hslot).2
    rw [hlive, hslots, hs.live, List.countP_set hlt, hat]
    simp

theorem drain (hs : h.Sound vacated) :
    h.drain.2.Sound fun place => vacated place + (h.entryAt place).isSome.toNat := by
  have hfit : 0 + h.slots.length ≤ UInt32.size := by simpa using hs.places
  refine ⟨?_, ?_, ?_, ?_, ?_, ?_⟩
  · simpa [ObjectHeap.drain] using hs.places
  · show (occupied 0 h.slots ++ h.freeList).Nodup
    rw [List.nodup_append]
    refine ⟨nodup_occupied hfit, hs.free_nodup, ?_⟩
    -- What is freed now was occupied, so it was not free before.
    intro a ha b hb hab
    obtain ⟨place, slot, hslot, hsome, hindex⟩ := (mem_occupied hfit a).mp ha
    obtain ⟨slot', hslot', hempty⟩ := (hs.mem_free b).mp hb
    rw [← hab, hindex, Nat.zero_add, hslot, Option.some.injEq] at hslot'
    simp [hslot', hempty] at hsome
  · intro index
    show index ∈ occupied 0 h.slots ++ h.freeList ↔ _
    rw [List.mem_append, mem_occupied hfit, hs.mem_free, drain_slots]
    constructor
    · rintro (⟨place, slot, hslot, -, hindex⟩ | ⟨slot, hslot, -⟩)
      · exact ⟨slot.vacated, by rw [hindex, Nat.zero_add, hslot]; rfl, vacated_value slot⟩
      · exact ⟨slot.vacated, by rw [hslot]; rfl, vacated_value slot⟩
    · rintro ⟨slot', hslot', -⟩
      obtain ⟨slot, hslot, -⟩ := Option.map_eq_some_iff.mp hslot'
      -- Afterwards every place is free: freed just now, or free already.
      by_cases hsome : slot.value.isSome
      · exact Or.inl ⟨index.toNat, slot, hslot, hsome, by omega⟩
      · exact Or.inr ⟨slot, hslot, by simpa using hsome⟩
  · intro place slot' hslot'
    rw [drain_slots] at hslot'
    obtain ⟨slot, hslot, rfl⟩ := Option.map_eq_some_iff.mp hslot'
    rw [vacated_generation, hs.generation place slot hslot, entryAt, hslot, Option.bind_some]
    by_cases hsome : slot.value.isSome
    · simp [hsome]
    · simp [hsome]
  · intro place hplace
    have hplace : h.slots.length ≤ place := by simpa [ObjectHeap.drain] using hplace
    rw [hs.unused place hplace, entryAt, List.getElem?_eq_none hplace]
    rfl
  · show 0 = (h.slots.map HeapSlot.vacated).countP (·.value.isSome)
    simp [List.countP_map, Function.comp_def]

end Sound

/-! ### Actions and runs -/

/-- The entry in a place, read off its slot. -/
theorem entryAt_eq_some_iff {h : ObjectHeap α} {place : Nat} {value : α} :
    h.entryAt place = some value ↔
      ∃ generation, h.slots[place]? = some ⟨generation, some value⟩ := by
  unfold entryAt
  rw [Option.bind_eq_some_iff]
  constructor
  · rintro ⟨⟨generation, entry⟩, hslot, rfl⟩
    exact ⟨generation, hslot⟩
  · rintro ⟨generation, hslot⟩
    exact ⟨_, hslot, rfl⟩

theorem entryAt_of_get? {h : ObjectHeap α} {t : Token} {value : α}
    (hget : h.get? t = some value) : h.entryAt t.place = some value :=
  entryAt_eq_some_iff.mpr ⟨_, slots_of_get? hget⟩

theorem Sound.entryAt_insert {h : ObjectHeap α} {vacated : Nat → Nat} (hs : h.Sound vacated)
    (value : α) (place : Nat) :
    (h.insert value).2.entryAt place =
      if place = h.nextPlace then some value else h.entryAt place := by
  unfold entryAt
  rw [hs.insert_slots]
  split <;> rfl

theorem entryAt_modify {h : ObjectHeap α} {t : Token} {value : α} (hget : h.get? t = some value)
    (change : α → α) (place : Nat) :
    (h.modify t change).entryAt place =
      if place = t.place then some (change value) else h.entryAt place := by
  unfold entryAt
  rw [modify_slots hget]
  split <;> rfl

theorem entryAt_remove {h : ObjectHeap α} {t : Token} {value : α} (hget : h.get? t = some value)
    (place : Nat) :
    (h.remove t).2.entryAt place = if place = t.place then none else h.entryAt place := by
  unfold entryAt
  rw [remove_slots hget]
  split <;> rfl

theorem entryAt_drain (h : ObjectHeap α) (place : Nat) : h.drain.2.entryAt place = none := by
  unfold entryAt
  rw [drain_slots]
  cases h.slots[place]? <;> simp

theorem Sound.vacates_insert {h : ObjectHeap α} {vacated : Nat → Nat} (hs : h.Sound vacated)
    (value : α) (place : Nat) : h.vacates (.insert value) place = false := by
  simp only [vacates, ObjectHeap.step, hs.entryAt_insert]
  split
  · simp
  · cases h.entryAt place <;> rfl

theorem vacates_get (h : ObjectHeap α) (t : Token) (place : Nat) :
    h.vacates (.get t) place = false := by
  simp only [vacates, ObjectHeap.step]
  cases h.entryAt place <;> rfl

theorem vacates_modify (h : ObjectHeap α) (t : Token) (change : α → α) (place : Nat) :
    h.vacates (.modify t change) place = false := by
  simp only [vacates, ObjectHeap.step]
  cases hget : h.get? t with
  | none =>
    rw [modify_of_get?_eq_none hget]
    cases h.entryAt place <;> rfl
  | some value =>
    rw [entryAt_modify hget]
    split
    · simp
    · cases h.entryAt place <;> rfl

theorem vacates_remove (h : ObjectHeap α) (t : Token) (place : Nat) :
    h.vacates (.remove t) place = ((h.get? t).isSome && decide (place = t.place)) := by
  simp only [vacates, ObjectHeap.step]
  cases hget : h.get? t with
  | none =>
    rw [remove_of_get?_eq_none hget]
    cases h.entryAt place <;> rfl
  | some value =>
    rw [entryAt_remove hget]
    by_cases hp : place = t.place
    · simp [hp, entryAt_of_get? hget]
    · simp only [hp, ↓reduceIte, decide_false, Option.isSome_some, Bool.true_and]
      cases h.entryAt place <;> rfl

theorem vacates_drain (h : ObjectHeap α) (place : Nat) :
    h.vacates .drain place = (h.entryAt place).isSome := by
  simp [vacates, ObjectHeap.step, entryAt_drain]

/-- A place is never given up. -/
theorem length_le_step (h : ObjectHeap α) (action : HeapAction α) :
    h.slots.length ≤ (h.step action).slots.length := by
  cases action with
  | insert value =>
    simp only [step, insert]
    cases h.freeList <;> simp
  | get t => exact Nat.le_refl _
  | modify t change =>
    simp only [step, modify]
    cases h.get? t <;> simp
  | remove t =>
    simp only [step, remove]
    cases h.get? t <;> simp
  | drain => simp [step, drain]

theorem length_le_after (h : ObjectHeap α) (actions : List (HeapAction α)) :
    h.slots.length ≤ (h.after actions).slots.length := by
  induction actions generalizing h with
  | nil => exact Nat.le_refl _
  | cons a as ih => exact Nat.le_trans (h.length_le_step a) (ih _)

theorem length_le_append (h : ObjectHeap α) (as bs : List (HeapAction α)) :
    (h.after as).slots.length ≤ (h.after (as ++ bs)).slots.length := by
  rw [after_append]
  exact length_le_after _ bs

namespace Sound

variable {h : ObjectHeap α} {vacated : Nat → Nat}

/-- Every action keeps a heap sound and counts the places that it vacates. -/
theorem step (hs : h.Sound vacated) (action : HeapAction α)
    (hfit : (h.step action).slots.length ≤ UInt32.size) :
    (h.step action).Sound fun place => vacated place + (h.vacates action place).toNat := by
  cases action with
  | insert value => simpa [ObjectHeap.step, hs.vacates_insert] using hs.insert value hfit
  | get t => simpa [ObjectHeap.step, vacates_get] using hs
  | modify t change =>
    simp only [vacates_modify, Bool.toNat_false, Nat.add_zero]
    cases hget : h.get? t with
    | none => simpa [ObjectHeap.step, modify_of_get?_eq_none hget] using hs
    | some value => exact hs.modify hget change
  | remove t =>
    simp only [vacates_remove]
    cases hget : h.get? t with
    | none => simpa [ObjectHeap.step, remove_of_get?_eq_none hget] using hs
    | some value => simpa [ObjectHeap.step] using hs.remove hget
  | drain => simpa only [ObjectHeap.step, vacates_drain] using hs.drain

theorem after (hs : h.Sound vacated) (actions : List (HeapAction α))
    (hfit : (h.after actions).slots.length ≤ UInt32.size) :
    (h.after actions).Sound fun place => vacated place + vacations place h actions := by
  induction actions generalizing h vacated with
  | nil => simpa [vacations] using hs
  | cons a as ih =>
    have hstep := hs.step a (Nat.le_trans (length_le_after _ as) hfit)
    simpa [vacations, Nat.add_assoc] using ih hstep hfit

end Sound

/-- A heap that started out empty is sound. -/
theorem sound_after (actions : List (HeapAction α))
    (hfit : ((empty : ObjectHeap α).after actions).slots.length ≤ UInt32.size) :
    (empty.after actions).Sound fun place => vacations place empty actions := by
  simpa using sound_empty.after actions hfit

/-! ### Laws of lookup -/

theorem get?_eq_none_of_entryAt {h : ObjectHeap α} {t : Token}
    (hempty : h.entryAt t.place = none) : h.get? t = none := by
  cases hget : h.get? t with
  | none => rfl
  | some value =>
    rw [entryAt_of_get? hget] at hempty
    simp at hempty

/-- At one place at most one generation resolves. -/
theorem get?_eq_none_of_generation_ne {h : ObjectHeap α} {t t' : Token} {value : α}
    (hget : h.get? t = some value) (hp : t'.place = t.place)
    (hg : t'.generation ≠ t.generation) : h.get? t' = none := by
  cases hfound : h.get? t' with
  | none => rfl
  | some found =>
    have hslot := slots_of_get? hfound
    rw [hp, slots_of_get? hget, Option.some.injEq, HeapSlot.mk.injEq] at hslot
    exact absurd hslot.1.symm hg

theorem Sound.get?_insert {h : ObjectHeap α} {vacated : Nat → Nat} (hs : h.Sound vacated)
    (value : α) (hfit : (h.insert value).2.slots.length ≤ UInt32.size) (t : Token) :
    (h.insert value).2.get? t = if t = (h.insert value).1 then some value else h.get? t := by
  have hplace := hs.insert_place value hfit
  have hgen : (h.insert value).1.generation = h.generationAt h.nextPlace := by rw [insert_fst]
  have hnew : (h.insert value).2.get? (h.insert value).1 = some value := by
    rw [get?_eq_some_iff, hs.insert_slots, hplace, if_pos rfl, hgen]
  by_cases hp : t.place = h.nextPlace
  · by_cases ht : t.generation = h.generationAt h.nextPlace
    · have hsame : t = (h.insert value).1 :=
        Token.eq_iff.mpr ⟨hp.trans hplace.symm, ht.trans hgen.symm⟩
      rw [if_pos hsame, hsame, hnew]
    · -- The place was empty, so a token of another generation resolved to nothing, and it
      -- still does.
      have hnone : h.get? t = none :=
        get?_eq_none_of_entryAt (by rw [hp]; exact hs.nextPlace_free.1)
      rw [if_neg (fun heq => ht ((Token.eq_iff.mp heq).2.trans hgen)), hnone]
      exact get?_eq_none_of_generation_ne hnew (hp.trans hplace.symm) (by rwa [hgen])
  · rw [if_neg (fun heq => hp ((Token.eq_iff.mp heq).1.trans hplace))]
    apply Option.ext
    intro found
    rw [get?_eq_some_iff, get?_eq_some_iff, hs.insert_slots, if_neg hp]

theorem get?_modify (h : ObjectHeap α) (t : Token) (change : α → α) (t' : Token) :
    (h.modify t change).get? t' = if t' = t then (h.get? t).map change else h.get? t' := by
  cases hget : h.get? t with
  | none =>
    rw [modify_of_get?_eq_none hget]
    split
    · rename_i ht
      rw [ht, hget]
      rfl
    · rfl
  | some value =>
    apply Option.ext
    intro found
    rw [get?_eq_some_iff, modify_slots hget]
    by_cases hp : t'.place = t.place
    -- A token of another generation resolved to nothing, and still does.
    · by_cases hg : t'.generation = t.generation
      · simp [Token.eq_iff, hp, hg]
      · have hnone := get?_eq_none_of_generation_ne hget hp hg
        simp [Token.eq_iff, hp, hg, Ne.symm hg, hnone]
    · rw [if_neg hp, if_neg (fun heq => hp (Token.eq_iff.mp heq).1), get?_eq_some_iff]

theorem get?_remove (h : ObjectHeap α) (t t' : Token) :
    (h.remove t).2.get? t' = if t' = t then none else h.get? t' := by
  cases hget : h.get? t with
  | none =>
    rw [remove_of_get?_eq_none hget]
    split
    · rename_i ht
      rw [ht, hget]
    · rfl
  | some value =>
    apply Option.ext
    intro found
    rw [get?_eq_some_iff, remove_slots hget]
    -- Other places keep their entries, and the vacated one has gone on to another generation.
    by_cases hp : t'.place = t.place
    · by_cases hg : t'.generation = t.generation
      · simp [Token.eq_iff, hp, hg]
      · have hnone := get?_eq_none_of_generation_ne hget hp hg
        simp [Token.eq_iff, hp, hg, hnone]
    · rw [if_neg hp, if_neg (fun heq => hp (Token.eq_iff.mp heq).1), get?_eq_some_iff]

theorem get?_drain (h : ObjectHeap α) (t : Token) : h.drain.2.get? t = none :=
  get?_eq_none_of_entryAt (entryAt_drain h _)

/-- An entry answers to the token made of its place and the generation there. -/
theorem Sound.get?_of_entryAt {h : ObjectHeap α} {vacated : Nat → Nat} (hs : h.Sound vacated)
    {place : Nat} {value : α} (hentry : h.entryAt place = some value) :
    h.get? ⟨UInt32.ofNat place, h.generationAt place⟩ = some value := by
  obtain ⟨generation, hslot⟩ := entryAt_eq_some_iff.mp hentry
  have hlt := (List.getElem?_eq_some_iff.mp hslot).1
  have hplaces := hs.places
  have hplace : Token.place ⟨UInt32.ofNat place, h.generationAt place⟩ = place :=
    UInt32.toNat_ofNat_of_lt' (by omega)
  rw [get?_eq_some_iff, hplace, hslot]
  simp [generationAt, hslot]

/-! ### Bounds by the number of entries put in -/

/-- How many entries a run of actions puts in. -/
def insertions (actions : List (HeapAction α)) : Nat :=
  actions.countP fun
    | .insert _ => true
    | _ => false

theorem insertions_cons (a : HeapAction α) (as : List (HeapAction α)) :
    insertions (a :: as) = insertions [a] + insertions as := by
  simp [insertions, List.countP_cons, Nat.add_comm]

theorem length_step_le (h : ObjectHeap α) (a : HeapAction α) :
    (h.step a).slots.length ≤ h.slots.length + insertions [a] := by
  cases a with
  | insert value =>
    show (h.insert value).2.slots.length ≤ h.slots.length + 1
    unfold insert
    cases h.freeList <;> simp
  | get t => simp [step]
  | modify t change =>
    simp only [step, modify]
    cases h.get? t <;> simp
  | remove t =>
    simp only [step, remove]
    cases h.get? t <;> simp
  | drain => simp [step, drain]

/-- A new place is made for an entry put in. -/
theorem length_after_le (h : ObjectHeap α) (actions : List (HeapAction α)) :
    (h.after actions).slots.length ≤ h.slots.length + insertions actions := by
  induction actions generalizing h with
  | nil => exact Nat.le_add_right _ _
  | cons a as ih =>
    have hstep := h.length_step_le a
    have hrest := ih (h.step a)
    rw [after_cons, insertions_cons]
    omega

/-- Only putting an entry in makes a place occupied. -/
theorem isSome_entryAt_step {h : ObjectHeap α} {a : HeapAction α} {place : Nat}
    (hnone : insertions [a] = 0) (hafter : ((h.step a).entryAt place).isSome) :
    (h.entryAt place).isSome := by
  cases a with
  | insert value => cases hnone
  | get t => exact hafter
  | modify t change =>
    simp only [step] at hafter
    cases hget : h.get? t with
    | none => rwa [modify_of_get?_eq_none hget] at hafter
    | some value =>
      rw [entryAt_modify hget] at hafter
      -- A change leaves an entry where it found one.
      split at hafter
      · rename_i hplace
        rw [hplace, entryAt_of_get? hget]
        rfl
      · exact hafter
  | remove t =>
    simp only [step] at hafter
    cases hget : h.get? t with
    | none => rwa [remove_of_get?_eq_none hget] at hafter
    | some value =>
      rw [entryAt_remove hget] at hafter
      split at hafter
      · cases hafter
      · exact hafter
  | drain => simp [step, entryAt_drain] at hafter

theorem Sound.vacates_le {h : ObjectHeap α} {vacated : Nat → Nat} (hs : h.Sound vacated)
    (a : HeapAction α) (place : Nat) :
    (h.vacates a place).toNat + ((h.step a).entryAt place).isSome.toNat ≤
      (h.entryAt place).isSome.toNat + insertions [a] := by
  by_cases hnone : insertions [a] = 0
  · -- The entry is taken out or stays, and nothing comes in.
    unfold vacates
    cases hafter : (h.step a).entryAt place with
    | none => cases h.entryAt place <;> simp [hnone]
    | some value =>
      have hbefore := isSome_entryAt_step hnone (by rw [hafter]; rfl)
      simp [hbefore]
  · cases a with
    | insert value =>
      have hle := Bool.toNat_le ((h.step (.insert value)).entryAt place).isSome
      rw [hs.vacates_insert value place]
      show 0 + _ ≤ _ + 1
      omega
    | _ => exact absurd rfl hnone

/-- A place is vacated at most as often as entries were put into it. -/
theorem Sound.vacations_le {h : ObjectHeap α} {vacated : Nat → Nat} (hs : h.Sound vacated)
    (place : Nat) (actions : List (HeapAction α))
    (hfit : (h.after actions).slots.length ≤ UInt32.size) :
    vacations place h actions + ((h.after actions).entryAt place).isSome.toNat ≤
      (h.entryAt place).isSome.toNat + insertions actions := by
  induction actions generalizing h vacated with
  | nil => simp [vacations]
  | cons a as ih =>
    have hrest := ih (hs.step a (Nat.le_trans (length_le_after _ as) hfit)) hfit
    have hstep := hs.vacates_le a place
    rw [vacations, after_cons, insertions_cons]
    omega

/-- 32 bits number the places of a heap after actions, and no place is vacated `2 ^ 32` times. -/
def WithinBounds (actions : List (HeapAction α)) : Prop :=
  ((empty : ObjectHeap α).after actions).slots.length ≤ UInt32.size ∧
    ∀ place, vacations place empty actions < UInt32.size

theorem WithinBounds.of_append {as bs : List (HeapAction α)} (h : WithinBounds (as ++ bs)) :
    WithinBounds as := by
  obtain ⟨hfit, hvacated⟩ := h
  refine ⟨Nat.le_trans (length_le_append _ _ _) hfit, fun place => ?_⟩
  have hplace := hvacated place
  rw [vacations_append] at hplace
  exact Nat.lt_of_le_of_lt (Nat.le_add_right _ _) hplace

/-- It takes `2 ^ 32` entries to leave the bounds. -/
theorem withinBounds_of_insertions {actions : List (HeapAction α)}
    (h : insertions actions < UInt32.size) : WithinBounds actions := by
  have hlength := length_after_le ObjectHeap.empty actions
  have hfit : (empty.after actions).slots.length ≤ UInt32.size := by
    have hempty : (empty : ObjectHeap α).slots.length = 0 := rfl
    omega
  refine ⟨hfit, fun place => ?_⟩
  have hvacations := sound_empty.vacations_le place actions hfit
  have hempty : ((empty : ObjectHeap α).entryAt place).isSome = false := by
    simp [entryAt, empty]
  rw [hempty, Bool.toNat_false] at hvacations
  omega

end ObjectHeap

end ScriptHost
