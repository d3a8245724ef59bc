/-
No place of a heap is lost, and none is used twice.

The places of a heap are those with an entry and those on the free list.  After an action
there are the places of before, or one for every entry if these are too few
(`Sound.length_step`), so a heap has as many places as entries were ever live at once:

* **`isGreatest_length_after`** — the number of places, told by the account of the run;
* **`keepsPlaces_after`** — the free list and the places of a heap after any run in which no
  more than `2 ^ 32` entries are live at once;
* **`not_nodup_freeList_of_crowded`** — with more of them the indices repeat, and draining them
  frees a place twice.
-/
import Mathlib.Data.List.Induction
import Mathlib.Data.List.Perm.Subperm
import Mathlib.Order.Bounds.Basic
import ScriptHost.Proofs.HeapBook

namespace ScriptHost

namespace Book

variable {α : Type}

/-- How many entries were live at the moments of a run. -/
def crowds (actions : List (HeapAction α)) : Set Nat :=
  {n | ∃ before, before <+: actions ∧ (ofRun before).live.length = n}

theorem crowds_nil : crowds ([] : List (HeapAction α)) = {0} := by
  ext n
  simp only [crowds, List.prefix_nil, exists_eq_left, Set.mem_ofPred_eq, Set.mem_singleton_iff]
  exact eq_comm

theorem crowds_concat (actions : List (HeapAction α)) (action : HeapAction α) :
    crowds (actions ++ [action]) =
      insert (ofRun (actions ++ [action])).live.length (crowds actions) := by
  ext n
  simp only [crowds, List.prefix_concat_iff, or_and_right, exists_or, exists_eq_left,
    Set.mem_ofPred_eq, Set.mem_insert_iff]
  exact or_congr_left eq_comm

theorem length_live_after_le (h : ObjectHeap α) (b : Book α) (actions : List (HeapAction α)) :
    (b.after h actions).live.length ≤ b.live.length + ObjectHeap.insertions actions := by
  induction actions generalizing h b with
  | nil => exact Nat.le_add_right _ _
  | cons a as ih =>
    have hrest := ih (h.step a) (b.step h a)
    have hstep : (b.step h a).live.length ≤ b.live.length + ObjectHeap.insertions [a] := by
      cases a with
      | insert value => simp [step, ObjectHeap.insertions]
      | get t => exact Nat.le_add_right _ _
      | modify t change => simp [step]
      | remove t => exact Nat.le_add_right_of_le (List.length_filter_le _ _)
      | drain => simp [step]
    rw [ObjectHeap.insertions_cons]
    show ((b.step h a).after (h.step a) as).live.length ≤ _
    omega

/-- A run that puts no more entries in than 32 bits number never has more at once. -/
theorem crowds_le_of_insertions {actions : List (HeapAction α)}
    (hinsertions : ObjectHeap.insertions actions ≤ UInt32.size) :
    ∀ n ∈ crowds actions, n ≤ UInt32.size := by
  rintro n ⟨before, hprefix, rfl⟩
  have hcrowd := length_live_after_le .empty empty before
  have hbefore : ObjectHeap.insertions before ≤ ObjectHeap.insertions actions :=
    hprefix.sublist.countP_le
  have hempty : (empty : Book α).live.length = 0 := rfl
  show ((empty : Book α).after .empty before).live.length ≤ _
  omega

end Book

namespace ObjectHeap

variable {α : Type}

/-- The places without an entry, in order. -/
def emptyPlaces (h : ObjectHeap α) : List Nat :=
  (List.range h.slots.length).filter fun place => (h.entryAt place).isNone

theorem mem_emptyPlaces {h : ObjectHeap α} {place : Nat} :
    place ∈ h.emptyPlaces ↔ place < h.slots.length ∧ h.entryAt place = none := by
  simp [emptyPlaces]

/-- Occupied places are counted by their slots. -/
theorem countP_entryAt (h : ObjectHeap α) :
    (List.range h.slots.length).countP (fun place => (h.entryAt place).isSome) =
      h.slots.countP (·.value.isSome) := by
  have hslots : (List.range h.slots.length).map (h.slots[·]?) = h.slots.map some := by
    refine List.ext_getElem (by simp) fun place hplace _ => ?_
    simp only [List.length_map, List.length_range] at hplace
    simp [hplace]
  have hcount := congrArg (List.countP fun slot => (slot.bind (·.value)).isSome) hslots
  rw [List.countP_map, List.countP_map] at hcount
  exact hcount

namespace Sound

variable {h : ObjectHeap α} {vacated : Nat → Nat}

/-- The free list names every empty place once, and no other place. -/
theorem perm_emptyPlaces (hs : h.Sound vacated) :
    (h.freeList.map UInt32.toNat).Perm h.emptyPlaces := by
  have hnodup : (h.freeList.map UInt32.toNat).Nodup :=
    hs.free_nodup.map fun _ _ => UInt32.toNat_inj.mp
  refine (List.perm_ext_iff_of_nodup hnodup (List.nodup_range.filter _)).mpr fun place => ?_
  change _ ↔ place ∈ h.emptyPlaces
  rw [mem_emptyPlaces, List.mem_map]
  constructor
  · rintro ⟨index, hfree, rfl⟩
    obtain ⟨slot, hslot, hempty⟩ := (hs.mem_free index).mp hfree
    exact ⟨(List.getElem?_eq_some_iff.mp hslot).1, by simp [entryAt, hslot, hempty]⟩
  · rintro ⟨hlt, hempty⟩
    -- A place there is has a number of 32 bits.
    have hindex : (UInt32.ofNat place).toNat = place :=
      UInt32.toNat_ofNat_of_lt' (Nat.lt_of_lt_of_le hlt hs.places)
    refine ⟨UInt32.ofNat place, (hs.mem_free _).mpr ?_, hindex⟩
    rw [entryAt, List.getElem?_eq_getElem hlt, Option.bind_some] at hempty
    exact ⟨h.slots[place], by rw [hindex, List.getElem?_eq_getElem hlt], hempty⟩

/-- A place has an entry or is free. -/
theorem length_eq (hs : h.Sound vacated) : h.slots.length = h.live + h.freeList.length := by
  have hfree : h.freeList.length =
      (List.range h.slots.length).countP fun place => ¬(h.entryAt place).isSome := by
    have hperm := hs.perm_emptyPlaces.length_eq
    rw [List.length_map, emptyPlaces, ← List.countP_eq_length_filter] at hperm
    rw [hperm]
    exact List.countP_congr (by simp)
  have hsplit := List.length_eq_countP_add_countP (l := List.range h.slots.length)
    (fun place => (h.entryAt place).isSome)
  rw [List.length_range, countP_entryAt, ← hs.live, ← hfree] at hsplit
  exact hsplit

/-- Putting an entry in touches no place that has one. -/
theorem insert_occupied_slot (hs : h.Sound vacated) (value : α) {place : Nat}
    (hentry : (h.entryAt place).isSome) :
    (h.insert value).2.slots[place]? = h.slots[place]? := by
  rw [hs.insert_slots, if_neg]
  rintro rfl
  simp [hs.nextPlace_free.1] at hentry

/-- After an action there are the places of before, or one for every entry if these are too
few. -/
theorem length_step (hs : h.Sound vacated) (action : HeapAction α) :
    (h.step action).slots.length = max h.slots.length (h.step action).live := by
  have hlength := hs.length_eq
  have hkeeps : ∀ h' : ObjectHeap α, h'.slots.length = h.slots.length → h'.live ≤ h.live →
      h'.slots.length = max h.slots.length h'.live := by
    intro h' hsame hle
    omega
  cases action with
  | insert value =>
    simp only [ObjectHeap.step, insert_live]
    unfold ObjectHeap.insert
    cases hfree : h.freeList with
    | nil =>
      rw [hfree] at hlength
      simp only [List.length_append, List.length_cons, List.length_nil] at hlength ⊢
      omega
    | cons index free =>
      rw [hfree] at hlength
      simp only [List.length_set, List.length_cons] at hlength ⊢
      omega
  | get t => exact hkeeps h rfl (Nat.le_refl _)
  | modify t change =>
    simp only [ObjectHeap.step, ObjectHeap.modify]
    split
    · exact hkeeps _ (List.length_set ..) (Nat.le_refl _)
    · exact hkeeps h rfl (Nat.le_refl _)
  | remove t =>
    simp only [ObjectHeap.step, ObjectHeap.remove]
    split
    · exact hkeeps _ (List.length_set ..) (Nat.sub_le _ _)
    · exact hkeeps h rfl (Nat.le_refl _)
  | drain => exact hkeeps _ (List.length_map ..) (Nat.zero_le _)

/-- A place is made only when every other has an entry, and then one. -/
theorem full_of_length_lt (hs : h.Sound vacated) {action : HeapAction α}
    (hgrows : h.slots.length < (h.step action).slots.length) :
    (∃ value, action = .insert value) ∧ h.freeList = [] ∧
      (h.step action).slots.length = h.slots.length + 1 := by
  have hstep := hs.length_step action
  have hlength := hs.length_eq
  have hmade := h.length_step_le action
  cases action with
  | insert value =>
    have hlive : (h.step (.insert value)).live = h.live + 1 := h.insert_live value
    change _ ≤ _ + 1 at hmade
    exact ⟨⟨value, rfl⟩, List.eq_nil_of_length_eq_zero (by omega), by omega⟩
  | _ =>
    -- Nothing else puts an entry in.
    change _ ≤ _ + 0 at hmade
    omega

end Sound

/-- The account of a run counts the entries after every action, also after one that makes a
place too many. -/
theorem Agrees.live_step {h : ObjectHeap α} {b : Book α} (hb : h.Agrees b)
    (action : HeapAction α) : (h.step action).live = (b.step h action).live.length := by
  cases action with
  | insert value =>
    rw [ObjectHeap.step, insert_live, hb.size]
    simp [Book.step]
  | get t => exact hb.size
  | modify t change => exact (hb.modify t change).size
  | remove t => exact (hb.remove t).size
  | drain => rfl

/-- There are as many places as entries were ever live at once. -/
theorem isGreatest_length_after (actions : List (HeapAction α))
    (hcrowd : ∀ n ∈ Book.crowds actions, n ≤ UInt32.size) :
    IsGreatest (Book.crowds actions) (empty.after actions).slots.length := by
  induction actions using List.reverseRecOn with
  | nil =>
    rw [Book.crowds_nil]
    exact isGreatest_singleton
  | append_singleton actions action ih =>
    rw [Book.crowds_concat] at hcrowd ⊢
    have hgreatest := ih fun n hn => hcrowd n (Set.mem_insert_of_mem _ hn)
    -- Up to here 32 bits number the places, since there are no more than there were entries.
    have hfit := hcrowd _ (Set.mem_insert_of_mem _ hgreatest.1)
    have hstep := (sound_after actions hfit).length_step action
    rw [(agrees_ofRun actions hfit).live_step] at hstep
    have hbook : Book.ofRun (actions ++ [action]) =
        (Book.ofRun actions).step (empty.after actions) action :=
      Book.after_append empty Book.empty actions [action]
    rw [after_append, after_cons, after_nil, hstep, max_comm, hbook]
    exact hgreatest.insert _

/-- What it means for a heap to keep its places in order after a run. -/
structure KeepsPlaces (actions : List (HeapAction α)) : Prop where
  /-- The free list names every empty place once, and no occupied one. -/
  free : ((empty.after actions).freeList.map UInt32.toNat).Perm (empty.after actions).emptyPlaces
  /-- The next entry is put into a place that has none. -/
  insert_keeps : ∀ value place, ((empty.after actions).entryAt place).isSome →
    ((empty.after actions).insert value).2.slots[place]? = (empty.after actions).slots[place]?
  /-- A place has an entry or is free. -/
  places : (empty.after actions).slots.length =
    (empty.after actions).size + (empty.after actions).freeList.length
  /-- The size is the number of entries put in and not handed back yet. -/
  size : (empty.after actions).size = (Book.ofRun actions).live.length
  /-- There are as many places as entries were ever live at once. -/
  greatest : IsGreatest (Book.crowds actions) (empty.after actions).slots.length
  /-- A place is made for an entry put in when every place has one. -/
  grows : ∀ action,
    (empty.after actions).slots.length < ((empty.after actions).step action).slots.length →
      (∃ value, action = .insert value) ∧
        (∀ place < (empty.after actions).slots.length,
          ((empty.after actions).entryAt place).isSome) ∧
        ((empty.after actions).step action).slots.length = (empty.after actions).slots.length + 1

/-- A heap keeps its places in order after every run in which no more entries are live at once
than 32 bits number. -/
theorem keepsPlaces_after (actions : List (HeapAction α))
    (hcrowd : ∀ n ∈ Book.crowds actions, n ≤ UInt32.size) : KeepsPlaces actions := by
  have hgreatest := isGreatest_length_after actions hcrowd
  have hfit := hcrowd _ hgreatest.1
  have hs := sound_after actions hfit
  refine ⟨hs.perm_emptyPlaces, fun value _ => hs.insert_occupied_slot value, hs.length_eq,
    (agrees_ofRun actions hfit).size, hgreatest, fun action hgrows => ?_⟩
  obtain ⟨hinsert, hfree, hone⟩ := hs.full_of_length_lt hgrows
  refine ⟨hinsert, fun place hplace => ?_, hone⟩
  -- With nothing on the free list no place is empty.
  have hfull := hs.perm_emptyPlaces
  rw [hfree, List.map_nil, List.nil_perm] at hfull
  have hnot : place ∉ (empty.after actions).emptyPlaces := by simp [hfull]
  rw [mem_emptyPlaces] at hnot
  exact Option.isSome_iff_ne_none.mpr fun hnone => hnot ⟨hplace, hnone⟩

/-- A run with stale and unknown tokens, and with a drain that finds a place free. -/
theorem keepsPlaces_draining :
    (∀ n ∈ Book.crowds (α := Nat)
        [.insert 1, .insert 2, .remove ⟨0, 0⟩, .remove ⟨0, 0⟩, .remove ⟨7, 3⟩, .drain, .insert 3],
      n ≤ UInt32.size) ∧
    KeepsPlaces (α := Nat)
      [.insert 1, .insert 2, .remove ⟨0, 0⟩, .remove ⟨0, 0⟩, .remove ⟨7, 3⟩, .drain, .insert 3] :=
  ⟨Book.crowds_le_of_insertions (by decide),
    keepsPlaces_after _ (Book.crowds_le_of_insertions (by decide))⟩

/-! ### More entries than 32 bits number -/

theorem after_replicate_insert (value : α) (n : Nat) :
    empty.after (List.replicate n (.insert value)) =
      ⟨List.replicate n ⟨0, some value⟩, [], n⟩ := by
  induction n with
  | zero => rfl
  | succ n ih =>
    rw [List.replicate_succ', after_append, ih, after_cons, after_nil, List.replicate_succ']
    rfl

theorem length_occupied (base : Nat) (slots : List (HeapSlot α)) :
    (occupied base slots).length = slots.countP (·.value.isSome) := by
  induction slots generalizing base with
  | nil => rfl
  | cons slot slots ih =>
    rw [occupied, List.length_append, ih, List.countP_cons]
    split <;> rfl

/-- There are no more than `2 ^ 32` indices, so draining more entries than that frees a place
twice. -/
theorem not_nodup_freeList_of_crowded (value : α) {n : Nat} (hn : UInt32.size < n) :
    ¬(empty.after (List.replicate n (.insert value) ++ [.drain])).freeList.Nodup := by
  intro hnodup
  have hlength : (empty.after (List.replicate n (.insert value) ++ [.drain])).freeList.length
      = n := by
    rw [after_append, after_replicate_insert, after_cons, after_nil]
    show (occupied 0 _ ++ []).length = n
    simp [length_occupied, List.countP_replicate]
  have hindices : (empty.after (List.replicate n (.insert value) ++ [.drain])).freeList.map
      UInt32.toNat ⊆ List.range UInt32.size := by
    intro place hplace
    obtain ⟨index, -, rfl⟩ := List.mem_map.mp hplace
    exact List.mem_range.mpr index.toNat_lt_size
  have hle := (List.subperm_of_subset (hnodup.map fun _ _ => UInt32.toNat_inj.mp)
    hindices).length_le
  rw [List.length_map, List.length_range] at hle
  omega

/-- One entry more than there are indices, and then a drain: an index is free twice. -/
theorem not_keepsPlaces_crowded :
    let actions : List (HeapAction Nat) := List.replicate (UInt32.size + 1) (.insert 0) ++ [.drain]
    ¬(empty.after actions).freeList.Nodup ∧ ¬KeepsPlaces actions := by
  intro actions
  have hcrowded : ¬(empty.after actions).freeList.Nodup :=
    not_nodup_freeList_of_crowded 0 (Nat.lt_succ_self _)
  refine ⟨hcrowded, fun hkeeps => hcrowded ?_⟩
  -- The places are named once each, so they could only stand for different indices.
  have hplaces : (empty.after actions).emptyPlaces.Nodup := List.nodup_range.filter _
  exact (hkeeps.free.nodup_iff.mpr hplaces).of_map _

end ObjectHeap

end ScriptHost
