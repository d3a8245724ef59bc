/-
A heap is a map from tokens to entries.

A `Book` keeps account of a run of actions on a heap without any places: every entry
put in gets the next number, and is live, under the token the heap issued for it,
until it is handed back.  Against the book of its run a heap is judged:

* **`actsAsMap_after`** — lookup, removal, draining and size are those of the book, live
  entries have tokens of their own, no entry is handed back twice, and a token is
  issued anew exactly after its place has been vacated a positive multiple of `2 ^ 32`
  times.
-/
import Mathlib.Data.List.Nodup
import Mathlib.Tactic.Set
import ScriptHost.Proofs.HeapSoundness

namespace ScriptHost

/-- An entry that has not been handed back: its number, its token, and its value by now. -/
structure Held (α : Type) where
  number : Nat
  token : Token
  value : α

/-- The account of a run: the live entries, how many have been put in, and the numbers of
those handed back, in order. -/
structure Book (α : Type) where
  live : List (Held α)
  made : Nat
  handedBack : List Nat

namespace Book

variable {α : Type}

def empty : Book α :=
  ⟨[], 0, []⟩

/-- The live entry of a token. -/
def find? (b : Book α) (t : Token) : Option (Held α) :=
  b.live.find? (·.token = t)

/-- The live entries in the order of their places. -/
def byPlace (b : Book α) : List (Held α) :=
  b.live.mergeSort fun e e' => e.token.place ≤ e'.token.place

/-- Accounts for an action on the heap `h`, which decides on nothing but the tokens of new
entries. -/
def step (h : ObjectHeap α) (b : Book α) : HeapAction α → Book α
  | .insert value =>
    { b with live := b.live ++ [⟨b.made, (h.insert value).1, value⟩], made := b.made + 1 }
  | .get _ => b
  | .modify t change =>
    { b with
      live := b.live.map fun e => if e.token = t then { e with value := change e.value } else e }
  | .remove t =>
    { b with
      live := b.live.filter (·.token ≠ t)
      handedBack := b.handedBack ++ (b.live.filter (·.token = t)).map (·.number) }
  | .drain =>
    { b with live := [], handedBack := b.handedBack ++ b.byPlace.map (·.number) }

/-- The account of a run that starts with the heap `h`. -/
def after (h : ObjectHeap α) (b : Book α) : List (HeapAction α) → Book α
  | [] => b
  | action :: actions => after (h.step action) (b.step h action) actions

/-- The account of a run that starts with an empty heap. -/
def ofRun (actions : List (HeapAction α)) : Book α :=
  empty.after .empty actions

theorem byPlace_perm (b : Book α) : b.byPlace.Perm b.live :=
  List.mergeSort_perm _ _

theorem pairwise_byPlace (b : Book α) :
    b.byPlace.Pairwise fun e e' => e.token.place ≤ e'.token.place := by
  have hmerged : b.byPlace.Pairwise fun e e' => decide (e.token.place ≤ e'.token.place) :=
    List.pairwise_mergeSort (by simpa using fun _ _ _ => Nat.le_trans)
      (by simpa using fun _ _ => Nat.le_total _ _) b.live
  simpa using hmerged

theorem after_append (h : ObjectHeap α) (b : Book α) (as bs : List (HeapAction α)) :
    b.after h (as ++ bs) = (b.after h as).after (h.after as) bs := by
  induction as generalizing h b with
  | nil => rfl
  | cons a as ih => exact ih _ _

end Book

namespace ObjectHeap

variable {α : Type}

/-- A heap and the account of the run that led to it. -/
structure Agrees (h : ObjectHeap α) (b : Book α) : Prop where
  resolves : ∀ t value, h.get? t = some value ↔ ∃ e ∈ b.live, e.token = t ∧ e.value = value
  places_nodup : (b.live.map (·.token.place)).Nodup
  numbers : (b.handedBack ++ b.live.map (·.number)).Perm (List.range b.made)
  size : h.live = b.live.length

theorem agrees_empty : (empty : ObjectHeap α).Agrees Book.empty where
  resolves := by simp [empty, get?, Book.empty]
  places_nodup := List.nodup_nil
  numbers := List.Perm.refl _
  size := rfl

namespace Agrees

variable {h : ObjectHeap α} {b : Book α}

theorem eq_of_place (hb : h.Agrees b) {e e' : Held α} (he : e ∈ b.live) (he' : e' ∈ b.live)
    (hplace : e.token.place = e'.token.place) : e = e' :=
  List.inj_on_of_nodup_map hb.places_nodup he he' hplace

theorem live_nodup (hb : h.Agrees b) : b.live.Nodup :=
  hb.places_nodup.of_map _

theorem tokens_nodup (hb : h.Agrees b) : (b.live.map (·.token)).Nodup := by
  have hplaces := hb.places_nodup
  rw [show (fun e : Held α => e.token.place) = Token.place ∘ (·.token) from rfl,
    ← List.map_map] at hplaces
  exact hplaces.of_map _

/-- No two live entries share a place, so by place they are in strict order. -/
theorem pairwise_byPlace (hb : h.Agrees b) :
    b.byPlace.Pairwise fun e e' => e.token.place < e'.token.place := by
  have hplaces := (b.byPlace_perm.map (·.token.place)).nodup_iff.mpr hb.places_nodup
  refine (b.pairwise_byPlace.and (List.pairwise_map.mp hplaces)).imp ?_
  rintro e e' ⟨hle, hne⟩
  exact Nat.lt_of_le_of_ne hle hne

theorem get?_of_mem (hb : h.Agrees b) {e : Held α} (he : e ∈ b.live) :
    h.get? e.token = some e.value :=
  (hb.resolves _ _).mpr ⟨e, he, rfl, rfl⟩

theorem filter_token (hb : h.Agrees b) {e : Held α} (he : e ∈ b.live) :
    b.live.filter (·.token = e.token) = [e] := by
  refine List.perm_singleton.mp ?_
  refine (List.perm_ext_iff_of_nodup (hb.live_nodup.filter _) (by simp)).mpr fun e' => ?_
  simp only [List.mem_filter, decide_eq_true_eq, List.mem_singleton]
  constructor
  · rintro ⟨he', htoken⟩
    exact hb.eq_of_place he' he (by rw [htoken])
  · rintro rfl
    exact ⟨he, rfl⟩

/-- The entry of a token is the one the book has for it. -/
theorem get?_eq_find? (hb : h.Agrees b) (t : Token) : h.get? t = (b.find? t).map (·.value) := by
  unfold Book.find?
  cases hfind : b.live.find? (·.token = t) with
  | none =>
    rw [List.find?_eq_none] at hfind
    cases hget : h.get? t with
    | none => rfl
    | some value =>
      obtain ⟨e, he, htoken, -⟩ := (hb.resolves t value).mp hget
      exact absurd htoken (by simpa using hfind e he)
  | some e =>
    have htoken : e.token = t := by simpa using List.find?_some hfind
    rw [← htoken]
    exact hb.get?_of_mem (List.mem_of_find?_eq_some hfind)

theorem insert {vacated : Nat → Nat} (hs : h.Sound vacated) (hb : h.Agrees b) (value : α)
    (hfit : (h.insert value).2.slots.length ≤ UInt32.size) :
    (h.insert value).2.Agrees (b.step h (.insert value)) := by
  have hplace := hs.insert_place value hfit
  -- The next place is free, so no live entry sits there.
  have hfresh : ∀ e ∈ b.live, e.token.place ≠ h.nextPlace := by
    intro e he heq
    have hentry := entryAt_of_get? (hb.get?_of_mem he)
    rw [heq, hs.nextPlace_free.1] at hentry
    simp at hentry
  refine ⟨fun t v => ?_, ?_, ?_, ?_⟩
  · rw [hs.get?_insert value hfit]
    simp only [Book.step, List.mem_append, List.mem_singleton, or_and_right, exists_or]
    split
    · rename_i ht
      constructor
      · intro hv
        exact Or.inr ⟨_, rfl, ht.symm, by simpa using hv⟩
      · rintro (⟨e, he, htoken, -⟩ | ⟨e, rfl, -, hvalue⟩)
        · exact absurd (by rw [htoken, ht, hplace]) (hfresh e he)
        · rw [← hvalue]
    · rename_i ht
      rw [hb.resolves]
      simp [Ne.symm ht]
  · simp only [Book.step, List.map_append, List.map_cons, List.map_nil, List.nodup_append]
    refine ⟨hb.places_nodup, by simp, ?_⟩
    intro place hmem place' hmem' heq
    obtain ⟨e, he, rfl⟩ := List.mem_map.mp hmem
    rw [List.mem_singleton, hplace] at hmem'
    exact hfresh e he (heq.trans hmem')
  · simp only [Book.step, List.map_append, List.map_cons, List.map_nil, List.range_succ,
      ← List.append_assoc]
    exact hb.numbers.append_right _
  · rw [insert_live, hb.size]
    simp [Book.step]

theorem modify (hb : h.Agrees b) (t : Token) (change : α → α) :
    (h.modify t change).Agrees (b.step h (.modify t change)) := by
  set update : Held α → Held α :=
    fun e => if e.token = t then { e with value := change e.value } else e with hupdate
  have htoken : ∀ e, (update e).token = e.token := by
    intro e
    simp only [hupdate]
    split <;> rfl
  have hnumber : ∀ e, (update e).number = e.number := by
    intro e
    simp only [hupdate]
    split <;> rfl
  refine ⟨fun t' v => ?_, ?_, ?_, ?_⟩
  · rw [get?_modify]
    simp only [Book.step, ← hupdate, List.mem_map, exists_exists_and_eq_and, htoken]
    by_cases ht : t' = t
    · rw [if_pos ht, Option.map_eq_some_iff]
      constructor
      · rintro ⟨a, hget, rfl⟩
        obtain ⟨e, he, hetoken, rfl⟩ := (hb.resolves t a).mp hget
        exact ⟨e, he, by rw [hetoken, ht], by simp [hupdate, hetoken]⟩
      · rintro ⟨e, he, hetoken, rfl⟩
        have hget := hb.get?_of_mem he
        rw [hetoken, ht] at hget
        exact ⟨e.value, hget, by simp [hupdate, hetoken, ht]⟩
    · rw [if_neg ht, hb.resolves]
      constructor
      · rintro ⟨e, he, hetoken, rfl⟩
        exact ⟨e, he, hetoken, by simp [hupdate, hetoken, ht]⟩
      · rintro ⟨e, he, hetoken, rfl⟩
        exact ⟨e, he, hetoken, by simp [hupdate, hetoken, ht]⟩
  · simp only [Book.step, ← hupdate, List.map_map, Function.comp_def, htoken]
    exact hb.places_nodup
  · simp only [Book.step, ← hupdate, List.map_map, Function.comp_def, hnumber]
    exact hb.numbers
  · have hlive : (h.modify t change).live = h.live := by
      unfold ObjectHeap.modify
      split <;> rfl
    simp [Book.step, hlive, hb.size]

theorem remove (hb : h.Agrees b) (t : Token) : (h.remove t).2.Agrees (b.step h (.remove t)) := by
  refine ⟨fun t' v => ?_, ?_, ?_, ?_⟩
  · rw [get?_remove]
    simp only [Book.step, List.mem_filter, decide_eq_true_eq]
    by_cases ht : t' = t
    · rw [if_pos ht]
      simp only [reduceCtorEq, false_iff]
      rintro ⟨e, ⟨-, hne⟩, htoken, -⟩
      exact hne (htoken.trans ht)
    · rw [if_neg ht, hb.resolves]
      constructor
      · rintro ⟨e, he, htoken, hvalue⟩
        exact ⟨e, ⟨he, by rwa [htoken]⟩, htoken, hvalue⟩
      · rintro ⟨e, ⟨he, -⟩, htoken, hvalue⟩
        exact ⟨e, he, htoken, hvalue⟩
  · exact (hb.places_nodup).sublist (List.filter_sublist.map _)
  · -- What is kept and what is handed back make up what was live.
    simp only [Book.step, List.append_assoc, ← List.map_append]
    refine (List.Perm.append_left _ (List.Perm.map _ ?_)).trans hb.numbers
    simpa using List.filter_append_perm (fun e : Held α => decide (e.token = t)) b.live
  · cases hget : h.get? t with
    | none =>
      have hall : ∀ e ∈ b.live, e.token ≠ t := by
        rintro e he rfl
        rw [hb.get?_of_mem he] at hget
        simp at hget
      have hsame : b.live.filter (·.token ≠ t) = b.live := by
        simpa [List.filter_eq_self] using hall
      rw [remove_of_get?_eq_none hget, hb.size]
      simp only [Book.step, hsame]
    | some value =>
      -- The book loses one entry, since no other has the token.
      obtain ⟨e, he, rfl, -⟩ := (hb.resolves t value).mp hget
      have hsplit := List.length_eq_length_filter_add (l := b.live)
        (fun e' => decide (e'.token = e.token))
      rw [hb.filter_token he] at hsplit
      have hlive : (h.remove e.token).2.live = h.live - 1 := by
        simp [ObjectHeap.remove, hget]
      rw [hlive, hb.size, hsplit]
      simp [Book.step]

theorem drain (hb : h.Agrees b) : h.drain.2.Agrees (b.step h .drain) := by
  refine ⟨fun t v => ?_, List.nodup_nil, ?_, rfl⟩
  · simp [get?_drain, Book.step]
  · simp only [Book.step, List.map_nil, List.append_nil]
    exact (List.Perm.append_left _ (b.byPlace_perm.map _)).trans hb.numbers

theorem step {vacated : Nat → Nat} (hs : h.Sound vacated) (hb : h.Agrees b)
    (action : HeapAction α) (hfit : (h.step action).slots.length ≤ UInt32.size) :
    (h.step action).Agrees (b.step h action) := by
  cases action with
  | insert value => exact hb.insert hs value hfit
  | get t => exact hb
  | modify t change => exact hb.modify t change
  | remove t => exact hb.remove t
  | drain => exact hb.drain

theorem after {vacated : Nat → Nat} (hs : h.Sound vacated) (hb : h.Agrees b)
    (actions : List (HeapAction α)) (hfit : (h.after actions).slots.length ≤ UInt32.size) :
    (h.after actions).Agrees (b.after h actions) := by
  induction actions generalizing h b vacated with
  | nil => exact hb
  | cons a as ih =>
    have hfit' := Nat.le_trans (length_le_after (h.step a) as) hfit
    exact ih (hs.step a hfit') (hb.step hs a hfit') hfit

end Agrees

/-- A heap that started out empty agrees with the account of its run. -/
theorem agrees_ofRun (actions : List (HeapAction α))
    (hfit : ((empty : ObjectHeap α).after actions).slots.length ≤ UInt32.size) :
    (empty.after actions).Agrees (Book.ofRun actions) :=
  agrees_empty.after sound_empty actions hfit

/-! ### Draining -/

/-- The occupied places with their entries, in order. -/
def occupants : Nat → List (HeapSlot α) → List (Nat × α)
  | _, [] => []
  | base, slot :: slots => (slot.value.map (base, ·)).toList ++ occupants (base + 1) slots

theorem map_snd_occupants (base : Nat) (slots : List (HeapSlot α)) :
    (occupants base slots).map (·.2) = slots.filterMap (·.value) := by
  induction slots generalizing base with
  | nil => rfl
  | cons slot slots ih =>
    rw [occupants, List.map_append, ih, List.filterMap_cons]
    cases slot.value <;> rfl

theorem mem_occupants {base : Nat} {slots : List (HeapSlot α)} {place : Nat} {value : α} :
    (place, value) ∈ occupants base slots ↔
      ∃ offset slot, slots[offset]? = some slot ∧ slot.value = some value ∧
        place = base + offset := by
  induction slots generalizing base with
  | nil => simp [occupants]
  | cons first slots ih =>
    rw [occupants, List.mem_append, ih]
    constructor
    · rintro (hmem | ⟨offset, slot, hslot, hvalue, hplace⟩)
      · rw [Option.mem_toList, Option.map_eq_some_iff] at hmem
        obtain ⟨v, hv, heq⟩ := hmem
        obtain ⟨rfl, rfl⟩ := Prod.mk.injEq .. ▸ heq
        exact ⟨0, first, rfl, hv, rfl⟩
      · exact ⟨offset + 1, slot, by simpa using hslot, hvalue, by omega⟩
    · rintro ⟨offset, slot, hslot, hvalue, hplace⟩
      cases offset with
      | zero =>
        simp only [List.getElem?_cons_zero, Option.some.injEq] at hslot
        left
        simp [hslot, hvalue, hplace]
      | succ offset =>
        right
        exact ⟨offset, slot, by simpa using hslot, hvalue, by omega⟩

theorem pairwise_occupants (base : Nat) (slots : List (HeapSlot α)) :
    (occupants base slots).Pairwise fun p q => p.1 < q.1 := by
  induction slots generalizing base with
  | nil => exact List.Pairwise.nil
  | cons slot slots ih =>
    rw [occupants, List.pairwise_append]
    refine ⟨?_, ih _, ?_⟩
    · cases slot.value <;> simp
    · rintro ⟨place, value⟩ hmem ⟨place', value'⟩ hmem'
      obtain ⟨offset, -, -, -, hplace'⟩ := mem_occupants.mp hmem'
      rw [Option.mem_toList, Option.map_eq_some_iff] at hmem
      obtain ⟨v, -, heq⟩ := hmem
      have hplace : base = place := congrArg Prod.fst heq
      show place < place'
      omega

theorem nodup_occupants (base : Nat) (slots : List (HeapSlot α)) :
    (occupants base slots).Nodup :=
  (pairwise_occupants base slots).imp fun hlt heq => by simp [heq] at hlt

theorem mem_occupants_iff_entryAt {h : ObjectHeap α} {place : Nat} {value : α} :
    (place, value) ∈ occupants 0 h.slots ↔ h.entryAt place = some value := by
  rw [mem_occupants, entryAt, Option.bind_eq_some_iff]
  constructor
  · rintro ⟨offset, slot, hslot, hvalue, hplace⟩
    rw [Nat.zero_add] at hplace
    exact ⟨slot, by rw [hplace, hslot], hvalue⟩
  · rintro ⟨slot, hslot, hvalue⟩
    exact ⟨place, slot, hslot, hvalue, by rw [Nat.zero_add]⟩

/-- The entries in their places are the live entries. -/
theorem Agrees.entryAt_eq_some_iff {h : ObjectHeap α} {b : Book α} {vacated : Nat → Nat}
    (hs : h.Sound vacated) (hb : h.Agrees b) {place : Nat} {value : α} :
    h.entryAt place = some value ↔ ∃ e ∈ b.live, e.token.place = place ∧ e.value = value := by
  constructor
  · intro hentry
    obtain ⟨e, he, htoken, hvalue⟩ := (hb.resolves _ _).mp (hs.get?_of_entryAt hentry)
    refine ⟨e, he, ?_, hvalue⟩
    -- The token made of an occupied place names that place.
    obtain ⟨generation, hslot⟩ := ObjectHeap.entryAt_eq_some_iff.mp hentry
    have hlt := (List.getElem?_eq_some_iff.mp hslot).1
    have hplaces := hs.places
    rw [htoken, Token.place, UInt32.toNat_ofNat_of_lt' (by omega)]
  · rintro ⟨e, he, rfl, rfl⟩
    exact entryAt_of_get? (hb.get?_of_mem he)

/-- Draining hands back the live entries, by place. -/
theorem Agrees.drain_fst {h : ObjectHeap α} {b : Book α} {vacated : Nat → Nat}
    (hs : h.Sound vacated) (hb : h.Agrees b) : h.drain.1 = b.byPlace.map (·.value) := by
  show h.slots.filterMap (·.value) = _
  have hmem : ∀ place value, (place, value) ∈ occupants 0 h.slots ↔
      ∃ e ∈ b.byPlace, e.token.place = place ∧ e.value = value := by
    intro place value
    rw [mem_occupants_iff_entryAt, hb.entryAt_eq_some_iff hs]
    simp only [b.byPlace_perm.mem_iff]
  have hnodup : (b.byPlace.map fun e => (e.token.place, e.value)).Nodup := by
    have hplaces := (b.byPlace_perm.map (·.token.place)).nodup_iff.mpr hb.places_nodup
    rw [show (fun e : Held α => e.token.place) =
      Prod.fst ∘ fun e : Held α => (e.token.place, e.value) from rfl, ← List.map_map] at hplaces
    exact hplaces.of_map _
  have hpairs : occupants 0 h.slots = b.byPlace.map fun e => (e.token.place, e.value) := by
    -- Both lists are sorted by place, and have the same members.
    have hfirst : (occupants 0 h.slots).Pairwise fun p q => p.1 ≤ q.1 :=
      (pairwise_occupants 0 h.slots).imp Nat.le_of_lt
    refine List.Perm.eq_of_pairwise ?_ hfirst (List.pairwise_map.mpr b.pairwise_byPlace) ?_
    · rintro ⟨place, value⟩ ⟨place', value'⟩ hp hp' hle hle'
      obtain ⟨e', he', heq⟩ := List.mem_map.mp hp'
      rw [← heq] at hle hle' ⊢
      obtain ⟨e, he, hplace, hvalue⟩ := (hmem place value).mp hp
      have hsame : e.token.place = e'.token.place := hplace.trans (Nat.le_antisymm hle hle')
      rw [← hplace, ← hvalue, hb.eq_of_place (b.byPlace_perm.mem_iff.mp he)
        (b.byPlace_perm.mem_iff.mp he') hsame]
    · refine (List.perm_ext_iff_of_nodup (nodup_occupants 0 h.slots) hnodup).mpr ?_
      rintro ⟨place, value⟩
      rw [hmem, List.mem_map]
      simp only [Prod.mk.injEq]
  rw [← map_snd_occupants 0, hpairs, List.map_map]
  rfl

/-! ### Tokens issued anew -/

/-- A place that has an entry before a run and none after it is vacated in between. -/
theorem vacations_pos {place : Nat} {h : ObjectHeap α} {actions : List (HeapAction α)}
    (hbefore : (h.entryAt place).isSome) (hafter : (h.after actions).entryAt place = none) :
    0 < vacations place h actions := by
  induction actions generalizing h with
  | nil =>
    rw [after_nil] at hafter
    simp [hafter] at hbefore
  | cons a as ih =>
    rw [vacations]
    cases hmid : (h.step a).entryAt place with
    | none =>
      simp only [vacates, hbefore, hmid, Option.isNone_none, Bool.and_self, Bool.toNat_true]
      omega
    | some value => exact Nat.add_pos_right _ (ih (by simp [hmid]) hafter)

theorem ofNat_add_eq_iff (a n : Nat) :
    UInt32.ofNat a = UInt32.ofNat (a + n) ↔ UInt32.size ∣ n := by
  rw [← UInt32.toNat_inj, UInt32.toNat_ofNat', UInt32.toNat_ofNat', UInt32.size]
  omega

/-- Two insertions are issued the same token iff they use the same place and it was vacated
a positive multiple of `2 ^ 32` times in between. -/
theorem Sound.insert_token_eq_iff {h : ObjectHeap α} {vacated : Nat → Nat} (hs : h.Sound vacated)
    (value : α) (between : List (HeapAction α)) (value' : α)
    (hfit : (((h.insert value).2.after between).insert value').2.slots.length ≤ UInt32.size) :
    (h.insert value).1 = (((h.insert value).2.after between).insert value').1 ↔
      h.nextPlace = ((h.insert value).2.after between).nextPlace ∧
        0 < vacations h.nextPlace (h.insert value).2 between ∧
        UInt32.size ∣ vacations h.nextPlace (h.insert value).2 between := by
  have hmid : ((h.insert value).2.after between).slots.length ≤ UInt32.size :=
    Nat.le_trans (length_le_step _ (.insert value')) hfit
  have hfirst : (h.insert value).2.slots.length ≤ UInt32.size :=
    Nat.le_trans (length_le_after _ between) hmid
  have hs₁ := hs.insert value hfirst
  have hs₂ := hs₁.after between hmid
  rw [Token.eq_iff, hs.insert_place value hfirst, hs₂.insert_place value' hfit]
  refine and_congr_right fun hplace => ?_
  -- The place is occupied after the first insertion and free before the second.
  have hpos : 0 < vacations h.nextPlace (h.insert value).2 between := by
    refine vacations_pos ?_ ?_
    · simp [hs.entryAt_insert]
    · rw [hplace]
      exact hs₂.nextPlace_free.1
  rw [insert_fst, insert_fst, hs.generationAt_eq, hs₂.generationAt_eq, ← hplace,
    ofNat_add_eq_iff]
  exact ⟨fun hdvd => ⟨hpos, hdvd⟩, fun hboth => hboth.2⟩

/-- A new entry's token is not that of an entry put in earlier, unless the place was vacated
`2 ^ 32` times. -/
theorem insert_token_ne {before between : List (HeapAction α)} {value value' : α}
    (hfit : ((empty : ObjectHeap α).after
      (before ++ .insert value :: between ++ [.insert value'])).slots.length ≤ UInt32.size)
    (hvacated : ∀ place, vacations place empty
      (before ++ .insert value :: between ++ [.insert value']) < UInt32.size) :
    ((empty.after before).insert value).1 ≠
      ((empty.after (before ++ .insert value :: between)).insert value').1 := by
  rw [List.append_assoc] at hfit
  have hbefore := Nat.le_trans (length_le_append _ before _) hfit
  rw [after_append, List.cons_append, after_cons, after_append, after_cons, after_nil] at hfit
  intro heq
  rw [after_append, after_cons] at heq
  obtain ⟨-, hpos, hdvd⟩ :=
    ((sound_after before hbefore).insert_token_eq_iff value between value' hfit).mp heq
  have htotal := hvacated (empty.after before).nextPlace
  rw [List.append_assoc, vacations_append, List.cons_append, vacations, vacations_append] at htotal
  -- Were the tokens the same, the place would have been vacated too often in between.
  have hle := Nat.le_of_dvd hpos hdvd
  simp only [ObjectHeap.step] at htotal
  omega

/-- What it means for a heap to act as a map from tokens to entries, the account of its run
saying which. -/
structure ActsAsMap (actions : List (HeapAction α)) : Prop where
  /-- A token resolves iff a live entry was issued it, and to the value of that entry. -/
  resolves : ∀ t value, (empty.after actions).get? t = some value ↔
    ∃ e ∈ (Book.ofRun actions).live, e.token = t ∧ e.value = value
  /-- No two live entries share a token. -/
  tokens_nodup : ((Book.ofRun actions).live.map (·.token)).Nodup
  /-- Removal hands back the live entry of the token. -/
  removes : ∀ t, ((empty.after actions).remove t).1 =
    ((Book.ofRun actions).find? t).map (·.value)
  /-- Draining hands back all live entries, by place. -/
  drains : (empty.after actions).drain.1 = (Book.ofRun actions).byPlace.map (·.value)
  /-- Of the entries put in each is live, or else has been handed back once. -/
  numbers : ((Book.ofRun actions).handedBack ++ (Book.ofRun actions).live.map (·.number)).Perm
    (List.range (Book.ofRun actions).made)
  size : (empty.after actions).size = (Book.ofRun actions).live.length
  /-- A token is issued anew iff its place has been vacated a positive multiple of `2 ^ 32`
  times since. -/
  reissues : ∀ before value between value' rest,
    actions = before ++ .insert value :: (between ++ .insert value' :: rest) →
      ((((empty.after before).insert value).1 =
          ((empty.after (before ++ .insert value :: between)).insert value').1) ↔
        (empty.after before).nextPlace =
            (empty.after (before ++ .insert value :: between)).nextPlace ∧
          0 < vacations (empty.after before).nextPlace ((empty.after before).insert value).2
            between ∧
          UInt32.size ∣ vacations (empty.after before).nextPlace
            ((empty.after before).insert value).2 between)

/-- A heap acts as a map from tokens to entries, as long as 32 bits number its places. -/
theorem actsAsMap_after (actions : List (HeapAction α))
    (hfit : ((empty : ObjectHeap α).after actions).slots.length ≤ UInt32.size) :
    ActsAsMap actions := by
  have hs := sound_after actions hfit
  have hb := agrees_ofRun actions hfit
  refine ⟨hb.resolves, hb.tokens_nodup, ?_, hb.drain_fst hs, hb.numbers, hb.size, ?_⟩
  · intro t
    rw [remove_fst, hb.get?_eq_find?]
  · intro before value between value' rest hactions
    subst hactions
    have hbefore := Nat.le_trans (length_le_append _ before _) hfit
    rw [after_append, after_cons, after_append, after_cons] at hfit
    have hfit' := Nat.le_trans (length_le_after _ rest) hfit
    rw [after_append, after_cons]
    exact (sound_after before hbefore).insert_token_eq_iff value between value' hfit'

/-- A place that is used, freed, used again and drained. -/
theorem actsAsMap_reuse :
    ((empty : ObjectHeap Nat).after
        [.insert 1, .insert 2, .modify ⟨1, 0⟩ (· + 5), .remove ⟨0, 0⟩, .insert 3, .remove ⟨0, 0⟩,
          .drain, .insert 4]).slots.length ≤ UInt32.size ∧
      ActsAsMap (α := Nat)
        [.insert 1, .insert 2, .modify ⟨1, 0⟩ (· + 5), .remove ⟨0, 0⟩, .insert 3, .remove ⟨0, 0⟩,
          .drain, .insert 4] :=
  ⟨by decide, actsAsMap_after _ (by decide)⟩

end ObjectHeap

end ScriptHost
