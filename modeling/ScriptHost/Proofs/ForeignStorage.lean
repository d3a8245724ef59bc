/-
The memory of foreign instances.

The library writes a cell into the memory of every instance it makes, and two readers meet it
again: the window, when a script passes the instance, and the finalizer, which is given the memory
alone and finds the host by the address in it.  An engine that obeys `InstanceLaws` keeps what is
written to the memory of an instance.

* **`ForeignCell.read?_eq_some_iff`** — memory has a cell in it iff it begins with the bytes of
  that cell, and these name a host;
* **`ForeignCell.read?_eq_none_iff`** — memory that is large enough has none iff it does not begin
  with the tag, or the address of the host is null;
* **`InstanceLaws.occupied_setNewForeign`** — an instance the library made has the cell of its
  token;
* **`InstanceLaws.keepsTokens`** — what both readers make of the memory of an instance.
-/
import Mathlib.Algebra.Group.Nat.Defs
import Mathlib.Logic.Function.Basic
import ScriptHost.Proofs.EngineAborts
import ScriptHost.Proofs.EntryTables
import ScriptHost.RecordingHost
import ScriptHost.Scripted.Run

namespace ScriptHost

open Guarded

/-! ### Numbers in bytes -/

theorem littleEndian_ofLittleEndian (bytes : Bytes) :
    littleEndian bytes.length (ofLittleEndian bytes) = bytes := by
  induction bytes with
  | nil => rfl
  | cons b bytes ih =>
    have hlt := b.toNat_lt
    have hlow : (b.toNat + 256 * ofLittleEndian bytes) % 256 = b.toNat := by omega
    have hhigh : (b.toNat + 256 * ofLittleEndian bytes) / 256 = ofLittleEndian bytes := by omega
    simp only [List.length_cons, littleEndian, ofLittleEndian, hlow, hhigh, ih,
      UInt8.ofNat_toNat]

/-- Bytes hold a number that fits iff they are its bytes. -/
theorem ofLittleEndian_eq_iff {width n : Nat} {bytes : Bytes} (hlength : bytes.length = width)
    (hn : n < 256 ^ width) : ofLittleEndian bytes = n ↔ bytes = littleEndian width n := by
  constructor
  · rintro rfl
    rw [← hlength, littleEndian_ofLittleEndian]
  · rintro rfl
    rw [ofLittleEndian_littleEndian]
    exact Nat.mod_eq_of_lt hn

theorem ofLittleEndian_lt (bytes : Bytes) : ofLittleEndian bytes < 256 ^ bytes.length := by
  rw [← littleEndian_ofLittleEndian bytes, ofLittleEndian_littleEndian, length_littleEndian]
  exact Nat.mod_lt _ (Nat.pow_pos (by decide))

theorem littleEndian_word {bytes : Bytes} (hlength : bytes.length = 4) :
    littleEndian 4 (UInt32.ofNat (ofLittleEndian bytes)).toNat = bytes := by
  have hlt := ofLittleEndian_lt bytes
  rw [hlength] at hlt
  rw [UInt32.toNat_ofNat_of_lt' hlt, ← hlength, littleEndian_ofLittleEndian]

theorem littleEndian_longWord {bytes : Bytes} (hlength : bytes.length = 8) :
    littleEndian 8 (UInt64.ofNat (ofLittleEndian bytes)).toNat = bytes := by
  have hlt := ofLittleEndian_lt bytes
  rw [hlength] at hlt
  rw [UInt64.toNat_ofNat_of_lt' hlt, ← hlength, littleEndian_ofLittleEndian]

/-! ### Cells -/

namespace ForeignCell

variable {memory : Memory} {cell : ForeignCell}

theorem length_take_drop (start width : Nat) (h : start + width ≤ memory.length) :
    ((memory.drop start).take width).length = width := by
  simp only [List.length_take, List.length_drop]
  omega

theorem marked_iff (hsize : size ≤ memory.length) :
    ofLittleEndian (memory.take 8) = magic ↔ littleEndian 8 magic <+: memory := by
  have hsize' : 24 ≤ memory.length := hsize
  have hlength : (memory.take 8).length = 8 := length_take_drop 0 8 (by omega)
  rw [ofLittleEndian_eq_iff hlength (by decide), List.prefix_iff_eq_take, length_littleEndian,
    eq_comm]

/-- The host's address in some memory is null iff the bytes of it are. -/
theorem userData_decode_eq_zero (hsize : size ≤ memory.length) :
    (decode memory).userData = 0 ↔ (memory.drop 8).take 8 = List.replicate 8 0 := by
  have hsize' : 24 ≤ memory.length := hsize
  have hlength : ((memory.drop 8).take 8).length = 8 := length_take_drop 8 8 (by omega)
  have hbytes := littleEndian_longWord hlength
  constructor
  · intro hnull
    have hnull' : UInt64.ofNat (ofLittleEndian ((memory.drop 8).take 8)) = 0 := hnull
    rw [← hbytes, hnull']
    decide
  · intro hnull
    show UInt64.ofNat (ofLittleEndian ((memory.drop 8).take 8)) = 0
    rw [hnull]
    decide

theorem decode_take (memory : Memory) : decode (memory.take size) = decode memory := by
  simp [decode, size, List.drop_take, List.take_take]

/-- Memory that is marked begins with the cell in it. -/
theorem encode_decode (hsize : size ≤ memory.length) (htag : littleEndian 8 magic <+: memory) :
    (decode memory).encode = memory.take size := by
  have hsize' : 24 ≤ memory.length := hsize
  have htag' : littleEndian 8 magic = memory.take 8 := by
    rw [List.prefix_iff_eq_take, length_littleEndian] at htag
    exact htag
  have hdata : ((memory.drop 8).take 8).length = 8 := length_take_drop 8 8 (by omega)
  have hindex : ((memory.drop 16).take 4).length = 4 := length_take_drop 16 4 (by omega)
  have hgeneration : ((memory.drop 20).take 4).length = 4 := length_take_drop 20 4 (by omega)
  -- The cell is a mark, an address and the two words of a token, one behind the other.
  have hsplit : memory.take size = memory.take 8 ++ (memory.drop 8).take 8 ++
      (memory.drop 16).take 4 ++ (memory.drop 20).take 4 := by
    simp [size, ← List.take_add]
  rw [hsplit, encode, htag']
  show _ ++ littleEndian 8 (UInt64.ofNat _).toNat ++ littleEndian 4 (UInt32.ofNat _).toNat ++
    littleEndian 4 (UInt32.ofNat _).toNat = _
  rw [littleEndian_longWord hdata, littleEndian_word hindex, littleEndian_word hgeneration]

theorem read?_some (hsize : size ≤ memory.length) :
    read? (some memory) =
      if littleEndian 8 magic <+: memory ∧ (decode memory).userData ≠ 0 then some (decode memory)
      else none := by
  simp only [read?, Option.bind_eq_bind, Option.bind_some, hsize, true_and, marked_iff hsize]
  rfl

theorem tag_prefix_encode (cell : ForeignCell) : littleEndian 8 magic <+: cell.encode := by
  simp only [encode, List.append_assoc]
  exact List.prefix_append _ _

/-- Memory has a cell in it iff it begins with the bytes of that cell, and these name a host. -/
theorem read?_eq_some_iff :
    read? (some memory) = some cell ↔ cell.encode <+: memory ∧ cell.userData ≠ 0 := by
  constructor
  · intro hread
    by_cases hsize : size ≤ memory.length
    · rw [read?_some hsize, Option.ite_none_right_eq_some] at hread
      obtain ⟨⟨htag, hhost⟩, hcell⟩ := hread
      obtain rfl := Option.some.inj hcell
      refine ⟨?_, hhost⟩
      rw [encode_decode hsize htag]
      exact List.take_prefix _ _
    · simp [read?, hsize] at hread
  · rintro ⟨hbegins, hhost⟩
    have hsize : size ≤ memory.length := by
      rw [← length_encode cell]
      exact hbegins.length_le
    -- What stands behind the cell does not change what is read.
    have hdecode : decode memory = cell := by
      rw [← decode_take, ← length_encode cell, ← List.prefix_iff_eq_take.mp hbegins, decode_encode]
    rw [read?_some hsize, hdecode, if_pos ⟨(tag_prefix_encode cell).trans hbegins, hhost⟩]

/-- Memory that is large enough for a cell has none iff it does not begin with the tag, or the
address of the host is null. -/
theorem read?_eq_none_iff (hsize : size ≤ memory.length) :
    read? (some memory) = none ↔
      ¬ littleEndian 8 magic <+: memory ∨ (memory.drop 8).take 8 = List.replicate 8 0 := by
  rw [read?_some hsize, ← userData_decode_eq_zero hsize, ite_eq_right_iff]
  simp only [reduceCtorEq, imp_false, not_and_or, not_not, ne_eq]

end ForeignCell

/-! ### Engines that keep the memory of instances -/

/-- The instances of an engine of kind `C`. -/
structure InstanceView (C : Type) where
  /-- The engine is in a state in which it may be called. -/
  Ready : C → Prop
  /-- There is a class in a slot that instances can be made of. -/
  ClassAt : C → Int32 → Prop
  /-- The instance in a slot, by the address of its memory. -/
  instanceAt : C → Int32 → Option Address
  /-- What is in the memory at an address, if there is any. -/
  memory : C → Address → Option Memory

/-- What is relied on in an engine. -/
structure InstanceLaws {C : Type} [EngineApi (StateM C)] (view : InstanceView C) : Prop where
  /-- Asking changes nothing. -/
  ask {c : C} (question : Question) : view.Ready c → question.after c = c
  kind {c : C} {slot : Int32} {address : Address} : view.Ready c →
    view.instanceAt c slot = some address → kindAt c slot = .foreign
  slotMemory {c : C} {slot : Int32} {address : Address} : view.Ready c →
    view.instanceAt c slot = some address →
      answerOf (EngineApi.slotMemory slot) c = view.memory c address
  /-- A new instance is put into the slot, and its memory is as large as was asked for. -/
  setNewForeign {c : C} {slot classSlot : Int32} {size : Nat} {address : Address} : view.Ready c →
    Inside c slot → Inside c classSlot → view.ClassAt c classSlot →
    answerOf (EngineApi.setNewForeign slot classSlot size) c = some address →
      let c' := stateAfter (EngineApi.setNewForeign slot classSlot size) c
      view.Ready c' ∧ slotsOf c' = slotsOf c ∧ view.instanceAt c' slot = some address ∧
        ∃ blank, view.memory c' address = some blank ∧ blank.length = size
  /-- Memory holds what is written there, and the window stays. -/
  store {c : C} {address : Address} {old new : Memory} : view.Ready c →
    view.memory c address = some old → new.length = old.length →
      let c' := stateAfter (EngineApi.store address new) c
      view.Ready c' ∧ slotsOf c' = slotsOf c ∧ view.instanceAt c' = view.instanceAt c ∧
        view.memory c' address = some new

/-- The engine makes an instance of the class in a slot and has memory for it. -/
def InstanceView.Allocates {C : Type} [EngineApi (StateM C)] (view : InstanceView C) (c : C)
    (slot classSlot : Nat) (address : Address) : Prop :=
  view.ClassAt c (word classSlot) ∧
    answerOf (EngineApi.setNewForeign (word slot) (word classSlot) ForeignCell.size) c =
      some address

/-- The instance in a slot, with what is in its memory. -/
structure InstanceView.Occupied {C : Type} [EngineApi (StateM C)] (view : InstanceView C) (c : C)
    (slot : Nat) (memory : Memory) : Prop where
  ready : view.Ready c
  inside : slot < slotsOf c
  held : ∃ address, view.instanceAt c (word slot) = some address ∧
    view.memory c address = some memory

/-! ### Cells behind guards -/

namespace InstanceLaws

variable {C : Type} [EngineApi (StateM C)] {view : InstanceView C} {c : C}

theorem unmoved (laws : InstanceLaws view) (hready : view.Ready c) : Unmoved c :=
  fun question => laws.ask question hready

/-- The token read from a slot, whatever is in it. -/
theorem slotToken_apply (laws : InstanceLaws view) (hready : view.Ready c) (slot : Nat) :
    answerOf (Guarded.slotToken slot) c =
      if slot < slotsOf c ∧ kindAt c (word slot) = .foreign then
        (ForeignCell.read? (answerOf (EngineApi.slotMemory (word slot)) c)).map (·.token)
      else none := by
  show ((Guarded.slotToken slot : StateM C (Option Token)) c).1 = _
  rw [Guarded.slotToken, whenever_apply ((laws.unmoved hready).holds_apply slot .foreign)]
  split <;> rfl

/-- Making an instance comes to one call of the engine, and the cell is written if that has
memory for it. -/
theorem setNewForeign_apply (laws : InstanceLaws view) (hready : view.Ready c)
    (slot classSlot : Nat) (token : Token) :
    stateAfter (Guarded.setNewForeign slot classSlot token) c =
      if slot < slotsOf c ∧ classSlot < slotsOf c then
        let make : StateM C (Option Address) :=
          EngineApi.setNewForeign (word slot) (word classSlot) ForeignCell.size
        match answerOf make c with
        | some address =>
          stateAfter (EngineApi.store address
            (ForeignCell.encode ⟨answerOf EngineApi.userData c, token⟩)) (stateAfter make c)
        | none => stateAfter make c
      else c := by
  show ((Guarded.setNewForeign slot classSlot token : StateM C Unit) c).2 = _
  rw [Guarded.setNewForeign,
    whenever_apply ((laws.unmoved hready).bothInWindow_apply slot classSlot)]
  -- Asking for the host's address leaves the engine as it is.
  have huser : (EngineApi.userData : StateM C UInt64) c = (answerOf EngineApi.userData c, c) :=
    Prod.ext rfl (laws.ask .userData hready)
  split
  · rw [bind_apply, huser, bind_apply]
    have hmade : ((EngineApi.setNewForeign (word slot) (word classSlot) ForeignCell.size :
        StateM C (Option Address)) c).1 =
          answerOf (EngineApi.setNewForeign (word slot) (word classSlot) ForeignCell.size) c := rfl
    rw [hmade]
    dsimp only
    cases answerOf (EngineApi.setNewForeign (word slot) (word classSlot) ForeignCell.size) c <;> rfl
  · rfl

/-- The token read from an instance is the one in its memory. -/
theorem slotToken_of_occupied (laws : InstanceLaws view) {slot : Nat} {memory : Memory}
    (h : view.Occupied c slot memory) :
    answerOf (Guarded.slotToken slot) c = (ForeignCell.read? (some memory)).map (·.token) := by
  obtain ⟨address, hinstance, hmemory⟩ := h.held
  rw [laws.slotToken_apply h.ready, if_pos ⟨h.inside, laws.kind h.ready hinstance⟩,
    laws.slotMemory h.ready hinstance, hmemory]

/-- An instance the library made has the cell of its token in its memory. -/
theorem occupied_setNewForeign (laws : InstanceLaws view) (hready : view.Ready c)
    {slot classSlot : Nat} (hslot : slot < slotsOf c) (hclass : classSlot < slotsOf c)
    {address : Address} (hmade : view.Allocates c slot classSlot address) (token : Token) :
    view.Occupied (stateAfter (Guarded.setNewForeign slot classSlot token) c) slot
      (ForeignCell.encode ⟨answerOf EngineApi.userData c, token⟩) := by
  rw [laws.setNewForeign_apply hready, if_pos ⟨hslot, hclass⟩]
  dsimp only
  rw [hmade.2]
  obtain ⟨hready', hslots, hinstance, blank, hblank, hlength⟩ :=
    laws.setNewForeign hready (inside_word hslot) (inside_word hclass) hmade.1 hmade.2
  -- The memory is as long as the cell, so writing the cell fills it.
  obtain ⟨hready'', hslots', hinstances, hstored⟩ := laws.store hready' hblank
    ((ForeignCell.length_encode ⟨answerOf EngineApi.userData c, token⟩).trans hlength.symm)
  refine ⟨hready'', ?_, address, ?_, hstored⟩
  · rw [hslots', hslots]
    exact hslot
  · rw [hinstances]
    exact hinstance

end InstanceLaws

/-! ### Finalizers -/

section

variable {H C : Type} [Host H] [Slots C] [Chronicle C]

/-- An instance with that memory was collected, on whichever machine.  There are several, each
with its host where the machine's user data points to. -/
def finalizeAmong (memory : Option Memory) (worlds : UInt64 → World H C) : UInt64 → World H C :=
  match ForeignCell.read? memory with
  | some cell =>
    Function.update worlds cell.userData
      ((Callback.finalizer memory).run (worlds cell.userData)).2
  | none => worlds

/-- Memory of an instance that the library did not write: there is none, or it is large enough
for a cell, but does not begin with the tag or has no host. -/
inductive Alien : Option Memory → Prop
  | missing : Alien none
  | unmarked {bytes : Memory} : ForeignCell.size ≤ bytes.length →
    ¬ littleEndian 8 ForeignCell.magic <+: bytes → Alien (some bytes)
  | hostless {bytes : Memory} : ForeignCell.size ≤ bytes.length →
    (bytes.drop 8).take 8 = List.replicate 8 0 → Alien (some bytes)

theorem Alien.read? {memory : Option Memory} (h : Alien memory) :
    ForeignCell.read? memory = none := by
  cases h with
  | missing => rfl
  | unmarked hsize htag => exact (ForeignCell.read?_eq_none_iff hsize).mpr (.inl htag)
  | hostless hsize hnull => exact (ForeignCell.read?_eq_none_iff hsize).mpr (.inr hnull)

theorem finalizer_of_read? {memory : Option Memory} {cell : ForeignCell}
    (h : ForeignCell.read? memory = some cell) :
    (Callback.finalizer memory : Contained H C Unit) =
      discard (Callback.caught (Host.finalize cell.token)) := by
  rw [Callback.finalizer, h]

theorem finalizeAmong_of_read? {memory : Option Memory} {cell : ForeignCell}
    (h : ForeignCell.read? memory = some cell) (worlds : UInt64 → World H C) :
    finalizeAmong memory worlds =
      Function.update worlds cell.userData
        ((Host.finalize cell.token : Run (World H C) Unit) (worlds cell.userData)).2 := by
  rw [finalizeAmong, h]
  dsimp only
  rw [finalizer_of_read? h]
  exact congrArg (fun after => Function.update worlds cell.userData after.2)
    (Callback.discard_caught_apply _ _)

/-- Memory that was not written by the library reaches no host. -/
theorem finalizeAmong_of_alien {memory : Option Memory} (h : Alien memory)
    (worlds : UInt64 → World H C) : finalizeAmong memory worlds = worlds := by
  rw [finalizeAmong, h.read?]

end

/-! ### Both readers -/

/-- What the two readers make of the memory of instances, on an engine in the state `c`. -/
structure KeepsTokens {C : Type} [EngineApi (StateM C)] (view : InstanceView C) (H : Type)
    [Host H] [Slots C] [Chronicle C] (c : C) : Prop where
  /-- An instance the library made has the token it was made for, and its finalizer finalizes that
  token on the host of the engine and touches no other. -/
  made : ∀ slot classSlot token address, slot < slotsOf c → classSlot < slotsOf c →
    view.Allocates c slot classSlot address →
      let c' := stateAfter (Guarded.setNewForeign slot classSlot token) c
      answerOf (Guarded.slotToken slot) c' = some token ∧
        ∃ memory, view.Occupied c' slot memory ∧
          (Callback.finalizer (some memory) : Contained H C Unit) =
            discard (Callback.caught (Host.finalize token)) ∧
          ∀ worlds : UInt64 → World H C, finalizeAmong (some memory) worlds =
            Function.update worlds (answerOf EngineApi.userData c)
              ((Host.finalize token : Run (World H C) Unit)
                (worlds (answerOf EngineApi.userData c))).2
  /-- Memory the library did not write has no token, and its finalizer touches no host. -/
  alien : ∀ memory, Alien memory →
    (∀ slot, answerOf (EngineApi.slotMemory (word slot)) c = memory →
        answerOf (Guarded.slotToken slot) c = none) ∧
      (Callback.finalizer memory : Contained H C Unit) = pure () ∧
      ∀ worlds : UInt64 → World H C, finalizeAmong memory worlds = worlds
  /-- Where a slot is not in the window the engine is left as it is. -/
  refused : ∀ slot classSlot token, ¬ (slot < slotsOf c ∧ classSlot < slotsOf c) →
    stateAfter (Guarded.setNewForeign slot classSlot token) c = c
  /-- Where the engine has no memory for an instance, nothing is written. -/
  unallocated : ∀ slot classSlot token, slot < slotsOf c → classSlot < slotsOf c →
    let make : StateM C (Option Address) :=
      EngineApi.setNewForeign (word slot) (word classSlot) ForeignCell.size
    answerOf make c = none →
      stateAfter (Guarded.setNewForeign slot classSlot token) c = stateAfter make c

theorem InstanceLaws.keepsTokens {C : Type} [EngineApi (StateM C)] {view : InstanceView C}
    (laws : InstanceLaws view) (H : Type) [Host H] [Slots C] [Chronicle C] {c : C}
    (hready : view.Ready c) (huser : answerOf EngineApi.userData c ≠ 0) :
    KeepsTokens view H c where
  made slot classSlot token address hslot hclass hmade := by
    have hoccupied := laws.occupied_setNewForeign hready hslot hclass hmade token
    -- The memory is the bytes of the cell and no more, so it begins with them.
    have hread := ForeignCell.read?_eq_some_iff.mpr
      ⟨List.prefix_refl (ForeignCell.encode ⟨answerOf EngineApi.userData c, token⟩), huser⟩
    refine ⟨?_, _, hoccupied, finalizer_of_read? hread, finalizeAmong_of_read? hread⟩
    rw [laws.slotToken_of_occupied hoccupied, hread]
    rfl
  alien memory halien := by
    refine ⟨fun slot hmemory => ?_, ?_, finalizeAmong_of_alien halien⟩
    · rw [laws.slotToken_apply hready, hmemory, halien.read?]
      split <;> rfl
    · rw [Callback.finalizer, halien.read?]
  refused slot classSlot token hout := by
    rw [laws.setNewForeign_apply hready, if_neg hout]
  unallocated slot classSlot token hslot hclass := by
    intro make hnull
    rw [laws.setNewForeign_apply hready, if_pos ⟨hslot, hclass⟩]
    dsimp only
    rw [hnull]

/-! ### The engine that follows scripts -/

namespace Scripted

/-- The instances of a machine. -/
def machineInstances : InstanceView Machine where
  Ready := machineView.Ready
  ClassAt m slot := ∃ info, m.at? slot = some (.classOf info)
  instanceAt m slot :=
    match m.at? slot with
    | some (.instanceOf id) => some id
    | _ => none
  memory m address := m.instances[address]?.bind (·.memory)

theorem instanceAt_eq_some_iff {m : Machine} {slot : Int32} {address : Address} :
    machineInstances.instanceAt m slot = some address ↔
      m.at? slot = some (.instanceOf address) := by
  show (match m.at? slot with
    | some (.instanceOf id) => some id
    | _ => none) = some address ↔ _
  split <;> rename_i h
  · simp [h]
  · simpa using h address

theorem slotsOf_eq {m : Machine} (hready : machineView.Ready m) : slotsOf m = m.slots.length :=
  (engineLaws.slotCount hready).2

/-- A word that names a slot of the window is the index of it. -/
theorem index_lt {m : Machine} (hready : machineView.Ready m) {slot : Int32}
    (hin : Inside m slot) : Machine.index slot < m.slots.length := by
  obtain ⟨hlow, hhigh⟩ := hin
  rw [slotsOf_eq hready] at hhigh
  have hnonneg : ¬ slot < 0 := by
    rw [Int32.lt_iff_toInt_lt]
    exact Int.not_lt.mpr hlow
  rw [Machine.index, if_neg hnonneg]
  omega

/-- A machine with as many slots may be called as well. -/
theorem slotsOf_of_length {m m' : Machine} (hready : machineView.Ready m)
    (hcount : m'.pretendedCount = m.pretendedCount) (hlength : m'.slots.length = m.slots.length) :
    machineView.Ready m' ∧ slotsOf m' = slotsOf m := by
  have hready' : machineView.Ready m' :=
    ⟨hcount.trans hready.1, Nat.le_trans (Nat.le_of_eq hlength) hready.2⟩
  rw [slotsOf_eq hready, slotsOf_eq hready', hlength]
  exact ⟨hready', rfl⟩

/-- A machine with a new instance of a class in a slot. -/
def withInstance (m : Machine) (slot : Int32) (size : Nat) (info : ClassInfo) : Machine :=
  { m with
    instances := m.instances ++ [⟨some (List.replicate size 0), info⟩]
    tracked := m.tracked ++ [m.instances.length]
    slots := m.slots.set (Machine.index slot) (.instanceOf m.instances.length) }

/-- A machine makes an instance of every class, with blank memory. -/
theorem setNewForeign_of_class {m : Machine} {classSlot : Int32} {info : ClassInfo}
    (hclass : m.at? classSlot = some (.classOf info)) (slot : Int32) (size : Nat) :
    m.setNewForeign slot classSlot size =
      (some m.instances.length, withInstance m slot size info) := by
  rw [Machine.setNewForeign, hclass]
  rfl

theorem instanceLaws : InstanceLaws machineInstances where
  ask question _ := after_question _ question
  kind {m} slot address _ hinstance := by
    rw [instanceAt_eq_some_iff] at hinstance
    show SlotType.ofCode (((m.at? slot).map Machine.tagOf).getD 7).toInt = .foreign
    rw [hinstance]
    rfl
  slotMemory {m} slot address _ hinstance := by
    rw [instanceAt_eq_some_iff] at hinstance
    show ((match m.at? slot with
      | some (.instanceOf id) => pure (m.instances[id]?.bind (·.memory))
      | _ => pure none : StateM Machine (Option Memory)) m).1 = _
    rw [hinstance]
    rfl
  setNewForeign {m} slot classSlot size address hready hslot _ hinfo hmade := by
    obtain ⟨info, hinfo⟩ := hinfo
    have hrun := setNewForeign_of_class hinfo slot size
    obtain rfl : m.instances.length = address :=
      Option.some.inj ((congrArg Prod.fst hrun).symm.trans hmade)
    have hafter : stateAfter (EngineApi.setNewForeign slot classSlot size) m =
        withInstance m slot size info := congrArg Prod.snd hrun
    have hwindow : machineView.Ready (withInstance m slot size info) ∧
        slotsOf (withInstance m slot size info) = slotsOf m :=
      slotsOf_of_length hready rfl List.length_set
    rw [hafter]
    refine ⟨hwindow.1, hwindow.2, ?_, List.replicate size 0, ?_, List.length_replicate⟩
    · rw [instanceAt_eq_some_iff]
      exact List.getElem?_set_self (index_lt hready hslot)
    · show ((m.instances ++ [_])[m.instances.length]?).bind (·.memory) = _
      rw [List.getElem?_concat_length]
      rfl
  store {m} address old new hready hold hlength := by
    obtain ⟨inst, hinst, -⟩ := Option.bind_eq_some_iff.mp hold
    have hwindow : machineView.Ready (m.store address new) ∧
        slotsOf (m.store address new) = slotsOf m := slotsOf_of_length hready rfl rfl
    refine ⟨hwindow.1, hwindow.2, rfl, ?_⟩
    show ((m.instances.modify address _)[address]?).bind (·.memory) = some new
    rw [List.getElem?_modify_eq, hinst]
    rfl

/-- A machine whose window holds a class. -/
def withClass : Machine :=
  { Machine.new ⟨[], [], false, false, false⟩ with
    slots := [.null, .classOf ⟨"File", ⟨some 0, true⟩⟩] }

theorem keepsTokens_withClass :
    machineInstances.Ready withClass ∧
      answerOf (EngineApi.userData : StateM Machine UInt64) withClass ≠ 0 ∧
      machineInstances.Allocates withClass 0 1 0 ∧
      KeepsTokens machineInstances RecordingHost withClass := by
  have hready : machineInstances.Ready withClass := ⟨rfl, by decide⟩
  have huser : answerOf (EngineApi.userData : StateM Machine UInt64) withClass ≠ 0 := by decide
  exact ⟨hready, huser, ⟨⟨_, rfl⟩, rfl⟩, instanceLaws.keepsTokens RecordingHost hready huser⟩

end Scripted

end ScriptHost
