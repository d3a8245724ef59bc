/-
What a slot gives back.

On a machine kept in memory, a value that is written into a slot of the window and read from it
again is the same value, and nothing but the slot changed.  Reading and writing meet in the value
that the script sees: a writer puts one into the slot, and a reader gets what it makes of it.
Outside the window every reader and every writer refuses, and so does a reader of a slot that holds
another kind of value; a refusal changes nothing.

* **`Puts.write_eq`**, **`Gets.read_eq`** — the writers and the readers, by the value in the slot;
* **`TypedReader.read_of_not_mem`**, **`TypedReader.read_of_ge`**, **`TypedWriter.write_of_ge`** —
  refusals;
* **`WindowStep.eq_of_refused`** — no refused operation changes the window;
* **`slotLaws`** — all of it.
-/
import ScriptHost.Proofs.ArgumentAgreement
import ScriptHost.Proofs.RoundedIntegers
import ScriptHost.Proofs.SlotWrites
import ScriptHost.Proofs.TextRoundTrip
import ScriptHost.WindowStep

namespace ScriptHost

open InMemory

/-! ### Writers and readers -/

/-- What a checked writer puts into a slot. -/
inductive Puts : {α : Type} → [IntoSlot α] → α → ScriptValue → Prop
  | bool (b : Bool) : Puts b (.bool b)
  | number (x : Number) : Puts x (.num x)
  | int32 (i : Int32) : Puts i (.num (.ofInt32 i))
  | text (s : String) : Puts s (.string (Utf8.encode s))
  | bytes (b : Bytes) : Puts b (.string b)
  | unit : Puts () .null
  | absent {α : Type} [IntoSlot α] : Puts (none : Option α) .null
  | present {α : Type} [IntoSlot α] {a : α} {v : ScriptValue} : Puts a v → Puts (some a) v
  | valueNull : Puts HostValue.null .null
  | valueBool (b : Bool) : Puts (HostValue.bool b) (.bool b)
  | valueInt (i : Int64) : Puts (HostValue.int i) (.num (.ofInt64 i))
  | valueFloat (x : Number) : Puts (HostValue.float x) (.num x)
  | valueText (s : String) : Puts (HostValue.text s) (.string (Utf8.encode s))

/-- What a checked reader makes of the value in a slot. -/
inductive Gets : ScriptValue → {α : Type} → [FromSlot α] → α → Prop
  | bool (b : Bool) : Gets (.bool b) b
  | number (x : Number) : Gets (.num x) x
  | int32 (x : Number) : Gets (.num x) x.toInt32
  | text (b : Bytes) : Gets (.string b) (Utf8.decode b)
  | bytes (b : Bytes) : Gets (.string b) b
  | unit : Gets .null ()
  | absent {α : Type} [FromSlot α] : Gets .null (none : Option α)
  | present {α : Type} [FromSlot α] {a : α} {v : ScriptValue} :
    Machine.typeOf v ≠ .null → Gets v a → Gets v (some a)
  | valueNull : Gets .null HostValue.null
  | valueBool (b : Bool) : Gets (.bool b) (HostValue.bool b)
  | valueFloat (x : Number) : Gets (.num x) (HostValue.float x)
  | valueText (b : Bytes) : Gets (.string b) (HostValue.text (Utf8.decode b))

section

variable {m : Machine} {slot : Nat} {v : ScriptValue}

theorem writeChecked_setSlot (hslot : slot < m.slots.length) (v : ScriptValue) :
    writeChecked m slot (Machine.setSlot · slot v) = .ok (m.setSlot slot v) := by
  rw [writeChecked, checkSlot_of_lt hslot]
  rfl

/-- A writer puts its value into a slot of the window. -/
theorem Puts.write_eq {α : Type} [IntoSlot α] {a : α} (h : Puts a v)
    (hslot : slot < m.slots.length) : IntoSlot.write m slot a = .ok (m.setSlot slot v) := by
  induction h with
  | present _ ih => exact ih
  | _ => exact writeChecked_setSlot hslot _

theorem lt_length_of_getElem? (h : m.slots[slot]? = some v) : slot < Slots.count m :=
  (List.getElem?_eq_some_iff.mp h).1

theorem type_of_getElem? (h : m.slots[slot]? = some v) : Slots.type m slot = Machine.typeOf v := by
  show (m.slots[slot]?.map Machine.typeOf).getD .unknown = _
  rw [h]
  rfl

/-- A reader of values of one kind gets its value from a slot that holds one. -/
theorem read_of_typeOf {α : Type} {a : α} {wanted : SlotType} (h : m.slots[slot]? = some v)
    (hkind : Machine.typeOf v = wanted) (expected : String) :
    (do expectType m slot wanted expected; pure a) = .ok a := by
  have hexpect : expectType m slot wanted expected = .ok () :=
    expectType_eq_ok.mpr ⟨lt_length_of_getElem? h, (type_of_getElem? h).trans hkind⟩
  rw [hexpect]
  rfl

theorem bool_of_getElem? {b : Bool} (h : m.slots[slot]? = some (.bool b)) :
    Slots.bool m slot = b := by
  simp only [Slots.bool, h]

theorem number_of_getElem? {x : Number} (h : m.slots[slot]? = some (.num x)) :
    Slots.number m slot = x := by
  simp only [Slots.number, h]

theorem bytes_of_getElem? {b : Bytes} (h : m.slots[slot]? = some (.string b)) :
    Slots.bytes m slot = b := by
  simp only [Slots.bytes, h]

theorem text_of_getElem? {b : Bytes} (h : m.slots[slot]? = some (.string b)) :
    Slots.text m slot = Utf8.decode b := by
  rw [Slots.text, bytes_of_getElem? h]

/-- Inside the window, a reader of what may be missing asks whether the slot holds null. -/
theorem read_option {W : Type} [Slots W] {w : W} {α : Type} [FromSlot α]
    (hin : slot < Slots.count w) :
    (FromSlot.read w slot : Except HostError (Option α)) =
      if Slots.type w slot = .null then .ok none else some <$> FromSlot.read w slot := by
  show (do checkSlot w slot; if _ then _ else _) = _
  rw [checkSlot_of_lt hin]
  rfl

/-- A reader gets its value from the slot that holds it. -/
theorem Gets.read_eq {α : Type} [FromSlot α] {a : α} (h : Gets v a)
    (hslot : m.slots[slot]? = some v) : FromSlot.read m slot = .ok a := by
  have hin := lt_length_of_getElem? hslot
  have htype := type_of_getElem? hslot
  induction h with
  | bool b => exact (read_of_typeOf hslot rfl "Bool").trans (by rw [bool_of_getElem? hslot])
  | number x => exact (read_of_typeOf hslot rfl "Num").trans (by rw [number_of_getElem? hslot])
  | int32 x => exact (read_of_typeOf hslot rfl "Num").trans (by rw [number_of_getElem? hslot])
  | text b => exact (read_of_typeOf hslot rfl "String").trans (by rw [text_of_getElem? hslot])
  | bytes b => exact (read_of_typeOf hslot rfl "String").trans (by rw [bytes_of_getElem? hslot])
  | unit => exact expectType_eq_ok.mpr ⟨hin, htype⟩
  | absent =>
    rw [read_option hin]
    exact if_pos htype
  -- An optional reader looks for null first and then reads as the inner one does.
  | present hnull _ ih =>
    rw [read_option hin, if_neg (by rw [htype]; exact hnull), ih hslot htype]
    rfl
  -- The dynamic reader goes by the kind of the value.
  | valueNull =>
    show readValue m slot = _
    rw [readValue_of_lt hin, htype]
    rfl
  | valueBool b =>
    show readValue m slot = _
    rw [readValue_of_lt hin, htype, bool_of_getElem? hslot]
    rfl
  | valueFloat x =>
    show readValue m slot = _
    rw [readValue_of_lt hin, htype, number_of_getElem? hslot]
    rfl
  | valueText b =>
    show readValue m slot = _
    rw [readValue_of_lt hin, htype, text_of_getElem? hslot]
    rfl

end

/-! ### Round trips -/

/-- Nothing but one slot of the window changed. -/
structure ChangesSlot (m m' : Machine) (slot : Nat) : Prop where
  length : m'.slots.length = m.slots.length
  others : ∀ other, other ≠ slot → m'.slots[other]? = m.slots[other]?
  rest : { m' with slots := m.slots } = m

theorem changesSlot_setSlot {m : Machine} {slot : Nat} (hslot : slot < m.slots.length)
    (v : ScriptValue) : ChangesSlot m (m.setSlot slot v) slot where
  length := by rw [m.slots_setSlot v hslot, List.length_set]
  others other hne := by rw [m.slots_setSlot v hslot, List.getElem?_set_ne hne.symm]
  rest := rfl

/-- Where `a` is written, `b` is read. -/
def Returns {α β : Type} [IntoSlot α] [FromSlot β] (m : Machine) (slot : Nat) (a : α) (b : β) :
    Prop :=
  ∃ m', IntoSlot.write m slot a = .ok m' ∧ FromSlot.read m' slot = .ok b ∧ ChangesSlot m m' slot

/-- A reader returns what it makes of the value that a writer put into the slot. -/
theorem Returns.of {α β : Type} [IntoSlot α] [FromSlot β] {m : Machine} {slot : Nat} {a : α}
    {b : β} {v : ScriptValue} (hputs : Puts a v) (hgets : Gets v b)
    (hslot : slot < m.slots.length) : Returns m slot a b := by
  have hthere : (m.setSlot slot v).slots[slot]? = some v := by
    rw [m.slots_setSlot v hslot, List.getElem?_set_self hslot]
  exact ⟨_, hputs.write_eq hslot, hgets.read_eq hthere, changesSlot_setSlot hslot v⟩

/-- What may be missing is returned if it is when it is there. -/
theorem Returns.option {α : Type} [IntoSlot α] [FromSlot α] {m : Machine} {slot : Nat}
    {v : α → ScriptValue} (hputs : ∀ a, Puts a (v a)) (hgets : ∀ a, Gets (v a) a)
    (hnull : ∀ a, Machine.typeOf (v a) ≠ .null) (hslot : slot < m.slots.length) :
    ∀ a : Option α, Returns m slot a a
  | none => .of .absent .absent hslot
  | some a => .of (.present (hputs a)) (.present (hnull a) (hgets a)) hslot

/-- A value of a type and its dynamically typed form return themselves and each other. -/
structure Interchanges {α : Type} [IntoSlot α] [FromSlot α] (m : Machine) (slot : Nat) (a : α)
    (value : HostValue) : Prop where
  typed : Returns m slot a a
  dynamic : Returns m slot value value
  read : Returns m slot a value
  written : Returns m slot value a

theorem Interchanges.of {α : Type} [IntoSlot α] [FromSlot α] {m : Machine} {slot : Nat} {a : α}
    {value : HostValue} {v : ScriptValue} (hputs : Puts a v) (hgets : Gets v a)
    (hputs' : Puts value v) (hgets' : Gets v value) (hslot : slot < m.slots.length) :
    Interchanges m slot a value :=
  ⟨.of hputs hgets hslot, .of hputs' hgets' hslot, .of hputs hgets' hslot, .of hputs' hgets hslot⟩

/-- What is read from a slot after a value of a type was written into it. -/
structure SlotRoundTrips (m : Machine) (slot : Nat) : Prop where
  bool : ∀ b : Bool, Interchanges m slot b (.bool b)
  number : ∀ x : Number, Interchanges m slot x (.float x)
  text : ∀ s : String, Interchanges m slot s (.text s)
  unit : Interchanges m slot () .null
  /-- Integers come back as floats. -/
  int : ∀ i : Int64, Returns m slot (HostValue.int i) (HostValue.float (.ofInt64 i))
  bytes : ∀ b : Bytes, Returns m slot b b
  optionalBool : ∀ b : Option Bool, Returns m slot b b
  optionalInt32 : ∀ i : Option Int32, Returns m slot i i
  optionalNumber : ∀ x : Option Number, Returns m slot x x
  optionalText : ∀ s : Option String, Returns m slot s s
  optionalBytes : ∀ b : Option Bytes, Returns m slot b b

theorem gets_text (s : String) : Gets (.string (Utf8.encode s)) s := by
  have h := Gets.text (Utf8.encode s)
  rwa [Utf8.decode_encode] at h

theorem gets_valueText (s : String) : Gets (.string (Utf8.encode s)) (HostValue.text s) := by
  have h := Gets.valueText (Utf8.encode s)
  rwa [Utf8.decode_encode] at h

theorem gets_int32 (i : Int32) : Gets (.num (.ofInt32 i)) i := by
  have h := Gets.int32 (.ofInt32 i)
  rwa [Number.toInt32_ofInt32] at h

theorem slotRoundTrips {m : Machine} {slot : Nat} (hslot : slot < m.slots.length) :
    SlotRoundTrips m slot where
  bool b := .of (.bool b) (.bool b) (.valueBool b) (.valueBool b) hslot
  number x := .of (.number x) (.number x) (.valueFloat x) (.valueFloat x) hslot
  text s := .of (.text s) (gets_text s) (.valueText s) (gets_valueText s) hslot
  unit := .of .unit .unit .valueNull .valueNull hslot
  int i := .of (.valueInt i) (.valueFloat _) hslot
  bytes b := .of (.bytes b) (.bytes b) hslot
  optionalBool := .option .bool .bool (fun _ => nofun) hslot
  optionalInt32 := .option .int32 gets_int32 (fun _ => nofun) hslot
  optionalNumber := .option .number .number (fun _ => nofun) hslot
  optionalText := .option .text gets_text (fun _ => nofun) hslot
  optionalBytes := .option .bytes .bytes (fun _ => nofun) hslot

/-! ### Refusals -/

/-- The checked readers, by the kinds of value each accepts and how it names them. -/
inductive TypedReader : (α : Type) → [FromSlot α] → List SlotType → String → Prop
  | bool : TypedReader Bool [.bool] "Bool"
  | number : TypedReader Number [.num] "Num"
  | int32 : TypedReader Int32 [.num] "Num"
  | int64 : TypedReader Int64 [.num] "Num"
  | text : TypedReader String [.string] "String"
  | bytes : TypedReader Bytes [.string] "String"
  | unit : TypedReader Unit [.null] "Null"
  | value : TypedReader HostValue [.bool, .num, .string, .null] "Bool, Num, String or Null"
  | optional {α : Type} [FromSlot α] {accepted : List SlotType} {expected : String} :
    TypedReader α accepted expected → TypedReader (Option α) (.null :: accepted) expected

/-- The checked writers for values of one type. -/
inductive TypedWriter : (α : Type) → [IntoSlot α] → Prop
  | bool : TypedWriter Bool
  | number : TypedWriter Number
  | int32 : TypedWriter Int32
  | int64 : TypedWriter Int64
  | text : TypedWriter String
  | bytes : TypedWriter Bytes
  | unit : TypedWriter Unit
  | optional {α : Type} [IntoSlot α] : TypedWriter α → TypedWriter (Option α)

section

variable {W : Type} [Slots W] {w : W} {slot : Nat}

theorem expectType_of_ge (h : Slots.count w ≤ slot) (wanted : SlotType) (expected : String) :
    expectType w slot wanted expected = .error (.slotOutOfRange slot (Slots.count w)) := by
  rw [expectType, checkSlot_of_ge h]
  rfl

theorem expectType_of_not_mem {wanted : SlotType} (hin : slot < Slots.count w)
    (h : Slots.type w slot ∉ [wanted]) (expected : String) :
    expectType w slot wanted expected =
      .error (.slotTypeMismatch slot expected (Slots.type w slot)) := by
  rw [expectType, checkSlot_of_lt hin]
  exact if_neg (by simpa using h)

theorem writeChecked_of_ge (h : Slots.count w ≤ slot) (set : W → W) :
    writeChecked w slot set = .error (.slotOutOfRange slot (Slots.count w)) := by
  rw [writeChecked, checkSlot_of_ge h]
  rfl

/-- Outside the window there is nothing to read. -/
theorem TypedReader.read_of_ge {α : Type} [FromSlot α] {accepted : List SlotType}
    {expected : String} (h : TypedReader α accepted expected) (hout : Slots.count w ≤ slot) :
    (FromSlot.read w slot : Except HostError α) =
      .error (.slotOutOfRange slot (Slots.count w)) := by
  have refused {β : Type} (wanted : SlotType) (expected : String) (b : β) :
      (do expectType w slot wanted expected; pure b) =
        .error (.slotOutOfRange slot (Slots.count w)) := by
    rw [expectType_of_ge hout]
    rfl
  cases h with
  | bool | number | int32 | int64 | text | bytes => exact refused _ _ _
  | unit => exact expectType_of_ge hout _ _
  | value =>
    show readValue w slot = _
    rw [readValue, checkSlot_of_ge hout]
    rfl
  -- Here it is the check for null that fails, before the inner reader is asked.
  | optional =>
    show (do checkSlot w slot; if _ then _ else _) = _
    rw [checkSlot_of_ge hout]
    rfl

/-- A slot that holds another kind of value is not read. -/
theorem TypedReader.read_of_not_mem {α : Type} [FromSlot α] {accepted : List SlotType}
    {expected : String} (h : TypedReader α accepted expected) (hin : slot < Slots.count w)
    (hkind : Slots.type w slot ∉ accepted) :
    (FromSlot.read w slot : Except HostError α) =
      .error (.slotTypeMismatch slot expected (Slots.type w slot)) := by
  have refused {β : Type} {wanted : SlotType} (hkind : Slots.type w slot ∉ [wanted])
      (expected : String) (b : β) : (do expectType w slot wanted expected; pure b) =
        .error (.slotTypeMismatch slot expected (Slots.type w slot)) := by
    rw [expectType_of_not_mem hin hkind]
    rfl
  induction h with
  | bool | number | int32 | int64 | text | bytes => exact refused hkind _ _
  | unit => exact expectType_of_not_mem hin hkind _
  -- The kinds the dynamic reader does not take are those it has no value for.
  | value =>
    show readValue w slot = _
    rw [readValue_of_lt hin]
    cases htype : Slots.type w slot <;> simp [htype] at hkind ⊢
  | optional _ ih =>
    rw [List.mem_cons, not_or] at hkind
    obtain ⟨hnull, hkind⟩ := hkind
    rw [read_option hin, if_neg hnull, ih hkind]
    rfl

/-- A slot that holds a kind of value that a reader accepts is read. -/
theorem TypedReader.exists_read {α : Type} [FromSlot α] {accepted : List SlotType}
    {expected : String} (h : TypedReader α accepted expected) (hin : slot < Slots.count w)
    (hkind : Slots.type w slot ∈ accepted) :
    ∃ a : α, FromSlot.read w slot = .ok a := by
  have accepted {β : Type} {wanted : SlotType} (hkind : Slots.type w slot ∈ [wanted])
      (expected : String) (b : β) :
      ∃ a : β, (do expectType w slot wanted expected; pure b) = .ok a := by
    have hexpect : expectType w slot wanted expected = .ok () :=
      expectType_eq_ok.mpr ⟨hin, List.mem_singleton.mp hkind⟩
    rw [hexpect]
    exact ⟨b, rfl⟩
  induction h with
  | bool | number | int32 | int64 | text | bytes => exact accepted hkind _ _
  | unit => exact ⟨(), expectType_eq_ok.mpr ⟨hin, List.mem_singleton.mp hkind⟩⟩
  | value =>
    show ∃ a, readValue w slot = .ok a
    rw [readValue_of_lt hin]
    cases htype : Slots.type w slot <;> simp [htype] at hkind ⊢
  | optional _ ih =>
    rw [read_option hin]
    by_cases hnull : Slots.type w slot = .null
    · exact ⟨none, if_pos hnull⟩
    · obtain ⟨a, ha⟩ := ih ((List.mem_cons.mp hkind).resolve_left hnull)
      rw [if_neg hnull, ha]
      exact ⟨some a, rfl⟩

/-- Outside the window nothing is written. -/
theorem TypedWriter.write_of_ge {α : Type} [IntoSlot α] (h : TypedWriter α)
    (hout : Slots.count w ≤ slot) (a : α) :
    IntoSlot.write w slot a = .error (.slotOutOfRange slot (Slots.count w)) := by
  induction h with
  | optional _ ih =>
    cases a with
    | none => exact writeChecked_of_ge hout _
    | some a => exact ih a
  | _ => exact writeChecked_of_ge hout _

/-- The operation was refused. -/
def WindowReply.IsRefusal : WindowReply → Prop
  | .reading (.error _) | .value (.error _) | .done (.error _) => True
  | _ => False

omit [Slots W] in
theorem eq_of_keepOnError {r : Except HostError W} {reply : WindowReply} {w' : W}
    (hrun : keepOnError w r = (reply, w')) (h : reply.IsRefusal) : w' = w := by
  cases r with
  | error e =>
    cases hrun
    rfl
  | ok w' =>
    cases hrun
    cases h

/-- A refused operation changes nothing. -/
theorem WindowStep.eq_of_refused {step : WindowStep} {reply : WindowReply} {w' : W}
    (hrun : step.run w = .ok (reply, w')) (h : reply.IsRefusal) : w' = w := by
  cases step with
  | set slot payload | writeValue slot value | getVariable module name slot =>
    exact eq_of_keepOnError (Except.ok.inj hrun) h
  -- These two are carried out or panic; neither of them replies with a refusal.
  | setNewForeign slot classSlot token =>
    obtain ⟨_, -, hok⟩ := exists_of_bind_eq_ok hrun
    cases hok
    cases h
  | insertElement slot index element =>
    obtain ⟨_, -, hok⟩ := exists_of_bind_eq_ok hrun
    cases hok
    cases h
  | get | readValue =>
    cases hrun
    rfl
  | _ =>
    cases hrun
    cases h

end

/-- The unchecked setters that the checked writers use. -/
inductive WindowStep.SetsSlot (slot : Nat) : WindowStep → Prop
  | bool (b : Bool) : SetsSlot slot (.setBool slot b)
  | number (x : Number) : SetsSlot slot (.setNumber slot x)
  | bytes (b : Bytes) : SetsSlot slot (.setBytes slot b)
  | text (s : String) : SetsSlot slot (.setText slot s)
  | null : SetsSlot slot (.setNull slot)

theorem length_setSlot_of_ge {m : Machine} {slot : Nat} (hout : m.slots.length ≤ slot)
    (v : ScriptValue) : (m.setSlot slot v).slots.length = slot + 1 := by
  rw [Machine.setSlot, List.length_set, Machine.ensure, List.length_append, List.length_replicate]
  omega

/-- Unchecked, a slot outside the window would be made. -/
theorem WindowStep.SetsSlot.length_run {m m' : Machine} {slot : Nat} {step : WindowStep}
    {reply : WindowReply} (h : step.SetsSlot slot) (hout : m.slots.length ≤ slot)
    (hrun : step.run m = .ok (reply, m')) : m'.slots.length = slot + 1 := by
  cases h <;>
  · cases hrun
    exact length_setSlot_of_ge hout _

/-- The dynamic writer takes all values but bytes and handles. -/
def HostValue.Writable : HostValue → Prop
  | .bytes _ | .handle _ => False
  | _ => True

theorem writeValue_of_ge {W : Type} [Slots W] {w : W} {slot : Nat} {value : HostValue}
    (hwritable : value.Writable) (hout : Slots.count w ≤ slot) :
    writeValue w slot value = .error (.slotOutOfRange slot (Slots.count w)) := by
  cases value with
  | bytes | handle => cases hwritable
  | null => exact TypedWriter.unit.write_of_ge hout ()
  | bool b => exact TypedWriter.bool.write_of_ge hout b
  | int i => exact TypedWriter.int64.write_of_ge hout i
  | float x => exact TypedWriter.number.write_of_ge hout x
  | text s => exact TypedWriter.text.write_of_ge hout s

/-! ### Together -/

/-- What checked reads and writes come to on a machine. -/
structure SlotLaws (m : Machine) : Prop where
  returned : ∀ slot, slot < m.slots.length → SlotRoundTrips m slot
  readOutside : ∀ {α : Type} [FromSlot α] {accepted : List SlotType} {expected : String},
    TypedReader α accepted expected → ∀ slot, m.slots.length ≤ slot →
      (FromSlot.read m slot : Except HostError α) =
        .error (.slotOutOfRange slot m.slots.length)
  readOther : ∀ {α : Type} [FromSlot α] {accepted : List SlotType} {expected : String},
    TypedReader α accepted expected → ∀ slot, slot < m.slots.length →
      Slots.type m slot ∉ accepted →
        (FromSlot.read m slot : Except HostError α) =
          .error (.slotTypeMismatch slot expected (Slots.type m slot))
  /-- Nothing else is refused. -/
  readAccepted : ∀ {α : Type} [FromSlot α] {accepted : List SlotType} {expected : String},
    TypedReader α accepted expected → ∀ slot, slot < m.slots.length →
      Slots.type m slot ∈ accepted → ∃ a : α, FromSlot.read m slot = .ok a
  writeOutside : ∀ {α : Type} [IntoSlot α], TypedWriter α → ∀ slot, m.slots.length ≤ slot →
    ∀ a : α, keepOnError m (IntoSlot.write m slot a) =
      (.done (.error (.slotOutOfRange slot m.slots.length)), m)
  writeValueOutside : ∀ value : HostValue, value.Writable → ∀ slot, m.slots.length ≤ slot →
    keepOnError m (writeValue m slot value) =
      (.done (.error (.slotOutOfRange slot m.slots.length)), m)
  /-- Neither is written anywhere, be it in the window or not. -/
  unsupported : ∀ slot, (∀ b, keepOnError m (writeValue m slot (.bytes b)) =
      (.done (.error (.unsupportedValue "Bytes")), m)) ∧
    ∀ h, keepOnError m (writeValue m slot (.handle h)) =
      (.done (.error (.unsupportedValue "Handle")), m)
  unchanged : ∀ (step : WindowStep) reply m', step.run m = .ok (reply, m') → reply.IsRefusal →
    m' = m
  /-- It is the check that keeps the window as long as it is. -/
  grown : ∀ (step : WindowStep) slot reply m', step.SetsSlot slot → m.slots.length ≤ slot →
    step.run m = .ok (reply, m') → m'.slots.length = slot + 1

/-- A value that is written into a slot of the window is what is read from it again; outside the
window, and at another kind of value, reads and writes are refused and change nothing. -/
theorem slotLaws (m : Machine) : SlotLaws m where
  returned _ := slotRoundTrips
  readOutside h _ hout := h.read_of_ge hout
  readOther h _ hin hkind := h.read_of_not_mem hin hkind
  readAccepted h _ hin hkind := h.exists_read hin hkind
  writeOutside h _ hout a := by
    rw [h.write_of_ge hout a]
    rfl
  writeValueOutside _ hwritable _ hout := by
    rw [writeValue_of_ge hwritable hout]
    rfl
  unsupported _ := ⟨fun _ => rfl, fun _ => rfl⟩
  unchanged _ _ _ := WindowStep.eq_of_refused
  grown _ _ _ _ h hout hrun := h.length_run hout hrun

end ScriptHost
