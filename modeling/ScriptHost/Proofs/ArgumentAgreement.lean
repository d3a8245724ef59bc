/-
Two ways to read a slot.

Host code that holds a window reads a slot with `FromSlot`.  On the way of a call the slot is
coerced to the kind of value a parameter asks for, and the host function takes that value at
the type of the parameter, with `FromArg`.  For every type arguments are taken at the two ways
end alike, with one exception: host code may read null, a call may not pass it.

* **`Number.clamp_toInt64`** — a number counts as the same 32-bit integer whether it is
  converted at once or through 64 bits;
* **`BoundedSlots`** — what is relied on in a window: outside it no slot has a kind;
* **`convertsAlike_of`** — the two ways for a type read from one kind of slot;
* **`convertsAlike_value`**, **`null_value`** — and for a value of any kind.
-/
import ScriptHost.Binder.Argument
import ScriptHost.Engine.Guarded
import ScriptHost.InMemory.Machine
import ScriptHost.Proofs.CheckedAccess

namespace ScriptHost

/-! ### Integers -/

namespace Number

/-- Clamping what was cut to a wider range cuts it to the narrower one. -/
theorem clamp_truncate {lo lo' hi hi' : Int} (hlo : lo' ≤ lo) (hneg : lo ≤ 0) (hpos : 0 ≤ hi)
    (hhi : hi ≤ hi') (x : Number) :
    max lo (min hi (x.truncate lo' hi')) = x.truncate lo hi := by
  rw [truncate, truncate]
  cases x.magnitude with
  | notANumber =>
    show max lo (min hi 0) = 0
    omega
  | infinite =>
    cases x.isNegative with
    | true =>
      show max lo (min hi lo') = lo
      omega
    | false =>
      show max lo (min hi hi') = hi
      omega
  -- The inner bounds are within the outer ones, so the outer cut is not felt.
  | finite m q =>
    show max lo (min hi (max lo' (min hi' (signed x.isNegative (wholePart m q))))) =
      max lo (min hi (signed x.isNegative (wholePart m q)))
    omega

/-- A number cut to a range is in it. -/
theorem truncate_mem {lo hi : Int} (hneg : lo ≤ 0) (hpos : 0 ≤ hi) (x : Number) :
    lo ≤ x.truncate lo hi ∧ x.truncate lo hi ≤ hi := by
  have h := clamp_truncate (Int.le_refl lo) hneg hpos (Int.le_refl hi) x
  omega

theorem toInt_toInt64 (x : Number) :
    x.toInt64.toInt = x.truncate Int64.minValue.toInt Int64.maxValue.toInt := by
  have hneg : Int64.minValue.toInt ≤ 0 := by decide
  have hpos : 0 ≤ Int64.maxValue.toInt := by decide
  obtain ⟨hlo, hhi⟩ := x.truncate_mem hneg hpos
  rw [Int64.toInt_minValue, Int64.toInt_maxValue] at hlo hhi
  rw [toInt64, Int64.toInt_minValue, Int64.toInt_maxValue,
    Int64.toInt_ofInt_of_le (by omega) (by omega)]

/-- Through 64 bits and a clamp a number becomes the same 32-bit integer as at once. -/
theorem clamp_toInt64 (x : Number) :
    Int32.ofInt (max Int32.minValue.toInt (min Int32.maxValue.toInt x.toInt64.toInt)) =
      x.toInt32 := by
  rw [toInt_toInt64, toInt32, clamp_truncate (by decide) (by decide) (by decide) (by decide)]

end Number

/-! ### Windows -/

/-- Outside a window no slot has a kind. -/
class BoundedSlots (W : Type) [Slots W] : Prop where
  type_of_count_le (w : W) {slot : Nat} : Slots.count w ≤ slot → Slots.type w slot = .unknown

instance : BoundedSlots InMemory.Machine where
  type_of_count_le w slot h := by
    have hslot : w.slots[slot]? = none := List.getElem?_eq_none h
    show (w.slots[slot]?.map InMemory.Machine.typeOf).getD .unknown = .unknown
    rw [hslot]
    rfl

/-- So it is for the window of any engine, whatever it answers. -/
theorem boundedSlots_guarded {C : Type} [EngineApi (StateM C)] : @BoundedSlots C guardedSlots := by
  refine @BoundedSlots.mk C guardedSlots ?_
  intro c slot h
  have hout : ((Guarded.inWindow slot : StateM C Bool).run c).1 = false :=
    decide_eq_false (Nat.not_lt.mpr h)
  have hrun : (Guarded.inWindow slot : StateM C Bool).run c =
      (false, stateAfter (Guarded.inWindow slot) c) := Prod.ext hout rfl
  show ((Guarded.slotType slot : StateM C SlotType).run c).1 = .unknown
  rw [Guarded.slotType, StateT.run_bind, hrun]
  rfl

section

variable {W : Type} [Slots W]

theorem lt_count_of_type [BoundedSlots W] {w : W} {slot : Nat}
    (h : Slots.type w slot ≠ .unknown) : slot < Slots.count w := by
  rcases Nat.lt_or_ge slot (Slots.count w) with hin | hout
  · exact hin
  · exact absurd (BoundedSlots.type_of_count_le w hout) h

theorem expectType_of_eq [BoundedSlots W] {w : W} {slot : Nat} {wanted : SlotType}
    (hknown : wanted ≠ .unknown) (h : Slots.type w slot = wanted) (expected : String) :
    expectType w slot wanted expected = .ok () := by
  have hin : slot < Slots.count w := lt_count_of_type (by rw [h]; exact hknown)
  exact expectType_eq_ok.mpr ⟨hin, h⟩

/-- The kind of slot that coerces to a kind of parameter, if there is just one. -/
def ParamKind.slotType? : ParamKind → Option SlotType
  | .bool => some .bool
  | .int | .float => some .num
  | .text => some .string
  | .any => none

theorem coerce?_of_ne (w : W) (slot : Nat) {kind : ParamKind} {wanted actual : SlotType}
    (hkind : kind.slotType? = some wanted) (h : actual ≠ wanted) :
    coerce? w slot actual kind = none := by
  cases kind <;> cases hkind <;> cases actual <;> first | rfl | exact absurd rfl h

theorem coerce_of_some {w : W} {slot : Nat} {kind : ParamKind} {value : HostValue}
    (h : coerce? w slot (Slots.type w slot) kind = some value) :
    coerce w slot kind = .ok value := by
  rw [coerce, h]
  rfl

theorem coerce_of_none {w : W} {slot : Nat} {kind : ParamKind}
    (h : coerce? w slot (Slots.type w slot) kind = none) :
    ∃ mismatch, coerce w slot kind = .error mismatch := by
  rw [coerce, h]
  exact ⟨_, rfl⟩

/-! ### Agreement -/

/-- The two ways of reading a slot at a type end alike. -/
structure ConvertsAlike (α : Type) [FromArg α] [FromSlot α] (w : W) (slot : Nat) : Prop where
  /-- They yield the same value. -/
  yields : ∀ a : α,
    (∃ value, coerce w slot (FromArg.kind α) = .ok value ∧ FromArg.ofValue? value = some a) ↔
      FromSlot.read w slot = .ok a
  /-- The slot does not coerce iff the read is refused. -/
  refuses : (∃ mismatch, coerce w slot (FromArg.kind α) = .error mismatch) ↔
    ∃ e, (FromSlot.read w slot : Except HostError α) = .error e

variable {α : Type} [FromArg α] [FromSlot α] {w : W} {slot : Nat}

/-- Both ways yield `a`. -/
theorem ConvertsAlike.of_ok {value : HostValue} {a : α}
    (hcoerce : coerce w slot (FromArg.kind α) = .ok value)
    (htake : FromArg.ofValue? value = some a) (hread : FromSlot.read w slot = .ok a) :
    ConvertsAlike α w slot where
  yields b := by
    rw [hcoerce, hread]
    constructor
    · rintro ⟨value', hvalue', hb⟩
      obtain rfl := Except.ok.inj hvalue'
      exact congrArg Except.ok (Option.some.inj (htake.symm.trans hb))
    · intro hb
      obtain rfl := Except.ok.inj hb
      exact ⟨value, rfl, htake⟩
  refuses := by
    rw [hcoerce, hread]
    constructor
    · rintro ⟨mismatch, h⟩
      cases h
    · rintro ⟨e, h⟩
      cases h

/-- Neither way yields anything. -/
theorem ConvertsAlike.of_error {mismatch : Mismatch} {e : HostError}
    (hcoerce : coerce w slot (FromArg.kind α) = .error mismatch)
    (hread : (FromSlot.read w slot : Except HostError α) = .error e) :
    ConvertsAlike α w slot where
  yields a := by
    rw [hcoerce, hread]
    constructor
    · rintro ⟨value, h, -⟩
      cases h
    · intro h
      cases h
  refuses := by
    rw [hcoerce, hread]
    exact ⟨fun _ => ⟨e, rfl⟩, fun _ => ⟨mismatch, rfl⟩⟩

/-- A slot that coerces is taken as the value it reads as. -/
theorem ConvertsAlike.taken (h : ConvertsAlike α w slot) {value : HostValue}
    (hcoerce : coerce w slot (FromArg.kind α) = .ok value) :
    ∃ a : α, FromArg.ofValue? value = some a ∧ FromSlot.read w slot = .ok a := by
  cases hread : (FromSlot.read w slot : Except HostError α) with
  | error e =>
    obtain ⟨mismatch, hmismatch⟩ := h.refuses.mpr ⟨e, hread⟩
    rw [hcoerce] at hmismatch
    cases hmismatch
  | ok a =>
    obtain ⟨value', hvalue', ha⟩ := (h.yields a).mpr hread
    rw [hcoerce] at hvalue'
    obtain rfl := Except.ok.inj hvalue'
    exact ⟨a, ha, rfl⟩

/-- The two ways end alike for a type that is read from slots of one kind, if those are the
slots that coerce and the value taken is the value read. -/
theorem convertsAlike_of [BoundedSlots W] {wanted : SlotType} {expected : String} {a : α}
    (hkind : (FromArg.kind α).slotType? = some wanted)
    (hread : FromSlot.read w slot = do
      expectType w slot wanted expected
      pure a)
    (htaken : ∃ value, coerce? w slot wanted (FromArg.kind α) = some value ∧
      FromArg.ofValue? value = some a) :
    ConvertsAlike α w slot := by
  -- No kind of parameter asks for slots of unknown kind, which is all there is outside the window.
  have hknown : wanted ≠ .unknown := by
    rintro rfl
    cases hparam : FromArg.kind α <;> rw [hparam] at hkind <;> cases hkind
  by_cases htype : Slots.type w slot = wanted
  · obtain ⟨value, hvalue, ha⟩ := htaken
    rw [← htype] at hvalue
    rw [expectType_of_eq hknown htype] at hread
    exact .of_ok (coerce_of_some hvalue) ha hread
  · obtain ⟨mismatch, hmismatch⟩ := coerce_of_none (coerce?_of_ne w slot hkind htype)
    obtain ⟨e, he⟩ := expectType_of_ne htype expected
    rw [he] at hread
    exact .of_error hmismatch hread

end

section

variable {W : Type} [Slots W] [BoundedSlots W] (w : W) (slot : Nat)

theorem convertsAlike_bool : ConvertsAlike Bool w slot :=
  convertsAlike_of rfl rfl ⟨_, rfl, rfl⟩

theorem convertsAlike_number : ConvertsAlike Number w slot :=
  convertsAlike_of rfl rfl ⟨_, rfl, rfl⟩

theorem convertsAlike_int64 : ConvertsAlike Int64 w slot :=
  convertsAlike_of rfl rfl ⟨_, rfl, rfl⟩

/-- The call goes through 64 bits and a clamp, the read does not. -/
theorem convertsAlike_int32 : ConvertsAlike Int32 w slot :=
  convertsAlike_of rfl rfl ⟨_, rfl, congrArg some (Number.clamp_toInt64 _)⟩

theorem convertsAlike_text : ConvertsAlike String w slot :=
  convertsAlike_of rfl rfl ⟨_, rfl, rfl⟩

variable {w slot}

omit [BoundedSlots W] in
theorem readValue_of_lt (h : slot < Slots.count w) :
    readValue w slot =
      match Slots.type w slot with
      | .bool => .ok (.bool (Slots.bool w slot))
      | .num => .ok (.float (Slots.number w slot))
      | .string => .ok (.text (Slots.text w slot))
      | .null => .ok .null
      | actual => .error (.slotTypeMismatch slot "Bool, Num, String or Null" actual) := by
  rw [readValue, checkSlot_of_lt h]
  cases Slots.type w slot <;> rfl

/-- The two ways end alike at a value of any kind, unless the slot holds null. -/
theorem convertsAlike_value (h : Slots.type w slot ≠ .null) : ConvertsAlike HostValue w slot := by
  -- Whatever has no value to read does not coerce either.
  have refused {e : HostError} (hnone : coerce? w slot (Slots.type w slot) .any = none)
      (hread : readValue w slot = .error e) : ConvertsAlike HostValue w slot := by
    obtain ⟨mismatch, hmismatch⟩ := coerce_of_none hnone
    exact .of_error hmismatch hread
  rcases Nat.lt_or_ge slot (Slots.count w) with hin | hout
  · have hread := readValue_of_lt hin
    cases htype : Slots.type w slot <;> rw [htype] at h hread
    case bool | num | string => exact .of_ok (coerce_of_some (by rw [htype]; rfl)) rfl hread
    case null => exact absurd rfl h
    case foreign | list | map | unknown => exact refused (by rw [htype]; rfl) hread
  · have htype := BoundedSlots.type_of_count_le w hout
    refine refused (by rw [htype]; rfl) (e := .slotOutOfRange slot (Slots.count w)) ?_
    rw [readValue, checkSlot_of_ge hout]
    rfl

/-- Null reads as null, and does not coerce. -/
theorem null_value (h : Slots.type w slot = .null) :
    FromSlot.read w slot = .ok HostValue.null ∧
      ∃ mismatch, coerce w slot (FromArg.kind HostValue) = .error mismatch := by
  have hin : slot < Slots.count w := lt_count_of_type (by rw [h]; decide)
  have hnone : coerce? w slot (Slots.type w slot) (FromArg.kind HostValue) = none := by
    rw [h]
    rfl
  refine ⟨?_, coerce_of_none hnone⟩
  show readValue w slot = _
  rw [readValue_of_lt hin, h]

end

end ScriptHost
