/-
What host code can do to a window.

A `SlotFrame R` is a relation between windows before and after that every single
operation keeps, apart from making instances and pinning values.  Whatever is built from
those operations keeps it too: the checked writers (**`SlotFrame.writeValue`**,
**`SlotFrame.writeOwnedValue`**), single steps (**`SlotFrame.step`**) and the bound
methods and constructors (**`SlotFrame.invoke`**, **`SlotFrame.allocate`**).  None of them
puts anything on record; a `WindowFrame` keeps that too.
-/
import ScriptHost.Binder.ForeignBinding
import ScriptHost.Journal
import ScriptHost.Proofs.CheckedAccess

namespace ScriptHost

/-- A relation kept by every operation on a window but those that make an instance or pin a
value. -/
structure SlotFrame {W : Type} [Slots W] (R : W → W → Prop) : Prop where
  refl (w : W) : R w w
  trans {w w' w'' : W} : R w w' → R w' w'' → R w w''
  ensure (w : W) (count : Nat) : R w (Slots.ensure w count)
  setBool (w : W) (slot : Nat) (b : Bool) : R w (Slots.setBool w slot b)
  setNumber (w : W) (slot : Nat) (x : Number) : R w (Slots.setNumber w slot x)
  setBytes (w : W) (slot : Nat) (b : Bytes) : R w (Slots.setBytes w slot b)
  setPinned (w : W) (slot : Nat) (h : RawHandle) : R w (Slots.setPinned w slot h)
  setNull (w : W) (slot : Nat) : R w (Slots.setNull w slot)
  setNewList (w : W) (slot : Nat) : R w (Slots.setNewList w slot)
  getElement (w : W) (slot index element : Nat) : R w (Slots.getElement w slot index element)
  insertElement {w w' : W} {slot : Nat} {index : Int} {element : Nat} :
    Slots.insertElement w slot index element = .ok w' → R w w'
  getVariable {w w' : W} {module name : String} {slot : Nat} :
    Slots.getVariable w module name slot = .ok w' → R w w'
  abort (w : W) (slot : Nat) : R w (Slots.abort w slot)

/-- A relation that is kept, besides, by putting anything on record. -/
structure WindowFrame {W : Type} [Slots W] [Chronicle W] (R : W → W → Prop) : Prop
    extends SlotFrame R where
  note (w : W) (entry : Entry) : R w (Chronicle.note w entry)

theorem slotFrame_true {W : Type} [Slots W] : SlotFrame fun _ _ : W => True := by
  constructor <;> intros <;> trivial

namespace SlotFrame

variable {W : Type} [Slots W] {R : W → W → Prop} {w w' : W} {slot : Nat}

/-- A wider relation is kept too, if it can be composed. -/
theorem mono {R' : W → W → Prop} (hR : SlotFrame R) (hwide : ∀ w w', R w w' → R' w w')
    (htrans : ∀ {w w' w''}, R' w w' → R' w' w'' → R' w w'') : SlotFrame R' where
  refl w := hwide _ _ (hR.refl w)
  trans := htrans
  ensure w count := hwide _ _ (hR.ensure w count)
  setBool w slot b := hwide _ _ (hR.setBool w slot b)
  setNumber w slot x := hwide _ _ (hR.setNumber w slot x)
  setBytes w slot b := hwide _ _ (hR.setBytes w slot b)
  setPinned w slot h := hwide _ _ (hR.setPinned w slot h)
  setNull w slot := hwide _ _ (hR.setNull w slot)
  setNewList w slot := hwide _ _ (hR.setNewList w slot)
  getElement w slot index element := hwide _ _ (hR.getElement w slot index element)
  insertElement h := hwide _ _ (hR.insertElement h)
  getVariable h := hwide _ _ (hR.getVariable h)
  abort w slot := hwide _ _ (hR.abort w slot)

/-- What is kept in two ways at once. -/
theorem and {R' : W → W → Prop} (hR : SlotFrame R) (hR' : SlotFrame R') :
    SlotFrame fun w w' => R w w' ∧ R' w w' where
  refl w := ⟨hR.refl w, hR'.refl w⟩
  trans h h' := ⟨hR.trans h.1 h'.1, hR'.trans h.2 h'.2⟩
  ensure w count := ⟨hR.ensure w count, hR'.ensure w count⟩
  setBool w slot b := ⟨hR.setBool w slot b, hR'.setBool w slot b⟩
  setNumber w slot x := ⟨hR.setNumber w slot x, hR'.setNumber w slot x⟩
  setBytes w slot b := ⟨hR.setBytes w slot b, hR'.setBytes w slot b⟩
  setPinned w slot h := ⟨hR.setPinned w slot h, hR'.setPinned w slot h⟩
  setNull w slot := ⟨hR.setNull w slot, hR'.setNull w slot⟩
  setNewList w slot := ⟨hR.setNewList w slot, hR'.setNewList w slot⟩
  getElement w slot index element :=
    ⟨hR.getElement w slot index element, hR'.getElement w slot index element⟩
  insertElement h := ⟨hR.insertElement h, hR'.insertElement h⟩
  getVariable h := ⟨hR.getVariable h, hR'.getVariable h⟩
  abort w slot := ⟨hR.abort w slot, hR'.abort w slot⟩

theorem abortWith (hR : SlotFrame R) (w : W) (message : String) :
    R w (Slots.abortWith w message) := by
  unfold Slots.abortWith
  refine hR.trans ?_ (hR.trans (hR.setBytes _ 0 (Utf8.encode message)) (hR.abort _ 0))
  split
  · exact hR.ensure w 1
  · exact hR.refl w

theorem eq_of_writeChecked {set : W → W} (h : writeChecked w slot set = .ok w') :
    w' = set w :=
  (writeChecked_eq_ok h).2

theorem writeValue (hR : SlotFrame R) {v : HostValue}
    (h : writeValue w slot v = .ok w') : R w w' := by
  cases v <;> simp only [ScriptHost.writeValue, IntoSlot.write] at h
  case null => exact eq_of_writeChecked h ▸ hR.setNull w slot
  case bool b => exact eq_of_writeChecked h ▸ hR.setBool w slot b
  case int i => exact eq_of_writeChecked h ▸ hR.setNumber w slot _
  case float x => exact eq_of_writeChecked h ▸ hR.setNumber w slot x
  case text s => exact eq_of_writeChecked h ▸ hR.setBytes w slot _
  case bytes b => cases h
  case handle r => cases h

theorem writePayload (hR : SlotFrame R) {payload : Payload HostValue}
    (h : writePayload w slot payload = .ok w') : R w w' := by
  cases payload <;> simp only [ScriptHost.writePayload, IntoSlot.write] at h
  case bool b => exact eq_of_writeChecked h ▸ hR.setBool w slot b
  case number x => exact eq_of_writeChecked h ▸ hR.setNumber w slot x
  case int32 i => exact eq_of_writeChecked h ▸ hR.setNumber w slot _
  case int64 i => exact eq_of_writeChecked h ▸ hR.setNumber w slot _
  case text s => exact eq_of_writeChecked h ▸ hR.setBytes w slot _
  case bytes b => exact eq_of_writeChecked h ▸ hR.setBytes w slot b
  case unit => exact eq_of_writeChecked h ▸ hR.setNull w slot
  case optionalBool b =>
    cases b with
    | none => exact eq_of_writeChecked h ▸ hR.setNull w slot
    | some b => exact eq_of_writeChecked h ▸ hR.setBool w slot b
  case optionalInt32 i =>
    cases i with
    | none => exact eq_of_writeChecked h ▸ hR.setNull w slot
    | some i => exact eq_of_writeChecked h ▸ hR.setNumber w slot _
  case optionalText s =>
    cases s with
    | none => exact eq_of_writeChecked h ▸ hR.setNull w slot
    | some s => exact eq_of_writeChecked h ▸ hR.setBytes w slot _
  case value v => exact hR.writeValue h

theorem writeOwnedValue (hR : SlotFrame R) {v : HostValue} {owner : HandleRegistry}
    (h : writeOwnedValue w slot v owner = .ok w') : R w w' := by
  cases v <;> simp only [ScriptHost.writeOwnedValue] at h
  case handle r =>
    -- A handle is written only if it is this machine's own and live.
    by_cases hown : r.owner ≠ owner.owner
    · rw [if_pos hown] at h
      cases h
    · rw [if_neg hown] at h
      by_cases hslot : slot < Slots.count w
      · simp only [checkSlot, hslot, ↓reduceIte] at h
        cases hraw : owner.raw? r.id with
        | none =>
          rw [hraw] at h
          cases h
        | some raw =>
          rw [hraw] at h
          cases h
          exact hR.setPinned w slot raw
      · simp only [checkSlot, hslot, ↓reduceIte] at h
        cases h
  all_goals exact hR.writeValue h

theorem keepOnError (hR : SlotFrame R) {outcome : Except HostError W}
    (h : ∀ w', outcome = .ok w' → R w w') : R w (keepOnError w outcome).2 := by
  cases outcome with
  | ok w' => exact h w' rfl
  | error e => exact hR.refl w

/-- A single step keeps a frame that pinning keeps, unless it makes an instance. -/
theorem step (hR : SlotFrame R) (hpin : ∀ w slot, R w (Slots.pin w slot).2)
    {step : WindowStep} {reply : WindowReply}
    (hstep : ∀ slot classSlot token, step ≠ .setNewForeign slot classSlot token)
    (h : step.run w = .ok (reply, w')) : R w w' := by
  cases step <;> simp only [WindowStep.run, pure, Except.pure, Except.ok.injEq] at h
  -- Two steps may panic; all others answer, with a window that can be read off.
  case setNewForeign slot classSlot token => exact absurd rfl (hstep slot classSlot token)
  case insertElement slot index element =>
    cases hinsert : Slots.insertElement w slot index element with
    | error p =>
      rw [hinsert] at h
      cases h
    | ok w'' =>
      rw [hinsert] at h
      cases h
      exact hR.insertElement hinsert
  all_goals obtain rfl : _ = w' := congrArg Prod.snd h
  case set slot payload => exact hR.keepOnError fun _ => hR.writePayload
  case writeValue slot v => exact hR.keepOnError fun _ => hR.writeValue
  case getVariable module name slot => exact hR.keepOnError fun _ => hR.getVariable
  case ensure n => exact hR.ensure w n
  case pin slot => exact hpin w slot
  case setBool slot b => exact hR.setBool w slot b
  case setNumber slot x => exact hR.setNumber w slot x
  case setBytes slot b => exact hR.setBytes w slot b
  case setText slot s => exact hR.setBytes w slot _
  case setNull slot => exact hR.setNull w slot
  case setPinned slot handle => exact hR.setPinned w slot handle
  case setNewList slot => exact hR.setNewList w slot
  case getElement slot index element => exact hR.getElement w slot index element
  case abort slot => exact hR.abort w slot
  all_goals exact hR.refl w

theorem answer (hR : SlotFrame R) (w : W) (r : ForeignReturn) :
    R w (ForeignBinding.answer w r) := by
  match r with
  | .ok none => exact hR.refl w
  | .error e => exact hR.abortWith w e.message
  | .ok (some v) =>
    unfold ForeignBinding.answer
    cases hwrite : ScriptHost.writeValue w 0 v with
    | ok w' =>
      simp only [hwrite]
      exact hR.writeValue hwrite
    | error e =>
      simp only [hwrite]
      exact hR.abortWith w e.message

/-- A bound method keeps every frame. -/
theorem invoke {F : Type} (hR : SlotFrame R) (b : ForeignBinding) (index : Nat) (w : W)
    (registry : ForeignRegistry F) (objects : ObjectStore) :
    R w (b.invoke index w registry objects).1 := by
  unfold ForeignBinding.invoke
  split
  · exact hR.refl w
  · split
    · exact hR.abortWith w _
    · split
      · exact hR.abortWith w _
      · exact hR.answer w _

/-- So does a bound constructor. -/
theorem allocate (hR : SlotFrame R) (b : ForeignBinding) (w : W) :
    R w (b.allocate w).2 := by
  unfold ForeignBinding.allocate
  split
  · exact hR.refl w
  · split
    · exact hR.refl w
    · exact hR.abortWith w _

end SlotFrame

end ScriptHost
