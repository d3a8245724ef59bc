/-
Changes of a machine that its host does not see.

`Unseen f` says that the getters of a window answer the same after a change `f` of its machine as
before, and that every operation on it may as well come before the change as after.  So whatever
host code is built from them does on the changed machine what it does on the machine itself, and
ends with the change made to where that ends:

* **`Unseen.writeValue`**, **`Unseen.writePayload`**, **`Unseen.writeOwnedValue`** — the checked
  writers;
* **`Unseen.invoke`**, **`Unseen.runActions`** — bound methods and hand-written members;
* **`HostState.invoke_changed`** — the callback that runs a method.
-/
import ScriptHost.HostState
import ScriptHost.Proofs.Callbacks
import ScriptHost.Proofs.LawfulSlots

namespace ScriptHost

/-- A change of a machine that neither the getters nor the operations on its window depend on. -/
structure Unseen {W : Type} [Slots W] [Chronicle W] (f : W → W) : Prop where
  count (w : W) : Slots.count (f w) = Slots.count w
  look (w : W) (slot : Nat) : Slots.look (f w) slot = Slots.look w slot
  ensure (w : W) (count : Nat) : Slots.ensure (f w) count = f (Slots.ensure w count)
  setBool (w : W) (slot : Nat) (b : Bool) :
    Slots.setBool (f w) slot b = f (Slots.setBool w slot b)
  setNumber (w : W) (slot : Nat) (x : Number) :
    Slots.setNumber (f w) slot x = f (Slots.setNumber w slot x)
  setBytes (w : W) (slot : Nat) (b : Bytes) :
    Slots.setBytes (f w) slot b = f (Slots.setBytes w slot b)
  setPinned (w : W) (slot : Nat) (h : RawHandle) :
    Slots.setPinned (f w) slot h = f (Slots.setPinned w slot h)
  setNull (w : W) (slot : Nat) : Slots.setNull (f w) slot = f (Slots.setNull w slot)
  abort (w : W) (slot : Nat) : Slots.abort (f w) slot = f (Slots.abort w slot)
  note (w : W) (entry : Entry) : Chronicle.note (f w) entry = f (Chronicle.note w entry)

section

variable {F W : Type}

/-- The call with the machine changed. -/
def CallContext.through (c : CallContext F W) (f : W → W) : CallContext F W :=
  { c with window := f c.window }

def CallState.through (s : CallState F W) (f : W → W) : CallState F W :=
  { s with context := s.context.through f }

/-- The world with the machine changed. -/
def World.through {H : Type} (w : World H W) (f : W → W) : World H W :=
  { w with vm := f w.vm }

theorem CallContext.setWith_through (c : CallContext F W) (slot : Nat) {f : W → W}
    {write : W → Except HostError W} (hwrite : write (f c.window) = (write c.window).map f) :
    (c.through f).setWith slot write = (c.setWith slot write).map (·.through f) := by
  unfold setWith
  show (c.checkWritable slot >>= fun _ => write (f c.window) >>= _) = _
  rw [hwrite]
  cases c.checkWritable slot with
  | error e => rfl
  | ok _ => cases write c.window <;> rfl

/-- A write answers the same, carried out or refused. -/
theorem CallAction.written_through (s : CallState F W) (slot : Nat) {f : W → W}
    (write : W → Except HostError W)
    (hwrite : write (f s.context.window) = (write s.context.window).map f) :
    written (s.through f) ((s.context.through f).setWith slot write) =
      ((written s (s.context.setWith slot write)).1,
        (written s (s.context.setWith slot write)).2.through f) := by
  rw [s.context.setWith_through slot hwrite]
  cases s.context.setWith slot write <;> rfl

/-- A reply that only tells of the call, as it tells of the unchanged one. -/
theorem CallState.told_through (s : CallState F W) {f : W → W} {α : Type} {answer answer' : α}
    (reply : α → CallReply) (hanswer : answer = answer') :
    (.ok (reply answer, s.through f) : Except Panic (CallReply × CallState F W)) =
      .ok (reply answer', s.through f) := by
  rw [hanswer]

/-- What is done to the call besides, as it is done to the unchanged one. -/
theorem CallState.done_through (s : CallState F W) {f : W → W} {α : Type}
    {done done' : α × CallContext F W} (reply : α → CallReply)
    (hdone : done = (done'.1, done'.2.through f)) :
    (.ok (reply done.1, { s with context := done.2 }) :
        Except Panic (CallReply × CallState F W)) =
      .ok (reply done'.1, { s with context := done'.2.through f }) := by
  rw [hdone]

end

/-- What is done to the integer behind an instance while the one behind another is looked at. -/
def CallContext.lookInside {F W : Type} [Slots W] (c : CallContext F W) (inner : Nat) (i : Int64)
    (objects : ObjectStore) : (Int64 × Option Int64) × Int64 × ObjectStore :=
  let (nested, c') := { c with objects := objects }.withForeign inner fun (j : Int64) objects =>
    (j, j, objects)
  ((i, nested), i, c'.objects)

namespace Unseen

variable {F W : Type} [Slots W] [Chronicle W] {f : W → W}

/-! ### Getters -/

theorem type (h : Unseen f) (w : W) (slot : Nat) : Slots.type (f w) slot = Slots.type w slot :=
  congrArg SlotView.type (h.look w slot)

theorem bool (h : Unseen f) (w : W) (slot : Nat) : Slots.bool (f w) slot = Slots.bool w slot :=
  congrArg SlotView.bool (h.look w slot)

theorem number (h : Unseen f) (w : W) (slot : Nat) :
    Slots.number (f w) slot = Slots.number w slot :=
  congrArg SlotView.number (h.look w slot)

theorem bytes (h : Unseen f) (w : W) (slot : Nat) :
    Slots.bytes (f w) slot = Slots.bytes w slot :=
  congrArg SlotView.bytes (h.look w slot)

theorem text (h : Unseen f) (w : W) (slot : Nat) : Slots.text (f w) slot = Slots.text w slot :=
  congrArg Utf8.decode (h.bytes w slot)

theorem token (h : Unseen f) (w : W) (slot : Nat) :
    Slots.token (f w) slot = Slots.token w slot :=
  congrArg SlotView.token (h.look w slot)

theorem checkSlot (h : Unseen f) (w : W) (slot : Nat) :
    checkSlot (f w) slot = ScriptHost.checkSlot w slot := by
  rw [ScriptHost.checkSlot, h.count]
  rfl

theorem expectType (h : Unseen f) (w : W) (slot : Nat) (wanted : SlotType) (expected : String) :
    expectType (f w) slot wanted expected = ScriptHost.expectType w slot wanted expected := by
  rw [ScriptHost.expectType, h.checkSlot, h.type]
  rfl

theorem readAs (h : Unseen f) (w : W) (slot : Nat) (type : ReadType) :
    readAs (f w) slot type = ScriptHost.readAs w slot type := by
  induction type with
  | optional type ih => simp only [ScriptHost.readAs, h.checkSlot, h.type, ih]
  | _ =>
    simp only [ScriptHost.readAs, FromSlot.read, readValue, h.checkSlot, h.expectType, h.type,
      h.bool, h.number, h.bytes, h.text]

theorem coerce (h : Unseen f) (w : W) (slot : Nat) (kind : ParamKind) :
    coerce (f w) slot kind = ScriptHost.coerce w slot kind := by
  simp only [ScriptHost.coerce, coerce?, observe, h.type, h.bool, h.number, h.text]

theorem coerceAll (h : Unseen f) (w : W) (slot : Nat) (params : List Param) :
    coerceAll (f w) slot params = ScriptHost.coerceAll w slot params := by
  induction params generalizing slot with
  | nil => rfl
  | cons param params ih => simp only [ScriptHost.coerceAll, h.coerce, ih]

/-! ### Writers -/

theorem writeChecked (h : Unseen f) {w : W} {set : W → W} (hset : set (f w) = f (set w))
    (slot : Nat) : writeChecked (f w) slot set = (ScriptHost.writeChecked w slot set).map f := by
  rw [ScriptHost.writeChecked, ScriptHost.writeChecked, h.checkSlot, hset]
  cases ScriptHost.checkSlot w slot <;> rfl

theorem writeValue (h : Unseen f) (w : W) (slot : Nat) (v : HostValue) :
    writeValue (f w) slot v = (ScriptHost.writeValue w slot v).map f := by
  cases v with
  | bytes | handle => rfl
  | _ =>
    simp only [ScriptHost.writeValue, IntoSlot.write, Slots.setText, h.writeChecked, h.setNull,
      h.setBool, h.setNumber, h.setBytes]

theorem writePayload (h : Unseen f) (w : W) (slot : Nat) (payload : Payload HostValue) :
    writePayload (f w) slot payload = (ScriptHost.writePayload w slot payload).map f := by
  cases payload with
  | value v => exact h.writeValue w slot v
  | optionalBool b =>
    cases b <;>
      simp only [ScriptHost.writePayload, IntoSlot.write, h.writeChecked, h.setNull, h.setBool]
  | optionalInt32 i =>
    cases i <;>
      simp only [ScriptHost.writePayload, IntoSlot.write, h.writeChecked, h.setNull, h.setNumber]
  | optionalText s =>
    cases s <;>
      simp only [ScriptHost.writePayload, IntoSlot.write, Slots.setText, h.writeChecked,
        h.setNull, h.setBytes]
  | _ =>
    simp only [ScriptHost.writePayload, IntoSlot.write, Slots.setText, h.writeChecked, h.setNull,
      h.setBool, h.setNumber, h.setBytes]

theorem writeOwnedValue (h : Unseen f) (w : W) (slot : Nat) (v : HostValue)
    (owner : HandleRegistry) :
    writeOwnedValue (f w) slot v owner = (ScriptHost.writeOwnedValue w slot v owner).map f := by
  cases v with
  | handle r =>
    simp only [ScriptHost.writeOwnedValue, h.checkSlot, h.setPinned]
    split
    · rfl
    · cases ScriptHost.checkSlot w slot with
      | error e => rfl
      | ok _ => cases owner.raw? r.id <;> rfl
  | _ =>
    simp only [ScriptHost.writeOwnedValue]
    exact h.writeValue w slot _

theorem abortWith (h : Unseen f) (w : W) (message : String) :
    Slots.abortWith (f w) message = f (Slots.abortWith w message) := by
  have hset (w : W) : Slots.abort (Slots.setText (f w) 0 message) 0 =
      f (Slots.abort (Slots.setText w 0 message) 0) :=
    (congrArg (Slots.abort · 0) (h.setBytes w 0 _)).trans (h.abort _ 0)
  unfold Slots.abortWith
  rw [h.count]
  by_cases hempty : Slots.count w = 0
  · simp only [hempty, ↓reduceIte, h.ensure]
    exact hset _
  · simp only [hempty, ↓reduceIte]
    exact hset _

/-! ### Bound methods -/

theorem answer (h : Unseen f) (w : W) (r : ForeignReturn) :
    ForeignBinding.answer (f w) r = f (ForeignBinding.answer w r) := by
  match r with
  | .ok none => rfl
  | .error e => exact h.abortWith w e.message
  | .ok (some v) =>
    simp only [ForeignBinding.answer, h.writeValue]
    cases ScriptHost.writeValue w 0 v with
    | ok w' => rfl
    | error e => exact h.abortWith w e.message

theorem receiverFor? (h : Unseen f) (b : ForeignBinding) (m : BoundMethod) (w : W)
    (registry : ForeignRegistry F) (objects : ObjectStore) :
    b.receiverFor? m (f w) registry objects = b.receiverFor? m w registry objects := by
  simp only [ForeignBinding.receiverFor?, ForeignBinding.receiver?, h.token]

theorem invoke (h : Unseen f) (b : ForeignBinding) (index : Nat) (w : W)
    (registry : ForeignRegistry F) (objects : ObjectStore) :
    b.invoke index (f w) registry objects =
      (f (b.invoke index w registry objects).1, (b.invoke index w registry objects).2) := by
  unfold ForeignBinding.invoke
  cases b.methods[index]? with
  | none => rfl
  | some m =>
    simp only [h.receiverFor?, h.coerceAll]
    cases b.receiverFor? m w registry objects with
    | none => exact congrArg (·, objects) (h.abortWith w _)
    | some receiver =>
      cases ScriptHost.coerceAll w 1 m.params with
      | error found => exact congrArg (·, objects) (h.abortWith w _)
      | ok args => exact congrArg (·, (m.call receiver args objects).2) (h.answer w _)

/-! ### Hand-written members -/

theorem token? (h : Unseen f) (c : CallContext F W) (slot : Nat) :
    (c.through f).token? slot = c.token? slot := by
  unfold CallContext.token?
  show (if slot < Slots.count (f c.window) then Slots.token (f c.window) slot else none) = _
  rw [h.count, h.token]
  rfl

theorem foreign? (h : Unseen f) (c : CallContext F W) (slot : Nat) :
    (c.through f).foreign? slot = c.foreign? slot :=
  congrArg (·.bind c.foreign.resolve?) (h.token? c slot)

theorem withForeign {α β : Type} [HostType α] (h : Unseen f) (c : CallContext F W) (slot : Nat)
    (work : α → ObjectStore → β × α × ObjectStore) :
    (c.through f).withForeign slot work =
      ((c.withForeign slot work).1, (c.withForeign slot work).2.through f) := by
  unfold CallContext.withForeign
  rw [h.foreign?]
  cases c.foreign? slot <;> rfl

theorem lookInside (h : Unseen f) (c : CallContext F W) (inner : Nat) :
    (c.through f).lookInside inner = c.lookInside inner := by
  funext i objects
  have hinner := h.withForeign { c with objects := objects } inner fun (j : Int64) objects =>
    (j, j, objects)
  unfold CallContext.lookInside
  exact congrArg (fun looked => ((i, looked.1), i, looked.2.objects)) hinner

theorem releaseForeign (h : Unseen f) (c : CallContext F W) (slot : Nat) :
    (c.through f).releaseForeign slot =
      ((c.releaseForeign slot).1, (c.releaseForeign slot).2.through f) := by
  unfold CallContext.releaseForeign
  rw [h.token?]
  cases c.token? slot <;> rfl

theorem slotCount (h : Unseen f) (c : CallContext F W) :
    (c.through f).slotCount = c.slotCount :=
  h.count _

theorem argCount (h : Unseen f) (c : CallContext F W) : (c.through f).argCount = c.argCount :=
  congrArg (· - 1) (h.slotCount c)

theorem slotType (h : Unseen f) (c : CallContext F W) (slot : Nat) :
    (c.through f).slotType slot = c.slotType slot := by
  unfold CallContext.slotType
  show (ScriptHost.checkSlot (f c.window) slot >>= fun _ => pure (Slots.type (f c.window) slot)) = _
  rw [h.checkSlot, h.type]

theorem getNumber (h : Unseen f) (c : CallContext F W) (slot : Nat) :
    (c.through f).get Number slot = c.get Number slot := by
  show (ScriptHost.expectType (f c.window) slot .num "Num" >>= fun _ =>
    pure (Slots.number (f c.window) slot)) = _
  rw [h.expectType, h.number]
  rfl

theorem summary (h : Unseen f) (c : CallContext F W) : (c.through f).summary = c.summary := by
  unfold CallContext.summary
  rw [h.slotCount]
  rfl

/-- An action does the same on the changed machine. -/
theorem run (h : Unseen f) (s : CallState F W) (action : CallAction) :
    action.run (s.through f) = (action.run s).map fun (reply, s') => (reply, s'.through f) := by
  cases action with
  | slotCount =>
    simp only [CallAction.run, CallState.through, h.slotCount, h.argCount]
    rfl
  | slotType slot => exact s.told_through .slotType (h.slotType s.context slot)
  | get slot type => exact s.told_through .reading (h.readAs _ slot type)
  | set slot payload =>
    exact congrArg Except.ok (CallAction.written_through s slot _ (h.writePayload _ slot _))
  | setReturn payload =>
    exact congrArg Except.ok (CallAction.written_through s 0 _ (h.writePayload _ 0 _))
  | setValue slot value =>
    exact congrArg Except.ok (CallAction.written_through s slot _ (h.writeOwnedValue _ slot _ _))
  | sum =>
    -- The arguments are read off the changed machine before the sum is written.
    simp only [CallAction.run, CallState.through, h.getNumber]
    exact congrArg Except.ok (CallAction.written_through s 0 (IntoSlot.write · 0 _)
      (h.writeChecked (h.setNumber s.context.window 0 _) 0))
  | foreign slot =>
    exact s.told_through (CallAction.objectReply s.context.objects) (h.foreign? s.context slot)
  | withInt slot amount =>
    have hwork := h.withForeign s.context slot fun (i : Int64) objects =>
      (i + amount, i + amount, objects)
    exact (s.done_through .int hwork :)
  | withText slot suffix =>
    have hwork := h.withForeign s.context slot fun (text : String) objects =>
      (text ++ suffix, text ++ suffix, objects)
    exact (s.done_through .text hwork :)
  | withNested slot inner =>
    have hwork := (congrArg ((s.context.through f).withForeign slot)
      (h.lookInside s.context inner)).trans (h.withForeign s.context slot _)
    exact (s.done_through .nested hwork :)
  | releaseForeign slot =>
    simp only [CallAction.run, CallState.through, h.token?]
    exact s.done_through (fun id => .released (id.bind fun _ => s.context.token? slot)
      (id.bind s.context.objects.get?)) (h.releaseForeign s.context slot)
  | abort message =>
    exact congrArg (fun window => Except.ok (CallReply.nothing, { s with context :=
      { s.context with window := window, aborted := true } })) (h.abortWith _ message)
  | summary => exact (s.told_through .summary (h.summary s.context) :)
  | isAborted | dropHandle | panic => rfl

/-- So does a whole member, by induction on its actions. -/
theorem runActions (h : Unseen f) (actions : List CallAction) (s : CallState F W) :
    ScriptHost.runActions actions (s.through f) =
      ((ScriptHost.runActions actions s).1, (ScriptHost.runActions actions s).2.through f) := by
  induction actions generalizing s with
  | nil => rfl
  | cons action actions ih =>
    unfold ScriptHost.runActions
    rw [Run.get_bind_apply, Run.get_bind_apply, h.run]
    cases action.run s with
    | error p => rfl
    | ok answer =>
      obtain ⟨reply, s'⟩ := answer
      dsimp only [Except.map]
      rw [Run.bind_apply, Run.bind_apply]
      have hnoted : CallState.through { s' with context :=
          { s'.context with window := Chronicle.note s'.context.window (.raw reply) } } f =
          { s'.through f with context := { (s'.through f).context with
            window := Chronicle.note (s'.through f).context.window (.raw reply) } } := by
        simp only [CallState.through, CallContext.through, h.note]
      exact hnoted ▸ ih _

end Unseen

namespace HostState

variable {W : Type} [Slots W] [Chronicle W] {f : W → W}

theorem runMember_changed (h : Unseen f) (allocating : Bool) (program : List CallAction)
    (w : World HostState W) :
    runMember allocating program (w.through f) =
      ((runMember allocating program w).1, (runMember allocating program w).2.through f) := by
  have hrun : runActions program (callState (w.through f) allocating) = _ :=
    h.runActions program (callState w allocating)
  rw [Unbroken.runMember_apply, Unbroken.runMember_apply, hrun]
  rfl

/-- The callback that runs a method does the same on the changed machine. -/
theorem invoke_changed (h : Unseen f) (id : Nat) (w : World HostState W) :
    invoke id (w.through f) = ((invoke id w).1, (invoke id w).2.through f) := by
  have hmethods : (w.through f).host.methods[id]? = w.host.methods[id]? := rfl
  unfold invoke
  rw [Run.get_bind_apply, Run.get_bind_apply, hmethods]
  cases w.host.methods[id]? with
  | none => rfl
  | some target =>
    cases target with
    | bound b index =>
      have hinvoke := h.invoke b index w.vm w.host.foreign w.host.objects
      exact congrArg (fun done : W × ObjectStore => ((.ok () : Except Panic Unit),
        (⟨{ w.host with objects := done.2 }, done.1⟩ : World HostState W))) hinvoke
    | raw program =>
      dsimp only
      rw [Run.discard_apply, Run.discard_apply, runMember_changed h]

end HostState

end ScriptHost
