/-
Objects in use.

An object is marked while somebody works on it and freed when the work is over.  `hold` is how a
method that may panic has its receiver: the mark goes whether the method answers or panics.  So
after anything that host code does the same objects are in use as before, and an object that was
free accepts the next call:

* **`ObjectStore.sameUse_hold`**, **`ObjectStore.sameUse_update`** — work on one object;
* **`CallAction.sameUse_run`** — an action of a hand-written member;
* **`ObjectStore.hold_apply`**, **`ObjectStore.update_apply`** — a free object is worked on.
-/
import ScriptHost.Proofs.CallEffect

namespace ScriptHost

namespace ObjectStore

variable {s s' s'' : ObjectStore} {id id' : ObjectId}

/-- Works on an object, which is in use until the work ends, be it with a panic. -/
def hold (className : String) (id : ObjectId)
    (work : HostObject → Except Panic ForeignReturn × HostObject) :
    Run ObjectStore ForeignReturn := fun s =>
  match s.get? id with
  | none => (.ok (.error ⟨s!"receiver is not a '{className}' instance"⟩), s)
  | some object =>
    if s.isInUse id then
      (.ok (.error ⟨s!"'{className}' instance is already in use"⟩), s)
    else
      let (answer, object') := work object
      (answer, ((s.setInUse id true).put id object').setInUse id false)

/-! ### Marks -/

/-- The same objects are in use. -/
def SameUse (s s' : ObjectStore) : Prop :=
  ∀ id, s'.isInUse id = s.isInUse id

theorem SameUse.refl (s : ObjectStore) : s.SameUse s :=
  fun _ => rfl

theorem SameUse.trans (h : s.SameUse s') (h' : s'.SameUse s'') : s.SameUse s'' :=
  fun id => (h' id).trans (h id)

/-- The mark of an object, wherever it is looked for. -/
theorem isInUse_modify (s : ObjectStore) (id : ObjectId) (change : Cell → Cell) (id' : ObjectId) :
    isInUse ⟨s.cells.modify id change⟩ id' =
      ((s.cells[id']?.map fun cell => if id = id' then change cell else cell).map (·.inUse)).getD
        false := by
  rw [isInUse, List.getElem?_modify]
  rfl

theorem sameUse_put (s : ObjectStore) (id : ObjectId) (object : HostObject) :
    s.SameUse (s.put id object) := by
  intro id'
  rw [put, isInUse_modify, isInUse]
  cases s.cells[id']? with
  | none => rfl
  | some cell =>
    show (if id = id' then { cell with object := object } else cell).inUse = cell.inUse
    split <;> rfl

theorem sameUse_place (s : ObjectStore) (object : HostObject) : s.SameUse (s.place object).2 := by
  intro id
  show (((s.cells ++ [⟨object, false⟩])[id]?).map (·.inUse)).getD false = s.isInUse id
  rw [isInUse]
  rcases Nat.lt_trichotomy id s.cells.length with hlt | rfl | hgt
  · rw [List.getElem?_append_left hlt]
  · simp
  · rw [List.getElem?_eq_none (by simp; omega), List.getElem?_eq_none (by omega)]

theorem isInUse_setInUse_of_ne (s : ObjectStore) (inUse : Bool) (h : id ≠ id') :
    (s.setInUse id inUse).isInUse id' = s.isInUse id' := by
  rw [setInUse, isInUse_modify, isInUse]
  simp only [if_neg h, Option.map_id']

theorem isInUse_setInUse_false (s : ObjectStore) (id : ObjectId) :
    (s.setInUse id false).isInUse id = false := by
  rw [setInUse, isInUse_modify]
  cases s.cells[id]? with
  | none => rfl
  | some cell => simp

/-- An object that was free is free again after it was marked. -/
theorem SameUse.freed (hfree : s.isInUse id = false) (h : (s.setInUse id true).SameUse s') :
    s.SameUse (s'.setInUse id false) := by
  intro id'
  by_cases hid : id = id'
  · rw [← hid, isInUse_setInUse_false, hfree]
  · rw [isInUse_setInUse_of_ne s' false hid, h id', isInUse_setInUse_of_ne s true hid]

/-- Putting the marks on and taking them off again leaves what was put there meanwhile. -/
theorem setInUse_put_setInUse (hfree : s.isInUse id = false) (object : HostObject) :
    ((s.setInUse id true).put id object).setInUse id false = s.put id object := by
  rw [setInUse, put, setInUse, put, ObjectStore.mk.injEq]
  refine List.ext_getElem? fun id' => ?_
  rw [isInUse] at hfree
  simp only [List.getElem?_modify]
  -- Only the marked object is touched, and it was free to begin with.
  by_cases hid : id = id'
  · subst hid
    cases hcell : s.cells[id]? with
    | none => rfl
    | some cell =>
      rw [hcell] at hfree
      have hcell' : cell.inUse = false := hfree
      simp [hcell']
  · simp [hid]

/-! ### Work on one object -/

theorem sameUse_hold (className : String) (id : ObjectId)
    (work : HostObject → Except Panic ForeignReturn × HostObject) (s : ObjectStore) :
    s.SameUse (hold className id work s).2 := by
  unfold hold
  cases s.get? id with
  | none => exact .refl s
  | some object =>
    dsimp only
    by_cases huse : s.isInUse id = true
    · rw [if_pos huse]
      exact .refl s
    · rw [if_neg huse]
      exact .freed (Bool.eq_false_iff.mpr huse) (sameUse_put _ id _)

/-- An object that is free is worked on, and left as the work leaves it. -/
theorem hold_apply {object : HostObject} (hget : s.get? id = some object)
    (hfree : s.isInUse id = false) (className : String)
    (work : HostObject → Except Panic ForeignReturn × HostObject) :
    hold className id work s = ((work object).1, s.put id (work object).2) := by
  unfold hold
  rw [hget]
  dsimp only
  rw [if_neg (Bool.eq_false_iff.mp hfree), setInUse_put_setInUse hfree]

variable {α β : Type} [HostType α]

theorem sameUse_update (s : ObjectStore) (id : ObjectId)
    (work : α → ObjectStore → β × α × ObjectStore)
    (hwork : ∀ a (t : ObjectStore), t.SameUse (work a t).2.2) : s.SameUse (s.update id work).2 := by
  unfold update
  cases s.as? α id with
  | none => exact .refl s
  | some a =>
    dsimp only
    by_cases huse : s.isInUse id = true
    · rw [if_pos huse]
      exact .refl s
    · rw [if_neg huse]
      exact .freed (Bool.eq_false_iff.mpr huse) ((hwork a _).trans (sameUse_put _ id _))

theorem update_apply {a : α} (ha : s.as? α id = some a) (hfree : s.isInUse id = false)
    (work : α → ObjectStore → β × α × ObjectStore) :
    (s.update id work).1 = some (work a (s.setInUse id true)).1 := by
  unfold update
  rw [ha]
  dsimp only
  rw [if_neg (Bool.eq_false_iff.mp hfree)]

end ObjectStore

/-! ### Hand-written members -/

namespace CallAction

open ObjectStore

variable {F W : Type} [Slots W]

theorem sameUse_withForeign {α β : Type} [HostType α] (c : CallContext F W) (slot : Nat)
    (work : α → ObjectStore → β × α × ObjectStore)
    (hwork : ∀ a (t : ObjectStore), t.SameUse (work a t).2.2) :
    c.objects.SameUse (c.withForeign slot work).2.objects := by
  unfold CallContext.withForeign
  cases c.foreign? slot with
  | none => exact .refl _
  | some id => exact sameUse_update c.objects id work hwork

omit [Slots W] in
theorem objects_written (s : CallState F W) (slot : Nat) (write : W → Except HostError W) :
    (written s (s.context.setWith slot write)).2.context.objects = s.context.objects := by
  unfold CallContext.setWith
  cases s.context.checkWritable slot with
  | error e => rfl
  | ok _ => cases write s.context.window <;> rfl

/-- No action leaves an object in use. -/
theorem sameUse_run {s s' : CallState F W} {action : CallAction} {reply : CallReply}
    (h : action.run s = .ok (reply, s')) : s.context.objects.SameUse s'.context.objects := by
  cases action <;> simp only [run, pure, Except.pure, Except.ok.injEq] at h
  case panic cause => cases h
  all_goals obtain rfl : _ = s' := congrArg Prod.snd h
  case set slot payload | setReturn payload | setValue slot value =>
    intro id
    exact congrArg (·.isInUse id) (objects_written s _ _)
  case sum =>
    intro id
    unfold CallContext.setReturn CallContext.set
    exact congrArg (·.isInUse id) (objects_written s _ _)
  -- An object worked on is marked meanwhile, and the mark is taken off before the action ends.
  case withInt slot amount | withText slot suffix =>
    exact sameUse_withForeign s.context slot _ fun _ t => .refl t
  case withNested slot inner =>
    exact sameUse_withForeign s.context slot _ fun _ t =>
      sameUse_withForeign { s.context with objects := t } inner _ fun _ t => .refl t
  case releaseForeign slot =>
    unfold CallContext.releaseForeign
    cases s.context.token? slot <;> exact .refl _
  all_goals exact .refl _

end CallAction

end ScriptHost
