/-
Host functions with effects.

The functions of a described class answer, and change objects at most.  `allocateBy` and `invokeBy`
are the making of an instance and the call of a method with functions that have effects in a monad
of their own: they may count how often they run, leave notes, or panic.  So what these two say of
the effects they say of every run of a function.

* **`ForeignBinding.allocateBy_pure`**, **`ForeignBinding.invokeBy_call`** — with the functions of
  the class they are `allocate` and `invoke`.
-/
import ScriptHost.Binder.ForeignBinding

namespace ScriptHost

namespace ForeignBinding

variable {m : Type → Type} [Monad m] {W F : Type} [Slots W]

/-- The outcome of a constructor as the outcome of an allocation. -/
def made (w : W) : Except ForeignError HostObject → Option HostObject × W
  | .ok object => (some object, w)
  | .error e => (none, Slots.abortWith w e.message)

/-- `allocate` with constructors that have effects. -/
def allocateBy (construct : ObjectConstructor → Args → m (Except ForeignError HostObject))
    (b : ForeignBinding) (w : W) : m (Option HostObject × W) :=
  match b.chooseConstructor w with
  | none => pure (none, w)
  | some (k, args) => made w <$> construct k args

/-- `invoke` with methods that have effects; the objects are those before the call. -/
def invokeBy (call : BoundMethod → Option ObjectId → Args → m ForeignReturn) (b : ForeignBinding)
    (index : Nat) (w : W) (registry : ForeignRegistry F) (objects : ObjectStore) : m W :=
  match b.methods[index]? with
  | none => pure w
  | some bound =>
    match b.receiverFor? bound w registry objects with
    | none => pure (Slots.abortWith w (b.noReceiver bound))
    | some receiver =>
      match coerceAll w 1 bound.params with
      | .error (param, mismatch) => pure (Slots.abortWith w (mismatch.message bound.name param))
      | .ok args => answer w <$> call bound receiver args

theorem allocateBy_pure [LawfulMonad m] (b : ForeignBinding) (w : W) :
    allocateBy (fun k args => (pure (k.construct args) : m _)) b w = pure (b.allocate w) := by
  rw [allocate, allocateBy]
  rcases b.chooseConstructor w with _ | ⟨k, args⟩
  · rfl
  · dsimp only
    rw [map_pure]
    cases hmade : k.construct args <;> rfl

/-- The methods of a class have their effects on the objects. -/
theorem invokeBy_call (b : ForeignBinding) (index : Nat) (w : W) (registry : ForeignRegistry F)
    (objects : ObjectStore) :
    (invokeBy (m := StateM ObjectStore) (fun bound receiver args => bound.call receiver args)
      b index w registry objects).run objects = b.invoke index w registry objects := by
  rw [invoke, invokeBy]
  cases b.methods[index]? with
  | none => rfl
  | some bound =>
    dsimp only
    cases b.receiverFor? bound w registry objects with
    | none => rfl
    | some receiver =>
      dsimp only
      cases coerceAll w 1 bound.params <;> rfl

end ForeignBinding

end ScriptHost
