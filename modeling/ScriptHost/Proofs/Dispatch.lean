/-
What a call of a bound method does.

A method of a `ForeignClass α` runs on the object behind slot 0, unless it is static, and on
arguments coerced from the slots after it.  `Dispatches` says in full what such a call
comes to: it runs the function once, or, if the receiver or an argument is missing, not at
all, and what the window looks like in the end.

* **`ForeignBinding.methods_of`** — the table of a described class lists its methods in
  order;
* **`coerceAll_eq_ok_iff`**, **`coerces_or_firstMismatch`** — the parameters coerce one by one,
  and otherwise there is a first that does not;
* **`ForeignBinding.dispatches_invoke`** — every call comes to what `Dispatches` says.
-/
import ScriptHost.Binder.ForeignBinding
import ScriptHost.Proofs.LawfulSlots
import ScriptHost.Samples.Calculator

namespace ScriptHost

open Slots

section

variable {W : Type} [Slots W]

/-- Every parameter coerces, the one at position `i` from the slot `first + i`, to the argument
at its position. -/
structure Coerces (w : W) (first : Nat) (params : List Param) (args : Args) : Prop where
  length : args.length = params.length
  coerce : ∀ i param, params[i]? = some param →
    ∃ value, args[i]? = some value ∧ ScriptHost.coerce w (first + i) param.kind = .ok value

/-- The parameter at position `i` is the first that does not coerce. -/
structure FirstMismatch (w : W) (first : Nat) (params : List Param) (i : Nat) (param : Param)
    (mismatch : Mismatch) : Prop where
  there : params[i]? = some param
  fails : coerce w (first + i) param.kind = .error mismatch
  before : ∀ j, j < i → ∀ earlier, params[j]? = some earlier →
    ∃ value, coerce w (first + j) earlier.kind = .ok value

theorem coerceAll_cons (w : W) (first : Nat) (param : Param) (params : List Param) :
    coerceAll w first (param :: params) =
      match coerce w first param.kind with
      | .error mismatch => .error (param, mismatch)
      | .ok value =>
        match coerceAll w (first + 1) params with
        | .error found => .error found
        | .ok args => .ok (value :: args) := by
  rw [coerceAll]
  cases coerce w first param.kind with
  | error mismatch => rfl
  | ok value => cases coerceAll w (first + 1) params <;> rfl

theorem coerces_cons_iff {w : W} {first : Nat} {param : Param} {params : List Param}
    {value : HostValue} {rest : Args} :
    Coerces w first (param :: params) (value :: rest) ↔
      coerce w first param.kind = .ok value ∧ Coerces w (first + 1) params rest := by
  constructor
  · intro h
    obtain ⟨v, hv, hhead⟩ := h.coerce 0 param rfl
    rw [List.getElem?_cons_zero, Option.some.injEq] at hv
    subst hv
    refine ⟨hhead, by simpa using h.length, ?_⟩
    intro i p hp
    obtain ⟨v, hv, hcoerce⟩ := h.coerce (i + 1) p hp
    rw [show first + (i + 1) = first + 1 + i by omega] at hcoerce
    exact ⟨v, hv, hcoerce⟩
  · rintro ⟨hhead, hrest⟩
    refine ⟨by simp [hrest.length], ?_⟩
    intro i p hp
    cases i with
    | zero =>
      rw [List.getElem?_cons_zero, Option.some.injEq] at hp
      subst hp
      exact ⟨value, rfl, hhead⟩
    | succ i =>
      obtain ⟨v, hv, hcoerce⟩ := hrest.coerce i p hp
      rw [show first + (i + 1) = first + 1 + i by omega]
      exact ⟨v, hv, hcoerce⟩

theorem coerceAll_eq_ok_iff (w : W) (params : List Param) :
    ∀ (first : Nat) (args : Args),
      coerceAll w first params = .ok args ↔ Coerces w first params args := by
  -- The slots move on with the parameters, so the first slot is general in the induction.
  induction params with
  | nil =>
    intro first args
    constructor
    · intro h
      cases h
      exact ⟨rfl, fun i param hi => by simp at hi⟩
    · intro h
      rw [List.length_eq_zero_iff.mp h.length]
      rfl
  | cons param params ih =>
    intro first args
    rw [coerceAll_cons]
    constructor
    · intro h
      cases hhead : coerce w first param.kind with
      | error mismatch => simp [hhead] at h
      | ok value =>
        cases htail : coerceAll w (first + 1) params with
        | error found => simp [hhead, htail] at h
        | ok rest =>
          simp only [hhead, htail, Except.ok.injEq] at h
          subst h
          exact coerces_cons_iff.mpr ⟨hhead, (ih (first + 1) rest).mp htail⟩
    · intro h
      cases args with
      | nil => simpa using h.length
      | cons value rest =>
        obtain ⟨hhead, hrest⟩ := coerces_cons_iff.mp h
        rw [hhead, (ih (first + 1) rest).mpr hrest]

/-- A mismatch among the later parameters is the first one if the first parameter coerces. -/
theorem FirstMismatch.cons {w : W} {first i : Nat} {head param : Param} {params : List Param}
    {mismatch : Mismatch} {value : HostValue} (hhead : coerce w first head.kind = .ok value)
    (h : FirstMismatch w (first + 1) params i param mismatch) :
    FirstMismatch w first (head :: params) (i + 1) param mismatch where
  there := h.there
  fails := by
    rw [show first + (i + 1) = first + 1 + i by omega]
    exact h.fails
  before j hj earlier hearlier := by
    cases j with
    | zero =>
      rw [List.getElem?_cons_zero, Option.some.injEq] at hearlier
      subst hearlier
      exact ⟨value, hhead⟩
    | succ j =>
      rw [show first + (j + 1) = first + 1 + j by omega]
      exact h.before j (by omega) earlier hearlier

theorem firstMismatch_of_coerceAll (w : W) (params : List Param) :
    ∀ (first : Nat) (param : Param) (mismatch : Mismatch),
      coerceAll w first params = .error (param, mismatch) →
        ∃ i, FirstMismatch w first params i param mismatch := by
  induction params with
  | nil =>
    intro first param mismatch h
    cases h
  | cons head params ih =>
    intro first param mismatch h
    rw [coerceAll_cons] at h
    cases hhead : coerce w first head.kind with
    | error found =>
      simp only [hhead, Except.error.injEq, Prod.mk.injEq] at h
      obtain ⟨rfl, rfl⟩ := h
      exact ⟨0, rfl, hhead, fun j hj => by omega⟩
    | ok value =>
      cases htail : coerceAll w (first + 1) params with
      | ok rest => simp [hhead, htail] at h
      | error found =>
        simp only [hhead, htail, Except.error.injEq] at h
        subst h
        obtain ⟨i, hfirst⟩ := ih (first + 1) param mismatch htail
        exact ⟨i + 1, hfirst.cons hhead⟩

/-- The arguments are all there, or there is a first that is not. -/
theorem coerces_or_firstMismatch (w : W) (first : Nat) (params : List Param) :
    (∃ args, Coerces w first params args) ∨
      ∃ i param found, FirstMismatch w first params i param found := by
  cases hall : coerceAll w first params with
  | ok args => exact .inl ⟨args, (coerceAll_eq_ok_iff w params first args).mp hall⟩
  | error found =>
    obtain ⟨i, h⟩ := firstMismatch_of_coerceAll w params first found.1 found.2 hall
    exact .inr ⟨i, found.1, found.2, h⟩

/-- There is one first mismatch at most. -/
theorem FirstMismatch.unique {w : W} {first : Nat} {params : List Param} {i i' : Nat}
    {param param' : Param} {mismatch mismatch' : Mismatch}
    (h : FirstMismatch w first params i param mismatch)
    (h' : FirstMismatch w first params i' param' mismatch') :
    param = param' ∧ mismatch = mismatch' := by
  rcases Nat.lt_trichotomy i i' with hlt | rfl | hgt
  · obtain ⟨value, hvalue⟩ := h'.before i hlt param h.there
    rw [h.fails] at hvalue
    cases hvalue
  · have hparam := h.there
    rw [h'.there, Option.some.injEq] at hparam
    subst hparam
    have hfails := h.fails
    rw [h'.fails, Except.error.injEq] at hfails
    exact ⟨rfl, hfails.symm⟩
  · obtain ⟨value, hvalue⟩ := h.before i' hgt param' h'.there
    rw [h'.fails] at hvalue
    cases hvalue

/-- Arguments that coerce leave no mismatch. -/
theorem FirstMismatch.not_coerces {w : W} {first : Nat} {params : List Param} {i : Nat}
    {param : Param} {mismatch : Mismatch} (h : FirstMismatch w first params i param mismatch)
    (args : Args) : ¬Coerces w first params args := by
  intro hargs
  obtain ⟨value, -, hvalue⟩ := hargs.coerce i param h.there
  rw [h.fails] at hvalue
  cases hvalue

end

/-- Methods are bound in order, after those bound already. -/
theorem MethodTable.methods_bindAll (className : String) (methods : List ObjectMethod) :
    ∀ t t' : MethodTable, t.bindAll className methods = .ok t' →
      t'.methods = t.methods ++ methods.map (·.bind) := by
  induction methods with
  | nil =>
    intro t t' h
    cases h
    simp
  | cons m methods ih =>
    intro t t' h
    rw [bindAll] at h
    split at h
    · cases h
    · rw [ih _ _ h]
      simp [add]

theorem ForeignBinding.of_eq {c : ClassDescription} {b : ForeignBinding} (h : of c = .ok b) :
    b.className = c.className ∧ b.typeName = c.typeName ∧ b.methods = c.methods.map (·.bind) := by
  unfold of at h
  cases htable : MethodTable.empty.bindAll c.className c.methods with
  | error e =>
    rw [htable] at h
    cases h
  | ok table =>
    rw [htable] at h
    cases h
    exact ⟨rfl, rfl, MethodTable.methods_bindAll c.className c.methods _ table htable⟩

/-- Every object named like the type is one of its values. -/
def ObjectStore.WellTyped (s : ObjectStore) (α : Type) [HostType α] : Prop :=
  ∀ id object, s.get? id = some object → object.typeName = HostType.typeName α →
    ∃ a : α, HostObject.as? α object = some a

section

variable {α W F : Type} [HostType α] [Slots W]

/-- Slot 0 holds an instance, its token resolves, and behind it is the value `a`. -/
structure Receives (w : W) (registry : ForeignRegistry F) (objects : ObjectStore)
    (id : ObjectId) (a : α) : Prop where
  resolves : ∃ token, Slots.token w 0 = some token ∧ registry.resolve? token = some id
  value : objects.as? α id = some a

/-- A method is static, or there is a receiver for it. -/
def Invocation.HasReceiver (v : Invocation α) (w : W) (registry : ForeignRegistry F)
    (objects : ObjectStore) : Prop :=
  match v with
  | .onClass _ => True
  | .onReceiver _ => ∃ id, ∃ a : α, Receives w registry objects id a

/-- One run of the function: on the arguments alone, or on the receiver too, which is kept as
the run leaves it. -/
inductive Invocation.RunsOnce (w : W) (registry : ForeignRegistry F) (objects : ObjectStore)
    (args : Args) : Invocation α → ForeignReturn → ObjectStore → Prop where
  | onClass (work : Taking (Option HostValue)) :
    RunsOnce w registry objects args (.onClass work) (work.answer args) objects
  | onReceiver (work : Working α (Option HostValue)) {id : ObjectId} {a : α} :
    Receives w registry objects id a →
    RunsOnce w registry objects args (.onReceiver work) (work.answer a args).1
      (objects.put id (HostObject.of (work.answer a args).2))

variable [Fiber W]

/-- What the answer of a function does to the window: nothing if it answers nothing; slot 0
becomes the value if it can be written; otherwise the fiber is aborted. -/
def Answered (w w' : W) : ForeignReturn → Prop
  | .ok none => w' = w
  | .ok (some v) =>
    match v.refusal? (count w) with
    | none => WritesOnly w w' 0 ∧ Holds w' 0 v
    | some e => AbortedWith w w' e.message
  | .error e => AbortedWith w w' e.message

/-- What a call of a method comes to, by the window and the objects before and after. -/
structure Dispatches (c : ForeignClass α) (m : Method α) (w : W) (registry : ForeignRegistry F)
    (objects : ObjectStore) (w' : W) (objects' : ObjectStore) : Prop where
  /-- With a receiver and all arguments, the function runs once. -/
  runs : ∀ args, m.invocation.HasReceiver w registry objects → Coerces w 1 m.params args →
    ∃ answer, m.invocation.RunsOnce w registry objects args answer objects' ∧
      Answered w w' answer
  /-- Without a receiver nothing runs. -/
  noReceiver : ¬m.invocation.HasReceiver w registry objects →
    objects' = objects ∧
      AbortedWith w w'
        (s!"Foreign method '{m.name}' called on a receiver that is not a live " ++
          s!"'{c.name}' instance")
  /-- Nor does it without one of the arguments, and the first that is missing is named. -/
  mismatch : m.invocation.HasReceiver w registry objects →
    ∀ i param found, FirstMismatch w 1 m.params i param found →
      objects' = objects ∧ AbortedWith w w' (found.message m.name param)
  /-- The arguments are all there, or there is a first that is not. -/
  decided : (∃ args, Coerces w 1 m.params args) ∨
    ∃ i param found, FirstMismatch w 1 m.params i param found

theorem answer_answered [LawfulSlots W] (w : W) (r : ForeignReturn) :
    Answered w (ForeignBinding.answer w r) r := by
  match r with
  | .ok none => rfl
  | .error e => exact abortWith_aborts w e.message
  | .ok (some v) =>
    have hwrite := writeValue_zero w v
    unfold Answered ForeignBinding.answer
    cases hrefusal : v.refusal? (count w) with
    | some e =>
      simp only [hrefusal] at hwrite ⊢
      rw [hwrite]
      exact abortWith_aborts w e.message
    | none =>
      simp only [hrefusal] at hwrite ⊢
      obtain ⟨w', hw', hdone⟩ := hwrite
      rw [hw']
      exact hdone

omit [Slots W] [Fiber W] in
theorem Method.describe_bind_name (className : String) (m : Method α) :
    (m.describe className).bind.name = m.name := by
  obtain ⟨name, scriptName, params, invocation⟩ := m
  cases invocation <;> rfl

omit [Slots W] [Fiber W] in
theorem Method.describe_bind_params (className : String) (m : Method α) :
    (m.describe className).bind.params = m.params := by
  obtain ⟨name, scriptName, params, invocation⟩ := m
  cases invocation <;> rfl

namespace ForeignBinding

variable {c : ForeignClass α} {b : ForeignBinding} {w : W} {registry : ForeignRegistry F}
  {objects : ObjectStore}

omit [Fiber W] in
/-- The binding finds a receiver iff there is one. -/
theorem receiver?_eq_some_iff (hb : of c.describe = .ok b) (htyped : objects.WellTyped α)
    (id : ObjectId) :
    b.receiver? w registry objects = some id ↔
      ∃ a : α, Receives w registry objects id a := by
  have htype : b.typeName = HostType.typeName α := (of_eq hb).2.1
  unfold receiver?
  simp only [Option.bind_eq_bind, Option.bind_eq_some_iff, Option.ite_none_right_eq_some,
    Option.some.injEq]
  constructor
  · rintro ⟨token, htoken, id', hid, object, hobject, hname, rfl⟩
    obtain ⟨a, ha⟩ := htyped id' object hobject (hname.trans htype)
    exact ⟨a, ⟨token, htoken, hid⟩, by simp [ObjectStore.as?, hobject, ha]⟩
  · rintro ⟨a, ⟨token, htoken, hid⟩, ha⟩
    rw [ObjectStore.as?, Option.bind_eq_some_iff] at ha
    obtain ⟨object, hobject, hvalue⟩ := ha
    refine ⟨token, htoken, id, hid, object, hobject, ?_, rfl⟩
    by_cases hname : object.typeName = HostType.typeName α
    · exact hname.trans htype.symm
    · rw [HostObject.as?, if_neg hname] at hvalue
      cases hvalue

omit [Fiber W] in
/-- A function of the receiver runs on it, unless it is in use. -/
theorem callOnReceiver_eq (className : String) (work : Working α (Option HostValue))
    (args : Args) {id : ObjectId} {a : α} (ha : objects.as? α id = some a)
    (hfree : objects.isInUse id = false) :
    callOnReceiver className work (some id) args objects =
      ((work.answer a args).1, objects.put id (HostObject.of (work.answer a args).2)) := by
  simp [callOnReceiver, ha, hfree]

variable (w registry) in
omit [Fiber W] in
/-- A binding finds the receiver a method asks for iff there is one. -/
theorem receiverFor?_bind (hb : of c.describe = .ok b) (htyped : objects.WellTyped α)
    (m : Method α) :
    match b.receiverFor? (m.describe c.name).bind w registry objects with
    | some receiver => m.invocation.HasReceiver w registry objects ∧
        ∀ args, (∀ id, ∀ a : α, Receives w registry objects id a → objects.isInUse id = false) →
          m.invocation.RunsOnce w registry objects args
            ((m.describe c.name).bind.call receiver args objects).1
            ((m.describe c.name).bind.call receiver args objects).2
    | none => ¬m.invocation.HasReceiver w registry objects := by
  obtain ⟨name, scriptName, params, invocation⟩ := m
  cases invocation with
  | onClass work => exact ⟨trivial, fun args _ => .onClass work⟩
  | onReceiver work =>
    simp only [receiverFor?, ObjectMethod.bind, Method.describe, Bool.false_eq_true, ↓reduceIte]
    cases hreceiver : b.receiver? w registry objects with
    | none =>
      -- A receiver would have been found.
      rintro ⟨id, a, ha⟩
      rw [(receiver?_eq_some_iff hb htyped id).mpr ⟨a, ha⟩] at hreceiver
      cases hreceiver
    | some id =>
      obtain ⟨a, ha⟩ := (receiver?_eq_some_iff hb htyped id).mp hreceiver
      refine ⟨⟨id, a, ha⟩, ?_⟩
      intro args hfree
      rw [callOnReceiver_eq c.name work args ha.value (hfree id a ha)]
      exact .onReceiver work ha

omit [Slots W] [Fiber W] in
theorem methods_of (hb : of c.describe = .ok b) {index : Nat} {m : Method α}
    (hm : c.methods[index]? = some m) : b.methods[index]? = some (m.describe c.name).bind := by
  obtain ⟨-, -, hmethods⟩ := of_eq hb
  rw [hmethods]
  simp [ForeignClass.describe, hm]

omit [Slots W] [Fiber W] in
theorem noReceiver_describe (hb : of c.describe = .ok b) (m : Method α) :
    b.noReceiver (m.describe c.name).bind =
      s!"Foreign method '{m.name}' called on a receiver that is not a live " ++
        s!"'{c.name}' instance" := by
  obtain ⟨hclass, -, -⟩ := of_eq hb
  unfold noReceiver
  rw [Method.describe_bind_name, hclass, show c.describe.className = c.name from rfl]

variable [LawfulSlots W]

/-- A call of any method of a bound class, on any window, runs its function once if there is
a receiver, unless it needs none, and all arguments coerce; it changes nothing but the
receiver then, and nothing at all otherwise; and the window tells what came of it. -/
theorem dispatches_invoke (hb : of c.describe = .ok b) {index : Nat} {m : Method α}
    (hm : c.methods[index]? = some m) (htyped : objects.WellTyped α)
    (hfree : ∀ id, ∀ a : α, Receives w registry objects id a → objects.isInUse id = false) :
    Dispatches c m w registry objects (b.invoke index w registry objects).1
      (b.invoke index w registry objects).2 := by
  have hbound := methods_of hb hm
  have hreceiver := receiverFor?_bind w registry hb htyped m
  have hdecided := coerces_or_firstMismatch w 1 m.params
  unfold invoke
  simp only [hbound, Method.describe_bind_name, Method.describe_bind_params]
  cases hfound : b.receiverFor? (m.describe c.name).bind w registry objects with
  | none =>
    simp only [hfound] at hreceiver ⊢
    refine ⟨fun args h => absurd h hreceiver, ?_, fun h => absurd h hreceiver, hdecided⟩
    intro _
    rw [noReceiver_describe hb m]
    exact ⟨rfl, abortWith_aborts w _⟩
  | some receiver =>
    simp only [hfound] at hreceiver ⊢
    obtain ⟨hpresent, hruns⟩ := hreceiver
    cases hall : coerceAll w 1 m.params with
    | ok args =>
      have hargs := (coerceAll_eq_ok_iff w m.params 1 args).mp hall
      refine ⟨?_, fun h => absurd hpresent h, ?_, hdecided⟩
      · intro args' _ hargs'
        have heq := (coerceAll_eq_ok_iff w m.params 1 args').mpr hargs'
        rw [hall, Except.ok.injEq] at heq
        subst heq
        exact ⟨_, hruns args hfree, answer_answered w _⟩
      · intro _ i param found h
        exact absurd hargs (h.not_coerces args)
    | error found =>
      obtain ⟨param, mismatch⟩ := found
      obtain ⟨i, hfirst⟩ := firstMismatch_of_coerceAll w m.params 1 param mismatch hall
      refine ⟨?_, fun h => absurd hpresent h, ?_, hdecided⟩
      · intro args _ hargs
        exact absurd hargs (hfirst.not_coerces args)
      · -- There is one first mismatch, so it is the one reported.
        intro _ i' param' mismatch' h
        obtain ⟨hparam, hmismatch⟩ := hfirst.unique h
        rw [← hparam, ← hmismatch]
        exact ⟨rfl, abortWith_aborts w _⟩

/-- The only object there is, a calculator, is reset. -/
theorem dispatches_invoke_reset :
    ∃ b : ForeignBinding, of Samples.calculatorClass.describe = .ok b ∧
      ∃ m, Samples.calculatorClass.methods[4]? = some m ∧
        let w : InMemory.Machine :=
          { InMemory.Machine.bare with
            slots := [.instanceOf 0]
            instances := [⟨⟨0, 0⟩, ⟨"Calculator", none, []⟩⟩] }
        let registry : ForeignRegistry Unit := (ForeignRegistry.empty.register 0 none).2
        let objects : ObjectStore := ⟨[⟨HostObject.of (⟨7⟩ : Samples.Calculator), false⟩]⟩
        m.invocation.HasReceiver w registry objects ∧
          Dispatches Samples.calculatorClass m w registry objects
            (b.invoke 4 w registry objects).1 (b.invoke 4 w registry objects).2 := by
  obtain ⟨b, hb⟩ : ∃ b, of Samples.calculatorClass.describe = .ok b := ⟨_, rfl⟩
  refine ⟨b, hb, _, rfl, ⟨0, ⟨7⟩, ⟨⟨0, 0⟩, rfl, rfl⟩, rfl⟩, dispatches_invoke hb rfl ?_ ?_⟩
  · intro id object hobject _
    cases id with
    | zero =>
      cases hobject
      exact ⟨⟨7⟩, rfl⟩
    | succ id => cases hobject
  · intro id a ha
    cases id with
    | zero => rfl
    | succ id => rfl

end ForeignBinding

end

end ScriptHost
