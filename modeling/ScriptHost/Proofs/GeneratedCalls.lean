/-
Arguments of generated functions.

What is generated for a function takes its arguments in the order in which it declares its
parameters, each at the type of its parameter.  When the parameters coerce, every argument is
therefore there and of its type: it is taken as the value that its own slot reads as, and none
is left.  Neither of the two failures of taking an argument can come up in a call.

* **`takeAll_of_coerceAll`** — the arguments of coerced parameters, by induction over the
  parameters;
* **`allocates_allocate`**, **`serves_invoke`** — what making an instance and calling a method
  come to in a class whose functions take their arguments that way;
* **`generate?_of_expose`** — every exposed block becomes such a class;
* **`arguments_taken`** — the two ways of reading a slot, and with them all of this.
-/
import ScriptHost.Exposure.Generated
import ScriptHost.Proofs.ArgumentAgreement
import ScriptHost.Proofs.Dispatch
import ScriptHost.Proofs.ExposedFunctions
import ScriptHost.Proofs.Sequences

namespace ScriptHost

open Exposure

/-! ### Taking arguments -/

section

variable {α β γ : Type} {args rest : Args}

theorem Taking.run_bind_of_ok {x : Taking β} {b : β} (h : x.run.run args = (.ok b, rest))
    (f : β → Taking γ) : (x >>= f).run.run args = (f b).run.run rest := by
  rw [ExceptT.run_bind, StateT.run_bind, h]
  rfl

theorem take_of_ofValue? [FromArg α] {value : HostValue} {a : α}
    (h : FromArg.ofValue? value = some a) :
    (Args.take α).run.run (value :: rest) = (.ok a, rest) := by
  have hget : (get : Taking Args).run.run (value :: rest) = (.ok (value :: rest), value :: rest) :=
    rfl
  have hset : (set rest : Taking PUnit).run.run (value :: rest) = (.ok ⟨⟩, rest) := rfl
  rw [Args.take, Taking.run_bind_of_ok hget]
  dsimp only
  rw [Taking.run_bind_of_ok hset, h]
  rfl

theorem Taking.answer_bind_of_ok {x : Taking β} {b : β} (h : x.run.run args = (.ok b, rest))
    (f : β → Taking γ) : Taking.answer (x >>= f) args = Taking.answer (f b) rest := by
  rw [Taking.answer, Taking.run_bind_of_ok h]
  rfl

theorem Working.answer_bind_of_ok {x : Taking β} {b : β} (h : x.run.run args = (.ok b, rest))
    (f : β → Working α γ) (receiver : α) :
    Working.answer ((liftM x : Working α β) >>= f) receiver args =
      Working.answer (f b) receiver rest := by
  have hlift : ((liftM x : Working α β).run.run receiver).run args =
      ((.ok b, receiver), rest) := by
    show (fun p : Except ForeignError β × Args => ((p.1, receiver), p.2)) (x.run.run args) = _
    rw [h]
  rw [Working.answer, ExceptT.run_bind, StateT.run_bind, StateT.run_bind, hlift]
  rfl

end

namespace Exposure

instance : (t : ArgType) → FromSlot t.Carrier
  | .bool => inferInstanceAs (FromSlot Bool)
  | .int32 => inferInstanceAs (FromSlot Int32)
  | .int64 => inferInstanceAs (FromSlot Int64)
  | .number => inferInstanceAs (FromSlot Number)
  | .text => inferInstanceAs (FromSlot String)
  | .value => inferInstanceAs (FromSlot HostValue)

section

variable {W : Type} [Slots W]

/-- Each value is what its own slot reads as, the first of them in `slot`. -/
def ReadsAs (w : W) : (slot : Nat) → (params : List TypedParam) → Values params → Prop
  | _, [], _ => True
  | slot, p :: params, (first, rest) =>
    (FromSlot.read w slot : Except HostError p.type.Carrier) = .ok first ∧
      ReadsAs w (slot + 1) params rest

/-- Coerced arguments are taken as the values of their own slots, and none is left. -/
structure Takes (w : W) (slot : Nat) (params : List TypedParam) (args : Args)
    (values : Values params) : Prop where
  reads : ReadsAs w slot params values
  takes : (takeAll params).run.run args = (.ok values, [])

variable [BoundedSlots W] {w : W}

/-- A slot that coerces to what a type asks for is taken at the type, as what it reads as. -/
theorem ArgType.taken (t : ArgType) {slot : Nat} {value : HostValue}
    (h : coerce w slot (FromArg.kind t.Carrier) = .ok value) :
    ∃ a : t.Carrier, FromArg.ofValue? value = some a ∧ FromSlot.read w slot = .ok a := by
  cases t with
  | bool => exact (convertsAlike_bool w slot).taken h
  | int32 => exact (convertsAlike_int32 w slot).taken h
  | int64 => exact (convertsAlike_int64 w slot).taken h
  | number => exact (convertsAlike_number w slot).taken h
  | text => exact (convertsAlike_text w slot).taken h
  | value =>
    -- Null reads as a value but does not coerce to one, so the slot holds something else.
    have hnonnull : Slots.type w slot ≠ .null := by
      intro hnull
      obtain ⟨-, mismatch, hmismatch⟩ := null_value hnull
      have hboth : Except.error mismatch = Except.ok value := hmismatch.symm.trans h
      cases hboth
    exact (convertsAlike_value hnonnull).taken h

theorem takeAll_of_coerceAll (params : List TypedParam) :
    ∀ (slot : Nat) (args : Args), coerceAll w slot (params.map (·.param)) = .ok args →
      ∃ values, Takes w slot params args values := by
  -- The slots move on with the parameters, so the first slot is general in the induction.
  induction params with
  | nil =>
    intro slot args h
    cases h
    exact ⟨(), trivial, rfl⟩
  | cons p params ih =>
    intro slot args h
    rw [coerceAll_eq_ok_iff, List.map_cons] at h
    cases args with
    | nil => simpa using h.length
    | cons value rest =>
      obtain ⟨hvalue, hrest⟩ := coerces_cons_iff.mp h
      obtain ⟨a, htake, hread⟩ := p.type.taken hvalue
      obtain ⟨values, hvalues⟩ := ih (slot + 1) rest ((coerceAll_eq_ok_iff ..).mpr hrest)
      refine ⟨(a, values), ⟨hread, hvalues.reads⟩, ?_⟩
      rw [takeAll, Taking.run_bind_of_ok (take_of_ofValue? htake),
        Taking.run_bind_of_ok hvalues.takes]
      rfl

end

/-! ### Constructors and methods -/

/-- The functions of a class declare and take their parameters in one order. -/
structure IsTyped {α : Type} (c : ForeignClass α) : Prop where
  constructors : ∀ k ∈ c.constructors, ∃ params, ∃ make : Values params → α,
    k = generatedConstructor params make
  methods : ∀ m ∈ c.methods, ∃ params, ∃ body : MethodBody α params,
    m.params = params.map (·.param) ∧ m.invocation = body.invocation

section

variable {α : Type} [HostType α]

/-- Runs the function of a method on values that are already there: on a receiver, which is
kept as it is left, or without. -/
def MethodBody.serve {params : List TypedParam} (className : String) (values : Values params)
    (receiver : Option ObjectId) (objects : ObjectStore) :
    MethodBody α params → ForeignReturn × ObjectStore
  | .onClass body => (body values, objects)
  | .onReceiver body =>
    match receiver.bind fun id => (objects.as? α id).map fun a => (id, a) with
    | none => (.error ⟨s!"receiver is not a '{className}' instance"⟩, objects)
    | some (id, a) =>
      if objects.isInUse id then
        (.error ⟨s!"'{className}' instance is already in use"⟩, objects)
      else ((body values a).1, objects.put id (HostObject.of (body values a).2))

variable {params : List TypedParam} {args : Args} {values : Values params}

theorem construct_generated (htakes : (takeAll params).run.run args = (.ok values, []))
    (make : Values params → α) :
    (generatedConstructor params make).describe.construct args =
      .ok (HostObject.of (make values)) := by
  show HostObject.of <$> Taking.answer (takeAll params >>= fun values => pure (make values)) args =
    _
  rw [Taking.answer_bind_of_ok htakes]
  rfl

theorem call_generated (htakes : (takeAll params).run.run args = (.ok values, []))
    (className : String) {m : Method α} {body : MethodBody α params}
    (hbody : m.invocation = body.invocation) (receiver : Option ObjectId)
    (objects : ObjectStore) :
    (m.describe className).call receiver args objects =
      body.serve className values receiver objects := by
  rw [Method.describe, hbody]
  cases body with
  | onClass body =>
    show (Taking.answer (takeAll params >>= fun values => MonadExcept.ofExcept (body values)) args,
      objects) = (body values, objects)
    rw [Taking.answer_bind_of_ok htakes]
    cases body values <;> rfl
  -- The receiver is the state of the work, so it is put back with what became of it.
  | onReceiver body =>
    have hwork (a : α) :
        Working.answer (do
          let values ← takeAll params
          let answer ← modifyGet (body values)
          MonadExcept.ofExcept answer : Working α (Option HostValue)) a args = body values a := by
      rw [Working.answer_bind_of_ok htakes]
      show (fun p : ForeignReturn × α => ((MonadExcept.ofExcept p.1 : Working α
        (Option HostValue)).answer p.2 [])) (body values a) = body values a
      rcases body values a with ⟨answer, a'⟩
      cases answer <;> rfl
    show callOnReceiver className _ receiver args objects = _
    rw [callOnReceiver, MethodBody.serve]
    rcases receiver.bind fun id => (objects.as? α id).map fun a => (id, a) with _ | ⟨id, a⟩
    · rfl
    · show (if objects.isInUse id then _ else
        ((Working.answer _ a args).1, objects.put id (HostObject.of (Working.answer _ a args).2))) =
          _
      rw [hwork]

end

/-! ### Instances and calls -/

section

variable {α W F : Type} [HostType α] [Slots W]

/-- What making an instance comes to: nothing if no constructor fits, and otherwise an object
made from the values of the slots after the first.  The window stays as it is. -/
inductive Allocates (c : ForeignClass α) (b : ForeignBinding) (w : W) :
    Option HostObject × W → Prop
  | unfit : b.chooseConstructor w = none → Allocates c b w (none, w)
  | made {params : List TypedParam} {make : Values params → α} {args : Args}
      {values : Values params} :
      generatedConstructor params make ∈ c.constructors →
      coerceAll w 1 (params.map (·.param)) = .ok args →
      Takes w 1 params args values →
      Allocates c b w (some (HostObject.of (make values)), w)

/-- What calling a method comes to: an abort without its receiver or with an argument that does
not coerce, and otherwise the answer of its function for the values of the slots after the
first. -/
inductive Serves (c : ForeignClass α) (b : ForeignBinding) (w : W) (registry : ForeignRegistry F)
    (objects : ObjectStore) (bound : BoundMethod) : W × ObjectStore → Prop
  | noReceiver : b.receiverFor? bound w registry objects = none →
      Serves c b w registry objects bound (Slots.abortWith w (b.noReceiver bound), objects)
  | mismatch {receiver : Option ObjectId} {param : Param} {found : Mismatch} :
      b.receiverFor? bound w registry objects = some receiver →
      coerceAll w 1 bound.params = .error (param, found) →
      Serves c b w registry objects bound
        (Slots.abortWith w (found.message bound.name param), objects)
  | served {receiver : Option ObjectId} {m : Method α} {params : List TypedParam}
      {body : MethodBody α params} {args : Args} {values : Values params} :
      m ∈ c.methods → bound = (m.describe c.name).bind → m.invocation = body.invocation →
      b.receiverFor? bound w registry objects = some receiver →
      coerceAll w 1 (params.map (·.param)) = .ok args →
      Takes w 1 params args values →
      Serves c b w registry objects bound
        (ForeignBinding.answer w (body.serve c.name values receiver objects).1,
          (body.serve c.name values receiver objects).2)

omit [Slots W] in
theorem mem_constructors_of {c : ForeignClass α} {b : ForeignBinding}
    (hb : ForeignBinding.of c.describe = .ok b) {k : ObjectConstructor} (hk : k ∈ b.constructors) :
    ∃ k' ∈ c.constructors, k'.describe = k := by
  rw [ForeignBinding.of] at hb
  cases htable : MethodTable.empty.bindAll c.describe.className c.describe.methods with
  | error e =>
    rw [htable] at hb
    cases hb
  | ok table =>
    rw [htable] at hb
    cases hb
    have hmem : k ∈ c.constructors.map (·.describe) := List.mem_mergeSort.mp hk
    exact List.mem_map.mp hmem

omit [HostType α] in
/-- A constructor fits only if its parameters coerce. -/
theorem coerceAll_of_constructorArguments? {k : ObjectConstructor} {w : W} {args : Args}
    (h : ForeignBinding.constructorArguments? k w = some args) :
    coerceAll w 1 k.params = .ok args := by
  rw [ForeignBinding.constructorArguments?] at h
  split at h
  · cases h
  · cases hcoerce : coerceAll w 1 k.params with
    | error found =>
      rw [hcoerce] at h
      cases h
    | ok args' =>
      rw [hcoerce] at h
      exact congrArg Except.ok (Option.some.inj h)

variable [BoundedSlots W] {c : ForeignClass α} {b : ForeignBinding}

theorem allocates_allocate (hc : IsTyped c) (hb : ForeignBinding.of c.describe = .ok b) (w : W) :
    Allocates c b w (b.allocate w) := by
  rw [ForeignBinding.allocate]
  cases hchoice : b.chooseConstructor w with
  | none => exact .unfit hchoice
  | some chosen =>
    obtain ⟨k, args⟩ := chosen
    rw [ForeignBinding.chooseConstructor, List.findSome?_eq_some_iff] at hchoice
    obtain ⟨before, k', after, hconstructors, hfits, -⟩ := hchoice
    obtain ⟨args', hargs', hpair⟩ := Option.map_eq_some_iff.mp hfits
    -- The constructor chosen is one of those declared, and these were generated.
    obtain ⟨rfl, rfl⟩ := Prod.mk.inj hpair
    have hmem : k' ∈ b.constructors := by
      rw [hconstructors]
      exact List.mem_append_right before List.mem_cons_self
    obtain ⟨k'', hk'', rfl⟩ := mem_constructors_of hb hmem
    obtain ⟨params, make, rfl⟩ := hc.constructors k'' hk''
    have hcoerce := coerceAll_of_constructorArguments? hargs'
    obtain ⟨values, hvalues⟩ := takeAll_of_coerceAll params 1 args' hcoerce
    dsimp only
    rw [construct_generated hvalues.takes]
    exact .made hk'' hcoerce hvalues

theorem serves_invoke (hc : IsTyped c) (hb : ForeignBinding.of c.describe = .ok b) {index : Nat}
    {bound : BoundMethod} (hbound : b.methods[index]? = some bound) (w : W)
    (registry : ForeignRegistry F) (objects : ObjectStore) :
    Serves c b w registry objects bound (b.invoke index w registry objects) := by
  obtain ⟨-, -, hmethods⟩ := ForeignBinding.of_eq hb
  have hmem : bound ∈ (c.methods.map (·.describe c.name)).map (·.bind) := by
    rw [hmethods] at hbound
    exact List.mem_of_getElem? hbound
  rw [List.map_map, List.mem_map] at hmem
  obtain ⟨m, hm, hbind⟩ := hmem
  change (m.describe c.name).bind = bound at hbind
  -- Its method is a declared one, which takes its parameters in the order it declares them.
  obtain ⟨params, body, hparams, hbody⟩ := hc.methods m hm
  have hboundParams : bound.params = params.map (·.param) := by
    rw [← hbind, Method.describe_bind_params, hparams]
  simp only [ForeignBinding.invoke, hbound]
  cases hreceiver : b.receiverFor? bound w registry objects with
  | none => exact .noReceiver hreceiver
  | some receiver =>
    cases hcoerce : coerceAll w 1 bound.params with
    | error found => exact .mismatch hreceiver hcoerce
    | ok args =>
      rw [hboundParams] at hcoerce
      obtain ⟨values, hvalues⟩ := takeAll_of_coerceAll params 1 args hcoerce
      have hcall : bound.call receiver args objects =
          body.serve c.name values receiver objects := by
        rw [← hbind]
        exact call_generated hvalues.takes c.name hbody receiver objects
      simp only [hcall]
      exact .served hm hbind.symm hbody hreceiver hcoerce hvalues

end

/-! ### Exposed blocks -/

/-- The supported types are the ones arguments are taken at. -/
theorem ArgType.ofName?_of_supported {name : String} (h : name ∈ supportedTypes) :
    ∃ t, ArgType.ofName? name = some t := by
  simp only [supportedTypes, List.mem_cons, List.not_mem_nil, or_false] at h
  rcases h with rfl | rfl | rfl | rfl | rfl | rfl <;> exact ⟨_, rfl⟩

theorem typed?_of_supported (name : String) {t : TypeExpr} (h : t.isSupported = true) :
    ∃ p, (⟨name, t.pathNames⟩ : ExposedParam).typed? = some p := by
  cases hlast : t.lastName? with
  | none => simp [TypeExpr.isSupported, hlast] at h
  | some last =>
    have hmem : last ∈ supportedTypes := by
      rw [TypeExpr.isSupported, hlast] at h
      exact List.contains_iff_mem.mp h
    obtain ⟨type, htype⟩ := ArgType.ofName?_of_supported hmem
    have hpath : t.pathNames.getLast? = some last := by
      cases t with
      | path segments =>
        rw [TypeExpr.pathNames, List.getLast?_map]
        exact hlast
      | qualified segments => cases hlast
      | tuple elements => cases hlast
      | other => cases hlast
    exact ⟨⟨name, type⟩, by simp [ExposedParam.typed?, hpath, htype]⟩

/-- The parameters of an exposed function all have a type arguments are taken at. -/
theorem typed?_of_exposeParams (ps : List FunctionParam) :
    ∀ (index : Nat) (params : List ExposedParam), Function.exposeParams index ps = some params →
      ∀ p ∈ params, ∃ typed, p.typed? = some typed := by
  induction ps with
  | nil =>
    intro index params h p hp
    obtain rfl := Option.some.inj h
    cases hp
  | cons first ps ih =>
    intro index params h p hp
    rw [Function.exposeParams] at h
    split at h
    next hsupported =>
      simp only [Option.pure_def, Option.bind_eq_bind, Option.bind_eq_some_iff,
        Option.some.injEq] at h
      obtain ⟨rest, hrest, rfl⟩ := h
      rcases List.mem_cons.mp hp with rfl | hp
      · exact typed?_of_supported _ hsupported
      · exact ih (index + 1) rest hrest p hp
    -- A parameter of any other type makes the block fail.
    next => cases h

/-- The parameters a function is exposed with. -/
def Function.Member.params : Function.Member → List ExposedParam
  | .constructor c => c.params
  | .method m => m.params
  | .hidden => []

theorem typed?_of_member {f : Function} {typeName : Option String} {said : MemberAttributes} :
    ∀ p ∈ (f.member typeName said).params, ∃ typed, p.typed? = some typed := by
  intro p hp
  rw [Function.member] at hp
  split at hp
  · cases hp
  · cases hparams : f.exposedParams? with
    | none =>
      rw [hparams] at hp
      cases hp
    | some params =>
      have hall := typed?_of_exposeParams f.params _ params hparams
      simp only [hparams] at hp
      -- A constructor and a method have the parameters of the function, anything else none.
      split at hp
      · exact hall p hp
      · split at hp
        · exact hall p hp
        · cases hp

/-- What a block exposes are its functions. -/
theorem members_of_expose {block : Block} {arguments : List AttributeItem} {e : ExposedClass}
    (h : block.expose arguments = .ok e) :
    ∃ members, block.items.mapM (·.member block.type.lastName?) = .ok members ∧
      e.constructors = members.filterMap (·.constructor?) ∧
      e.methods = members.filterMap (·.method?) := by
  rw [Block.expose] at h
  obtain ⟨given, -, hblock⟩ := exists_of_bind_eq_ok h
  -- The block itself is refused for three causes before its functions are looked at.
  dsimp only at hblock
  split at hblock
  · cases hblock
  split at hblock
  · cases hblock
  split at hblock
  · cases hblock
  obtain ⟨members, hmembers, hexposed⟩ := exists_of_bind_eq_ok hblock
  obtain rfl := Except.ok.inj hexposed
  exact ⟨members, hmembers, rfl, rfl⟩

theorem typed?_of_expose {block : Block} {arguments : List AttributeItem} {e : ExposedClass}
    (h : block.expose arguments = .ok e) :
    (∀ k ∈ e.constructors, ∃ params, k.params.mapM (·.typed?) = some params) ∧
      ∀ m ∈ e.methods, ∃ params, m.params.mapM (·.typed?) = some params := by
  obtain ⟨members, hmembers, hconstructors, hmethods⟩ := members_of_expose h
  -- Every member comes from a function whose parameters were checked.
  have htyped {member : Function.Member} (hmember : member ∈ members) :
      ∀ p ∈ member.params, ∃ typed, p.typed? = some typed := by
    obtain ⟨item, -, hitem⟩ := mem_of_mapM_ok hmembers hmember
    cases item with
    | other =>
      obtain rfl := Except.ok.inj hitem
      simp [Function.Member.params]
    | function f =>
      obtain ⟨said, -, hmember⟩ := exists_of_bind_eq_ok hitem
      obtain rfl := Except.ok.inj hmember
      exact typed?_of_member
  constructor
  · intro k hk
    rw [hconstructors] at hk
    obtain ⟨member, hmember, hkind⟩ := List.mem_filterMap.mp hk
    cases member with
    | constructor k' =>
      obtain rfl := Option.some.inj hkind
      exact mapM_some_of_forall (htyped hmember)
    | method | hidden => cases hkind
  · intro m hm
    rw [hmethods] at hm
    obtain ⟨member, hmember, hkind⟩ := List.mem_filterMap.mp hm
    cases member with
    | method m' =>
      obtain rfl := Option.some.inj hkind
      exact mapM_some_of_forall (htyped hmember)
    | constructor | hidden => cases hkind

/-- Every exposed block becomes a class whose functions declare and take their parameters in
one order. -/
theorem generate?_of_expose {α : Type} {block : Block} {arguments : List AttributeItem}
    {e : ExposedClass} (h : block.expose arguments = .ok e) (impl : Implementation α) :
    ∃ c, e.generate? impl = some c ∧ IsTyped c := by
  obtain ⟨hconstructors, hmethods⟩ := typed?_of_expose h
  have hk : ∀ k ∈ e.constructors, ∃ k', k.generate? impl = some k' := by
    intro k hk
    obtain ⟨params, hparams⟩ := hconstructors k hk
    exact ⟨_, by rw [ExposedConstructor.generate?, hparams]; rfl⟩
  have hm : ∀ m ∈ e.methods, ∃ m', m.generate? impl = some m' := by
    intro m hm
    obtain ⟨params, hparams⟩ := hmethods m hm
    exact ⟨_, by rw [ExposedMethod.generate?, hparams]; rfl⟩
  obtain ⟨constructors, hks⟩ := mapM_some_of_forall hk
  obtain ⟨methods, hms⟩ := mapM_some_of_forall hm
  refine ⟨⟨e.className, constructors, methods⟩, ?_, ?_, ?_⟩
  · rw [ExposedClass.generate?, hks, hms]
    rfl
  · intro k' hk'
    obtain ⟨k, hk, hgenerate⟩ := mem_of_mapM_some hks hk'
    obtain ⟨params, hparams⟩ := hconstructors k hk
    rw [ExposedConstructor.generate?, hparams] at hgenerate
    exact ⟨params, _, (Option.some.inj hgenerate).symm⟩
  · intro m' hm'
    obtain ⟨m, hm, hgenerate⟩ := mem_of_mapM_some hms hm'
    obtain ⟨params, hparams⟩ := hmethods m hm
    rw [ExposedMethod.generate?, hparams] at hgenerate
    obtain rfl := Option.some.inj hgenerate
    exact ⟨params, impl.body m params, rfl, rfl⟩

/-- The two ways of reading a slot, type by type. -/
structure SlotAgreement {W : Type} [Slots W] (w : W) (slot : Nat) : Prop where
  bool : ConvertsAlike Bool w slot
  int32 : ConvertsAlike Int32 w slot
  int64 : ConvertsAlike Int64 w slot
  number : ConvertsAlike Number w slot
  text : ConvertsAlike String w slot
  value : Slots.type w slot ≠ .null → ConvertsAlike HostValue w slot
  null : Slots.type w slot = .null → FromSlot.read w slot = .ok HostValue.null ∧
    ∃ mismatch, coerce w slot (FromArg.kind HostValue) = .error mismatch

/-- On every window, a slot is read alike by host code and on the way of a call, except for
null; arguments of coerced parameters are taken as the values of their own slots, and all are
taken; and so they are whenever an instance is made or a method called of a class whose
functions declare and take their parameters in one order, which every exposed block becomes. -/
theorem arguments_taken {W F : Type} [Slots W] [BoundedSlots W] (w : W) :
    (∀ slot, SlotAgreement w slot) ∧
    (∀ slot (params : List TypedParam) args,
      coerceAll w slot (params.map (·.param)) = .ok args →
      ∃ values, Takes w slot params args values) ∧
    (∀ (α : Type) [HostType α] (c : ForeignClass α) (b : ForeignBinding), IsTyped c →
      ForeignBinding.of c.describe = .ok b →
      Allocates c b w (b.allocate w) ∧
      ∀ index bound, b.methods[index]? = some bound →
        ∀ (registry : ForeignRegistry F) (objects : ObjectStore),
          Serves c b w registry objects bound (b.invoke index w registry objects)) ∧
    ∀ (α : Type) (block : Block) arguments e, block.expose arguments = .ok e →
      ∀ impl : Implementation α, ∃ c, e.generate? impl = some c ∧ IsTyped c := by
  refine ⟨?_, ?_, ?_, ?_⟩
  · intro slot
    exact ⟨convertsAlike_bool w slot, convertsAlike_int32 w slot, convertsAlike_int64 w slot,
      convertsAlike_number w slot, convertsAlike_text w slot, convertsAlike_value, null_value⟩
  · intro slot params args h
    exact takeAll_of_coerceAll params slot args h
  · intro α _ c b hc hb
    refine ⟨allocates_allocate hc hb w, ?_⟩
    intro index bound hbound registry objects
    exact serves_invoke hc hb hbound w registry objects
  · intro α block arguments e h impl
    exact generate?_of_expose h impl

/-- A calculator is made from 3.9, which its constructor takes as 3. -/
theorem arguments_taken_calculator :
    let block : Block :=
      { type := .path [("Calculator", [])]
        ofTrait := false
        isGeneric := false
        items := [.function
          { name := "with_offset", isPublic := true, isAsync := false, isUnsafe := false
            isGeneric := false, isVariadic := false, receiver := .none
            params := [⟨some "offset", .path [("i32", [])]⟩]
            result := some (.path [("Self", [])]), attributes := [] }] }
    let impl : Implementation Samples.Calculator :=
      { make := fun _ params =>
          match params with
          | [⟨_, .int32⟩] => fun values => ⟨values.1⟩
          | _ => fun _ => ⟨0⟩
        onClass := fun _ _ _ => .ok none
        onReceiver := fun _ _ _ c => (.ok none, c) }
    let w : InMemory.Machine :=
      { InMemory.Machine.bare with slots := [.null, .num ⟨0x400F333333333333⟩] }
    let params : List TypedParam := [⟨"offset", .int32⟩]
    (FromSlot.read w 1 : Except HostError Int32) = .ok 3 ∧ SlotAgreement w 1 ∧
    coerceAll w 1 (params.map (·.param)) = .ok [.int 3] ∧
    (∃ values, Takes w 1 params [.int 3] values) ∧
    ∃ e c b, block.expose [] = .ok e ∧ e.generate? impl = some c ∧ IsTyped c ∧
      ForeignBinding.of c.describe = .ok b ∧ Allocates c b w (b.allocate w) := by
  intro block impl w params
  obtain ⟨hslots, htakes, hclasses, hblocks⟩ := arguments_taken (F := Unit) w
  obtain ⟨e, he⟩ : ∃ e, block.expose [] = .ok e := ⟨_, rfl⟩
  obtain ⟨c, hc, htyped⟩ := hblocks Samples.Calculator block [] e he impl
  -- The argument is truncated on either way, first to a wide integer and then to a narrow one.
  have hwide : (⟨0x400F333333333333⟩ : Number).toInt64 = 3 := by decide
  have hnarrow : (⟨0x400F333333333333⟩ : Number).toInt32 = 3 := by decide
  have hread : (FromSlot.read w 1 : Except HostError Int32) = .ok 3 := congrArg Except.ok hnarrow
  have hcoerce : coerceAll w 1 (params.map (·.param)) = .ok [.int 3] :=
    congrArg (fun i => Except.ok [HostValue.int i]) hwide
  have hgenerate : e.generate? impl =
      some ⟨"Calculator", [generatedConstructor params (impl.make "with_offset" params)], []⟩ := by
    cases he
    rfl
  obtain rfl := Option.some.inj (hc.symm.trans hgenerate)
  obtain ⟨b, hb⟩ : ∃ b, ForeignBinding.of
      (⟨"Calculator", [generatedConstructor params (impl.make "with_offset" params)], []⟩ :
        ForeignClass Samples.Calculator).describe = .ok b := ⟨_, rfl⟩
  exact ⟨hread, hslots 1, hcoerce, htakes 1 params _ hcoerce, e, _, b, he, hc, htyped, hb,
    (hclasses _ _ b htyped hb).1⟩

end Exposure

end ScriptHost
