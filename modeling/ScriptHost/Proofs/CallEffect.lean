/-
What a hand-written member can do.

`CallState.Effect R s reply s'` bounds what one action of a member does to its call: the window
changes within a frame `R`, at most one object is taken out of the table of foreign
objects, and then the reply tells of its release, no object is made or lost, and some handles
may have been dropped.

* **`CallAction.release?_run`** — a reply tells of a release only if that was the action;
* **`CallAction.effect_run`** — every action has such an effect;
* **`Leads.runActions`** — so what one effect keeps, a whole member keeps, also if it
  panics on the way.
-/
import ScriptHost.Configuration
import ScriptHost.Proofs.HeapSoundness
import ScriptHost.Proofs.RunLaws
import ScriptHost.Proofs.WindowFrame

namespace ScriptHost

/-- Between the two some handles were dropped. -/
def HandleRegistry.Queued (r r' : HandleRegistry) : Prop :=
  ∃ ids : List Nat, r' = ids.foldl queueRelease r

theorem HandleRegistry.Queued.refl (r : HandleRegistry) : r.Queued r :=
  ⟨[], rfl⟩

theorem HandleRegistry.Queued.trans {r r' r'' : HandleRegistry} (h : r.Queued r')
    (h' : r'.Queued r'') : r.Queued r'' := by
  obtain ⟨ids, rfl⟩ := h
  obtain ⟨ids', rfl⟩ := h'
  exact ⟨ids ++ ids', List.foldl_append.symm⟩

theorem ForeignRegistry.release_fst {F : Type} (r : ForeignRegistry F) (t : Token) :
    (r.release t).1 = r.resolve? t := by
  unfold ForeignRegistry.release ForeignRegistry.resolve?
  rw [← r.heap.remove_fst t]

theorem ForeignRegistry.release_of_resolve?_eq_none {F : Type} {r : ForeignRegistry F}
    {t : Token} (h : r.resolve? t = none) : (r.release t).2 = r := by
  have hget : r.heap.get? t = none := Option.map_eq_none_iff.mp h
  unfold ForeignRegistry.release
  rw [ObjectHeap.remove_of_get?_eq_none hget]

/-- Working on an object makes and loses none, if the work does not. -/
theorem ObjectStore.length_update {α β : Type} [HostType α] (s : ObjectStore) (id : ObjectId)
    (work : α → ObjectStore → β × α × ObjectStore)
    (hwork : ∀ a s', (work a s').2.2.cells.length = s'.cells.length) :
    (s.update id work).2.cells.length = s.cells.length := by
  unfold update
  split
  · rfl
  · split
    · rfl
    · simp [setInUse, put, hwork]

/-- An object no token resolves to is left alone. -/
def ForeignRegistry.Confines {F : Type} (r : ForeignRegistry F) (s s' : ObjectStore) : Prop :=
  ∀ id, (∀ token, r.resolve? token ≠ some id) → s'.get? id = s.get? id

theorem ForeignRegistry.Confines.refl {F : Type} (r : ForeignRegistry F) (s : ObjectStore) :
    r.Confines s s :=
  fun _ _ => rfl

@[simp] theorem ObjectStore.get?_setInUse (s : ObjectStore) (id id' : ObjectId) (inUse : Bool) :
    (s.setInUse id inUse).get? id' = s.get? id' := by
  simp only [get?, setInUse, List.getElem?_modify]
  split <;> simp [Option.map_map, Function.comp_def]

/-- What was placed before stays where it is. -/
theorem ObjectStore.get?_place_of_eq_some {s : ObjectStore} {id : ObjectId} {found : HostObject}
    (h : s.get? id = some found) (object : HostObject) :
    (s.place object).2.get? id = some found := by
  obtain ⟨cell, hcell, rfl⟩ := Option.map_eq_some_iff.mp h
  have hlt := (List.getElem?_eq_some_iff.mp hcell).1
  rw [ObjectStore.get?, ObjectStore.place, List.getElem?_append_left hlt, hcell]
  rfl

theorem ObjectStore.get?_put_of_ne (s : ObjectStore) {id id' : ObjectId} (object : HostObject)
    (h : id' ≠ id) : (s.put id object).get? id' = s.get? id' := by
  simp [get?, put, h.symm]

/-- Working on an object leaves alone what the work leaves alone. -/
theorem ObjectStore.get?_update_of_ne {α β : Type} [HostType α] (s : ObjectStore)
    {id id' : ObjectId} (work : α → ObjectStore → β × α × ObjectStore)
    (hwork : ∀ a s', (work a s').2.2.get? id' = s'.get? id') (h : id' ≠ id) :
    (s.update id work).2.get? id' = s.get? id' := by
  unfold update
  split
  · rfl
  · split
    · rfl
    · simp [get?_put_of_ne _ _ h, hwork]

/-- The token of the instance that an object was detached from. -/
def CallReply.release? : CallReply → Option Token
  | .released token _ => token
  | _ => none

/-- The call once a reply is on record. -/
def CallState.noted {F W : Type} [Chronicle W] (s : CallState F W) (reply : CallReply) :
    CallState F W :=
  { s with context := { s.context with window := Chronicle.note s.context.window (.raw reply) } }

/-- The bounds on what one action does. -/
structure CallState.Effect {F W : Type} (R : W → W → Prop) (s : CallState F W)
    (reply : CallReply) (s' : CallState F W) : Prop where
  window : R s.context.window s'.context.window
  foreign : (reply.release? = none ∧ s'.context.foreign = s.context.foreign) ∨
    ∃ token object, reply.release? = some token ∧
      s.context.foreign.resolve? token = some object ∧
      s'.context.foreign = (s.context.foreign.release token).2
  objects : s'.context.objects.cells.length = s.context.objects.cells.length
  confined : s'.context.foreign.Confines s.context.objects s'.context.objects
  handles : s.context.handles.Queued s'.context.handles

namespace CallAction

variable {F W : Type} [Slots W] {R : W → W → Prop}

theorem length_withForeign {α β : Type} [HostType α] (c : CallContext F W) (slot : Nat)
    (work : α → ObjectStore → β × α × ObjectStore)
    (hwork : ∀ a s', (work a s').2.2.cells.length = s'.cells.length) :
    (c.withForeign slot work).2.objects.cells.length = c.objects.cells.length := by
  unfold CallContext.withForeign
  split
  · rfl
  · exact c.objects.length_update _ work hwork

theorem withForeign_eq {α β : Type} [HostType α] (c : CallContext F W) (slot : Nat)
    (work : α → ObjectStore → β × α × ObjectStore) :
    (c.withForeign slot work).2 =
      { c with objects := (c.withForeign slot work).2.objects } := by
  unfold CallContext.withForeign
  split <;> rfl

theorem get?_withForeign {α β : Type} [HostType α] (c : CallContext F W) (slot : Nat)
    (work : α → ObjectStore → β × α × ObjectStore) {id : ObjectId}
    (hwork : ∀ a s', (work a s').2.2.get? id = s'.get? id)
    (hid : ∀ token, c.foreign.resolve? token ≠ some id) :
    (c.withForeign slot work).2.objects.get? id = c.objects.get? id := by
  unfold CallContext.withForeign
  cases hobject : c.foreign? slot with
  | none => rfl
  | some object =>
    obtain ⟨token, -, htoken⟩ := Option.bind_eq_some_iff.mp hobject
    refine c.objects.get?_update_of_ne work hwork ?_
    rintro rfl
    exact hid token htoken

theorem effect_refl (hR : SlotFrame R) (s : CallState F W) {reply : CallReply}
    (hreply : reply.release? = none) : s.Effect R reply s :=
  ⟨hR.refl _, .inl ⟨hreply, rfl⟩, rfl, .refl _ _, .refl _⟩

/-- An action that works on an object and does nothing else. -/
theorem effect_objects (hR : SlotFrame R) (s : CallState F W) {reply : CallReply}
    {objects : ObjectStore} (hreply : reply.release? = none)
    (h : objects.cells.length = s.context.objects.cells.length)
    (hconfined : s.context.foreign.Confines s.context.objects objects) :
    s.Effect R reply { s with context := { s.context with objects := objects } } :=
  ⟨hR.refl _, .inl ⟨hreply, rfl⟩, h, hconfined, .refl _⟩

omit [Slots W] in
theorem release?_written (s : CallState F W) (outcome : Except HostError (CallContext F W)) :
    (written s outcome).1.release? = none := by
  cases outcome <;> rfl

/-- A write to the window, carried out or refused. -/
theorem effect_written (hR : SlotFrame R) (s : CallState F W) (slot : Nat)
    (write : W → Except HostError W)
    (hwrite : ∀ w', write s.context.window = .ok w' → R s.context.window w') :
    s.Effect R (written s (s.context.setWith slot write)).1
      (written s (s.context.setWith slot write)).2 := by
  unfold CallContext.setWith
  cases hcheck : s.context.checkWritable slot with
  | error e => exact effect_refl hR s rfl
  | ok _ =>
    -- A write that is refused leaves the call as a check does.
    cases hwritten : write s.context.window with
    | error e =>
      simp only [bind, Except.bind]
      exact effect_refl hR s rfl
    | ok w' =>
      simp only [bind, Except.bind]
      exact ⟨hwrite w' hwritten, .inl ⟨rfl, rfl⟩, rfl, .refl _ _, .refl _⟩

theorem queued_foldl (handles : List Handle) (r : HandleRegistry) :
    r.Queued (handles.foldl (fun r h => r.queueRelease h.id) r) :=
  ⟨handles.map (·.id), by rw [List.foldl_map]⟩

/-- A reply tells of a release only if the action was one, of an instance whose object was
there. -/
theorem release?_run {s s' : CallState F W} {action : CallAction} {reply : CallReply}
    {token : Token} (h : action.run s = .ok (reply, s')) (hreply : reply.release? = some token) :
    ∃ slot object, action = .releaseForeign slot ∧ s.context.token? slot = some token ∧
      s.context.foreign.resolve? token = some object := by
  cases action <;> simp only [run, pure, Except.pure, Except.ok.injEq] at h
  case panic cause => cases h
  case releaseForeign slot =>
    obtain rfl : _ = reply := congrArg Prod.fst h
    obtain ⟨object, hobject, htoken⟩ := Option.bind_eq_some_iff.mp hreply
    rw [CallContext.releaseForeign, htoken] at hobject
    refine ⟨slot, object, rfl, htoken, ?_⟩
    rwa [← ForeignRegistry.release_fst]
  -- No other reply names a token.
  case set | setReturn | setValue | sum =>
    obtain rfl : _ = reply := congrArg Prod.fst h
    rw [release?_written] at hreply
    cases hreply
  all_goals
    obtain rfl : _ = reply := congrArg Prod.fst h
    cases hreply

/-- Every action has an effect within the bounds. -/
theorem effect_run (hR : SlotFrame R) {s s' : CallState F W} {action : CallAction}
    {reply : CallReply} (h : action.run s = .ok (reply, s')) : s.Effect R reply s' := by
  cases action <;> simp only [run, pure, Except.pure, Except.ok.injEq] at h
  case panic cause => cases h
  all_goals
    obtain rfl : _ = reply := congrArg Prod.fst h
    obtain rfl : _ = s' := congrArg Prod.snd h
  case set slot payload => exact effect_written hR s slot _ fun _ => hR.writePayload
  case setReturn payload => exact effect_written hR s 0 _ fun _ => hR.writePayload
  case setValue slot value => exact effect_written hR s slot _ fun _ => hR.writeOwnedValue
  case sum =>
    unfold CallContext.setReturn CallContext.set
    refine effect_written hR s 0 _ fun _ hwrite => ?_
    exact SlotFrame.eq_of_writeChecked hwrite ▸ hR.setNumber _ 0 _
  case withInt slot amount =>
    rw [withForeign_eq]
    exact effect_objects hR s rfl (length_withForeign s.context slot _ fun _ _ => rfl)
      fun _ hid => get?_withForeign s.context slot _ (fun _ _ => rfl) hid
  case withText slot suffix =>
    rw [withForeign_eq]
    exact effect_objects hR s rfl (length_withForeign s.context slot _ fun _ _ => rfl)
      fun _ hid => get?_withForeign s.context slot _ (fun _ _ => rfl) hid
  case withNested slot inner =>
    rw [withForeign_eq]
    refine effect_objects hR s rfl (length_withForeign s.context slot _ fun i objects => ?_)
      fun id hid => get?_withForeign s.context slot _ (fun i objects => ?_) hid
    · exact length_withForeign _ inner _ fun _ _ => rfl
    · exact get?_withForeign { s.context with objects := objects } inner _ (fun _ _ => rfl) hid
  case releaseForeign slot =>
    unfold CallContext.releaseForeign
    cases s.context.token? slot with
    | none => exact effect_refl hR s rfl
    | some token =>
      refine ⟨hR.refl _, ?_, rfl, .refl _ _, .refl _⟩
      dsimp only
      rw [ForeignRegistry.release_fst]
      -- Releasing a token that does not resolve does nothing, and is not told of.
      cases hobject : s.context.foreign.resolve? token with
      | none => exact .inl ⟨rfl, ForeignRegistry.release_of_resolve?_eq_none hobject⟩
      | some object => exact .inr ⟨token, object, rfl, hobject, rfl⟩
  case abort message =>
    exact ⟨hR.abortWith _ message, .inl ⟨rfl, rfl⟩, rfl, .refl _ _, .refl _⟩
  case dropHandle name =>
    exact ⟨hR.refl _, .inl ⟨rfl, rfl⟩, rfl, .refl _ _, queued_foldl _ _⟩
  all_goals exact effect_refl hR s rfl

end CallAction

/-- What every action keeps once its reply is on record, a member keeps. -/
theorem Run.Leads.runActions_of_run {F W : Type} [Slots W] [Chronicle W]
    {P : CallState F W → Prop}
    (hact : ∀ s s' action reply, P s → CallAction.run s action = .ok (reply, s') →
      P (s'.noted reply))
    (actions : List CallAction) :
    ∀ s, P s → Leads (ScriptHost.runActions actions) s (fun _ => P) P := by
  induction actions with
  | nil => exact fun s hs => hs
  | cons action actions ih =>
    intro s hs
    unfold ScriptHost.runActions
    refine get_bind ?_
    cases hrun : action.run s with
    | error p => exact throw hs
    | ok answer =>
      obtain ⟨reply, s'⟩ := answer
      exact bind (m := fun _ => P) (set (hact s s' action reply hs hrun))
        fun _ s'' hs'' => ih s'' hs''

/-- What the effect of an action keeps, a member keeps. -/
theorem Run.Leads.runActions {F W : Type} [Slots W] [Chronicle W] {R : W → W → Prop}
    (hR : SlotFrame R) {P : CallState F W → Prop}
    (hkeep : ∀ s s' reply, CallState.Effect R s reply s' → P s → P (s'.noted reply))
    (actions : List CallAction) :
    ∀ s, P s → Leads (ScriptHost.runActions actions) s (fun _ => P) P :=
  runActions_of_run (fun s s' _ reply hs hrun =>
    hkeep s s' reply (CallAction.effect_run hR hrun) hs) actions

end ScriptHost
