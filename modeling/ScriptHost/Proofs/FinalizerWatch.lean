/-
Finalizers while scripts run.

`Watched start held w` says that the instances are owned and that there is a record, of the kind
`World.Recounts` describes, of all that happened since `start` and of the finalizers that ran.
Callbacks keep it, since they work only on objects still registered and run no finalizers;
collections keep it, since each finalization is one of the record's; and so do all scripts:

* **`Watched.unbroken`** — the effects of callbacks;
* **`Watched.collectGarbage`** — collections;
* **`Watched.invariant`** — hence whatever a script does.
-/
import ScriptHost.Proofs.FinalizerLedger

namespace ScriptHost

open Run InMemory

/-- Calling a method changes no object but the receiver. -/
def ForeignBinding.Discreet (b : ForeignBinding) : Prop :=
  ∀ m ∈ b.methods, ∀ receiver args objects id, receiver ≠ some id →
    (m.call receiver args objects).2.get? id = objects.get? id

/-- A bound method changes only what is registered. -/
theorem ForeignBinding.Discreet.confines_invoke {W F : Type} [Slots W] {b : ForeignBinding}
    (hb : b.Discreet) (index : Nat) (w : W) (registry : ForeignRegistry F)
    (objects : ObjectStore) : registry.Confines objects (b.invoke index w registry objects).2 := by
  intro id hid
  unfold ForeignBinding.invoke
  split
  · rfl
  · rename_i m hm
    split
    · rfl
    · rename_i receiver hreceiver
      split
      · rfl
      · refine hb m (List.mem_of_getElem? hm) _ _ _ id ?_
        -- A receiver is found by resolving its token.
        rintro rfl
        unfold ForeignBinding.receiverFor? at hreceiver
        split at hreceiver
        · cases hreceiver
        · simp only [ForeignBinding.receiver?, Option.map_eq_some_iff, Option.bind_eq_bind,
            Option.bind_eq_some_iff] at hreceiver
          obtain ⟨found, ⟨token, -, resolved, hresolved, object, -, hfound⟩, heq⟩ := hreceiver
          split at hfound
          · cases hfound
            cases heq
            exact hid token hresolved
          · cases hfound

/-- A described class binds to a table of methods that change only their receivers. -/
theorem ForeignBinding.discreet_of_describe {α : Type} [HostType α] {c : ForeignClass α}
    {b : ForeignBinding} (h : ForeignBinding.of c.describe = .ok b) : b.Discreet := by
  obtain ⟨-, -, hmethods⟩ := ForeignBinding.of_eq h
  intro bound hbound receiver args objects id hid
  rw [hmethods, List.mem_map] at hbound
  obtain ⟨described, hdescribed, rfl⟩ := hbound
  obtain ⟨m, -, rfl⟩ := List.mem_map.mp hdescribed
  unfold Method.describe
  split
  · show (callOnReceiver c.name _ receiver args objects).2.get? id = _
    unfold callOnReceiver
    split
    · rfl
    · rename_i target a htarget
      split
      · rfl
      -- What is put back is the receiver, so another object was not touched.
      · refine objects.get?_put_of_ne _ ?_
        rintro rfl
        obtain ⟨found, hfound, heq⟩ := Option.bind_eq_some_iff.mp htarget
        obtain ⟨_, -, hpair⟩ := Option.map_eq_some_iff.mp heq
        cases hpair
        exact hid hfound
  · rfl

/-- What is kept of host and machine while some values are held besides, with a record of the
finalizers that ran. -/
structure Watched (start : World HostState Machine) (held : List ScriptValue)
    (w : World HostState Machine) : Prop where
  owned : Owned start.ownership held w
  discreet : ∀ b ∈ w.host.bindings, b.Discreet
  recounted : ∃ events runs, start.Recounts events runs w

namespace Watched

variable {start w w' : World HostState Machine} {held held' : List ScriptValue}

theorem quiet (hw : Watched start held w) (howned : Owned start.ownership held' w')
    (hbindings : ∀ b ∈ w'.host.bindings, b.Discreet) (hsame : w'.ownership = w.ownership)
    (hsteady : w.Steady w') : Watched start held' w' := by
  obtain ⟨events, runs, hrecounts⟩ := hw.recounted
  exact ⟨howned, hbindings, events, runs, hrecounts.quiet hsame hsteady⟩

/-- Something happens, and no finalizer runs. -/
theorem happened (hw : Watched start held w) (howned : Owned start.ownership held' w')
    (hbindings : ∀ b ∈ w'.host.bindings, b.Discreet) {event : Ownership.Event}
    (hstep : w.ownership.Step event w'.ownership) (hevent : ∀ token, event ≠ .finalized token)
    (hsteady : w.Steady w') : Watched start held' w' := by
  obtain ⟨events, runs, hrecounts⟩ := hw.recounted
  exact ⟨howned, hbindings, _, runs, hrecounts.happened hstep hevent hsteady⟩

theorem move (hw : Watched start held w) {m : Machine} (hm : w.vm.Moves held m held')
    (hsilent : w.vm.Silent m) : Watched start held' { w with vm := m } := by
  refine hw.quiet (hw.owned.move hm hsilent.releases) hw.discreet ?_
    ⟨hsilent.finalizations, hsilent.freed, ?_⟩
  · rw [World.ownership, hm.instances, hm.tracked, hsilent.releases]
    rfl
  · exact fun _ _ hobject _ => hobject

theorem forgetAll (hw : Watched start held w) : Watched start [] w :=
  hw.move (.forget w.vm fun _ h => by cases h) (.refl _)

theorem note (hw : Watched start held w) {entry : Entry}
    (hfinalization : entry.finalization? = none) (hrelease : entry.release? = none) :
    Watched start held { w with vm := Chronicle.note w.vm entry } :=
  hw.move ((Machine.windowFrame_moves held).note w.vm entry) (.note w.vm hfinalization hrelease)

/-- A change of the host that works on nothing but registered objects. -/
theorem changeHost (hw : Watched start held w) {h : HostState}
    (hforeign : h.foreign = w.host.foreign)
    (hobjects : h.objects.cells.length = w.host.objects.cells.length)
    (hconfined : w.host.foreign.Confines w.host.objects h.objects)
    (htame : ∀ b ∈ h.bindings, b.Tame ∧ b.Discreet) :
    Watched start held { w with host := h } := by
  refine hw.quiet (hw.owned.changeHost hforeign hobjects fun b hb => (htame b hb).1)
    (fun b hb => (htame b hb).2) ?_ ⟨rfl, rfl, fun id object hobject hid => ?_⟩
  · rw [World.ownership, hforeign, hobjects]
    rfl
  · rw [hforeign] at hid
    exact (hconfined id hid).trans hobject

theorem bindings (hw : Watched start held w) : ∀ b ∈ w.host.bindings, b.Tame ∧ b.Discreet :=
  fun b hb => ⟨hw.owned.tame b hb, hw.discreet b hb⟩

theorem release (hw : Watched start held w) {reply : CallReply} {token : Token}
    {object : ObjectId} (hreply : reply.release? = some token)
    (hobject : w.host.foreign.resolve? token = some object) :
    Watched start held ⟨{ w.host with foreign := (w.host.foreign.release token).2 },
      Chronicle.note w.vm (.raw reply)⟩ :=
  hw.happened (hw.owned.release hreply hobject) hw.discreet (Owned.step_released w hreply hobject)
    (by rintro _ ⟨⟩) ⟨(w.vm.finalizations_note _).trans (List.append_nil _), rfl,
      fun _ _ hfound _ => hfound⟩

theorem strand (hw : Watched start held w) (object : HostObject) (finalizer : Option Finalizer) :
    Watched start held { w with host := (w.host.registered object finalizer).2 } := by
  have hstep := Ownership.Step.stranded (s := w.ownership) finalizer
  rw [← Owned.ownership_registered w object finalizer] at hstep
  exact hw.happened (hw.owned.strand object finalizer) hw.discreet hstep (by rintro _ ⟨⟩)
    ⟨rfl, rfl, fun _ _ hfound _ => ObjectStore.get?_place_of_eq_some hfound object⟩

theorem place (hw : Watched start held w) {object : HostObject} {finalizer : Option Finalizer}
    {m : Machine}
    (hm : Slots.setNewForeign w.vm 0 0 (w.host.registered object finalizer).1 = .ok m) :
    Watched start held ⟨(w.host.registered object finalizer).2, m⟩ := by
  have howned := hw.owned.place hm
  simp only [Slots.setNewForeign] at hm
  split at hm
  · rename_i info _
    cases hm
    have hstep := Ownership.Step.allocated (s := w.ownership) finalizer info
    rw [← Owned.ownership_placed w object finalizer info] at hstep
    exact hw.happened howned hw.discreet hstep (by rintro _ ⟨⟩)
      ⟨rfl, rfl, fun _ _ hfound _ => ObjectStore.get?_place_of_eq_some hfound object⟩
  · cases hm

/-- No effect of a callback breaks it. -/
theorem unbroken (start : World HostState Machine) (held : List ScriptValue) :
    Unbroken (fun m m' : Machine => m.Moves held m' held ∧ m.Silent m') (Watched start held) where
  frame := (Machine.windowFrame_moves held).toSlotFrame.and Machine.slotFrame_silent
  window hm hw := hw.move hm.1 hm.2
  note {_ entry} hplain hw :=
    hw.note (entry.finalization?_of_isPlain hplain) (entry.release?_of_isPlain hplain)
  host halike hw :=
    hw.changeHost halike.foreign halike.objects halike.confined
      fun b hb => hw.bindings b (halike.bindings b hb)
  method {w b} index hb hw :=
    hw.changeHost rfl
      ((hw.owned.tame b hb).length_invoke index w.vm w.host.foreign w.host.objects)
      ((hw.discreet b hb).confines_invoke index w.vm w.host.foreign w.host.objects) hw.bindings
  release hreply hobject hw := hw.release hreply hobject
  strand object finalizer hw := hw.strand object finalizer
  place hm hw := hw.place hm

/-- A collection gives up only what is out of reach. -/
theorem sweep (hw : Watched start [] w) :
    Watched start [] { w with vm := { w.vm with tracked := w.vm.deadAndLive.2 } } :=
  hw.happened hw.owned.sweep hw.discreet (.swept fun _ hi => (Machine.mem_live.mp hi).1)
    (by rintro _ ⟨⟩) ⟨rfl, rfl, fun _ _ hfound _ => hfound⟩

/-- A collection of `w` is under way, and what it finalizes goes on record. -/
structure Collecting (start w v : World HostState Machine) : Prop where
  owned : Owned.Collecting start.ownership w v
  discreet : ∀ b ∈ v.host.bindings, b.Discreet
  recounted : ∃ events runs, start.Recounts events runs v

/-- Finalizing an instance the collection gave up. -/
theorem Collecting.finalize {v : World HostState Machine} (hv : Collecting start w v)
    {token : Token} (htoken : token ∈ w.vm.tokens w.vm.deadAndLive.1) :
    Leads (HostState.finalize token) v (fun _ => Collecting start w) (Collecting start w) := by
  have hfinalized := HostState.leads_finalize_iff.mp (hv.owned.finalize htoken)
  obtain ⟨i, hdead, inst, hinst, rfl⟩ := Machine.mem_tokens htoken
  have hgiven : i ∉ v.vm.tracked := by
    rw [hv.owned.tracked]
    exact fun hlive => (Machine.mem_dead.mp hdead).2 (Machine.mem_live.mp hlive).2
  rw [← hv.owned.instances] at hinst
  obtain ⟨events, runs, hrecounts⟩ := hv.recounted
  exact HostState.leads_finalize_iff.mpr
    ⟨hfinalized, hv.discreet, _, _, hrecounts.finalized hinst hgiven⟩

/-- A collection finalizes only what it has given up. -/
theorem collectGarbage (hw : Watched start [] w) :
    Leads (InMemory.collectGarbage : Turn HostState Unit) w (fun _ => Watched start [])
      (Watched start []) := by
  unfold InMemory.collectGarbage
  refine Leads.get_bind ?_
  refine Leads.bind (m := fun _ => Collecting start w) (Leads.modify ?_) fun _ v hv => ?_
  · exact ⟨⟨hw.owned.sweep, rfl, rfl⟩, hw.discreet, hw.sweep.recounted⟩
  · have hloop : Leads ((w.vm.tokens w.vm.deadAndLive.1).forM HostState.finalize) v
        (fun _ => Collecting start w) (Collecting start w) :=
      Leads.forM (fun _ htoken _ hv => hv.finalize htoken) hv
    have hwatched : ∀ v, Collecting start w v → Watched start [] v :=
      fun v hv => ⟨hv.owned.owned, hv.discreet, hv.recounted⟩
    exact hloop.mono (fun _ => hwatched) hwatched

/-- What a callback leads to, a panic being the end of whatever was held. -/
theorem leads_callback {α : Type} {run : Run (World HostState Machine) α}
    (h : Leads run w (fun _ => Watched start held) (Watched start held)) :
    Leads run w (fun _ => Watched start held) (Watched start []) :=
  h.mono (fun _ _ hw => hw) fun _ hw => hw.forgetAll

/-- Nothing a script does breaks it, as long as no instance is forged. -/
theorem invariant (start : World HostState Machine) :
    Invariant (fun _ => False) (Watched start) where
  scripts hw token htoken := by
    rw [hw.owned.unforged] at htoken
    cases htoken
  move hm hadds hw := hw.move hm hadds.silent
  forge _ hfair _ := hfair.elim
  bindMethod module className isStatic signature hw :=
    leads_callback ((unbroken start _).bindMethod module className isStatic signature hw)
  bindClass module className hw := leads_callback ((unbroken start _).bindClass module className hw)
  invoke id hw := leads_callback ((unbroken start _).invoke id hw)
  allocate id hw := leads_callback ((unbroken start _).allocate id hw)
  write text hw := leads_callback ((unbroken start _).write text hw)
  report event hw :=
    leads_callback (HostState.leads_report event (fun _ _ hw => hw.note rfl rfl)
      (hw.changeHost rfl rfl (.refl _ _) hw.bindings))
  collect hw := hw.collectGarbage

end Watched

end ScriptHost
