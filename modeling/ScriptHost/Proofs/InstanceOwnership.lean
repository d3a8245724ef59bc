/-
Instances of a machine kept in memory, and the objects of its host.

`Owned start held w` is what every run keeps: nothing is forged, everything within reach is
still tracked by the machine, and what happened to the instances and objects since `start`
is a record of the kind `Ownership.Evolves` describes.  Callbacks keep it, collections keep
it, and so do all scripts:

* **`Owned.unbroken`** — the effects of callbacks;
* **`Owned.collectGarbage`** — a collection gives up and finalizes only what is out of reach;
* **`Owned.invariant`** — hence whatever a script does.
-/
import ScriptHost.Proofs.Callbacks
import ScriptHost.Proofs.Dispatch
import ScriptHost.Proofs.Finalizers
import ScriptHost.Proofs.Ownership
import ScriptHost.Proofs.ScriptInvariant

namespace ScriptHost

open Run InMemory

theorem Entry.finalization?_of_isPlain {entry : Entry} (h : entry.isPlain = true) :
    entry.finalization? = none := by
  cases entry <;> first | rfl | cases h

namespace InMemory.Machine

variable {m m' m'' : Machine}

/-- The tokens of the instances that host code detached objects from, by the notes its releases
left. -/
def releases (m : Machine) : List Token :=
  m.journal.filterMap Entry.release?

/-- No finalizer and no release left a note, and the machine was not freed. -/
structure Silent (m m' : Machine) : Prop where
  finalizations : m'.finalizations = m.finalizations
  releases : m'.releases = m.releases
  freed : m'.freed = m.freed

theorem Silent.refl (m : Machine) : m.Silent m :=
  ⟨rfl, rfl, rfl⟩

theorem Silent.trans (h : m.Silent m') (h' : m'.Silent m'') : m.Silent m'' :=
  ⟨h'.finalizations.trans h.finalizations, h'.releases.trans h.releases, h'.freed.trans h.freed⟩

theorem slotFrame_silent : SlotFrame Silent :=
  slotFrame_window.mono (fun _ _ h => by rw [h]; exact ⟨rfl, rfl, rfl⟩) .trans

theorem finalizations_note (m : Machine) (entry : Entry) :
    (Chronicle.note m entry).finalizations = m.finalizations ++ entry.finalization?.toList := by
  show (m.journal ++ [entry]).filterMap Entry.finalization? = _
  rw [List.filterMap_append]
  cases h : entry.finalization? <;> simp [h, finalizations]

theorem releases_note (m : Machine) (entry : Entry) :
    (Chronicle.note m entry).releases = m.releases ++ entry.release?.toList := by
  show (m.journal ++ [entry]).filterMap Entry.release? = _
  rw [List.filterMap_append]
  cases h : entry.release? <;> simp [h, releases]

/-- Finalizers release nothing. -/
@[simp] theorem releases_noted (m : Machine) (runs : List FinalizerRun) :
    (m.noted runs).releases = m.releases := by
  have hnone : (runs.map (·.entry)).filterMap Entry.release? = [] := by
    rw [List.filterMap_map, List.filterMap_eq_nil_iff]
    exact fun _ _ => rfl
  rw [releases, noted, List.filterMap_append, hnone, List.append_nil]
  rfl

theorem Silent.note (m : Machine) {entry : Entry} (hfinalization : entry.finalization? = none)
    (hrelease : entry.release? = none) : m.Silent (Chronicle.note m entry) := by
  refine ⟨?_, ?_, rfl⟩
  · rw [finalizations_note, hfinalization]
    exact List.append_nil _
  · rw [releases_note, hrelease]
    exact List.append_nil _

/-- Scripts leave no notes of either. -/
theorem Adds.silent (h : m.Adds m') : m.Silent m' := by
  obtain ⟨entries, hentries, hscripts⟩ := h.journal
  have hnone : ∀ {β : Type} {f : Entry → Option β},
      (∀ entry, entry.isScripts = true → f entry = none) → entries.filterMap f = [] :=
    fun hf => List.filterMap_eq_nil_iff.mpr fun entry hentry => hf entry (hscripts entry hentry)
  refine ⟨?_, ?_, h.freed⟩
  · rw [finalizations, hentries, List.filterMap_append, hnone, List.append_nil]
    · rfl
    · intro entry hscript
      cases entry <;> first | rfl | cases hscript
  · rw [releases, hentries, List.filterMap_append, hnone, List.append_nil]
    · rfl
    · intro entry hscript
      cases entry <;> first | rfl | cases hscript

theorem Silent.releaseHandle (m : Machine) (h : RawHandle) :
    m.Silent (InMemory.releaseHandle m h) := by
  unfold InMemory.releaseHandle
  split <;> exact ⟨rfl, rfl, rfl⟩

theorem Silent.releaseHandles (handles : List RawHandle) (m : Machine) :
    m.Silent (handles.foldl Backend.releaseHandle m) := by
  induction handles generalizing m with
  | nil => exact .refl m
  | cons h handles ih => exact (Silent.releaseHandle m h).trans (ih _)

theorem Silent.makeCallHandle {signature : String} {outcome : Except HostError RawHandle}
    (h : InMemory.makeCallHandle m signature = .ok (outcome, m')) : m.Silent m' := by
  unfold InMemory.makeCallHandle at h
  split at h
  · cases h
    exact .refl m
  · split at h
    · cases h
    · split at h <;> cases h <;> exact ⟨rfl, rfl, rfl⟩

end InMemory.Machine

/-- The parts of host and machine that concern foreign instances. -/
def World.ownership (w : World HostState Machine) : Ownership :=
  ⟨w.host.foreign, w.host.objects.cells.length, w.vm.instances, w.vm.tracked, w.vm.releases⟩

/-- Calling a method makes and loses no object. -/
def ForeignBinding.Tame (b : ForeignBinding) : Prop :=
  ∀ m ∈ b.methods, ∀ receiver args objects,
    (m.call receiver args objects).2.cells.length = objects.cells.length

/-- What is kept of host and machine while some values are held besides. -/
structure Owned (start : Ownership) (held : List ScriptValue) (w : World HostState Machine) :
    Prop where
  unforged : w.vm.forged = []
  tame : ∀ b ∈ w.host.bindings, b.Tame
  /-- What is within reach has not been given up. -/
  rooted : ∀ i, w.vm.Reaches held (.instanceOf i) → i ∈ w.vm.tracked
  evolves : ∃ events, start.Evolves events w.ownership

/-- A bound method makes and loses no object. -/
theorem ForeignBinding.Tame.length_invoke {W F : Type} [Slots W] {b : ForeignBinding}
    (hb : b.Tame) (index : Nat) (w : W) (registry : ForeignRegistry F) (objects : ObjectStore) :
    (b.invoke index w registry objects).2.cells.length = objects.cells.length := by
  unfold ForeignBinding.invoke
  split
  · rfl
  · rename_i m hm
    split
    · rfl
    · split
      · rfl
      · exact hb m (List.mem_of_getElem? hm) _ _ _

/-- A described class binds to a table of methods that make and lose no object. -/
theorem ForeignBinding.tame_of_describe {α : Type} [HostType α] {c : ForeignClass α}
    {b : ForeignBinding} (h : ForeignBinding.of c.describe = .ok b) : b.Tame := by
  obtain ⟨-, -, hmethods⟩ := ForeignBinding.of_eq h
  intro bound hbound receiver args objects
  rw [hmethods, List.mem_map] at hbound
  obtain ⟨described, hdescribed, rfl⟩ := hbound
  obtain ⟨m, -, rfl⟩ := List.mem_map.mp hdescribed
  unfold Method.describe
  split
  · show (callOnReceiver c.name _ receiver args objects).2.cells.length = _
    unfold callOnReceiver
    split
    · rfl
    · split
      · rfl
      · simp [ObjectStore.put]
  · rfl

namespace InMemory.Machine

variable {m : Machine} {held : List ScriptValue}

/-- Making an instance brings nothing within reach but itself. -/
theorem reaches_newInstance (token : Token) (info : ClassInfo) {i : Nat}
    (h : (m.newInstance token info).2.Reaches ((m.newInstance token info).1 :: held)
      (.instanceOf i)) : i = m.instances.length ∨ m.Reaches held (.instanceOf i) := by
  have hall : ∀ v, ((m.newInstance token info).2.holding
      ((m.newInstance token info).1 :: held)).Reaches v →
      v = .instanceOf m.instances.length ∨ m.Reaches held v := by
    -- The lists are the same, so only the value held besides can be new.
    intro v hv
    induction hv with
    | root hroot =>
      cases mem_roots.mp hroot with
      | slot h => exact .inr (.root (mem_roots.mpr (.slot h)))
      | global h => exact .inr (.root (mem_roots.mpr (.global h)))
      | handle h => exact .inr (.root (mem_roots.mpr (.handle h)))
      | aborted h => exact .inr (.root (mem_roots.mpr (.aborted h)))
      | running hvalues h => exact .inr (.root (mem_roots.mpr (.running hvalues h)))
      | held h =>
        rcases List.mem_cons.mp h with hnew | hold
        · exact .inl hnew
        · exact .inr (.root (mem_roots.mpr (.held hold)))
    | element hlist hid hmem ih =>
      rcases ih with hnew | hold
      · cases hnew
      · exact .inr (.element hold hid hmem)
  rcases hall _ h with hnew | hold
  · cases hnew
    exact .inl rfl
  · exact .inr hold

theorem holding_nil (m : Machine) : m.holding [] = m.references := by
  simp [holding]

theorem mem_live {i : Nat} :
    i ∈ m.deadAndLive.2 ↔ i ∈ m.tracked ∧ .instanceOf i ∈ m.references.aliveValues := by
  simp [deadAndLive, List.partition_eq_filter_filter]

theorem mem_dead {i : Nat} :
    i ∈ m.deadAndLive.1 ↔ i ∈ m.tracked ∧ .instanceOf i ∉ m.references.aliveValues := by
  simp [deadAndLive, List.partition_eq_filter_filter]

theorem mem_tokens {ids : List Nat} {token : Token} (h : token ∈ m.tokens ids) :
    ∃ i ∈ ids, ∃ inst, m.instances[i]? = some inst ∧ inst.token = token := by
  obtain ⟨i, hi, htoken⟩ := List.mem_filterMap.mp h
  obtain ⟨inst, hinst, htoken⟩ := Option.map_eq_some_iff.mp htoken
  exact ⟨i, hi, inst, hinst, htoken⟩

end InMemory.Machine

namespace Owned

variable {start : Ownership} {held held' : List ScriptValue} {w : World HostState Machine}

/-- A move brings nothing within reach and leaves the instances as they are. -/
theorem move (hw : Owned start held w) {m : Machine} (hm : w.vm.Moves held m held')
    (hreleases : m.releases = w.vm.releases) : Owned start held' { w with vm := m } := by
  refine ⟨?_, hw.tame, fun i hi => ?_, ?_⟩
  · have hforged := hw.unforged
    rw [Machine.forged] at hforged ⊢
    rw [hm.scripts, hm.methods]
    exact hforged
  · rw [hm.tracked]
    exact hw.rooted i (hm.reaches i hi)
  · obtain ⟨events, hevents⟩ := hw.evolves
    refine ⟨events, ?_⟩
    rw [World.ownership, hm.instances, hm.tracked, hreleases]
    exact hevents

theorem forgetAll (hw : Owned start held w) : Owned start [] w :=
  hw.move (.forget w.vm fun _ h => by cases h) rfl

theorem note (hw : Owned start held w) {entry : Entry} (hrelease : entry.release? = none) :
    Owned start held { w with vm := Chronicle.note w.vm entry } := by
  refine hw.move ((Machine.windowFrame_moves held).note w.vm entry) ?_
  rw [Machine.releases_note, hrelease]
  exact List.append_nil _

/-- A change of the host that does not touch the objects behind instances. -/
theorem changeHost (hw : Owned start held w) {h : HostState} (hforeign : h.foreign = w.host.foreign)
    (hobjects : h.objects.cells.length = w.host.objects.cells.length)
    (htame : ∀ b ∈ h.bindings, b.Tame) : Owned start held { w with host := h } := by
  refine ⟨hw.unforged, htame, hw.rooted, ?_⟩
  obtain ⟨events, hevents⟩ := hw.evolves
  refine ⟨events, ?_⟩
  rw [World.ownership, hforeign, hobjects]
  exact hevents

/-- A change of the table of objects that may happen next. -/
theorem changeTable (hw : Owned start held w) {table : ForeignRegistry Finalizer}
    {event : Ownership.Event}
    (hstep : w.ownership.Step event { w.ownership with table := table }) :
    Owned start held { w with host := { w.host with foreign := table } } := by
  obtain ⟨events, hevents⟩ := hw.evolves
  exact ⟨hw.unforged, hw.tame, hw.rooted, _, hevents.step hstep⟩

/-- A release and the note it leaves are one step. -/
theorem step_released (w : World HostState Machine) {reply : CallReply} {token : Token}
    {object : ObjectId} (hreply : reply.release? = some token)
    (hobject : w.host.foreign.resolve? token = some object) :
    w.ownership.Step (.released token) (⟨{ w.host with
      foreign := (w.host.foreign.release token).2 }, Chronicle.note w.vm (.raw reply)⟩ :
        World HostState Machine).ownership := by
  have hnoted : (Chronicle.note w.vm (.raw reply)).releases = w.vm.releases ++ [token] := by
    rw [Machine.releases_note, Entry.release?, hreply]
    rfl
  unfold World.ownership
  rw [hnoted]
  exact .released hobject

theorem release (hw : Owned start held w) {reply : CallReply} {token : Token} {object : ObjectId}
    (hreply : reply.release? = some token)
    (hobject : w.host.foreign.resolve? token = some object) :
    Owned start held ⟨{ w.host with foreign := (w.host.foreign.release token).2 },
      Chronicle.note w.vm (.raw reply)⟩ := by
  have hm := (Machine.windowFrame_moves held).note w.vm (.raw reply)
  obtain ⟨events, hevents⟩ := hw.evolves
  exact ⟨hw.unforged, hw.tame, fun i hi => hw.rooted i (hm.reaches i hi), _,
    hevents.step (step_released w hreply hobject)⟩

theorem ownership_registered (w : World HostState Machine) (object : HostObject)
    (finalizer : Option Finalizer) :
    (⟨(w.host.registered object finalizer).2, w.vm⟩ : World HostState Machine).ownership =
      (w.ownership.register finalizer).2 := by
  simp [World.ownership, Ownership.register, HostState.registered, ObjectStore.place]

/-- Registering an object and making an instance for it. -/
theorem ownership_placed (w : World HostState Machine) (object : HostObject)
    (finalizer : Option Finalizer) (info : ClassInfo) :
    (⟨(w.host.registered object finalizer).2,
        (w.vm.newInstance (w.host.registered object finalizer).1 info).2⟩ :
      World HostState Machine).ownership =
      (w.ownership.register finalizer).2.addInstance (w.ownership.register finalizer).1 info := by
  simp [World.ownership, Ownership.register, Ownership.addInstance, HostState.registered,
    ObjectStore.place, Machine.newInstance, Machine.releases]

theorem strand (hw : Owned start held w) (object : HostObject) (finalizer : Option Finalizer) :
    Owned start held { w with host := (w.host.registered object finalizer).2 } := by
  obtain ⟨events, hevents⟩ := hw.evolves
  have hregistered := hevents.step (.stranded finalizer)
  rw [← ownership_registered w object finalizer] at hregistered
  exact ⟨hw.unforged, hw.tame, hw.rooted, _, hregistered⟩

/-- An object is registered and an instance made for it. -/
theorem place (hw : Owned start held w) {object : HostObject} {finalizer : Option Finalizer}
    {m : Machine}
    (hm : Slots.setNewForeign w.vm 0 0 (w.host.registered object finalizer).1 = .ok m) :
    Owned start held ⟨(w.host.registered object finalizer).2, m⟩ := by
  simp only [Slots.setNewForeign] at hm
  split at hm
  · rename_i info _
    cases hm
    obtain ⟨events, hevents⟩ := hw.evolves
    have hplaced := hevents.step (.allocated finalizer info)
    rw [← ownership_placed w object finalizer info] at hplaced
    -- The new instance is held until it is in its slot.
    have hnew : Owned start (.instanceOf w.vm.instances.length :: held)
        ⟨(w.host.registered object finalizer).2,
          (w.vm.newInstance (w.host.registered object finalizer).1 info).2⟩ := by
      refine ⟨hw.unforged, hw.tame, fun i hi => ?_, _, hplaced⟩
      refine List.mem_append.mpr ?_
      rcases Machine.reaches_newInstance _ info hi with hnew | hold
      · exact .inr (List.mem_singleton.mpr hnew)
      · exact .inl (hw.rooted i hold)
    have hset := hnew.move (.setSlot 0 (.of_held (.head _))) rfl
    exact hset.move (.forget _ fun _ hv => List.mem_cons_of_mem _ hv) rfl
  · cases hm

/-- No effect of a callback breaks it. -/
theorem unbroken (start : Ownership) (held : List ScriptValue) :
    Unbroken (fun m m' : Machine => m.Moves held m' held ∧ m.Silent m') (Owned start held) where
  frame := (Machine.windowFrame_moves held).toSlotFrame.and Machine.slotFrame_silent
  window hm hw := hw.move hm.1 hm.2.releases
  note {_ entry} hplain hw := hw.note (entry.release?_of_isPlain hplain)
  host halike hw :=
    hw.changeHost halike.foreign halike.objects fun b hb => hw.tame b (halike.bindings b hb)
  method {w b} index hb hw :=
    hw.changeHost rfl ((hw.tame b hb).length_invoke index w.vm w.host.foreign w.host.objects)
      hw.tame
  release hreply hobject hw := hw.release hreply hobject
  strand object finalizer hw := hw.strand object finalizer
  place hm hw := hw.place hm

/-- What a callback leads to, a panic being the end of whatever was held. -/
theorem leads_callback {α : Type} {run : Run (World HostState Machine) α}
    (h : Leads run w (fun _ => Owned start held) (Owned start held)) :
    Leads run w (fun _ => Owned start held) (Owned start []) :=
  h.mono (fun _ _ hw => hw) fun _ hw => hw.forgetAll

/-- A collection gives up only what is out of reach. -/
theorem sweep (hw : Owned start [] w) :
    Owned start [] { w with vm := { w.vm with tracked := w.vm.deadAndLive.2 } } := by
  refine ⟨hw.unforged, hw.tame, fun i hi => ?_, ?_⟩
  · have hreach : w.vm.Reaches [] (.instanceOf i) := hi
    have halive := References.Reaches.mem_aliveValues hreach
    rw [Machine.holding_nil] at halive
    exact Machine.mem_live.mpr ⟨hw.rooted i hreach, halive⟩
  · obtain ⟨events, hevents⟩ := hw.evolves
    exact ⟨_, hevents.step (.swept fun i hi => (Machine.mem_live.mp hi).1)⟩

/-- A collection of `w` is under way: what it gave up stays given up. -/
structure Collecting (start : Ownership) (w v : World HostState Machine) : Prop where
  owned : Owned start [] v
  instances : v.vm.instances = w.vm.instances
  tracked : v.vm.tracked = w.vm.deadAndLive.2

/-- Finalizing an instance the collection gave up. -/
theorem Collecting.finalize {v : World HostState Machine} (hv : Collecting start w v)
    {token : Token} (htoken : token ∈ w.vm.tokens w.vm.deadAndLive.1) :
    Leads (HostState.finalize token) v (fun _ => Collecting start w) (Collecting start w) := by
  obtain ⟨i, hdead, inst, hinst, rfl⟩ := Machine.mem_tokens htoken
  -- The instance was not alive when the collection began, and has been given up since.
  have hgiven : i ∉ v.vm.tracked := by
    rw [hv.tracked]
    exact fun hlive => (Machine.mem_dead.mp hdead).2 (Machine.mem_live.mp hlive).2
  rw [← hv.instances] at hinst
  refine HostState.leads_finalize inst.token ?_
    ⟨hv.owned.changeTable (.finalized hinst hgiven), hv.instances, hv.tracked⟩
  intro v name object freed hv
  exact ⟨hv.owned.note rfl, hv.instances, hv.tracked⟩

/-- A collection finalizes only what it has given up. -/
theorem collectGarbage (hw : Owned start [] w) :
    Leads (InMemory.collectGarbage : Turn HostState Unit) w (fun _ => Owned start [])
      (Owned start []) := by
  unfold InMemory.collectGarbage
  refine Leads.get_bind ?_
  refine Leads.bind (m := fun _ => Collecting start w) (Leads.modify ⟨hw.sweep, rfl, rfl⟩)
    fun _ v hv => ?_
  have hloop : Leads ((w.vm.tokens w.vm.deadAndLive.1).forM HostState.finalize) v
      (fun _ => Collecting start w) (Collecting start w) :=
    Leads.forM (fun _ htoken _ hv => hv.finalize htoken) hv
  exact hloop.mono (fun _ _ hv => hv.owned) fun _ hv => hv.owned

/-- Nothing a script does breaks it, as long as no instance is forged. -/
theorem invariant (start : Ownership) : Invariant (fun _ => False) (Owned start) where
  scripts hw token htoken := by
    rw [hw.unforged] at htoken
    cases htoken
  move hm hadds hw := hw.move hm hadds.silent.releases
  forge _ hfair _ := hfair.elim
  bindMethod module className isStatic signature hw :=
    leads_callback ((unbroken start _).bindMethod module className isStatic signature hw)
  bindClass module className hw := leads_callback ((unbroken start _).bindClass module className hw)
  invoke id hw := leads_callback ((unbroken start _).invoke id hw)
  allocate id hw := leads_callback ((unbroken start _).allocate id hw)
  write text hw := leads_callback ((unbroken start _).write text hw)
  report event hw :=
    leads_callback (HostState.leads_report event (fun _ _ hw => hw.note rfl)
      (hw.changeHost rfl rfl hw.tame))
  collect hw := hw.collectGarbage

end Owned

end ScriptHost
