/-
What the callbacks of a host can do to it and to the machine that calls.

`Unbroken R keep` lists the effects callbacks have, one by one, and asks that each keeps
`keep`: changes of the window within a frame `R`, changes to parts of the host nobody
watches, notes that concern neither errors nor releases nor finalizations, runs of bound
methods, releases with the notes of them, and the placing of objects.  A property that
survives these survives every callback but reports and finalizations, of which it is said what
they come to:

* **`Unbroken.invoke`**, **`Unbroken.allocate`** — the calls of foreign methods and
  allocators;
* **`Unbroken.bindMethod`**, **`Unbroken.bindClass`** — the requests of declarations;
* **`Unbroken.write`** — output;
* **`HostState.leads_report`** — what a report comes to;
* **`HostState.leads_finalize`**, **`HostState.leads_clearForeign`** — what finalizations
  come to.
-/
import ScriptHost.Proofs.CallEffect
import ScriptHost.HostState

namespace ScriptHost

open Run

namespace HostState

/-- The bindings a host knows: of its classes, and of the targets it handed out. -/
def bindings (h : HostState) : List ForeignBinding :=
  h.classes.map (·.2) ++
    h.methods.filterMap (fun
      | .bound b _ => some b
      | .raw _ => none) ++
    h.allocators.filterMap fun
      | .bound b => some b
      | .raw _ => none

/-- Binding a class changes nothing else. -/
theorem addBinding_eq {h h' : HostState} {module : String} {b : ForeignBinding}
    (hadd : h.addBinding module b = some h') :
    h' = { h with classes := ((module, b.className), b) :: h.classes } := by
  unfold addBinding at hadd
  split at hadd
  · cases hadd
  · exact (Option.some.inj hadd).symm

theorem mem_bindings_addBinding {h h' : HostState} {module : String} {b b' : ForeignBinding}
    (hadd : h.addBinding module b = some h') (hmem : b' ∈ h'.bindings) :
    b' = b ∨ b' ∈ h.bindings := by
  rw [addBinding_eq hadd] at hmem
  simpa [bindings, or_assoc] using hmem

/-- The same table of foreign objects, as many objects, those no longer in the table unchanged,
no new bindings, no handles but the old ones, some of which may have been dropped, and the same
errors and subscribers to errors. -/
structure Alike (h h' : HostState) : Prop where
  foreign : h'.foreign = h.foreign
  objects : h'.objects.cells.length = h.objects.cells.length
  confined : h.foreign.Confines h.objects h'.objects
  bindings : ∀ b ∈ h'.bindings, b ∈ h.bindings
  handles : h.handles.Queued h'.handles
  errors : h'.errors = h.errors
  errorSubscribers : h'.errorSubscribers = h.errorSubscribers

/-- An object placed and registered: its token, and the host afterwards. -/
def registered (h : HostState) (object : HostObject) (finalizer : Option Finalizer) :
    Token × HostState :=
  let (id, objects) := h.objects.place object
  let (token, foreign) := h.foreign.register id finalizer
  (token, { h with objects := objects, foreign := foreign })

end HostState

/-- The token of the instance that host code detached its object from. -/
def Entry.release? : Entry → Option Token
  | .raw reply => reply.release?
  | _ => none

/-- What callbacks other than reports, releases and finalizations put on record. -/
def Entry.isPlain : Entry → Bool
  | .raw reply => reply.release?.isNone
  | .classMethods _ | .onWrite .. => true
  | _ => false

theorem Entry.release?_of_isPlain {entry : Entry} (h : entry.isPlain = true) :
    entry.release? = none := by
  cases entry <;> first | rfl | exact Option.isNone_iff_eq_none.mp h

/-- A property of host and machine that no effect of a callback breaks, reports and
finalizations apart. -/
structure Unbroken {W : Type} [Slots W] [Chronicle W] (R : W → W → Prop)
    (keep : World HostState W → Prop) : Prop where
  frame : SlotFrame R
  window {w : World HostState W} {v : W} :
    R w.vm v → keep w → keep { w with vm := v }
  note {w : World HostState W} {entry : Entry} :
    entry.isPlain = true → keep w → keep { w with vm := Chronicle.note w.vm entry }
  host {w : World HostState W} {h : HostState} :
    w.host.Alike h → keep w → keep { w with host := h }
  method {w : World HostState W} {b : ForeignBinding} (index : Nat) :
    b ∈ w.host.bindings → keep w →
    keep { w with host := { w.host with
      objects := (b.invoke index w.vm w.host.foreign w.host.objects).2 } }
  release {w : World HostState W} {reply : CallReply} {token : Token} {object : ObjectId} :
    reply.release? = some token → w.host.foreign.resolve? token = some object → keep w →
    keep ⟨{ w.host with foreign := (w.host.foreign.release token).2 },
      Chronicle.note w.vm (.raw reply)⟩
  strand {w : World HostState W} (object : HostObject) (finalizer : Option Finalizer) :
    keep w → keep { w with host := (w.host.registered object finalizer).2 }
  place {w : World HostState W} {object : HostObject} {finalizer : Option Finalizer} {v : W} :
    Slots.setNewForeign w.vm 0 0 (w.host.registered object finalizer).1 = .ok v →
    keep w → keep ⟨(w.host.registered object finalizer).2, v⟩

namespace HostState

variable {W : Type} [Slots W] [Chronicle W] {keep : World HostState W → Prop}
  {world : World HostState W}

omit [Slots W] in
/-- Telling one subscriber after the other. -/
theorem leads_tellAll (subscribers : List Subscriber) (entry : Subscriber → Entry)
    (hnote : ∀ s world, keep world → keep { world with vm := Chronicle.note world.vm (entry s) })
    (hw : keep world) :
    Leads (subscribers.forM fun s => tell s (entry s)) world (fun _ => keep) keep := by
  refine Leads.forM (fun s _ world' hw' => ?_) hw
  unfold tell
  refine Leads.bind (m := fun _ => keep) (Leads.modify (hnote s _ hw')) fun _ world'' hw'' => ?_
  split
  · exact Leads.throw hw''
  · exact hw''

omit [Slots W] in
/-- A report is taken in, and the subscribers leave notes. -/
theorem leads_report (event : StackFrame)
    (hnote : ∀ label world, keep world →
      keep { world with vm := Chronicle.note world.vm (.onError label event) })
    (hw : keep { world with host :=
      { world.host with errors := world.host.errors.report event } }) :
    Leads (report event) world (fun _ => keep) keep := by
  unfold report
  refine Leads.bind (m := fun _ => keep) (Leads.modify hw) fun _ world' hw' => ?_
  exact Leads.get_bind (leads_tellAll _ _ (fun s => hnote s.label) hw')

omit [Slots W] in
/-- Running a finalizer leaves notes, and does what its asking for another finalization leads
to. -/
theorem leads_runFinalization {reenter : Token → Run (World HostState W) Unit}
    (due : Finalization Finalizer)
    (hnote : ∀ world name object freed, keep world →
      keep { world with vm := Chronicle.note world.vm (.finalized name object freed) })
    (hreenter : ∀ token world, keep world → Leads (reenter token) world (fun _ => keep) keep)
    (hw : keep world) :
    Leads (runFinalization reenter due) world (fun _ => keep) keep := by
  unfold runFinalization
  refine Leads.get_bind ?_
  have hpanic : ∀ world', keep world' →
      Leads (if due.finalizer.panics then throw (.message "finalizer") else pure () :
        Run (World HostState W) Unit) world' (fun _ => keep) keep := by
    intro world' hw'
    split
    · exact Leads.throw hw'
    · exact hw'
  cases due.finalizer.reenter with
  | none =>
    cases world.host.objects.get? due.object with
    | none => exact hpanic world hw
    | some object =>
      exact Leads.bind (m := fun _ => keep) (Leads.modify (hnote _ _ _ _ hw)) fun _ => hpanic
  | some token =>
    have hreentered : ∀ world', keep world' →
        Leads (do
          reenter token
          if due.finalizer.panics then throw (.message "finalizer")) world' (fun _ => keep) keep :=
      fun world' hw' => Leads.bind (m := fun _ => keep) (hreenter token world' hw') fun _ => hpanic
    cases world.host.objects.get? due.object with
    | none => exact hreentered world hw
    | some object =>
      exact Leads.bind (m := fun _ => keep) (Leads.modify (hnote _ _ _ _ hw)) fun _ => hreentered

omit [Slots W] in
/-- A finalization takes the entry out of the table and leaves notes. -/
theorem leads_finalize (token : Token)
    (hnote : ∀ world name object freed, keep world →
      keep { world with vm := Chronicle.note world.vm (.finalized name object freed) })
    (hw : keep { world with host := { world.host with
      foreign := (world.host.foreign.finalize token).2 } }) :
    Leads (finalize token) world (fun _ => keep) keep := by
  unfold finalize
  refine Leads.bind (m := fun _ => keep) (Leads.modifyGet hw) fun due world' hw' => ?_
  exact Leads.forM (fun f _ world'' hw'' =>
    leads_runFinalization f hnote (fun _ _ hw => hw) hw'') hw'

omit [Slots W] in
/-- Clearing empties the table; the finalizers that run find it empty. -/
theorem leads_clearForeign
    (hnote : ∀ world name object freed, keep world →
      keep { world with vm := Chronicle.note world.vm (.finalized name object freed) })
    (hfinalize : ∀ world token, keep world →
      keep { world with host := { world.host with
        foreign := (world.host.foreign.finalize token).2 } })
    (hw : keep { world with host := { world.host with foreign := .empty } }) :
    Leads clearForeign world (fun _ => keep) keep := by
  unfold clearForeign
  refine Leads.bind (m := fun _ => keep) (Leads.modifyGet hw) fun due v hv => ?_
  exact Leads.forM (fun f _ v hv => leads_runFinalization f hnote
    (fun token v hv => leads_finalize token hnote (hfinalize v token hv)) hv) hv

end HostState

namespace Unbroken

variable {W : Type} [Slots W] [Chronicle W] {R : W → W → Prop}
  {keep : World HostState W → Prop} {world : World HostState W}

theorem notePlain (hu : Unbroken R keep) {entry : Entry} (hentry : entry.isPlain = true)
    (hw : keep world) : Leads (World.note entry) world (fun _ => keep) keep :=
  Leads.modify (hu.note hentry hw)

/-- A new target for what is known already keeps the host alike. -/
theorem alike_addMethod (h : HostState) (target : MethodTarget)
    (htarget : ∀ b index, target = .bound b index → b ∈ h.bindings) :
    h.Alike (h.addMethod target).2 := by
  refine ⟨rfl, rfl, .refl _ _, ?_, .refl _, rfl, rfl⟩
  intro b hb
  simp only [HostState.addMethod, HostState.bindings, List.filterMap_append, List.mem_append,
    List.mem_filterMap, List.mem_singleton] at hb htarget ⊢
  rcases hb with (hb | hb | ⟨t, rfl, ht⟩) | hb
  · exact .inl (.inl hb)
  · exact .inl (.inr hb)
  · cases t with
    | raw program => cases ht
    | bound b' index =>
      cases ht
      exact htarget b index rfl
  · exact .inr hb

theorem alike_addAllocator (h : HostState) (target : ClassTarget)
    (htarget : ∀ b, target = .bound b → b ∈ h.bindings) :
    h.Alike (h.addAllocator target).2 := by
  refine ⟨rfl, rfl, .refl _ _, ?_, .refl _, rfl, rfl⟩
  intro b hb
  simp only [HostState.addAllocator, HostState.bindings, List.filterMap_append, List.mem_append,
    List.mem_filterMap, List.mem_singleton] at hb htarget ⊢
  rcases hb with hb | hb | ⟨t, rfl, ht⟩
  · exact .inl hb
  · exact .inr hb
  · cases t with
    | raw methods => cases ht
    | bound b' =>
      cases ht
      exact htarget b rfl

theorem mem_bindings_of_binding? {h : HostState} {module className : String}
    {b : ForeignBinding} (hb : h.binding? module className = some b) : b ∈ h.bindings := by
  obtain ⟨before, after, hclasses, -⟩ := List.lookup_eq_some_iff.mp hb
  simp [HostState.bindings, hclasses]

theorem runMember_apply (allocating : Bool) (program : List CallAction)
    (world : World HostState W) :
    HostState.runMember allocating program world =
      match runActions program (HostState.callState world allocating) with
      | (outcome, s) => (outcome.map fun _ => s.context.aborted, HostState.afterCall world s) := rfl

/-- Of the host a member leaves what its call leaves. -/
theorem leads_runMember {allocating : Bool} {program : List CallAction}
    (h : Leads (runActions program) (HostState.callState world allocating)
      (fun _ s => keep (HostState.afterCall world s))
      fun s => keep (HostState.afterCall world s)) :
    Leads (HostState.runMember allocating program) world (fun _ => keep) keep := by
  unfold Leads
  rw [runMember_apply]
  rcases hout : runActions program (HostState.callState world allocating) with ⟨_ | _, s⟩
  · exact h.of_error hout
  · exact h.of_ok hout

/-- A hand-written member. -/
theorem runMember (hu : Unbroken R keep) (allocating : Bool) (program : List CallAction)
    (hw : keep world) :
    Leads (HostState.runMember allocating program) world (fun _ => keep) keep := by
  refine leads_runMember (Leads.runActions hu.frame (P := fun s =>
    keep (HostState.afterCall world s)) (fun s s' reply heffect hs => ?_) program
    (HostState.callState world allocating) hw)
  have hwindow := hu.window (v := s'.context.window) heffect.window hs
  -- The table and the record first, then the parts of the host that nobody watches.
  have hforeign : keep ⟨{ (HostState.afterCall world s).host with foreign := s'.context.foreign },
      (s'.noted reply).context.window⟩ := by
    rcases heffect.foreign with ⟨hreply, hsame⟩ | ⟨token, object, hreply, hobject, hreleased⟩
    · rw [hsame]
      exact hu.note (by rw [Entry.isPlain, hreply]; rfl) hwindow
    · rw [hreleased]
      exact hu.release hreply hobject hwindow
  have halike : HostState.Alike
      { (HostState.afterCall world s).host with foreign := s'.context.foreign }
      (HostState.afterCall world s').host :=
    ⟨rfl, heffect.objects, heffect.confined, fun _ hb => hb, heffect.handles, rfl, rfl⟩
  exact hu.host halike hforeign

/-- Placing an object behind a new instance. -/
theorem placeForeign (hu : Unbroken R keep) (object : HostObject) (finalizer : Option Finalizer)
    (hw : keep world) :
    Leads (HostState.placeForeign object finalizer) world (fun _ => keep) keep := by
  unfold HostState.placeForeign
  refine Leads.bind (m := fun token world' =>
    token = (world.host.registered object finalizer).1 ∧
      world' = { world with host := (world.host.registered object finalizer).2 }) ⟨rfl, rfl⟩ ?_
  rintro _ _ ⟨rfl, rfl⟩
  -- The object is registered first, so it is stranded if the machine panics.
  refine Leads.onVm? (fun _ vm hvm => ?_) fun _ _ => hu.strand object finalizer hw
  cases hnew : Slots.setNewForeign world.vm 0 0 (world.host.registered object finalizer).1 with
  | error p =>
    rw [hnew] at hvm
    cases hvm
  | ok vm' =>
    rw [hnew] at hvm
    cases hvm
    exact hu.place hnew hw

theorem bindMethod (hu : Unbroken R keep) (module className : String) (isStatic : Bool)
    (signature : String) (hw : keep world) :
    Leads (HostState.bindMethod module className isStatic signature) world (fun _ => keep)
      keep := by
  have hadd : ∀ target, (∀ b index, target = .bound b index → b ∈ world.host.bindings) →
      Leads (some <$> HostState.onHost' (·.addMethod target)) world (fun _ => keep) keep :=
    fun target htarget => Leads.map (hu.host (alike_addMethod world.host target htarget) hw)
  unfold HostState.bindMethod
  refine Leads.get_bind ?_
  dsimp only
  cases htarget : world.host.boundMethod? module className isStatic signature with
  | some target =>
    refine hadd target ?_
    rintro b index rfl
    simp only [HostState.boundMethod?, Option.bind_eq_bind, Option.bind_eq_some_iff] at htarget
    obtain ⟨b', hb', index', -, hbound⟩ := htarget
    cases hbound
    exact mem_bindings_of_binding? hb'
  | none =>
    cases world.host.methodBinder with
    | none => exact hw
    | some binder =>
      dsimp only
      split
      · exact hw
      · exact hw
      · exact hadd _ (by rintro b index ⟨⟩)

theorem bindClass (hu : Unbroken R keep) (module className : String) (hw : keep world) :
    Leads (HostState.bindClass module className) world (fun _ => keep) keep := by
  have hadd : ∀ target world', keep world' →
      (∀ b, target = .bound b → b ∈ world'.host.bindings) →
      Leads (some <$> HostState.onHost' (·.addAllocator target)) world' (fun _ => keep) keep :=
    fun target world' hw' htarget =>
      Leads.map (hu.host (alike_addAllocator world'.host target htarget) hw')
  unfold HostState.bindClass
  refine Leads.get_bind ?_
  dsimp only
  cases hb : world.host.binding? module className with
  | some b =>
    refine hadd _ world hw ?_
    rintro b' ⟨⟩
    exact mem_bindings_of_binding? hb
  | none =>
    cases world.host.classBinder with
    | none => exact hw
    | some binder =>
      dsimp only
      split
      · exact hw
      · exact hw
      · rename_i methods _
        have hlast : ∀ world', keep world' →
            Leads (some <$> HostState.onHost' (·.addAllocator (.raw methods))) world'
              (fun _ => keep) keep :=
          fun world' hw' => hadd _ world' hw' (by rintro b' ⟨⟩)
        refine Leads.bind (m := fun _ => keep) (hu.notePlain rfl hw) fun _ world' hw' => ?_
        split
        · exact Leads.bind (m := fun _ => keep) (hu.notePlain rfl hw') fun _ => hlast
        · exact hlast world' hw'

/-- A call of a foreign method. -/
theorem invoke (hu : Unbroken R keep) (id : Nat) (hw : keep world) :
    Leads (HostState.invoke id) world (fun _ => keep) keep := by
  unfold HostState.invoke
  refine Leads.get_bind ?_
  cases htarget : world.host.methods[id]? with
  | none => exact hw
  | some target =>
    cases target with
    | raw program => exact Leads.map (hu.runMember false program hw)
    | bound b index =>
      have hb : b ∈ world.host.bindings := by
        have := List.mem_of_getElem? htarget
        simp only [HostState.bindings, List.mem_append, List.mem_filterMap]
        exact .inl (.inr ⟨_, this, rfl⟩)
      have hwindow := hu.frame.invoke b index world.vm world.host.foreign world.host.objects
      exact Leads.set (hu.window (w := { world with host := _ }) hwindow (hu.method index hb hw))

/-- A call of an allocator. -/
theorem allocate (hu : Unbroken R keep) (id : Nat) (hw : keep world) :
    Leads (HostState.allocate id) world (fun _ => keep) keep := by
  unfold HostState.allocate
  refine Leads.get_bind ?_
  cases world.host.allocators[id]? with
  | none => exact hw
  | some target =>
    cases target with
    | bound b =>
      have hframe := hu.frame.allocate b world.vm
      dsimp only
      generalize b.allocate world.vm = made at hframe ⊢
      obtain ⟨object, vm⟩ := made
      refine Leads.bind (m := fun _ => keep) (Leads.set (hu.window hframe hw))
        fun _ world' hw' => ?_
      cases object with
      | none => exact hw'
      | some object => exact hu.placeForeign object none hw'
    | raw methods =>
      refine Leads.bind (m := fun _ => keep) (hu.runMember true methods.program hw)
        fun aborted world' hw' => ?_
      cases methods.object with
      | none => exact hw'
      | some object =>
        -- An allocator that aborted places nothing.
        cases aborted with
        | true => exact hw'
        | false => exact hu.placeForeign object methods.finalizer hw'

theorem write (hu : Unbroken R keep) (text : String) (hw : keep world) :
    Leads (HostState.write text) world (fun _ => keep) keep := by
  unfold HostState.write
  refine Leads.bind (m := fun _ => keep) (Leads.modify (hu.host ?_ hw)) fun _ world' hw' => ?_
  · dsimp only
    split <;> exact ⟨rfl, rfl, .refl _ _, fun _ hb => hb, .refl _, rfl, rfl⟩
  · exact Leads.get_bind (HostState.leads_tellAll _ _ (fun _ _ => hu.note rfl) hw')

end Unbroken

end ScriptHost
