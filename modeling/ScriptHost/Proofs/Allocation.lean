/-
What comes of an allocation.

An allocator is entered with the class in slot 0 and answers with an object, which then is put
behind a new instance of whatever slot 0 holds.  Its body comes to a `Draft`: the object, if there
is one, the finalizer that goes with it, and the text of the last abort, if there was any.  Since
inside an allocator slot 0 can be written by aborting only, the class is still there when an
object is to be placed:

* **`HostState.allocate_apply`** — an allocation is its body, and the placing of the object if
  there is one and the body did not abort;
* **`CallAction.serves_run`** — slot 0 holds the class until an abort, and then its text;
* **`HostState.placed_placeForeign`** — what placing an object comes to;
* **`VirtualMachine.allocates_during`** — the three ways an allocation ends, in the midst of
  every run of every life.
-/
import ScriptHost.Proofs.HostInvariant
import ScriptHost.Proofs.Ownership
import ScriptHost.Proofs.SlotWrites

namespace ScriptHost

open InMemory Run

/-! ### Aborts -/

/-- The text an action aborts with. -/
def CallAction.abortText? : CallAction → Option String
  | .abort message => some message
  | _ => none

theorem CallAction.eq_abort_of_abortText? {action : CallAction} {message : String}
    (h : action.abortText? = some message) : action = .abort message := by
  cases action <;> cases h
  rfl

theorem CallAction.abortText?_eq_none {action : CallAction}
    (h : ∀ message, action ≠ .abort message) : action.abortText? = none := by
  cases haction : action.abortText? with
  | none => rfl
  | some message => exact absurd (CallAction.eq_abort_of_abortText? haction) (h message)

/-- The text of the last abort among some actions. -/
def lastAbort? (actions : List CallAction) : Option String :=
  (actions.filterMap CallAction.abortText?).getLast?

theorem lastAbort?_cons (action : CallAction) (actions : List CallAction) :
    lastAbort? (action :: actions) = (lastAbort? actions).or action.abortText? := by
  unfold lastAbort?
  rw [List.filterMap_cons]
  cases action.abortText? with
  | none => simp
  | some text =>
    rw [List.getLast?_cons]
    cases (actions.filterMap CallAction.abortText?).getLast? <;> rfl

theorem lastAbort?_eq_none {actions : List CallAction} :
    lastAbort? actions = none ↔ ∀ action ∈ actions, action.abortText? = none := by
  rw [lastAbort?, List.getLast?_eq_none_iff, List.filterMap_eq_nil_iff]

/-- What every action keeps, given the text of the last abort so far, a whole member keeps; if it
panics, only some of its actions were carried out. -/
theorem Run.Leads.runActions_aborting {F W : Type} [Slots W] [Chronicle W]
    {P : Option String → CallState F W → Prop}
    (hact : ∀ text s s' action reply, P text s → CallAction.run s action = .ok (reply, s') →
      P (action.abortText?.or text) (s'.noted reply))
    (actions : List CallAction) :
    ∀ text s, P text s → Leads (ScriptHost.runActions actions) s
      (fun _ => P ((lastAbort? actions).or text))
      fun s' => ∃ done, done <+: actions ∧ P ((lastAbort? done).or text) s' := by
  -- The text so far is generalised over: a later abort takes its place.
  induction actions with
  | nil => exact fun text s hs => hs
  | cons action actions ih =>
    intro text s hs
    unfold ScriptHost.runActions
    refine get_bind ?_
    cases hrun : action.run s with
    | error p => exact throw ⟨[], List.nil_prefix, hs⟩
    | ok answer =>
      obtain ⟨reply, s'⟩ := answer
      have hacted := hact text s s' action reply hs hrun
      refine bind (m := fun _ => P (action.abortText?.or text)) (set hacted) fun _ s'' hs'' => ?_
      rw [lastAbort?_cons, Option.or_assoc]
      refine (ih _ s'' hs'').mono (fun _ _ h => h) ?_
      rintro s' ⟨done, hdone, hkept⟩
      refine ⟨action :: done, List.cons_prefix_cons.mpr ⟨rfl, hdone⟩, ?_⟩
      rw [lastAbort?_cons, Option.or_assoc]
      exact hkept

/-! ### The table of objects -/

namespace ForeignRegistry

/-- A table that was used from empty. -/
def Used (r : ForeignRegistry Finalizer) : Prop :=
  ∃ actions, r.heap = ObjectHeap.empty.after actions

variable {r : ForeignRegistry Finalizer}

theorem used_empty : (empty : ForeignRegistry Finalizer).Used :=
  ⟨[], rfl⟩

theorem Used.step {r' : ForeignRegistry Finalizer} (h : r.Used)
    (action : HeapAction (ForeignEntry Finalizer)) (hheap : r'.heap = r.heap.step action) :
    r'.Used := by
  obtain ⟨actions, hactions⟩ := h
  refine ⟨actions ++ [action], ?_⟩
  rw [ObjectHeap.after_append, ← hactions]
  exact hheap

theorem Used.register (h : r.Used) (object : ObjectId) (finalizer : Option Finalizer) :
    (r.register object finalizer).2.Used :=
  h.step (.insert ⟨object, finalizer⟩) rfl

theorem Used.release (h : r.Used) (token : Token) : (r.release token).2.Used :=
  h.step (.remove token) rfl

theorem Used.releases (h : r.Used) (tokens : List Token) :
    (tokens.foldl (fun r token => (r.release token).2) r).Used := by
  induction tokens generalizing r with
  | nil => exact h
  | cons token tokens ih => exact ih (h.release token)

theorem Used.finalize (h : r.Used) (token : Token) : (r.finalize token).2.Used :=
  h.step (.remove token) (r.heap_finalize token)

/-- As long as 32 bits number the places, a new entry gets a token that meant nothing before, and
the other tokens go on to mean what they meant. -/
theorem Used.get?_register (h : r.Used) (object : ObjectId) (finalizer : Option Finalizer)
    (hfit : (r.register object finalizer).2.heap.slots.length ≤ UInt32.size) :
    r.heap.get? (r.register object finalizer).1 = none ∧
      ∀ t, (r.register object finalizer).2.heap.get? t =
        if t = (r.register object finalizer).1 then some ⟨object, finalizer⟩
        else r.heap.get? t := by
  obtain ⟨actions, hactions⟩ := h
  -- The table only grows, so if it is small enough with the new entry it was so all along.
  have hsound := ObjectHeap.sound_after actions
    (hactions ▸ Nat.le_trans (ObjectHeap.length_le_after r.heap [.insert ⟨object, finalizer⟩]) hfit)
  rw [← hactions] at hsound
  refine ⟨ObjectHeap.get?_eq_none_of_entryAt ?_, hsound.get?_insert ⟨object, finalizer⟩ hfit⟩
  show r.heap.entryAt (r.heap.insert ⟨object, finalizer⟩).1.place = none
  rw [hsound.insert_place ⟨object, finalizer⟩ hfit]
  exact hsound.nextPlace_free.1

end ForeignRegistry

/-! ### The body of an allocator -/

section

variable {F : Type} {s s' : CallState F Machine} {action : CallAction} {reply : CallReply}

/-- What an action other than an abort does to the window and to the marks of the call: it writes
one slot at most, and not slot 0 inside an allocator. -/
structure CallState.Calm (s s' : CallState F Machine) : Prop where
  aborted : s'.context.aborted = s.context.aborted
  allocating : s'.context.allocating = s.context.allocating
  window : s'.context.window = s.context.window ∨
    ∃ slot, ¬(s.context.allocating = true ∧ slot = 0) ∧
      s.context.window.Writes s'.context.window slot

namespace CallAction

/-- A write, carried out or refused. -/
theorem calm_written (s : CallState F Machine) (slot : Nat)
    (write : Machine → Except HostError Machine)
    (hwrite : ∀ m, write s.context.window = .ok m → s.context.window.Writes m slot) :
    s.Calm (written s (s.context.setWith slot write)).2 := by
  unfold CallContext.setWith CallContext.checkWritable
  by_cases hrefused : s.context.allocating = true ∧ slot = 0
  · rw [if_pos hrefused]
    exact ⟨rfl, rfl, .inl rfl⟩
  · rw [if_neg hrefused]
    cases hwritten : write s.context.window with
    | error e =>
      simp only [bind, Except.bind, pure, Except.pure]
      exact ⟨rfl, rfl, .inl rfl⟩
    | ok m =>
      simp only [bind, Except.bind, pure, Except.pure]
      exact ⟨rfl, rfl, .inr ⟨slot, hrefused, hwrite m hwritten⟩⟩

theorem calm_run (hrun : action.run s = .ok (reply, s')) (hquiet : action.abortText? = none) :
    s.Calm s' := by
  cases action <;> simp only [run, pure, Except.pure, Except.ok.injEq] at hrun
  case panic cause => cases hrun
  case abort message => cases hquiet
  all_goals obtain rfl : _ = s' := congrArg Prod.snd hrun
  -- The writers are checked for slot 0, and all else leaves the window alone.
  case set slot payload => exact calm_written s slot _ fun _ => writePayload_eq_ok
  case setReturn payload => exact calm_written s 0 _ fun _ => writePayload_eq_ok
  case setValue slot value => exact calm_written s slot _ fun _ => writeOwnedValue_eq_ok
  case sum =>
    unfold CallContext.setReturn CallContext.set
    exact calm_written s 0 _ fun _ => writes_of_writeChecked
  case withInt slot amount =>
    rw [withForeign_eq]
    exact ⟨rfl, rfl, .inl rfl⟩
  case withText slot suffix =>
    rw [withForeign_eq]
    exact ⟨rfl, rfl, .inl rfl⟩
  case withNested slot inner =>
    rw [withForeign_eq]
    exact ⟨rfl, rfl, .inl rfl⟩
  case releaseForeign slot =>
    unfold CallContext.releaseForeign
    cases s.context.token? slot <;> exact ⟨rfl, rfl, .inl rfl⟩
  all_goals exact ⟨rfl, rfl, .inl rfl⟩

end CallAction

/-- The state of an allocator entered with `cls` in slot 0 on a fiber with the fault `fault`, given
the text of its last abort. -/
structure CallState.Serves (cls : ScriptValue) (fault : Option ScriptValue) (text : Option String)
    (s : CallState F Machine) : Prop where
  allocating : s.context.allocating = true
  aborted : s.context.aborted = text.isSome
  slot : s.context.window.slots[0]? = some ((text.map InMemory.text).getD cls)
  fault : s.context.window.aborted = (text.map InMemory.text).or fault

variable {cls : ScriptValue} {fault : Option ScriptValue} {text : Option String}

/-- Aborting in a window with slots puts the text into slot 0. -/
theorem abortWith_of_slot {m : Machine} {v : ScriptValue} (h : m.slots[0]? = some v)
    (message : String) :
    Slots.abortWith m message =
      { m with
        slots := m.slots.set 0 (InMemory.text message)
        aborted := some (InMemory.text message) } := by
  have hslot : 0 < m.slots.length := (List.getElem?_eq_some_iff.mp h).1
  have hcount : ¬Slots.count m = 0 := Nat.ne_of_gt hslot
  have hset : Slots.setText m 0 message =
      { m with slots := m.slots.set 0 (InMemory.text message) } :=
    m.setSlot_of_lt (InMemory.text message) hslot
  -- The abort reads back the text just put there.
  have hread : ({ m with slots := m.slots.set 0 (InMemory.text message) } : Machine).slot 0 =
      InMemory.text message := by
    simp [Machine.slot, hslot]
  unfold Slots.abortWith
  simp only [hcount, ↓reduceIte, hset]
  show ({ m with
    slots := m.slots.set 0 (InMemory.text message)
    aborted := some
      (({ m with slots := m.slots.set 0 (InMemory.text message) } : Machine).slot 0) } :
      Machine) = _
  rw [hread]

/-- Slot 0 holds the class until the allocator aborts, and from then on the text of its last
abort. -/
theorem CallAction.serves_run (hs : s.Serves cls fault text)
    (hrun : action.run s = .ok (reply, s')) : s'.Serves cls fault (action.abortText?.or text) := by
  cases hquiet : action.abortText? with
  | none =>
    have hcalm := CallAction.calm_run hrun hquiet
    refine ⟨hcalm.allocating.trans hs.allocating, hcalm.aborted.trans hs.aborted, ?_, ?_⟩
    · rcases hcalm.window with hsame | ⟨slot, hslot, hwithin, v, hwritten⟩
      · rw [hsame]
        exact hs.slot
      · -- Inside an allocator the slot written is another one.
        have hne : slot ≠ 0 := fun h0 => hslot ⟨hs.allocating, h0⟩
        rw [hwritten, List.getElem?_set_ne hne]
        exact hs.slot
    · rcases hcalm.window with hsame | ⟨slot, hslot, hwithin, v, hwritten⟩
      · rw [hsame]
        exact hs.fault
      · rw [hwritten]
        exact hs.fault
  | some message =>
    obtain rfl := CallAction.eq_abort_of_abortText? hquiet
    cases hrun
    have habort := abortWith_of_slot hs.slot message
    have hslot : 0 < s.context.window.slots.length := (List.getElem?_eq_some_iff.mp hs.slot).1
    refine ⟨hs.allocating, rfl, ?_, ?_⟩
    · show (Slots.abortWith s.context.window message).slots[0]? = _
      rw [habort]
      exact List.getElem?_set_self hslot
    · show (Slots.abortWith s.context.window message).aborted = _
      rw [habort]
      rfl

theorem leads_serves (hs : s.Serves cls fault text) (program : List CallAction) :
    Leads (runActions program) s
      (fun _ => CallState.Serves cls fault ((lastAbort? program).or text))
      fun s' => ∃ done, done <+: program ∧ s'.Serves cls fault ((lastAbort? done).or text) :=
  Leads.runActions_aborting (P := fun text s => s.Serves cls fault text)
    (fun _ _ _ _ _ hs hrun =>
      have hserves := CallAction.serves_run hs hrun
      ⟨hserves.allocating, hserves.aborted, hserves.slot, hserves.fault⟩) program text s hs

end

/-- What the body of an allocator comes to: the object it answers with, the finalizer that goes
with it, and the text of its last abort. -/
structure Draft where
  object : Option HostObject
  finalizer : Option Finalizer
  abort : Option String

namespace HostState

/-- Runs the body of an allocator and places nothing. -/
def draft (target : ClassTarget) : Run (World HostState Machine) Draft := fun w =>
  match target with
  | .bound b =>
    match b.chooseConstructor w.vm with
    | none => (.ok ⟨none, none, none⟩, w)
    | some (c, args) =>
      match c.construct args with
      | .ok object => (.ok ⟨some object, none, none⟩, w)
      | .error e => (.ok ⟨none, none, some e.message⟩,
          { w with vm := Slots.abortWith w.vm e.message })
  | .raw c =>
    let (outcome, s) := runActions c.program (callState w true)
    (outcome.map fun _ => ⟨c.object, c.finalizer, lastAbort? c.program⟩, afterCall w s)

/-- Places the object of a draft, unless the body aborted. -/
def place (d : Draft) : Run (World HostState Machine) Unit :=
  match d.abort, d.object with
  | none, some object => placeForeign object d.finalizer
  | _, _ => pure ()

variable {w : World HostState Machine} {info : ClassInfo} {args : List ScriptValue}

/-- The class stands in slot 0 when an allocator is entered. -/
theorem serves_callState (hslots : w.vm.slots = .classOf info :: args) :
    (callState w true).Serves (.classOf info) w.vm.aborted none :=
  ⟨rfl, rfl, by simp [callState, hslots], rfl⟩

/-- An allocation is its body, and then the placing of what that answers with. -/
theorem allocate_apply (hslots : w.vm.slots = .classOf info :: args) {id : Nat}
    {target : ClassTarget} (htarget : w.host.allocators[id]? = some target) :
    allocate id w = (draft target >>= place) w := by
  unfold allocate
  rw [Run.get_bind_apply, htarget]
  rw [Run.bind_apply]
  cases target with
  | bound b =>
    -- A constructor that fails aborts and has no object, so there is nothing to place.
    simp only [draft, ForeignBinding.allocate]
    cases b.chooseConstructor w.vm with
    | none => rfl
    | some fit =>
      obtain ⟨c, args⟩ := fit
      dsimp only
      cases c.construct args <;> rfl
  | raw c =>
    -- A hand-written body may abort and answer with an object; its mark of the call decides.
    simp only [draft]
    rw [Run.bind_apply, Unbroken.runMember_apply]
    rcases hrun : runActions c.program (callState w true) with ⟨p | _, s⟩
    · rfl
    · have hserves := (leads_serves (serves_callState hslots) c.program).of_ok hrun
      have haborted := hserves.aborted
      rw [Option.or_none] at haborted
      simp only [Except.map, place, haborted]
      cases lastAbort? c.program <;> cases c.object <;> rfl

/-- Between the two no instance was made, and no entry was added to the table of objects; some may
have been released. -/
structure Spends (w v : World HostState Machine) : Prop where
  instances : v.vm.instances = w.vm.instances
  foreign : ∃ tokens : List Token,
    v.host.foreign = tokens.foldl (fun r token => (r.release token).2) w.host.foreign

theorem Spends.of_same {v : World HostState Machine} (hinstances : v.vm.instances = w.vm.instances)
    (hforeign : v.host.foreign = w.host.foreign) : Spends w v :=
  ⟨hinstances, [], hforeign⟩

theorem slotFrame_instances : SlotFrame fun m m' : Machine => m'.instances = m.instances :=
  Machine.slotFrame_window.mono (fun _ _ h => by rw [h]) fun h h' => h'.trans h

/-- A hand-written body releases objects at most. -/
theorem spends_runActions (w : World HostState Machine) (program : List CallAction) :
    Leads (runActions program) (callState w true) (fun _ s => Spends w (afterCall w s))
      fun s => Spends w (afterCall w s) := by
  refine Leads.runActions slotFrame_instances (P := fun s => Spends w (afterCall w s))
    (fun s s' _ heffect hs => ?_) program _ (.of_same rfl rfl)
  obtain ⟨tokens, htokens⟩ := hs.foreign
  have hinstances := heffect.window.trans hs.instances
  rcases heffect.foreign with ⟨-, hsame⟩ | ⟨token, -, -, -, hreleased⟩
  · exact ⟨hinstances, tokens, hsame.trans htokens⟩
  · refine ⟨hinstances, tokens ++ [token], ?_⟩
    rw [List.foldl_append]
    exact hreleased.trans (congrArg (fun r => (r.release token).2) htokens)

/-- What the body of an allocator leaves behind: slot 0 holds the class, or the text of the last
abort, which then is the fault of the fiber. -/
structure Drafted (w : World HostState Machine) (info : ClassInfo) (d : Draft)
    (v : World HostState Machine) : Prop extends Spends w v where
  slot : v.vm.slots[0]? = some ((d.abort.map InMemory.text).getD (.classOf info))
  fault : v.vm.aborted = (d.abort.map InMemory.text).or w.vm.aborted

theorem leads_draft (hslots : w.vm.slots = .classOf info :: args) (target : ClassTarget) :
    Leads (draft target) w (Drafted w info) (Spends w) := by
  have hclass : w.vm.slots[0]? = some (.classOf info) := by rw [hslots]; rfl
  unfold draft
  cases target with
  | bound b =>
    unfold Leads
    dsimp only
    cases b.chooseConstructor w.vm with
    | none => exact ⟨.of_same rfl rfl, hclass, rfl⟩
    | some fit =>
      obtain ⟨c, arguments⟩ := fit
      dsimp only
      cases c.construct arguments with
      | ok object => exact ⟨.of_same rfl rfl, hclass, rfl⟩
      | error e =>
        -- A constructor that fails aborts, and puts its text where the class stood.
        have habort := abortWith_of_slot hclass e.message
        refine ⟨.of_same (slotFrame_instances.abortWith _ _) rfl, ?_, ?_⟩
        · dsimp only
          rw [habort, hslots]
          rfl
        · dsimp only
          rw [habort]
          rfl
  | raw c =>
    have hspends := spends_runActions w c.program
    unfold Leads
    dsimp only
    rcases hrun : runActions c.program (callState w true) with ⟨p | _, s⟩
    · exact hspends.of_error hrun
    · have hserves := (leads_serves (serves_callState hslots) c.program).of_ok hrun
      have hslot := hserves.slot
      have hfault := hserves.fault
      rw [Option.or_none] at hslot hfault
      exact ⟨hspends.of_ok hrun, hslot, hfault⟩

/-- An object was put behind a new instance of a class, which stands in slot 0. -/
structure Placed (v v' : World HostState Machine) (info : ClassInfo) (object : HostObject)
    (finalizer : Option Finalizer) (token : Token) : Prop where
  slots : v'.vm.slots = v.vm.slots.set 0 (.instanceOf v.vm.instances.length)
  instances : v'.vm.instances = v.vm.instances ++ [⟨token, info⟩]
  fault : v'.vm.aborted = v.vm.aborted
  object : v'.host.objects.get? v.host.objects.cells.length = some object
  size : v'.host.foreign.size = v.host.foreign.size + 1
  /-- As long as 32 bits number the places of the table, its token, which meant nothing before,
  stands for the object with the finalizer of its class, and all others stand for what they stood
  for. -/
  entries : v'.host.foreign.heap.slots.length ≤ UInt32.size →
    v.host.foreign.heap.get? token = none ∧
    ∀ t, v'.host.foreign.heap.get? t =
      if t = token then some ⟨v.host.objects.cells.length, finalizer⟩
      else v.host.foreign.heap.get? t
  /-- So it resolves to the object. -/
  resolves : v'.host.foreign.heap.slots.length ≤ UInt32.size →
    v'.host.foreign.resolve? token = some v.host.objects.cells.length

theorem unbroken_used {W : Type} [Slots W] [Chronicle W] :
    Unbroken (fun _ _ : W => True) fun w => w.host.foreign.Used where
  frame := slotFrame_true
  window _ h := h
  note _ h := h
  host halike h := halike.foreign ▸ h
  method _ _ h := h
  release _ _ h := h.release _
  strand {w} _ finalizer h := h.register w.host.objects.cells.length finalizer
  place {w _ finalizer _} _ h := h.register w.host.objects.cells.length finalizer

/-- Whatever is done to the table of objects is one of its own ways to be used. -/
theorem hostInvariant_used : HostInvariant fun h => h.foreign.Used where
  callbacks :=
    { bindMethod := fun module className isStatic signature h =>
        unbroken_used.bindMethod module className isStatic signature h
      bindClass := fun module className h => unbroken_used.bindClass module className h
      invoke := fun id h => unbroken_used.invoke id h
      allocate := fun id h => unbroken_used.allocate id h
      finalize := fun token h => leads_finalize token (fun _ _ _ _ h => h) (h.finalize token)
      write := fun text h => unbroken_used.write text h
      report := fun event h => leads_report event (fun _ _ h => h) h }
  change hsame h := hsame.foreign ▸ h
  bind hadd h := by
    rw [addBinding_eq hadd]
    exact h

theorem Spends.used {v : World HostState Machine} (hspends : Spends w v)
    (hused : w.host.foreign.Used) : v.host.foreign.Used := by
  obtain ⟨tokens, htokens⟩ := hspends.foreign
  rw [htokens]
  exact hused.releases tokens

/-- Placing an object on a class does not panic: it makes an instance of the class. -/
theorem placed_placeForeign {v : World HostState Machine} (hused : v.host.foreign.Used)
    (hclass : v.vm.slots[0]? = some (.classOf info)) (object : HostObject)
    (finalizer : Option Finalizer) :
    ∃ v' token, placeForeign object finalizer v = (.ok (), v') ∧
      Placed v v' info object finalizer token := by
  let token := (v.host.registered object finalizer).1
  have hslot : 0 < v.vm.slots.length := (List.getElem?_eq_some_iff.mp hclass).1
  have hread : v.vm.slot 0 = .classOf info := by simp [Machine.slot, hclass]
  -- The class is read from the slot the instance is then put into.
  have hnew : Slots.setNewForeign v.vm 0 0 token =
      .ok ((v.vm.newInstance token info).2.setSlot 0 (.instanceOf v.vm.instances.length)) := by
    simp only [Slots.setNewForeign, hread]
    rfl
  have hset := (v.vm.newInstance token info).2.setSlot_of_lt
    (.instanceOf v.vm.instances.length) hslot
  rw [hset] at hnew
  have hentries := hused.get?_register v.host.objects.cells.length finalizer
  refine ⟨⟨(v.host.registered object finalizer).2,
    { (v.vm.newInstance token info).2 with
      slots := v.vm.slots.set 0 (.instanceOf v.vm.instances.length) }⟩, token, ?_, rfl, rfl, rfl,
    ?_, ObjectHeap.insert_live _ _, hentries, fun hfit => ?_⟩
  · unfold placeForeign
    rw [Run.bind_apply]
    show World.onVm? (fun vm => do pure ((), ← Slots.setNewForeign vm 0 0 token))
      { v with host := (v.host.registered object finalizer).2 } = _
    unfold World.onVm?
    rw [Run.get_bind_apply]
    dsimp only
    rw [hnew]
    rfl
  · show (v.host.objects.place object).2.get? v.host.objects.cells.length = some object
    simp [ObjectStore.place, ObjectStore.get?]
  · have hfound := ((hentries hfit).2 token).trans (if_pos rfl)
    exact congrArg (Option.map (·.object)) hfound

/-- How an allocation ends whose body came to a draft: with the text of the last abort in slot 0,
with the object behind a new instance there, or with the class there as before. -/
def Ends (w v v' : World HostState Machine) (info : ClassInfo) (d : Draft) : Prop :=
  match d.abort, d.object with
  | some message, _ =>
    v' = v ∧ v.vm.slot 0 = InMemory.text message ∧ v.vm.aborted = some (InMemory.text message)
  | none, some object =>
    v.vm.slot 0 = .classOf info ∧ v.vm.aborted = w.vm.aborted ∧
      ∃ token, Placed v v' info object d.finalizer token
  | none, none => v' = v ∧ v.vm.slot 0 = .classOf info ∧ v.vm.aborted = w.vm.aborted

/-- What comes of an allocation. -/
structure Allocates (w : World HostState Machine) (info : ClassInfo) (id : Nat)
    (target : ClassTarget) : Prop where
  /-- Whatever a hand-written body has done so far, no action but an abort changes slot 0. -/
  kept : ∀ program (action : CallAction) s reply s',
    runActions program (callState w true) = (.ok (), s) →
    action.run s = .ok (reply, s') → (∀ message, action ≠ .abort message) →
    s'.context.window.slot 0 = s.context.window.slot 0
  /-- So until it aborts, slot 0 holds the class. -/
  holds : ∀ program, lastAbort? program = none →
    (runActions program (callState w true)).2.context.window.slot 0 = .classOf info
  /-- The allocation panics if its body does, and is not gone on with. -/
  panics : ∀ p v, draft target w = (.error p, v) → allocate id w = (.error p, v) ∧ Spends w v
  /-- Otherwise it ends in one of three ways. -/
  ends : ∀ d v, draft target w = (.ok d, v) → Spends w v ∧
    ∃ v', allocate id w = (.ok (), v') ∧ Ends w v v' info d

theorem slot_of_getElem? {m : Machine} {v : ScriptValue} (h : m.slots[0]? = some v) :
    m.slot 0 = v := by
  simp [Machine.slot, h]

/-- Until it aborts a hand-written body finds the class in slot 0. -/
theorem slot_runActions (hslots : w.vm.slots = .classOf info :: args) {program : List CallAction}
    (hcalm : lastAbort? program = none) :
    (runActions program (callState w true)).2.context.window.slot 0 = .classOf info := by
  have hleads := leads_serves (serves_callState hslots) program
  rcases hrun : runActions program (callState w true) with ⟨p | _, s⟩
  · obtain ⟨done, hdone, hserves⟩ := hleads.of_error hrun
    have hnone : lastAbort? done = none :=
      lastAbort?_eq_none.mpr fun action haction =>
        lastAbort?_eq_none.mp hcalm action (hdone.subset haction)
    rw [hnone] at hserves
    exact slot_of_getElem? hserves.slot
  · have hserves := hleads.of_ok hrun
    rw [hcalm] at hserves
    exact slot_of_getElem? hserves.slot

theorem allocates (hused : w.host.foreign.Used) (hslots : w.vm.slots = .classOf info :: args)
    {id : Nat} {target : ClassTarget} (htarget : w.host.allocators[id]? = some target) :
    Allocates w info id target := by
  have hleads := leads_draft hslots target
  refine ⟨fun program action s reply s' hprogram hrun haction => ?_,
    fun program hcalm => slot_runActions hslots hcalm, fun p v hdraft => ?_, fun d v hdraft => ?_⟩
  · have hserves := (leads_serves (serves_callState hslots) program).of_ok hprogram
    have hquiet : action.abortText? = none := CallAction.abortText?_eq_none haction
    have hafter := CallAction.serves_run hserves hrun
    rw [hquiet] at hafter
    rw [slot_of_getElem? hafter.slot, slot_of_getElem? hserves.slot]
    rfl
  · exact ⟨by rw [allocate_apply hslots htarget, Run.bind_apply, hdraft], hleads.of_error hdraft⟩
  · have hdrafted := hleads.of_ok hdraft
    have hslot := hdrafted.slot
    have hfault := hdrafted.fault
    have happly : allocate id w = place d v := by
      rw [allocate_apply hslots htarget, Run.bind_apply, hdraft]
    refine ⟨hdrafted.toSpends, ?_⟩
    rw [happly]
    unfold place Ends
    cases habort : d.abort with
    | some message =>
      rw [habort] at hslot hfault
      exact ⟨v, rfl, rfl, slot_of_getElem? hslot, hfault⟩
    | none =>
      rw [habort] at hslot hfault
      cases d.object with
      | none => exact ⟨v, rfl, rfl, slot_of_getElem? hslot, hfault⟩
      | some object =>
        -- The body did not abort, so the class is there to be instantiated.
        obtain ⟨v', token, hplace, hplaced⟩ := placed_placeForeign
          (hdrafted.toSpends.used hused) hslot object d.finalizer
        exact ⟨v', hplace, slot_of_getElem? hslot, hfault, token, hplaced⟩

end HostState

namespace VirtualMachine

open HostState

/-- Whatever was done with a machine and however far a run on it has come, an allocation of a
declared class whose allocator finds the class in slot 0 ends in one of the three ways. -/
theorem allocates_during (config : Configuration) (owner : Nat) (machine : Machine)
    (steps : List Step) :
    let vm := (new config owner machine).2.after steps
    vm.disposed = false →
    ∀ held w, During vm.entered.world held w →
    ∀ info args id target, w.vm.slots = .classOf info :: args →
      w.host.allocators[id]? = some target → Allocates w info id target := by
  intro vm halive held w hw info args id target hslots htarget
  have hused : vm.world.host.foreign.Used :=
    hostInvariant_used.after (fun _ => ForeignRegistry.used_empty) steps halive
  exact allocates (hostInvariant_used.during hw hused) hslots htarget

/-- A class whose allocator tries slot 0 before it writes another one, and answers with an object:
the instance stands where the class stood, and the write to slot 0 was refused. -/
theorem allocates_during_refusedWrite :
    let config : Configuration :=
      { Configuration.default with
        classBinder := some fun _ _ =>
          .ok (some ⟨[.set 0 .unit, .set 1 (.text "kept")], some (.of "object"),
            some ⟨"close", none, false⟩⟩) }
    let steps : List Step :=
      [.operate (.interpret "main" "open"), .operate (.ensureSlots 2),
        .operate (.getVariable "main" "A" 0)]
    let vm := (new config 0
      (Machine.new [("open", [.declare "A" []])] [] false false)).2.after steps
    let w := vm.entered.world
    let info : ClassInfo := ⟨"A", some 0, []⟩
    vm.disposed = false ∧ During vm.entered.world [] w ∧ w.vm.slots = [.classOf info, .null] ∧
      (∃ target, w.host.allocators[0]? = some target ∧ Allocates w info 0 target) ∧
      (HostState.allocate 0 w).2.vm.slots = [.instanceOf 0, InMemory.text "kept"] ∧
      (HostState.allocate 0 w).2.host.foreign.size = 1 := by
  intro config steps vm w info
  have halive : vm.disposed = false := by decide +kernel
  have hslots : w.vm.slots = .classOf info :: [.null] := by decide +kernel
  have hsome : (w.host.allocators[0]?).isSome = true := by decide +kernel
  obtain ⟨target, htarget⟩ := Option.isSome_iff_exists.mp hsome
  have hallocates := allocates_during config 0 (Machine.new [("open", [.declare "A" []])] [] false
    false) steps halive [] w .start info [.null] 0 target hslots htarget
  exact ⟨halive, .start, hslots, ⟨target, htarget, hallocates⟩, by decide +kernel,
    by decide +kernel⟩

end VirtualMachine

end ScriptHost
