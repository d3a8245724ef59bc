/-
What a handle puts back.

A handle acquired for the value of a slot puts exactly that value back into whatever slot it is
written to, for as long as it lives.  It may be written by a machine between runs and by a member
in the midst of one, and both refuse it for the same causes: it belongs to another machine, the
slot is outside the window, the handle was given up.

* **`InMemory.Recalls.putsBack`** — from what is known of a handle to what writing it does;
* **`VirtualMachine.WritesBack`**, **`CallState.SetsBack`** — writing it by a machine and by a
  member;
* **`VirtualMachine.writesBack_after`** — every handle acquired, and everything done with its
  machine from then on.
-/
import ScriptHost.Proofs.HandleLives
import ScriptHost.Proofs.SlotWrites

namespace ScriptHost

open InMemory

namespace InMemory

/-- Why a handle is not written into a slot: the first cause that applies. -/
def writeRefusal (m : Machine) (r : HandleRegistry) (slot : Nat) (h : Handle) : HostError :=
  if h.owner ≠ r.owner then .foreignHandle
  else if slot < m.slots.length then .handleReleased
  else .slotOutOfRange slot m.slots.length

/-- Writing a handle puts a value into a slot and changes nothing else, if the handle is one of
the registry, the slot is in the window and the handle was kept; otherwise it is refused. -/
structure PutsBack (m : Machine) (r : HandleRegistry) (h : Handle) (v : ScriptValue)
    (kept : Prop) : Prop where
  writes : ∀ slot, h.owner = r.owner → slot < m.slots.length → kept →
    writeOwnedValue m slot (.handle h.reference) r = .ok { m with slots := m.slots.set slot v }
  refuses : ∀ slot, ¬(h.owner = r.owner ∧ slot < m.slots.length ∧ kept) →
    writeOwnedValue m slot (.handle h.reference) r = .error (writeRefusal m r slot h)
  live : h.owner = r.owner → kept → ∃ entry, r.entry? h.id = some entry

variable {m : Machine} {r : HandleRegistry} {h : Handle} {raw : RawHandle} {v : ScriptValue}
  {kept : Prop}

theorem putsBack_of_foreign (howner : h.owner ≠ r.owner) : PutsBack m r h v kept where
  writes _ hown := absurd hown howner
  refuses slot _ := by
    have href : h.reference.owner ≠ r.owner := howner
    rw [writeOwnedValue_apply, if_pos href, writeRefusal, if_pos howner]
  live hown := absurd hown howner

/-- A handle that is live just if it was kept puts back the value it was acquired for. -/
theorem Recalls.putsBack (hk : Recalls h raw v m r)
    (hlive : (∃ entry, r.entry? h.id = some entry) ↔ kept) : PutsBack m r h v kept := by
  have href : ¬h.reference.owner ≠ r.owner := fun hne => hne hk.owner
  have hown : ¬h.owner ≠ r.owner := href
  refine ⟨fun slot _ hslot hkept => ?_, fun slot hrefused => ?_, fun _ hkept => hlive.mpr hkept⟩
  · obtain ⟨entry, hentry⟩ := hlive.mpr hkept
    obtain ⟨rfl, hv⟩ := hk.live entry hentry
    have hraw : r.raw? h.reference.id = some raw := congrArg (Option.map HandleEntry.raw) hentry
    rw [writeOwnedValue_apply, if_neg href, if_pos hslot, hraw]
    dsimp only
    rw [hv]
    rfl
  · rw [writeOwnedValue_apply, if_neg href, writeRefusal, if_neg hown]
    by_cases hslot : slot < m.slots.length
    · have hgone : r.entry? h.id = none := by
        cases hentry : r.entry? h.id with
        | none => rfl
        | some entry => exact absurd ⟨hk.owner, hslot, hlive.mp ⟨entry, hentry⟩⟩ hrefused
      have hraw : r.raw? h.reference.id = none := congrArg (Option.map HandleEntry.raw) hgone
      rw [if_pos hslot, if_pos hslot, hraw]
    · rw [if_neg hslot, if_neg hslot]

/-- Since a run began, a member and all that went before it have pinned more and dropped handles
at most. -/
theorem InCall.grows {start : World HostState Machine} {s : CallState Finalizer Machine}
    (hs : InCall start s) : start.vm.handles <+: s.context.window.handles ∧
      start.host.handles.Queued s.context.handles := by
  obtain ⟨held, w, allocating, program, hduring, rfl⟩ := hs
  have hw : Grows start.vm start.host.handles w :=
    (invariant_grows start.vm start.host.handles).during ⟨List.prefix_refl _, .refl _⟩ hduring
  let grown (s : CallState Finalizer Machine) : Prop :=
    start.vm.handles <+: s.context.window.handles ∧ start.host.handles.Queued s.context.handles
  have hleads : Run.Leads (runActions program) (HostState.callState w allocating)
      (fun _ => grown) grown :=
    Run.Leads.runActions Machine.slotFrame_handles (P := grown)
      (fun _ _ _ heffect hs => ⟨heffect.window ▸ hs.1, hs.2.trans heffect.handles⟩) program _ hw
  exact hleads.ends

/-- The handles that were dropped since then, and no others, are not live any more. -/
theorem InCall.sheds {start : World HostState Machine} {s : CallState Finalizer Machine}
    (hs : InCall start s) :
    Sheds start.host.keyring start.host.handles s.keyring s.context.handles := by
  obtain ⟨held, w, allocating, program, hduring, rfl⟩ := hs
  have hw : Sheds start.host.keyring start.host.handles w.host.keyring w.host.handles :=
    (invariant_of_keeps (HostState.keeps_sheds start.host.keyring start.host.handles)).during
      (.refl _ _) hduring
  exact (leads_sheds (s := HostState.callState w allocating) hw program).ends

end InMemory

/-! ### By a member -/

/-- Writing a handle from within a member: where it succeeds, what it puts where, and why it is
refused otherwise. -/
structure CallState.SetsBack (s : CallState Finalizer Machine) (h : Handle) (v : ScriptValue)
    (kept : Prop) : Prop where
  succeeds : ∀ slot, (s.context.setValue slot (.handle h.reference)).isOk ↔
    ¬(s.context.allocating = true ∧ slot = 0) ∧ h.owner = s.context.handles.owner ∧
      slot < s.context.window.slots.length ∧ kept
  writes : ∀ slot, (s.context.setValue slot (.handle h.reference)).isOk →
    s.context.setValue slot (.handle h.reference) =
        .ok { s.context with window :=
          { s.context.window with slots := s.context.window.slots.set slot v } } ∧
      ∃ entry, s.context.handles.entry? h.id = some entry
  /-- What is refused changes nothing. -/
  refuses : ∀ slot, ¬(s.context.setValue slot (.handle h.reference)).isOk →
    CallAction.written s (s.context.setValue slot (.handle h.reference)) =
      (.done (.error (if s.context.allocating ∧ slot = 0 then .allocatorSlot
        else writeRefusal s.context.window s.context.handles slot h)), s)

theorem InMemory.PutsBack.setsBack {s : CallState Finalizer Machine} {h : Handle} {v : ScriptValue}
    {kept : Prop} (hputs : PutsBack s.context.window s.context.handles h v kept) :
    s.SetsBack h v kept := by
  -- An allocator is refused slot 0 before the handle is looked at.
  have hbarred : ∀ slot, s.context.allocating = true ∧ slot = 0 →
      s.context.setValue slot (.handle h.reference) = .error .allocatorSlot := by
    intro slot hzero
    simp only [CallContext.setValue, CallContext.setWith, CallContext.checkWritable, if_pos hzero]
    rfl
  have hopen : ∀ slot, ¬(s.context.allocating = true ∧ slot = 0) →
      s.context.setValue slot (.handle h.reference) =
        (writeOwnedValue s.context.window slot (.handle h.reference) s.context.handles).map
          fun window => { s.context with window := window } := by
    intro slot hzero
    simp only [CallContext.setValue, CallContext.setWith, CallContext.checkWritable, if_neg hzero]
    cases writeOwnedValue s.context.window slot (.handle h.reference) s.context.handles <;> rfl
  -- Each slot falls under one of three cases, and each case says what all three fields ask for.
  have hcases : ∀ slot,
      (¬(s.context.allocating = true ∧ slot = 0) ∧ h.owner = s.context.handles.owner ∧
          slot < s.context.window.slots.length ∧ kept) ∧
        s.context.setValue slot (.handle h.reference) =
          .ok { s.context with window :=
            { s.context.window with slots := s.context.window.slots.set slot v } } ∨
      ¬(¬(s.context.allocating = true ∧ slot = 0) ∧ h.owner = s.context.handles.owner ∧
          slot < s.context.window.slots.length ∧ kept) ∧
        s.context.setValue slot (.handle h.reference) =
          .error (if s.context.allocating ∧ slot = 0 then .allocatorSlot
            else writeRefusal s.context.window s.context.handles slot h) := by
    intro slot
    by_cases hzero : s.context.allocating = true ∧ slot = 0
    · refine .inr ⟨fun hfree => hfree.1 hzero, ?_⟩
      rw [hbarred slot hzero, if_pos hzero]
    · rw [hopen slot hzero, if_neg hzero]
      by_cases hfree : h.owner = s.context.handles.owner ∧
          slot < s.context.window.slots.length ∧ kept
      · refine .inl ⟨⟨hzero, hfree⟩, ?_⟩
        rw [hputs.writes slot hfree.1 hfree.2.1 hfree.2.2]
        rfl
      · refine .inr ⟨fun hall => hfree hall.2, ?_⟩
        rw [hputs.refuses slot hfree]
        rfl
  refine ⟨fun slot => ?_, fun slot hok => ?_, fun slot hbad => ?_⟩ <;>
    rcases hcases slot with ⟨hfree, hset⟩ | ⟨hfree, hset⟩
  · exact iff_of_true (by rw [hset]; rfl) hfree
  · exact iff_of_false (by rw [hset]; exact Bool.false_ne_true) hfree
  · exact ⟨hset, hputs.live hfree.2.1 hfree.2.2.2⟩
  · rw [hset] at hok
    cases hok
  · rw [hset] at hbad
    exact absurd rfl hbad
  · rw [hset]
    rfl

namespace VirtualMachine

/-! ### By a machine -/

variable {vm vm' : VirtualMachine Machine} {h : Handle} {raw : RawHandle} {v : ScriptValue}
  {kept : Prop}

/-- Writing a handle to a slot of a machine: where it succeeds, what it puts where, and why it is
refused otherwise. -/
structure WritesBack (vm : VirtualMachine Machine) (h : Handle) (v : ScriptValue) (kept : Prop) :
    Prop where
  /-- It makes no difference which operation writes it. -/
  same : ∀ slot, setSlotValue slot (.handle h.reference) vm = setSlotHandle slot h vm
  succeeds : ∀ slot, (setSlotHandle slot h vm).1 = .ok (.ok ()) ↔
    vm.disposed = false ∧ h.owner = vm.world.host.handles.owner ∧
      slot < vm.world.vm.slots.length ∧ kept
  writes : ∀ slot, (setSlotHandle slot h vm).1 = .ok (.ok ()) →
    (setSlotHandle slot h vm).2 =
        vm.withWindow { vm.world.vm with slots := vm.world.vm.slots.set slot v } ∧
      (setSlotHandle slot h vm).2.Holds h
  /-- What is refused changes nothing. -/
  refuses : ∀ slot, (setSlotHandle slot h vm).1 ≠ .ok (.ok ()) →
    setSlotHandle slot h vm =
      (.ok (.error (if vm.disposed then .disposed
        else writeRefusal vm.world.vm vm.world.host.handles slot h)), vm)

open Op

theorem setSlotHandle_of_alive (halive : vm.disposed = false) (slot : Nat) (h : Handle) :
    setSlotHandle slot h vm =
      match writeOwnedValue vm.world.vm slot (.handle h.reference) vm.world.host.handles with
      | .ok machine => (.ok (.ok ()), vm.withWindow machine)
      | .error e => (.ok (.error e), vm) := by
  show changeWindow (writeOwnedValue · slot (.handle h.reference) vm.world.host.handles) vm = _
  rw [changeWindow_of_alive halive]
  cases writeOwnedValue vm.world.vm slot (.handle h.reference) vm.world.host.handles <;> rfl

theorem writesBack_of_putsBack
    (hputs : vm.disposed = false → PutsBack vm.world.vm vm.world.host.handles h v kept) :
    vm.WritesBack h v kept := by
  have hcases : ∀ slot,
      (vm.disposed = false ∧ h.owner = vm.world.host.handles.owner ∧
          slot < vm.world.vm.slots.length ∧ kept) ∧
        setSlotHandle slot h vm = (.ok (.ok ()),
          vm.withWindow { vm.world.vm with slots := vm.world.vm.slots.set slot v }) ∨
      ¬(vm.disposed = false ∧ h.owner = vm.world.host.handles.owner ∧
          slot < vm.world.vm.slots.length ∧ kept) ∧
        setSlotHandle slot h vm = (.ok (.error (if vm.disposed then .disposed
          else writeRefusal vm.world.vm vm.world.host.handles slot h)), vm) := by
    intro slot
    cases hdisposed : vm.disposed with
    | true =>
      refine .inr ⟨fun hfree => Bool.noConfusion hfree.1, ?_⟩
      exact setSlotValue_of_disposed hdisposed slot _
    | false =>
      rw [setSlotHandle_of_alive hdisposed]
      by_cases hfree : h.owner = vm.world.host.handles.owner ∧
          slot < vm.world.vm.slots.length ∧ kept
      · refine .inl ⟨⟨rfl, hfree⟩, ?_⟩
        rw [(hputs hdisposed).writes slot hfree.1 hfree.2.1 hfree.2.2]
      · refine .inr ⟨fun hall => hfree hall.2, ?_⟩
        rw [(hputs hdisposed).refuses slot hfree]
        rfl
  refine ⟨fun _ => rfl, fun slot => ?_, fun slot hok => ?_, fun slot hbad => ?_⟩ <;>
    rcases hcases slot with ⟨hfree, hset⟩ | ⟨hfree, hset⟩
  · exact iff_of_true (by rw [hset]) hfree
  · exact iff_of_false (by rw [hset]; rintro ⟨⟩) hfree
  · rw [hset]
    exact ⟨rfl, (hputs hfree.1).live hfree.2.1 hfree.2.2.2⟩
  · rw [hset] at hok
    cases hok
  · rw [hset] at hbad
    exact absurd rfl hbad
  · exact hset

/-! ### A handle and its machine -/

/-- A handle is acquired for what its slot holds. -/
theorem eq_of_getSlotHandle {slot : Nat} (hgot : getSlotHandle slot vm = (.ok (.ok h), vm')) :
    vm.disposed = false ∧
      h = (vm.world.host.handles.adopt (vm.world.vm.pin (vm.world.vm.slot slot)).1 .value).1 ∧
      vm' = (vm.withWindow (vm.world.vm.pin (vm.world.vm.slot slot)).2).adopted
        (vm.world.vm.pin (vm.world.vm.slot slot)).1 .value := by
  cases hdisposed : vm.disposed with
  | true =>
    rw [show getSlotHandle slot vm = _ from
      Attempt.perform_of_disposed hdisposed (.getSlotHandle slot)] at hgot
    cases hgot
  | false =>
    have hlook := onWindow_of_alive hdisposed (checkSlot · slot)
    unfold getSlotHandle at hgot
    cases hslot : checkSlot vm.world.vm slot with
    | error e =>
      have hrefused : onWindow (checkSlot · slot) vm = (.ok (.error e), vm) := by
        rw [hlook, hslot]
        rfl
      rw [bind_of_error hrefused] at hgot
      cases hgot
    | ok u =>
      have hwithin : onWindow (checkSlot · slot) vm = (.ok (.ok u), vm) := by
        rw [hlook, hslot]
        rfl
      rw [bind_of_ok hwithin] at hgot
      cases hgot
      exact ⟨rfl, rfl, rfl⟩

/-- A handle just acquired is live, and what its slot held is what it stands for. -/
theorem recalls_getSlotHandle {slot : Nat} (hpins : vm.PinsHandles)
    (hgot : getSlotHandle slot vm = (.ok (.ok h), vm')) :
    (∃ raw, vm'.Recalls h raw (vm.world.vm.slot slot)) ∧ vm'.Holds h := by
  obtain ⟨halive, rfl, rfl⟩ := eq_of_getSlotHandle hgot
  let raw := (vm.world.vm.pin (vm.world.vm.slot slot)).1
  refine ⟨⟨raw, .of_known (.of_adopt (hpins.pins halive) _)⟩, ⟨raw, .value⟩, ?_⟩
  exact List.lookup_cons_self

/-- Between two runs. -/
theorem Recalls.writesBack (hk : vm.Recalls h raw v) (hlive : vm.Holds h) (later : List Step) :
    (vm.after later).WritesBack h v (vm.Keeps h later) :=
  writesBack_of_putsBack fun halive =>
    ((hk.after later).known halive).putsBack (hk.holds_after hlive halive)

/-- In the midst of a run, where members may have dropped the handle meanwhile. -/
theorem Recalls.setsBack (hk : vm.Recalls h raw v) (hlive : vm.Holds h) {later : List Step}
    (halive : (vm.after later).disposed = false) {s : CallState Finalizer Machine}
    (hs : InCall (vm.after later).entered.world s) :
    s.SetsBack h v
      (vm.Keeps h later ∧ ¬(vm.after later).world.host.keyring.Dropped s.keyring h) := by
  have hk' := ((hk.after later).known halive).flush
  obtain ⟨hpinned, hqueued⟩ := hs.grows
  refine InMemory.PutsBack.setsBack
    (InMemory.Recalls.putsBack ((hk'.extend hpinned).queued hqueued) ?_)
  by_cases hkeeps : vm.Keeps h later
  · have hstill : (vm.after later).entered.Holds h := (hk.holds_after hlive halive).mpr hkeeps
    rw [and_iff_right hkeeps]
    exact hstill.iff_of_sheds hk'.owner hs.sheds
  · -- What was given up before the run is not live in it either.
    refine iff_of_false ?_ fun hkept => hkeeps hkept.1
    rintro ⟨entry, hentry⟩
    refine hkeeps ((hk.holds_after hlive halive).mp ⟨entry, ?_⟩)
    rcases hqueued.entry? h.id with hnone | hsame
    · rw [hnone] at hentry
      cases hentry
    · exact hsame ▸ hentry

/-- Whatever is done with a machine after a handle was acquired from it, writing the handle puts
back what its slot held then, just if the handle was kept; no other machine takes it. -/
theorem writesBack_after (config : Configuration) (owner : Nat) (machine : Machine)
    (before : List Step) (slot : Nat) (h : Handle) (vm : VirtualMachine Machine)
    (hgot : getSlotHandle slot ((new config owner machine).2.after before) = (.ok (.ok h), vm))
    (later : List Step) :
    let v := ((new config owner machine).2.after before).world.vm.slot slot
    (vm.after later).WritesBack h v (vm.Keeps h later) ∧
    ((vm.after later).disposed = false → ∀ s, InCall (vm.after later).entered.world s →
      s.SetsBack h v
        (vm.Keeps h later ∧ ¬(vm.after later).world.host.keyring.Dropped s.keyring h)) ∧
    h.owner = (vm.after later).world.host.handles.owner ∧
    (∀ other : VirtualMachine Machine, other.world.host.handles.owner ≠ h.owner →
      other.WritesBack h v False) ∧
    ∀ s : CallState Finalizer Machine, s.context.handles.owner ≠ h.owner →
      s.SetsBack h v False := by
  intro v
  obtain ⟨⟨raw, hk⟩, hlive⟩ := recalls_getSlotHandle (pins_after config owner machine before) hgot
  exact ⟨hk.writesBack hlive later, fun halive _ hs => hk.setsBack hlive halive hs,
    (hk.after later).owner,
    fun _ howner => writesBack_of_putsBack fun _ => putsBack_of_foreign howner.symm,
    fun _ howner => (putsBack_of_foreign howner.symm).setsBack⟩

/-- A handle to a list outlives another handle to the same list, a script, a collection and a
larger window; once it is dropped it is refused. -/
theorem writesBack_after_list :
    let machine := Machine.new [("grow", [.print "running"])] [] false false
    let before : List Step := [.operate (.ensureSlots 2), .operate (.newList 1)]
    let vm₀ := (new .default 0 machine).2.after before
    let vm := (getSlotHandle 1 vm₀).2
    let later : List Step := [.operate (.getSlotHandle 1 "other"), .operate (.setNull 1),
      .operate (.interpret "main" "grow"), .drop ⟨0, 1⟩, .operate .collectGarbage,
      .operate (.ensureSlots 5)]
    let h : Handle := ⟨0, 0⟩
    getSlotHandle 1 vm₀ = (.ok (.ok h), vm) ∧ vm.Keeps h later ∧
      (vm.after later).WritesBack h (.list 0) (vm.Keeps h later) ∧
      (setSlotHandle 4 h (vm.after later)).2.world.vm.slots =
        [.null, .null, .null, .null, .list 0] ∧
      (setSlotHandle 4 h (vm.after (later ++ [.drop h]))).1 = .ok (.error .handleReleased) := by
  intro machine before vm₀ vm later h
  have hgot : getSlotHandle 1 vm₀ = (.ok (.ok h), vm) := Prod.ext (by decide +kernel) rfl
  have hwrites : (vm.after later).WritesBack h (.list 0) (vm.Keeps h later) := by
    have hslot : vm₀.world.vm.slot 1 = .list 0 := by decide +kernel
    rw [← hslot]
    exact (writesBack_after .default 0 machine before 1 h vm hgot later).1
  have hput : (setSlotHandle 4 h (vm.after later)).1 = .ok (.ok ()) := by decide +kernel
  exact ⟨hgot, ((hwrites.succeeds 4).mp hput).2.2.2, hwrites, by decide +kernel, by decide +kernel⟩

end VirtualMachine

end ScriptHost
