/-
Handles and what they pin.

`Pins m r` ties the registry `r` of a host to the handle table of a machine kept in memory:
no raw handle is owed twice, every live one pins a value, and one that stands for a method
pins a call handle whose signature takes as many arguments as the registry recorded.  Scripts
only ever pin more, and give nothing back; whatever is given back was owed before and is not
owed any more.  So it holds all the time:

* **`Pins.release`**, **`Pins.adopt`**, **`Pins.flush`** — the comings and goings of handles;
* **`invariant_grows`** — scripts pin more and drop handles;
* **`VirtualMachine.pins_after`** — the result, for every state of every life.
-/
import Mathlib.Data.List.Perm.Subperm
import ScriptHost.Proofs.OperationAccounts
import ScriptHost.Proofs.OperationInvariant

namespace ScriptHost

open InMemory

namespace InMemory.Machine

variable {m m' : Machine} {raw raw' : RawHandle} {v : ScriptValue}

/-- What is pinned is in the table. -/
theorem pinned?_eq_some : m.pinned? raw = some v ↔
    raw.bits ≠ 0 ∧ m.handles[raw.bits - 1]? = some (some v) := by
  unfold pinned?
  split
  · simp_all
  · rename_i hbits
    simp [hbits, Option.join_eq_some_iff]

theorem pinned?_of_prefix (h : m.handles <+: m'.handles) (hv : m.pinned? raw = some v) :
    m'.pinned? raw = some v := by
  obtain ⟨hbits, hget⟩ := pinned?_eq_some.mp hv
  refine pinned?_eq_some.mpr ⟨hbits, ?_⟩
  obtain ⟨more, hmore⟩ := h
  rw [← hmore, List.getElem?_append_left (List.getElem?_eq_some_iff.mp hget).1]
  exact hget

/-- A handle just made pins the value it was made for. -/
theorem pinned?_pin (m : Machine) (v : ScriptValue) : (m.pin v).2.pinned? (m.pin v).1 = some v := by
  simp [pin, pinned?]

@[simp] theorem length_releaseHandle (m : Machine) (raw : RawHandle) :
    (InMemory.releaseHandle m raw).handles.length = m.handles.length := by
  unfold InMemory.releaseHandle
  split <;> simp

/-- Giving a handle back does not touch the others. -/
theorem pinned?_releaseHandle (m : Machine) (h : raw ≠ raw') :
    (InMemory.releaseHandle m raw').pinned? raw = m.pinned? raw := by
  unfold InMemory.releaseHandle
  split
  · rfl
  · rename_i hbits
    have hbits' : raw'.bits ≠ 0 := fun h0 => hbits (.inl h0)
    by_cases h0 : raw.bits = 0
    · simp [pinned?, h0]
    · have hne : raw'.bits - 1 ≠ raw.bits - 1 := by
        intro heq
        refine h (RawHandle.mk.injEq .. ▸ ?_)
        omega
      simp only [pinned?, h0, ↓reduceIte, List.getElem?_set_ne hne]

theorem pinned?_releaseHandle_self (m : Machine) (raw : RawHandle) :
    (InMemory.releaseHandle m raw).pinned? raw = none := by
  cases hpinned : (InMemory.releaseHandle m raw).pinned? raw with
  | none => rfl
  | some v =>
    obtain ⟨hbits, hget⟩ := pinned?_eq_some.mp hpinned
    have hwithin := (List.getElem?_eq_some_iff.mp hget).1
    rw [length_releaseHandle] at hwithin
    have hheld : ¬(raw.bits = 0 ∨ m.handles.length < raw.bits) := by omega
    unfold InMemory.releaseHandle at hget
    rw [if_neg hheld, List.getElem?_set_self hwithin] at hget
    cases hget

theorem pinned?_releaseAll (m : Machine) {raws : List RawHandle} (h : raw ∉ raws) :
    (raws.foldl Backend.releaseHandle m).pinned? raw = m.pinned? raw := by
  induction raws generalizing m with
  | nil => rfl
  | cons raw' raws ih =>
    rw [List.mem_cons, not_or] at h
    exact (ih _ h.2).trans (pinned?_releaseHandle m h.1)

/-- What was given back pins nothing, whatever is given back with it. -/
theorem pinned?_releaseAll_of_mem (m : Machine) {raws : List RawHandle} (h : raw ∈ raws) :
    (raws.foldl Backend.releaseHandle m).pinned? raw = none := by
  induction raws generalizing m with
  | nil => cases h
  | cons raw' raws ih =>
    by_cases hlater : raw ∈ raws
    · exact ih _ hlater
    · obtain rfl : raw = raw' := by simpa [hlater] using h
      exact (pinned?_releaseAll _ hlater).trans (pinned?_releaseHandle_self m raw)

/-- Giving handles back touches the handle table and nothing else. -/
theorem foldl_releaseHandle (raws : List RawHandle) (m : Machine) :
    raws.foldl Backend.releaseHandle m =
      { m with
        handles := (raws.foldl Backend.releaseHandle m).handles
        releasedHandles := (raws.foldl Backend.releaseHandle m).releasedHandles } := by
  induction raws generalizing m with
  | nil => rfl
  | cons raw raws ih =>
    have hfirst : InMemory.releaseHandle m raw =
        { m with
          handles := (InMemory.releaseHandle m raw).handles
          releasedHandles := (InMemory.releaseHandle m raw).releasedHandles } := by
      unfold InMemory.releaseHandle
      split <;> rfl
    rw [List.foldl_cons]
    refine (ih (InMemory.releaseHandle m raw)).trans ?_
    -- What the rest does to the table does not matter, only that it is all they touch.
    generalize raws.foldl Backend.releaseHandle (Backend.releaseHandle m raw) = last
    change ({ InMemory.releaseHandle m raw with
      handles := last.handles, releasedHandles := last.releasedHandles } : Machine) = _
    rw [hfirst]

end InMemory.Machine

/-- A value a handle of this kind may stand for. -/
def HandleKind.Fits : HandleKind → ScriptValue → Prop
  | .value, _ => True
  | .call arity, v => ∃ signature, v = .callHandle signature ∧ callArity signature = arity

namespace HandleRegistry

/-- Nothing stands twice, neither a number nor a raw handle. -/
structure Unshared (r : HandleRegistry) : Prop where
  valid : r.Valid
  nodup : r.owed.Nodup

namespace Unshared

variable {r r' : HandleRegistry}

theorem mono (h : r.Unshared) (hvalid : r'.Valid) (howed : r'.owed.Subperm r.owed) :
    r'.Unshared := by
  obtain ⟨l, hperm, hsub⟩ := howed
  exact ⟨hvalid, hperm.nodup (hsub.nodup h.nodup)⟩

theorem queued (h : r.Unshared) (hr : r.Queued r') : r'.Unshared := by
  obtain ⟨raws, hdropped⟩ := hr.dropped h.valid
  exact h.mono (hdropped.valid h.valid) hdropped.owed.symm.subperm

theorem not_mem_pending (h : r.Unshared) {x : Nat × HandleEntry} (hx : x ∈ r.live) :
    x.2.raw ∉ r.pending :=
  fun hwaits => (List.nodup_append.mp h.nodup).2.2 _ (List.mem_map_of_mem hx) _ hwaits rfl

end Unshared

end HandleRegistry

namespace InMemory

/-- What a machine pins for the handles of its host. -/
structure Pins (m : Machine) (r : HandleRegistry) : Prop extends r.Unshared where
  /-- Every raw handle owed is a place of the table. -/
  within : ∀ raw ∈ r.owed, raw.bits ≠ 0 ∧ raw.bits ≤ m.handles.length
  live : ∀ x ∈ r.live, ∃ v, m.pinned? x.2.raw = some v ∧ x.2.kind.Fits v

namespace Pins

variable {m m' : Machine} {r r' : HandleRegistry}

theorem of_owed_eq_nil (hvalid : r.Valid) (hlive : r.live = []) (hpending : r.pending = []) :
    Pins m r := by
  have howed : r.owed = [] := by simp [HandleRegistry.owed, hlive, hpending]
  exact ⟨⟨hvalid, by simp [howed]⟩, by simp [howed], by simp [hlive]⟩

/-- A machine that pins for some handles pins for fewer. -/
theorem mono (h : Pins m r) (hvalid : r'.Valid) (howed : r'.owed.Subperm r.owed)
    (hlive : ∀ x ∈ r'.live, x ∈ r.live) : Pins m r' where
  toUnshared := h.toUnshared.mono hvalid howed
  within raw hraw := h.within raw (howed.subset hraw)
  live x hx := h.live x (hlive x hx)

/-- A raw handle is owed for one live entry only, so once that is removed and what waits was given
back it is not owed any more. -/
theorem not_mem_owed_remove (h : Pins m r) {id : Nat} {entry : HandleEntry}
    (hentry : r.entry? id = some entry) : entry.raw ∉ (r.remove id).2.takePending.2.owed := by
  have hnodup := h.nodup
  have hperm : (r.live.map (·.2.raw)).Perm
      (entry.raw :: (r.forget id).live.map (·.2.raw)) :=
    (h.valid.perm_forget hentry).map _
  rw [HandleRegistry.owed, (hperm.append_right _).nodup_iff, List.cons_append,
    List.nodup_cons] at hnodup
  rw [HandleRegistry.remove_of_entry hentry]
  intro howed
  have hlive : entry.raw ∈ (r.forget id).live.map (·.2.raw) := by
    simpa [HandleRegistry.owed, HandleRegistry.takePending] using howed
  exact hnodup.1 (List.mem_append_left _ hlive)

theorem queued (h : Pins m r) (hr : r.Queued r') : Pins m r' := by
  obtain ⟨raws, hdropped⟩ := hr.dropped h.valid
  exact h.mono (hdropped.valid h.valid) hdropped.owed.symm.subperm fun _ hx =>
    hdropped.live.subset hx

theorem forget (h : Pins m r) (id : Nat) : Pins m (r.forget id) := by
  have hsub : (r.forget id).live.Sublist r.live := List.filter_sublist
  refine h.mono (h.valid.forget id) ?_ fun _ hx => hsub.subset hx
  exact ((hsub.map _).append (.refl _)).subperm

/-- Pinning more changes nothing for what is pinned. -/
theorem extend (h : Pins m r) (hm : m.handles <+: m'.handles) : Pins m' r where
  toUnshared := h.toUnshared
  within raw hraw := ⟨(h.within raw hraw).1, Nat.le_trans (h.within raw hraw).2 hm.length_le⟩
  live x hx := by
    obtain ⟨v, hv, hfits⟩ := h.live x hx
    exact ⟨v, Machine.pinned?_of_prefix hm hv, hfits⟩

/-- A raw handle just made is taken charge of. -/
theorem adopt (h : Pins m r) {v : ScriptValue} {kind : HandleKind} (hfits : kind.Fits v) :
    Pins (m.pin v).2 (r.adopt (m.pin v).1 kind).2 := by
  have hold : Pins (m.pin v).2 r := h.extend (List.prefix_append _ _)
  -- A raw handle is a place in the table of the machine, and this one was not there before.
  have hnew : (m.pin v).1 ∉ r.owed := by
    intro hmem
    have := (h.within _ hmem).2
    simp only [Machine.pin] at this
    omega
  refine ⟨⟨h.valid.adopt _ kind, List.nodup_cons.mpr ⟨hnew, h.nodup⟩⟩, ?_, ?_⟩
  · intro raw hraw
    rcases List.mem_cons.mp hraw with rfl | hraw
    · simp [Machine.pin]
    · exact hold.within raw hraw
  · intro x hx
    rcases List.mem_cons.mp hx with rfl | hx
    · exact ⟨v, Machine.pinned?_pin m v, hfits⟩
    · exact hold.live x hx

theorem release (h : Pins m r) {raw : RawHandle} (hraw : raw ∉ r.owed) :
    Pins (InMemory.releaseHandle m raw) r where
  toUnshared := h.toUnshared
  within raw' hraw' := by simpa using h.within raw' hraw'
  live x hx := by
    have howed : x.2.raw ∈ r.owed := List.mem_append_left _ (List.mem_map_of_mem hx)
    have hne : x.2.raw ≠ raw := fun heq => hraw (heq ▸ howed)
    rw [Machine.pinned?_releaseHandle m hne]
    exact h.live x hx

theorem releaseAll (h : Pins m r) {raws : List RawHandle} (hraws : ∀ raw ∈ raws, raw ∉ r.owed) :
    Pins (raws.foldl Backend.releaseHandle m) r := by
  induction raws generalizing m with
  | nil => exact h
  | cons raw raws ih =>
    exact ih (h.release (hraws raw (by simp))) fun raw' h' => hraws raw' (by simp [h'])

theorem flush (h : Pins m r) : Pins (r.pending.foldl Backend.releaseHandle m) r.takePending.2 := by
  have hlive : r.takePending.2.owed = r.live.map (·.2.raw) := List.append_nil _
  have hkept : Pins m r.takePending.2 := by
    refine h.mono ⟨h.valid.nodup, h.valid.below⟩ ?_ fun _ hx => hx
    rw [hlive]
    exact (List.sublist_append_left _ _).subperm
  -- Nothing is owed twice, so nothing that waits is live as well.
  refine hkept.releaseAll fun raw hpending howed => ?_
  rw [hlive] at howed
  exact (List.nodup_append.mp h.nodup).2.2 raw howed raw hpending rfl

end Pins

/-- Since `m` and `r` more was pinned, and some handles were dropped. -/
def Grows (m : Machine) (r : HandleRegistry) (w : World HostState Machine) : Prop :=
  m.handles <+: w.vm.handles ∧ r.Queued w.host.handles

variable {m : Machine} {r : HandleRegistry} {w : World HostState Machine}

theorem Grows.pins (hw : Grows m r w) (h : Pins m r) : Pins w.vm w.host.handles :=
  (h.extend hw.1).queued hw.2

theorem Machine.slotFrame_handles : SlotFrame fun m m' : Machine => m'.handles = m.handles :=
  Machine.slotFrame_window.mono (fun _ _ h => by rw [h]) fun h h' => h'.trans h

theorem Machine.handles_setNewForeign {m m' : Machine} {slot classSlot : Nat} {token : Token}
    (h : Slots.setNewForeign m slot classSlot token = .ok m') : m'.handles = m.handles := by
  simp only [Slots.setNewForeign] at h
  split at h
  · cases h
    rfl
  · cases h

/-- Callbacks pin nothing. -/
theorem unbroken_grows (m : Machine) (r : HandleRegistry) :
    Unbroken (fun m m' : Machine => m'.handles = m.handles) (Grows m r) where
  frame := Machine.slotFrame_handles
  window hm hw := ⟨hm ▸ hw.1, hw.2⟩
  note _ hw := hw
  host halike hw := ⟨hw.1, hw.2.trans halike.handles⟩
  method _ _ hw := hw
  release _ _ hw := hw
  strand _ _ hw := hw
  place hm hw := ⟨Machine.handles_setNewForeign hm ▸ hw.1, hw.2⟩

theorem grows_collectGarbage (hw : Grows m r w) :
    Run.Leads (collectGarbage : Turn HostState Unit) w (fun _ => Grows m r) (Grows m r) := by
  unfold collectGarbage
  refine Run.Leads.get_bind ?_
  refine Run.Leads.bind (m := fun _ => Grows m r) (Run.Leads.modify hw) fun _ v hv => ?_
  exact Run.Leads.forM
    (fun token _ v hv => HostState.leads_finalize token (fun _ _ _ _ h => h) hv) hv

theorem invariant_grows (m : Machine) (r : HandleRegistry) :
    Invariant (fun _ => True) fun _ => Grows m r where
  scripts _ _ _ := trivial
  move _ hadds hw := ⟨hw.1.trans hadds.handles, hw.2⟩
  forge _ _ hw := hw
  bindMethod module className isStatic signature hw :=
    (unbroken_grows m r).bindMethod module className isStatic signature hw
  bindClass module className hw := (unbroken_grows m r).bindClass module className hw
  invoke id hw := (unbroken_grows m r).invoke id hw
  allocate id hw := (unbroken_grows m r).allocate id hw
  write text hw := (unbroken_grows m r).write text hw
  report event hw := HostState.leads_report event (fun _ _ h => h) hw
  collect hw := grows_collectGarbage hw

end InMemory

namespace VirtualMachine

variable {vm : VirtualMachine Machine}

/-- What the machine of a virtual machine pins for its handles until it is disposed of. -/
structure PinsHandles (vm : VirtualMachine Machine) : Prop where
  unshared : vm.world.host.handles.Unshared
  pins : vm.disposed = false → Pins vm.world.vm vm.world.host.handles

theorem PinsHandles.of_pins (h : Pins vm.world.vm vm.world.host.handles) : vm.PinsHandles :=
  ⟨h.toUnshared, fun _ => h⟩

theorem pins_released (h : Pins vm.world.vm vm.world.host.handles) {id : Nat} {entry : HandleEntry}
    (hentry : vm.world.host.handles.entry? id = some entry) :
    Pins (vm.released id entry.raw).world.vm (vm.released id entry.raw).world.host.handles := by
  have hforgotten : Pins vm.world.vm (vm.world.host.handles.remove id).2 := by
    rw [HandleRegistry.remove_of_entry hentry]
    exact h.forget id
  exact hforgotten.flush.release (h.not_mem_owed_remove hentry)

theorem upheld_pinsHandles :
    Upheld (fun _ => True) (fun m m' : Machine => m'.handles = m.handles) PinsHandles where
  frame := Machine.slotFrame_handles
  window hm h := ⟨h.unshared, fun halive => (h.pins halive).extend (hm ▸ List.prefix_refl _)⟩
  host hsame h := ⟨hsame.handles ▸ h.unshared, fun halive => hsame.handles ▸ h.pins halive⟩
  bind _ _ hadd h := by
    rw [HostState.addBinding_eq hadd]
    exact ⟨h.unshared, h.pins⟩
  entered halive h := .of_pins (h.pins halive).flush
  pin halive hpin h := by
    cases hpin
    exact .of_pins ((h.pins halive).adopt trivial)
  pinNothing hpin _ := by cases hpin
  make halive hmade h := by
    simp only [Backend.makeCallHandle, InMemory.makeCallHandle] at hmade
    split at hmade
    · cases hmade
    · split at hmade
      · cases hmade
      · split at hmade <;> cases hmade
        exact .of_pins ((h.pins halive).adopt ⟨_, rfl, rfl⟩)
  makeNothing hmade h := by
    simp only [Backend.makeCallHandle, InMemory.makeCallHandle] at hmade
    split at hmade
    · cases hmade
      exact h
    · split at hmade
      · cases hmade
      · split at hmade <;> cases hmade
        exact h
  release halive hentry h := .of_pins (pins_released (h.pins halive) hentry)
  drop handle h := ⟨h.unshared.queued ⟨[handle.id], rfl⟩,
    fun halive => (h.pins halive).queued ⟨[handle.id], rfl⟩⟩

open Op

/-- Disposal leaves nothing owed.  If a finalizer panics what was owed still is, but no raw
handle twice, and there is no machine any more that would pin anything. -/
theorem pinsHandles_dispose (h : vm.PinsHandles) :
    Leads (operate .dispose) vm (fun _ => PinsHandles) PinsHandles := by
  refine Leads.bind (leads_dispose (fun _ => h) fun _ => ?_) fun _ _ h => h
  have hclear : Run.Leads HostState.clearForeign vm.world
      (fun _ w => w.vm.handles = vm.world.vm.handles ∧ w.host.handles = vm.world.host.handles)
      fun w => w.vm.handles = vm.world.vm.handles ∧ w.host.handles = vm.world.host.handles :=
    HostState.leads_clearForeign (fun _ _ _ _ h => h) (fun _ _ h => h) ⟨rfl, rfl⟩
  refine hclear.mono (fun _ w hw => ?_) fun w hw => ?_
  · have hnothing : ∀ v : World HostState Machine,
        (drained w).host.handles.Queued v.host.handles →
          PinsHandles { vm with world := v, disposed := true } := by
      intro v hqueued
      have hpins : Pins v.vm v.host.handles := by
        rw [hqueued.eq_of_live_eq_nil rfl]
        exact .of_owed_eq_nil ⟨List.nodup_nil, fun _ hid => by cases hid⟩ rfl rfl
      exact .of_pins hpins
    exact (InMemory.leads_free (HostState.keeps_queued (drained w).host.handles) (.refl _)).mono
      (fun _ => hnothing) hnothing
  -- The panic came before the handles were drained.
  · have hfreed : ∀ v : World HostState Machine, w.host.handles.Queued v.host.handles →
        PinsHandles { vm with world := v, disposed := true } := by
      intro v hqueued
      rw [hw.2] at hqueued
      exact ⟨h.unshared.queued hqueued, fun halive => by cases halive⟩
    exact (InMemory.leads_free (HostState.keeps_queued w.host.handles) (.refl _)).mono
      (fun _ => hfreed) hfreed

/-- Everything that runs something keeps what handles pin. -/
theorem pinsHandles_run {operation : Operation Empty} (hrun : isRun operation = true)
    (h : vm.PinsHandles) : Leads (operate operation) vm (fun _ => PinsHandles) PinsHandles := by
  have hgrows := invariant_grows vm.entered.world.vm vm.entered.world.host.handles
  refine leads_run hrun h
    (fun halive => ⟨.of_pins (h.pins halive).flush, List.prefix_refl _, .refl _⟩)
    (fun module source _ hw => hgrows.interpret module source hw)
    (fun raw _ hw => hgrows.call raw hw) (fun _ hw => grows_collectGarbage hw)
    (fun halive w hw => ?_) (pinsHandles_dispose h)
  have hpins : Pins w.vm w.host.handles := hw.pins (h.pins halive).flush
  exact ⟨.of_pins hpins, fun _ => .of_pins hpins⟩

/-- Whatever is done with a virtual machine, every live handle pins a value of its kind. -/
theorem pins_after (config : Configuration) (owner : Nat) (machine : Machine)
    (steps : List Step) : ((new config owner machine).2.after steps).PinsHandles :=
  upheld_pinsHandles.after pinsHandles_run (fun _ _ _ => trivial)
    (.of_pins (Pins.of_owed_eq_nil (HandleRegistry.valid_empty owner) rfl rfl))

end VirtualMachine

end ScriptHost
