/-
The record of what became of objects and their finalizers.

`start.Recounts events runs w` says how the world got from `start` to `w`: what happened to
instances and objects, and which finalizers ran.  A finalizer runs when the machine finalizes
an instance whose object is still registered, and at no other time.  Where nothing had happened
before, and as long as tokens do not repeat, **`Recounts.settled`** reads off what became of
each object:

* its finalizer ran once if the object left the table because its instance was finalized, and
  has not run otherwise;
* it was given the object registered with it, which has not been changed since.
-/
import ScriptHost.Proofs.Finalizers
import ScriptHost.Proofs.InstanceOwnership

namespace ScriptHost

open InMemory

namespace Ownership

variable {events : List Event} {s : Ownership} {token token' : Token}
  {entry entry' : ForeignEntry Finalizer}

theorem Step.resolve?_of_released {s' : Ownership} (h : s.Step (.released token) s') :
    ∃ object, s.table.resolve? token = some object := by
  cases h with
  | released hobject => exact ⟨_, hobject⟩

/-- An object is registered once. -/
theorem Accounted.eq_of_object (h : Accounted events s)
    (hmem : (token, entry) ∈ registrations events)
    (hmem' : (token', entry') ∈ registrations events) (hobject : entry.object = entry'.object) :
    token = token' ∧ entry = entry' := by
  have hnodup : ((registrations events).map (·.2.object)).Nodup := by
    rw [h.objects]
    exact List.nodup_range
  exact Prod.mk.inj (List.inj_on_of_nodup_map hnodup hmem hmem' hobject)

theorem Accounted.object_lt (h : Accounted events s)
    (hmem : (token, entry) ∈ registrations events) : entry.object < s.objects := by
  rw [← List.mem_range, ← h.objects]
  exact List.mem_map_of_mem (f := fun r => r.2.object) hmem

namespace Resolved

theorem eq_of_registration (h : Resolved events s) (hmem : (token, entry) ∈ registrations events)
    (hmem' : (token, entry') ∈ registrations events) : entry = entry' :=
  (Prod.mk.inj (List.inj_on_of_nodup_map h.tokens hmem hmem' rfl)).2

/-- What left the table is resolved to by no token. -/
theorem resolve?_ne_of_gone (h : Resolved events s) (ha : Accounted events s)
    (hmem : (token, entry) ∈ registrations events)
    (hgone : .released token ∈ events ∨ .finalized token ∈ events) (t : Token) :
    s.table.resolve? t ≠ some entry.object := by
  intro hresolve
  obtain ⟨entry', hentry', hobject⟩ := Option.map_eq_some_iff.mp hresolve
  obtain ⟨rfl, -⟩ := ha.eq_of_object (h.known t entry' hentry') hmem hobject
  rw [(h.gone _ hgone).1] at hentry'
  cases hentry'

/-- Draining the table takes out what is registered, each object once. -/
theorem drain (h : Resolved events s) (ha : Accounted events s) (hbound : Bounded events) :
    (s.table.heap.drain.1.map (·.object)).Nodup ∧
      ∀ entry, entry ∈ s.table.heap.drain.1 ↔
        ∃ token, s.table.heap.get? token = some entry := by
  have hsound := ObjectHeap.sound_after (actions events) hbound.1
  have hagrees := ObjectHeap.agrees_ofRun (actions events) hbound.1
  rw [← ha.heap] at hsound hagrees
  rw [hagrees.drain_fst hsound]
  have hmem : ∀ e, e ∈ (Book.ofRun (actions events)).byPlace ↔
      e ∈ (Book.ofRun (actions events)).live :=
    fun e => (Book.ofRun (actions events)).byPlace_perm.mem_iff
  constructor
  · rw [List.map_map]
    refine List.Nodup.map_on ?_
      ((Book.ofRun (actions events)).byPlace_perm.nodup_iff.mpr hagrees.live_nodup)
    intro e he e' he' hobject
    -- Two live entries with one object are one registration, hence have one token.
    have hget := h.known _ _ (hagrees.get?_of_mem ((hmem e).mp he))
    have hget' := h.known _ _ (hagrees.get?_of_mem ((hmem e').mp he'))
    have htoken := (ha.eq_of_object hget hget' hobject).1
    exact hagrees.eq_of_place ((hmem e).mp he) ((hmem e').mp he') (by rw [htoken])
  · intro entry
    rw [List.mem_map]
    constructor
    · rintro ⟨e, he, rfl⟩
      exact ⟨e.token, hagrees.get?_of_mem ((hmem e).mp he)⟩
    · rintro ⟨token, hget⟩
      obtain ⟨e, he, -, hvalue⟩ := (hagrees.resolves token entry).mp hget
      exact ⟨e, (hmem e).mpr he, hvalue⟩

end Resolved

/-- Draining the table takes out what is registered by place. -/
theorem Accounted.drain_eq (ha : Accounted events s) (hbound : Bounded events)
    (hget : s.table.heap.get? token = some entry) :
    ∃ ahead behind, s.table.heap.drain.1 = ahead ++ entry :: behind ∧
      ∀ e, e ∈ ahead ↔ ∃ t, s.table.heap.get? t = some e ∧ t.place < token.place := by
  have hsound := ObjectHeap.sound_after (actions events) hbound.1
  have hagrees := ObjectHeap.agrees_ofRun (actions events) hbound.1
  rw [← ha.heap] at hsound hagrees
  obtain ⟨held, hheld, rfl, rfl⟩ := (hagrees.resolves token entry).mp hget
  have hmem : ∀ e, e ∈ (Book.ofRun (actions events)).byPlace ↔
      e ∈ (Book.ofRun (actions events)).live :=
    fun e => (Book.ofRun (actions events)).byPlace_perm.mem_iff
  obtain ⟨ahead, behind, hsplit⟩ := List.append_of_mem ((hmem held).mpr hheld)
  have hordered := hagrees.pairwise_byPlace
  rw [hsplit, List.pairwise_append, List.pairwise_cons] at hordered
  refine ⟨ahead.map (·.value), behind.map (·.value), ?_, fun e => ?_⟩
  · rw [hagrees.drain_fst hsound, hsplit, List.map_append, List.map_cons]
  · rw [List.mem_map]
    constructor
    · rintro ⟨held', hheld', rfl⟩
      refine ⟨held'.token, hagrees.get?_of_mem ((hmem held').mp ?_),
        hordered.2.2 held' hheld' held List.mem_cons_self⟩
      rw [hsplit]
      exact List.mem_append_left _ hheld'
    · rintro ⟨t, hget', hplace⟩
      obtain ⟨held', hheld', rfl, rfl⟩ := (hagrees.resolves t e).mp hget'
      have hin := (hmem held').mpr hheld'
      rw [hsplit, List.mem_append, List.mem_cons] at hin
      -- What is at an earlier place is neither the entry itself nor behind it.
      rcases hin with hin | rfl | hin
      · exact ⟨held', hin, rfl⟩
      · exact absurd hplace (Nat.lt_irrefl _)
      · exact absurd (hordered.2.1.1 held' hin) (Nat.lt_asymm hplace)

end Ownership

namespace World

/-- Between the two no finalizer ran, and what is no longer registered stayed as it was. -/
structure Steady (w w' : World HostState Machine) : Prop where
  finalizations : w'.vm.finalizations = w.vm.finalizations
  freed : w'.vm.freed = w.vm.freed
  objects : ∀ id object, w.host.objects.get? id = some object →
    (∀ token, w'.host.foreign.resolve? token ≠ some id) →
      w'.host.objects.get? id = some object

/-- What happened between two worlds, and the finalizers that ran. -/
inductive Recounts (start : World HostState Machine) :
    List Ownership.Event → List FinalizerRun → World HostState Machine → Prop
  | start : Recounts start [] [] start
  /-- Nothing happened to instances and the table. -/
  | quiet {events : List Ownership.Event} {runs : List FinalizerRun}
    {w w' : World HostState Machine} : Recounts start events runs w →
    w'.ownership = w.ownership → w.Steady w' → Recounts start events runs w'
  /-- Something did, but nothing was finalized. -/
  | happened {events : List Ownership.Event} {event : Ownership.Event}
    {runs : List FinalizerRun} {w w' : World HostState Machine} : Recounts start events runs w →
    w.ownership.Step event w'.ownership → (∀ token, event ≠ .finalized token) → w.Steady w' →
    Recounts start (events ++ [event]) runs w'
  /-- An instance given up was finalized, and with it the object, if it was still registered. -/
  | finalized {events : List Ownership.Event} {runs : List FinalizerRun}
    {w : World HostState Machine} {i : Nat} {inst : Instance} : Recounts start events runs w →
    w.vm.instances[i]? = some inst → i ∉ w.vm.tracked →
    Recounts start (events ++ [.finalized inst.token]) (runs ++ w.finalizing inst.token)
      (w.finalized inst.token)

/-- A finalization takes the entry out of the table, as far as instances are concerned. -/
theorem ownership_finalized (w : World HostState Machine) (token : Token) :
    (w.finalized token).ownership =
      { w.ownership with table := (w.ownership.table.finalize token).2 } := by
  have hreleases : (w.finalized token).vm.releases = w.vm.releases := Machine.releases_noted _ _
  unfold ownership
  rw [hreleases]
  rfl

namespace Recounts

variable {start w w' : World HostState Machine} {events events' : List Ownership.Event}
  {runs runs' : List FinalizerRun}

theorem evolves (h : start.Recounts events runs w) :
    start.ownership.Evolves events w.ownership := by
  induction h with
  | start => exact .refl
  | quiet _ hsame _ ih => exact hsame ▸ ih
  | happened _ hstep _ _ ih => exact ih.step hstep
  | finalized _ hinst hgiven ih =>
    rw [ownership_finalized]
    exact ih.step (.finalized hinst hgiven)

theorem trans (h : start.Recounts events runs w) (h' : w.Recounts events' runs' w') :
    start.Recounts (events ++ events') (runs ++ runs') w' := by
  induction h' with
  | start => simpa using h
  | quiet _ hsame hsteady ih => exact ih.quiet hsame hsteady
  | happened _ hstep hevent hsteady ih =>
    rw [← List.append_assoc]
    exact ih.happened hstep hevent hsteady
  | finalized _ hinst hgiven ih =>
    rw [← List.append_assoc, ← List.append_assoc]
    exact ih.finalized hinst hgiven

/-- The machine has been freed if it had been before. -/
theorem freed (h : start.Recounts events runs w) : w.vm.freed = start.vm.freed := by
  induction h with
  | start => rfl
  | quiet _ _ hsteady ih => exact hsteady.freed.trans ih
  | happened _ _ _ hsteady ih => exact hsteady.freed.trans ih
  | finalized _ _ _ ih => exact ih

/-- Each finalizer found the machine freed if it had been before. -/
theorem freed_of_mem (h : start.Recounts events runs w) {r : FinalizerRun} (hr : r ∈ runs) :
    r.freed = start.vm.freed := by
  induction h with
  | start => cases hr
  | quiet _ _ _ ih => exact ih hr
  | happened _ _ _ _ ih => exact ih hr
  | finalized h _ _ ih =>
    rcases List.mem_append.mp hr with hold | hnew
    · exact ih hold
    · exact (mem_finalizerRuns.mp hnew).2.2.trans h.freed

/-- Those that ran left their notes, and no others did. -/
theorem finalizations (h : start.Recounts events runs w) :
    w.vm.finalizations = start.vm.finalizations ++ runs.map (·.note) := by
  induction h with
  | start => simp
  | quiet _ _ hsteady ih => rw [hsteady.finalizations, ih]
  | happened _ _ _ hsteady ih => rw [hsteady.finalizations, ih]
  | finalized _ _ _ ih =>
    rw [World.finalized, Machine.finalizations_noted, ih, List.map_append, List.append_assoc]

end Recounts

end World

/-- The finalizations that were run for an object. -/
def ranFor (runs : List FinalizerRun) (object : ObjectId) : List (Finalization Finalizer) :=
  (runs.map (·.due)).filter (·.object = object)

@[simp] theorem ranFor_append (runs runs' : List FinalizerRun) (object : ObjectId) :
    ranFor (runs ++ runs') object = ranFor runs object ++ ranFor runs' object := by
  simp [ranFor]

theorem ranFor_eq_nil_iff {runs : List FinalizerRun} {object : ObjectId} :
    ranFor runs object = [] ↔ ∀ r ∈ runs, r.due.object ≠ object := by
  simp [ranFor]

/-- The finalization an entry asks for is that of its object. -/
theorem ForeignEntry.object_of_mem {e : ForeignEntry Finalizer} {due : Finalization Finalizer}
    (h : due ∈ e.finalizations) : due.object = e.object := by
  unfold ForeignEntry.finalizations at h
  split at h
  · rw [List.mem_singleton.mp h]
  · cases h

theorem ForeignEntry.length_finalizations_le (e : ForeignEntry Finalizer) :
    e.finalizations.length ≤ 1 := by
  unfold ForeignEntry.finalizations
  split <;> simp

theorem ForeignEntry.filter_finalizations (e : ForeignEntry Finalizer) :
    e.finalizations.filter (·.object = e.object) = e.finalizations := by
  rw [List.filter_eq_self]
  exact fun due hdue => decide_eq_true (e.object_of_mem hdue)

theorem ForeignRegistry.finalize_of_get?_eq_none {r : ForeignRegistry Finalizer} {token : Token}
    (h : r.heap.get? token = none) : (r.finalize token).1.2 = [] := by
  unfold ForeignRegistry.finalize
  rw [ObjectHeap.remove_of_get?_eq_none h]

theorem ForeignRegistry.finalize_of_get?_eq_some {r : ForeignRegistry Finalizer} {token : Token}
    {entry : ForeignEntry Finalizer} (h : r.heap.get? token = some entry) :
    (r.finalize token).1.2 = entry.finalizations := by
  have hremoved := r.heap.remove_fst token
  rw [h] at hremoved
  unfold ForeignRegistry.finalize
  rcases hremove : r.heap.remove token with ⟨_ | e, heap⟩ <;> rw [hremove] at hremoved <;>
    cases hremoved
  rfl

/-- What a record says of the finalizers that ran. -/
structure Settled (events : List Ownership.Event) (runs : List FinalizerRun)
    (w : World HostState Machine) : Prop where
  /-- Each was given the object it was due for, which has not been changed since. -/
  given : ∀ r ∈ runs, w.host.objects.get? r.due.object = some r.given
  /-- Each was that of an object whose instance was finalized before anybody released it. -/
  origin : ∀ r ∈ runs, ∃ token entry, (token, entry) ∈ Ownership.registrations events ∧
    r.due ∈ entry.finalizations ∧ .finalized token ∈ events ∧ .released token ∉ events
  /-- Each such object had its finalizer run, if there is one. -/
  ran : ∀ token entry, (token, entry) ∈ Ownership.registrations events →
    .finalized token ∈ events → .released token ∉ events →
    ranFor runs entry.object = entry.finalizations

namespace Settled

open Ownership

variable {events : List Event} {event : Event} {runs : List FinalizerRun}
  {w w' : World HostState Machine} {token : Token} {entry : ForeignEntry Finalizer}

theorem of_nothing (w : World HostState Machine) : Settled [] [] w :=
  ⟨by simp, by simp, fun _ _ h => by cases h⟩

/-- For any other object no finalizer ran. -/
theorem spared (h : Settled events runs w) (ha : Accounted events w.ownership)
    (hmem : (token, entry) ∈ registrations events)
    (hleft : .released token ∈ events ∨ .finalized token ∉ events) :
    ranFor runs entry.object = [] := by
  rw [ranFor_eq_nil_iff]
  intro r hr hobject
  obtain ⟨token', entry', hmem', hdue, hfinalized, hreleased⟩ := h.origin r hr
  rw [ForeignEntry.object_of_mem hdue] at hobject
  obtain ⟨rfl, -⟩ := ha.eq_of_object hmem' hmem hobject
  exact hleft.elim hreleased fun hnot => hnot hfinalized

/-- What was given to a finalizer is resolved to by no token. -/
theorem resolve?_ne (h : Settled events runs w) (ha : Accounted events w.ownership)
    (hr : Resolved events w.ownership) {r : FinalizerRun} (hmem : r ∈ runs) (t : Token) :
    w.host.foreign.resolve? t ≠ some r.due.object := by
  obtain ⟨token, entry, hentry, hdue, hfinalized, -⟩ := h.origin r hmem
  rw [ForeignEntry.object_of_mem hdue]
  exact hr.resolve?_ne_of_gone ha hentry (.inr hfinalized) t

/-- Nothing happened to instances and the table. -/
theorem quiet (h : Settled events runs w) (ha : Accounted events w.ownership)
    (hr : Resolved events w.ownership) (hsame : w'.ownership = w.ownership)
    (hsteady : w.Steady w') : Settled events runs w' := by
  refine ⟨fun r hmem => ?_, h.origin, h.ran⟩
  refine hsteady.objects _ _ (h.given r hmem) fun t => ?_
  have htable : w'.host.foreign = w.host.foreign := congrArg Ownership.table hsame
  rw [htable]
  exact h.resolve?_ne ha hr hmem t

/-- Something happened, but nothing was finalized. -/
theorem happened (h : Settled events runs w) (hr : Resolved events w.ownership)
    (hstep : w.ownership.Step event w'.ownership) (hevent : ∀ token, event ≠ .finalized token)
    (hsteady : w.Steady w') (ha' : Accounted (events ++ [event]) w'.ownership)
    (hr' : Resolved (events ++ [event]) w'.ownership) :
    Settled (events ++ [event]) runs w' := by
  have hfinalized : ∀ {token},
      .finalized token ∈ events ++ [event] → .finalized token ∈ events := by
    intro token hmem
    rcases List.mem_append.mp hmem with hold | hnew
    · exact hold
    · exact absurd (List.mem_singleton.mp hnew).symm (hevent token)
  have horigin : ∀ r ∈ runs, ∃ token entry, (token, entry) ∈ registrations (events ++ [event]) ∧
      r.due ∈ entry.finalizations ∧ .finalized token ∈ events ++ [event] ∧
      .released token ∉ events ++ [event] := by
    intro r hmem
    obtain ⟨token, entry, hentry, hdue, hfinal, hreleased⟩ := h.origin r hmem
    refine ⟨token, entry, ?_, hdue, List.mem_append_left _ hfinal, ?_⟩
    · rw [registrations_append]
      exact List.mem_append_left _ hentry
    · -- What was finalized is gone, and only what is there is released.
      rw [List.mem_append, List.mem_singleton]
      rintro (hold | rfl)
      · exact hreleased hold
      · obtain ⟨object, hobject⟩ := hstep.resolve?_of_released
        rw [ForeignRegistry.resolve?, (hr.gone token (.inr hfinal)).1] at hobject
        cases hobject
  refine ⟨fun r hmem => ?_, horigin, fun token entry hmem hfinal hreleased => ?_⟩
  · refine hsteady.objects _ _ (h.given r hmem) fun t => ?_
    obtain ⟨token, entry, hentry, hdue, hfinal, -⟩ := horigin r hmem
    rw [ForeignEntry.object_of_mem hdue]
    exact hr'.resolve?_ne_of_gone ha' hentry (.inr hfinal) t
  · have hfinal' := hfinalized hfinal
    obtain ⟨-, entry', hentry'⟩ := hr.gone token (.inr hfinal')
    have hsame : entry = entry' := by
      refine hr'.eq_of_registration hmem ?_
      rw [registrations_append]
      exact List.mem_append_left _ hentry'
    rw [hsame]
    exact h.ran token entry' hentry' hfinal' fun hold => hreleased (List.mem_append_left _ hold)

/-- A finalizer that runs for an instance is the one its entry asks for. -/
theorem mem_finalizing {r : FinalizerRun} (h : r ∈ w.finalizing token) :
    ∃ entry, w.host.foreign.heap.get? token = some entry ∧ r.due ∈ entry.finalizations := by
  have hdue := (mem_finalizerRuns.mp h).1
  cases hget : w.host.foreign.heap.get? token with
  | none =>
    rw [ForeignRegistry.finalize_of_get?_eq_none hget] at hdue
    cases hdue
  | some entry =>
    rw [ForeignRegistry.finalize_of_get?_eq_some hget] at hdue
    exact ⟨entry, rfl, hdue⟩

/-- What is in the table has not left it. -/
theorem not_gone (hr : Resolved events w.ownership)
    (hget : w.host.foreign.heap.get? token = some entry) :
    .released token ∉ events ∧ .finalized token ∉ events := by
  refine not_or.mp fun hgone => ?_
  have hnone : w.host.foreign.heap.get? token = none := (hr.gone token hgone).1
  rw [hget] at hnone
  cases hnone

/-- The object of what was registered is there. -/
theorem isSome_get? (ha : Accounted events w.ownership)
    (hmem : (token, entry) ∈ registrations events) {due : Finalization Finalizer}
    (hdue : due ∈ entry.finalizations) : (w.host.objects.get? due.object).isSome = true := by
  have hlt : entry.object < w.host.objects.cells.length := ha.object_lt hmem
  rw [ForeignEntry.object_of_mem hdue, ObjectStore.get?, List.getElem?_eq_getElem hlt]
  rfl

/-- Finalizing an instance runs no finalizer of another object. -/
theorem ranFor_finalizing_of_ne (ha : Accounted events w.ownership)
    (hr : Resolved events w.ownership) (hmem : (token, entry) ∈ registrations events)
    {token' : Token} (hne : token ≠ token') : ranFor (w.finalizing token') entry.object = [] := by
  rw [ranFor_eq_nil_iff]
  intro r hrun hobject
  obtain ⟨entry', hget, hdue⟩ := mem_finalizing hrun
  rw [ForeignEntry.object_of_mem hdue] at hobject
  exact hne (ha.eq_of_object hmem (hr.known token' entry' hget) hobject.symm).1

/-- An object nobody released has had its finalizer run once its instance is finalized. -/
theorem ranFor_append_finalizing (h : Settled events runs w) (ha : Accounted events w.ownership)
    (hr : Resolved events w.ownership) (hmem : (token, entry) ∈ registrations events)
    (hreleased : .released token ∉ events) :
    ranFor (runs ++ w.finalizing token) entry.object = entry.finalizations := by
  rw [ranFor_append]
  -- If it was finalized before, its finalizer ran then and there is nothing left to find.
  by_cases hfinal : .finalized token ∈ events
  · have hnone : ranFor (w.finalizing token) entry.object = [] := by
      refine ranFor_eq_nil_iff.mpr fun r hrun => ?_
      obtain ⟨_, hget, -⟩ := mem_finalizing hrun
      exact absurd hfinal (not_gone hr hget).2
    rw [h.ran token entry hmem hfinal hreleased, hnone, List.append_nil]
  · have hget : w.host.foreign.heap.get? token = some entry :=
      hr.kept token entry hmem hreleased hfinal
    have hdues : (w.finalizing token).map (·.due) = entry.finalizations := by
      rw [World.finalizing, ForeignRegistry.finalize_of_get?_eq_some hget]
      exact map_due_finalizerRuns _ fun _ => isSome_get? ha hmem
    rw [h.spared ha hmem (.inr hfinal), ranFor, hdues, entry.filter_finalizations,
      List.nil_append]

/-- An instance was finalized. -/
theorem finalized (h : Settled events runs w) (ha : Accounted events w.ownership)
    (hr : Resolved events w.ownership) (token : Token) :
    Settled (events ++ [.finalized token]) (runs ++ w.finalizing token) (w.finalized token) := by
  have hregistrations : registrations (events ++ [.finalized token]) = registrations events :=
    filterMap_append_of_none events rfl
  have hreleased : ∀ {t}, .released t ∈ events ++ [.finalized token] ↔ .released t ∈ events := by
    simp
  refine ⟨fun r hmem => ?_, fun r hmem => ?_, fun t e hmem hfinal hnot => ?_⟩
  · rcases List.mem_append.mp hmem with hmem | hmem
    · exact h.given r hmem
    · exact (mem_finalizerRuns.mp hmem).2.1
  · simp only [hregistrations, hreleased]
    rcases List.mem_append.mp hmem with hmem | hmem
    · obtain ⟨t, e, hentry, hdue, hfinal, hnot⟩ := h.origin r hmem
      exact ⟨t, e, hentry, hdue, List.mem_append_left _ hfinal, hnot⟩
    · obtain ⟨e, hget, hdue⟩ := mem_finalizing hmem
      exact ⟨token, e, hr.known token e hget, hdue, by simp, (not_gone hr hget).1⟩
  · rw [hregistrations] at hmem
    rw [hreleased] at hnot
    -- For the other objects nothing ran that had not run before.
    by_cases hsame : t = token
    · subst hsame
      exact h.ranFor_append_finalizing ha hr hmem hnot
    · have hfinal' : .finalized t ∈ events := by simpa [hsame] using hfinal
      rw [ranFor_append, ranFor_finalizing_of_ne ha hr hmem hsame, List.append_nil]
      exact h.ran t e hmem hfinal' hnot

end Settled

/-- What a record of all that happened says of the finalizers that ran. -/
theorem World.Recounts.settled {start w : World HostState Machine}
    {events : List Ownership.Event} {runs : List FinalizerRun}
    (h : start.Recounts events runs w) (hstart : start.ownership = .fresh)
    (hbound : Ownership.Bounded events) : Settled events runs w := by
  have haccounts : ∀ {events runs w}, start.Recounts events runs w →
      Ownership.Accounted events w.ownership :=
    fun h => .of_evolves (hstart ▸ h.evolves)
  have hresolves : ∀ {events runs w}, start.Recounts events runs w →
      Ownership.Bounded events → Ownership.Resolved events w.ownership :=
    fun h => .of_evolves (hstart ▸ h.evolves)
  -- Each moment of the record is settled because the one before it is.
  induction h with
  | start => exact .of_nothing start
  | quiet h hsame hsteady ih =>
    exact (ih hbound).quiet (haccounts h) (hresolves h hbound) hsame hsteady
  | happened h hstep hevent hsteady ih =>
    have h' := h.happened hstep hevent hsteady
    exact (ih hbound.of_append).happened (hresolves h hbound.of_append) hstep hevent hsteady
      (haccounts h') (hresolves h' hbound)
  | finalized h hinst hgiven ih =>
    exact (ih hbound.of_append).finalized (haccounts h) (hresolves h hbound.of_append) _

/-! ### Finalizing what is left -/

/-- The finalizer of an entry is started once those ahead of it have run, whether it panics or
not. -/
theorem ForeignEntry.started_append (e : ForeignEntry Finalizer)
    (later : List (Finalization Finalizer)) :
    ∃ rest, started (e.finalizations ++ later) = e.finalizations ++ rest ∧ rest <+: later := by
  unfold ForeignEntry.finalizations
  cases e.finalizer with
  | none => exact ⟨started later, rfl, prefixOf_started later⟩
  | some f =>
    show ∃ rest, _ :: (if f.panics then [] else started later) = _ ∧ _
    cases f.panics with
    | true => exact ⟨[], rfl, List.nil_prefix⟩
    | false => exact ⟨started later, rfl, prefixOf_started later⟩

/-- None of the finalizations that entries of other objects ask for is that of an object. -/
theorem filter_eq_nil_of_entries {entries : List (ForeignEntry Finalizer)} {object : ObjectId}
    (hother : ∀ e ∈ entries, e.object ≠ object) {dues : List (Finalization Finalizer)}
    (hdues : dues ⊆ entries.flatMap (·.finalizations)) :
    dues.filter (·.object = object) = [] := by
  rw [List.filter_eq_nil_iff]
  intro due hdue hsame
  obtain ⟨e, he, hasked⟩ := List.mem_flatMap.mp (hdues hdue)
  rw [decide_eq_true_eq, e.object_of_mem hasked] at hsame
  exact hother e he hsame

namespace Ownership

/-- By the record, a finalizer that panics is due ahead of that of a token: its object is still
registered, at an earlier place of the table. -/
def Forestalled (events : List Event) (token : Token) : Prop :=
  ∃ token' entry, (token', entry) ∈ registrations events ∧ .released token' ∉ events ∧
    .finalized token' ∉ events ∧ token'.place < token.place ∧
    ∃ due ∈ entry.finalizations, due.finalizer.panics = true

end Ownership

namespace Settled

open Ownership

variable {events : List Event} {runs : List FinalizerRun} {w : World HostState Machine}
  {token : Token} {entry : ForeignEntry Finalizer}

/-- What is finalized in the end is what is still registered. -/
theorem mem_clear (hr : Resolved events w.ownership) (ha : Accounted events w.ownership)
    (hbound : Bounded events) {due : Finalization Finalizer} (hdue : due ∈ w.host.foreign.clear.1) :
    ∃ token entry, w.host.foreign.heap.get? token = some entry ∧ due ∈ entry.finalizations := by
  obtain ⟨entry, hentry, hdue⟩ := List.mem_flatMap.mp hdue
  obtain ⟨token, hget⟩ := ((hr.drain ha hbound).2 entry).mp hentry
  exact ⟨token, entry, hget, hdue⟩

/-- All finalizers that are started in the end run. -/
theorem map_due_clearing (hr : Resolved events w.ownership) (ha : Accounted events w.ownership)
    (hbound : Bounded events) :
    w.clearing.map (·.due) = started w.host.foreign.clear.1 := by
  refine map_due_finalizerRuns _ fun due hdue => ?_
  obtain ⟨token, entry, hget, hdue⟩ :=
    mem_clear hr ha hbound ((prefixOf_started _).subset hdue)
  exact isSome_get? ha (hr.known token entry hget) hdue

/-- Of what is finalized in the end, ahead of an object still registered come those at earlier
places. -/
theorem clear_eq (hr : Resolved events w.ownership) (ha : Accounted events w.ownership)
    (hbound : Bounded events) (hget : w.host.foreign.heap.get? token = some entry) :
    ∃ ahead behind : List (ForeignEntry Finalizer),
      w.host.foreign.clear.1 = ahead.flatMap (·.finalizations) ++
        (entry.finalizations ++ behind.flatMap (·.finalizations)) ∧
      (∀ e ∈ ahead ++ behind, e.object ≠ entry.object) ∧
      ((∃ due ∈ ahead.flatMap (·.finalizations), due.finalizer.panics = true) ↔
        Forestalled events token) := by
  obtain ⟨ahead, behind, hdrain, hahead⟩ := ha.drain_eq hbound hget
  have hnodup := (hr.drain ha hbound).1
  rw [hdrain, List.map_append, List.map_cons, List.nodup_middle, List.nodup_cons,
    ← List.map_append] at hnodup
  refine ⟨ahead, behind, ?_, fun e he hobject => ?_, ?_⟩
  · show w.ownership.table.heap.drain.1.flatMap (·.finalizations) = _
    rw [hdrain, List.flatMap_append, List.flatMap_cons]
  · exact hnodup.1 (List.mem_map.mpr ⟨e, he, hobject⟩)
  -- Those ahead are the entries still registered at earlier places, which is what the record can
  -- tell.
  · simp only [List.mem_flatMap, hahead, Forestalled]
    constructor
    · rintro ⟨due, ⟨e, ⟨t, hget', hplace⟩, hdue⟩, hpanics⟩
      obtain ⟨hreleased, hfinalized⟩ := not_gone hr hget'
      exact ⟨t, e, hr.known t e hget', hreleased, hfinalized, hplace, due, hdue, hpanics⟩
    · rintro ⟨t, e, hmem, hreleased, hfinalized, hplace, due, hdue, hpanics⟩
      exact ⟨due, ⟨e, ⟨t, hr.kept t e hmem hreleased hfinalized, hplace⟩, hdue⟩, hpanics⟩

/-- In the end the finalizer of an object still registered runs, unless one ahead of it panics. -/
theorem ranFor_clearing_of_get? (hr : Resolved events w.ownership)
    (ha : Accounted events w.ownership) (hbound : Bounded events)
    (hget : w.host.foreign.heap.get? token = some entry) :
    (¬Forestalled events token → ranFor w.clearing entry.object = entry.finalizations) ∧
      (Forestalled events token → ranFor w.clearing entry.object = []) := by
  obtain ⟨ahead, behind, hclear, hother, hpanics⟩ := clear_eq hr ha hbound hget
  have hahead : ∀ e ∈ ahead, e.object ≠ entry.object :=
    fun e he => hother e (List.mem_append_left _ he)
  have hbehind : ∀ e ∈ behind, e.object ≠ entry.object :=
    fun e he => hother e (List.mem_append_right _ he)
  rw [ranFor, map_due_clearing hr ha hbound, hclear, ← hpanics]
  constructor
  · intro hcalm
    have hcalm' : ∀ d ∈ ahead.flatMap (·.finalizations), d.finalizer.panics = false :=
      fun d hd => Bool.eq_false_iff.mpr fun hd' => hcalm ⟨d, hd, hd'⟩
    -- Nothing ahead of it panics, so its own finalizer is started; what follows is for other
    -- objects.
    obtain ⟨rest, hstarted, hrest⟩ :=
      entry.started_append (behind.flatMap (·.finalizations))
    rw [started_append_of_calm hcalm', hstarted, List.filter_append, List.filter_append,
      filter_eq_nil_of_entries hahead (List.Subset.refl _), entry.filter_finalizations,
      filter_eq_nil_of_entries hbehind hrest.subset, List.nil_append, List.append_nil]
  · intro hahead'
    rw [started_append_of_panics hahead']
    exact filter_eq_nil_of_entries hahead (prefixOf_started _).subset

/-- Nothing that left the table before is finalized in the end. -/
theorem ranFor_clearing_of_gone (hr : Resolved events w.ownership)
    (ha : Accounted events w.ownership) (hbound : Bounded events)
    (hmem : (token, entry) ∈ registrations events)
    (hgone : .released token ∈ events ∨ .finalized token ∈ events) :
    ranFor w.clearing entry.object = [] := by
  rw [ranFor_eq_nil_iff]
  intro r hrun hobject
  obtain ⟨t, e, hget, hdue⟩ :=
    mem_clear hr ha hbound ((prefixOf_started _).subset (mem_finalizerRuns.mp hrun).1)
  rw [ForeignEntry.object_of_mem hdue] at hobject
  refine hr.resolve?_ne_of_gone ha hmem hgone t ?_
  rw [← hobject]
  exact congrArg (Option.map (·.object)) hget

section

variable {last : List FinalizerRun}

private theorem ranFor_last_of_gone (hr : Resolved events w.ownership)
    (ha : Accounted events w.ownership) (hbound : Bounded events) (hlast : last ⊆ w.clearing)
    (hmem : (token, entry) ∈ registrations events)
    (hgone : .released token ∈ events ∨ .finalized token ∈ events) :
    ranFor last entry.object = [] := by
  have hnone := ranFor_eq_nil_iff.mp (ranFor_clearing_of_gone hr ha hbound hmem hgone)
  exact ranFor_eq_nil_iff.mpr fun r hrun => hnone r (hlast hrun)

/-- The finalizer of an object released early does not run in the end either. -/
theorem ranFor_append_of_released (h : Settled events runs w) (hr : Resolved events w.ownership)
    (ha : Accounted events w.ownership) (hbound : Bounded events) (hlast : last ⊆ w.clearing)
    (hmem : (token, entry) ∈ registrations events) (hreleased : .released token ∈ events) :
    ranFor (runs ++ last) entry.object = [] := by
  rw [ranFor_append, h.spared ha hmem (.inl hreleased),
    ranFor_last_of_gone hr ha hbound hlast hmem (.inl hreleased)]
  rfl

/-- That of an object whose instance was collected does not run again. -/
theorem ranFor_append_of_finalized (h : Settled events runs w) (hr : Resolved events w.ownership)
    (ha : Accounted events w.ownership) (hbound : Bounded events) (hlast : last ⊆ w.clearing)
    (hmem : (token, entry) ∈ registrations events) (hreleased : .released token ∉ events)
    (hfinal : .finalized token ∈ events) :
    ranFor (runs ++ last) entry.object = entry.finalizations := by
  rw [ranFor_append, h.ran token entry hmem hfinal hreleased,
    ranFor_last_of_gone hr ha hbound hlast hmem (.inr hfinal), List.append_nil]

/-- That of an object still registered can run in the end only. -/
theorem ranFor_append_of_kept (h : Settled events runs w) (ha : Accounted events w.ownership)
    (hmem : (token, entry) ∈ registrations events) (hfinal : .finalized token ∉ events) :
    ranFor (runs ++ last) entry.object = ranFor last entry.object := by
  rw [ranFor_append, h.spared ha hmem (.inr hfinal), List.nil_append]

theorem registered_append (h : Settled events runs w) (hr : Resolved events w.ownership)
    (ha : Accounted events w.ownership) (hbound : Bounded events) (hlast : last ⊆ w.clearing) :
    ∀ r ∈ runs ++ last, ∃ token entry, (token, entry) ∈ registrations events ∧
      r.due ∈ entry.finalizations := by
  intro r hmem
  rcases List.mem_append.mp hmem with hold | hnew
  · obtain ⟨token, entry, hentry, hdue, -, -⟩ := h.origin r hold
    exact ⟨token, entry, hentry, hdue⟩
  · obtain ⟨token, entry, hget, hdue⟩ := mem_clear hr ha hbound
      ((prefixOf_started _).subset (mem_finalizerRuns.mp (hlast hnew)).1)
    exact ⟨token, entry, hr.known token entry hget, hdue⟩

theorem given_append (h : Settled events runs w) (hlast : last ⊆ w.clearing) :
    ∀ r ∈ runs ++ last, w.host.objects.get? r.due.object = some r.given := by
  intro r hmem
  rcases List.mem_append.mp hmem with hold | hnew
  · exact h.given r hold
  · exact (mem_finalizerRuns.mp (hlast hnew)).2.1

/-- Those that ran for an object are all that its entry asks for, or none. -/
theorem ranFor_append_cases (h : Settled events runs w) (hr : Resolved events w.ownership)
    (ha : Accounted events w.ownership) (hbound : Bounded events) (hlast : last ⊆ w.clearing)
    (hkept : ∀ token entry, w.host.foreign.heap.get? token = some entry →
      ranFor last entry.object = [] ∨ ranFor last entry.object = entry.finalizations)
    (hmem : (token, entry) ∈ registrations events) :
    ranFor (runs ++ last) entry.object = [] ∨
      ranFor (runs ++ last) entry.object = entry.finalizations := by
  by_cases hreleased : .released token ∈ events
  · exact .inl (h.ranFor_append_of_released hr ha hbound hlast hmem hreleased)
  · by_cases hfinal : .finalized token ∈ events
    · exact .inr (h.ranFor_append_of_finalized hr ha hbound hlast hmem hreleased hfinal)
    · rw [h.ranFor_append_of_kept ha hmem hfinal]
      exact hkept token entry (hr.kept token entry hmem hreleased hfinal)

end

end Settled

/-- As long as no object had two finalizations run for it, none had its finalizer run twice. -/
theorem nodup_of_length_ranFor_le {runs : List FinalizerRun}
    (h : ∀ r ∈ runs, (ranFor runs r.due.object).length ≤ 1) :
    (runs.map (·.due.object)).Nodup := by
  rw [List.nodup_iff_count_le_one]
  intro object
  have hcount : (runs.map (·.due.object)).count object = (ranFor runs object).length := by
    rw [ranFor, List.filter_map, List.length_map, List.count_eq_length_filter, List.filter_map,
      List.length_map]
    rfl
  rw [hcount]
  -- An object that nothing ran for is counted nowhere.
  by_cases hran : ∃ r ∈ runs, r.due.object = object
  · obtain ⟨r, hr, rfl⟩ := hran
    exact h r hr
  · have hnil : ranFor runs object = [] :=
      ranFor_eq_nil_iff.mpr fun r hr hobject => hran ⟨r, hr, hobject⟩
    rw [hnil]
    exact Nat.zero_le _

end ScriptHost
