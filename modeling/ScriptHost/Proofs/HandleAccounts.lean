/-
The account of raw handles.

An `Account` is what a registry of handles knows together with the record of what has been
handed out and given back.  It is `Balanced` if everything handed out was given back or is
still owed.  The ways an account moves are few: a raw handle is taken charge of, handles are
dropped, the machine is entered, which settles what is pending first, or everything is
drained.  All of them keep the balance:

* **`Balanced.adopted`**, **`Balanced.queued`**, **`Balanced.entered`**,
  **`Balanced.drained`** — the balance, one way after the other;
* **`Queued.dropped`** — what dropping handles comes to.
-/
import ScriptHost.Proofs.HandleLedger

namespace ScriptHost

namespace HandleRegistry

/-- The raw handles owed to the machine: those of live handles, and those waiting. -/
def owed (r : HandleRegistry) : List RawHandle :=
  r.live.map (·.2.raw) ++ r.pending

/-- No number is given twice. -/
structure Valid (r : HandleRegistry) : Prop where
  nodup : (r.live.map (·.1)).Nodup
  below : ∀ id ∈ r.live.map (·.1), id < r.nextId

theorem valid_empty (owner : Nat) : (empty owner).Valid :=
  ⟨List.nodup_nil, fun _ h => by cases h⟩

theorem Valid.adopt {r : HandleRegistry} (hr : r.Valid) (raw : RawHandle) (kind : HandleKind) :
    (r.adopt raw kind).2.Valid := by
  refine ⟨List.nodup_cons.mpr ⟨fun h => ?_, hr.nodup⟩, ?_⟩
  · exact Nat.lt_irrefl _ (hr.below _ h)
  · intro id hid
    rcases List.mem_cons.mp hid with rfl | hid
    · exact Nat.lt_succ_self _
    · exact Nat.lt_succ_of_lt (hr.below id hid)

theorem Valid.forget {r : HandleRegistry} (hr : r.Valid) (id : Nat) : (r.forget id).Valid := by
  have hsub : (r.forget id).live.Sublist r.live := List.filter_sublist
  exact ⟨(hsub.map _).nodup hr.nodup, fun id' h => hr.below id' ((hsub.map _).subset h)⟩

theorem mem_live_of_entry {r : HandleRegistry} {id : Nat} {entry : HandleEntry}
    (h : r.entry? id = some entry) : (id, entry) ∈ r.live := by
  obtain ⟨before, after, hlive, -⟩ := List.lookup_eq_some_iff.mp h
  simp [hlive]

theorem remove_of_entry {r : HandleRegistry} {id : Nat} {entry : HandleEntry}
    (h : r.entry? id = some entry) : (r.remove id).2 = r.forget id := by
  simp [remove, h]

/-- A live entry stands apart from the others. -/
theorem Valid.perm_forget {r : HandleRegistry} (hr : r.Valid) {id : Nat} {entry : HandleEntry}
    (h : r.entry? id = some entry) : r.live.Perm ((id, entry) :: (r.forget id).live) := by
  obtain ⟨before, after, hlive, hbefore⟩ := List.lookup_eq_some_iff.mp h
  have hnodup := hr.nodup
  rw [hlive, List.map_append, List.map_cons, List.nodup_append] at hnodup
  -- Looking up finds the first entry of a number; no later one has it either.
  have hafter : ∀ x ∈ after, x.1 ≠ id := by
    intro x hx heq
    exact (List.nodup_cons.mp hnodup.2.1).1 (List.mem_map.mpr ⟨x, hx, heq⟩)
  have hkeep : (r.forget id).live = before ++ after := by
    show r.live.filter (fun x => x.1 ≠ id) = _
    rw [hlive, List.filter_append, List.filter_cons_of_neg (by simp)]
    rw [List.filter_eq_self.mpr, List.filter_eq_self.mpr]
    · intro x hx
      simpa using hafter x hx
    · intro x hx
      have hne : id ≠ x.1 := by simpa using hbefore x hx
      simpa using Ne.symm hne
  rw [hkeep, hlive]
  exact List.perm_middle

/-- What dropping some handles comes to: their entries are gone, and their raw handles wait
behind those that waited before. -/
structure Dropped (r r' : HandleRegistry) (raws : List RawHandle) : Prop where
  owner : r'.owner = r.owner
  nextId : r'.nextId = r.nextId
  live : r'.live.Sublist r.live
  pending : r'.pending = r.pending ++ raws
  split : (r.live.map (·.2.raw)).Perm (raws ++ r'.live.map (·.2.raw))
  gone : ∀ x ∈ r.live, x ∉ r'.live → x.2.raw ∈ raws

theorem Dropped.valid {r r' : HandleRegistry} {raws : List RawHandle} (h : r.Dropped r' raws)
    (hr : r.Valid) : r'.Valid := by
  refine ⟨(h.live.map _).nodup hr.nodup, ?_⟩
  intro id hid
  rw [h.nextId]
  exact hr.below id ((h.live.map _).subset hid)

theorem Dropped.refl (r : HandleRegistry) : r.Dropped r [] :=
  ⟨rfl, rfl, .refl _, by simp, by simp, fun _ h h' => absurd h h'⟩

theorem Dropped.trans {r r' r'' : HandleRegistry} {raws raws' : List RawHandle}
    (h : r.Dropped r' raws) (h' : r'.Dropped r'' raws') : r.Dropped r'' (raws ++ raws') := by
  refine ⟨h'.owner.trans h.owner, h'.nextId.trans h.nextId, h'.live.trans h.live, ?_, ?_, ?_⟩
  · rw [h'.pending, h.pending, List.append_assoc]
  · rw [List.append_assoc]
    exact h.split.trans (h'.split.append_left raws)
  · intro x hx hgone
    by_cases hx' : x ∈ r'.live
    · exact List.mem_append_right _ (h'.gone x hx' hgone)
    · exact List.mem_append_left _ (h.gone x hx hx')

theorem Valid.dropped_queueRelease {r : HandleRegistry} (hr : r.Valid) (id : Nat) :
    r.Dropped (r.queueRelease id) ((r.entry? id).map (·.raw)).toList := by
  unfold queueRelease
  cases hentry : r.entry? id with
  | none => exact .refl r
  | some entry =>
    have hperm := hr.perm_forget hentry
    refine ⟨rfl, rfl, List.filter_sublist, rfl, hperm.map _, ?_⟩
    intro x hx hgone
    rcases List.mem_cons.mp (hperm.mem_iff.mp hx) with rfl | hx
    · simp
    · exact absurd hx hgone

theorem Queued.dropped {r r' : HandleRegistry} (h : r.Queued r') (hr : r.Valid) :
    ∃ raws, r.Dropped r' raws := by
  obtain ⟨ids, rfl⟩ := h
  induction ids generalizing r with
  | nil => exact ⟨[], .refl r⟩
  | cons id ids ih =>
    have hfirst := hr.dropped_queueRelease id
    obtain ⟨raws, hrest⟩ := ih (hfirst.valid hr)
    exact ⟨_, hfirst.trans hrest⟩

/-- Where no handle is live there is none to drop. -/
theorem Queued.eq_of_live_eq_nil {r r' : HandleRegistry} (h : r.Queued r') (hr : r.live = []) :
    r' = r := by
  obtain ⟨ids, rfl⟩ := h
  induction ids with
  | nil => rfl
  | cons id ids ih =>
    have hnone : r.queueRelease id = r := by simp [queueRelease, entry?, hr]
    rw [List.foldl_cons, hnone]
    exact ih

theorem Dropped.owed {r r' : HandleRegistry} {raws : List RawHandle} (h : r.Dropped r' raws) :
    r.owed.Perm r'.owed := by
  unfold HandleRegistry.owed
  rw [h.pending]
  calc r.live.map (·.2.raw) ++ r.pending
      |>.Perm ((raws ++ r'.live.map (·.2.raw)) ++ r.pending) := h.split.append_right _
    _ |>.Perm ((r'.live.map (·.2.raw) ++ raws) ++ r.pending) :=
        List.perm_append_comm.append_right _
    _ |>.Perm (r'.live.map (·.2.raw) ++ (r.pending ++ raws)) := by
        rw [List.append_assoc]
        exact List.perm_append_comm.append_left _

end HandleRegistry

/-- A registry together with what became of the raw handles. -/
structure Account where
  registry : HandleRegistry
  entries : List LedgerEntry

namespace Account

/-- Everything handed out was given back or is owed. -/
def Balanced (a : Account) : Prop :=
  (Ledger.handedOut a.entries).Perm (Ledger.givenBack a.entries ++ a.registry.owed)

/-- What is waiting is given back. -/
def flushed (a : Account) : Account :=
  ⟨a.registry.takePending.2, a.entries ++ a.registry.pending.map .givenBack⟩

/-- A raw handle is handed out and taken charge of. -/
def adopted (a : Account) (raw : RawHandle) (kind : HandleKind) : Account :=
  ⟨(a.registry.adopt raw kind).2, a.entries ++ [.handedOut raw]⟩

/-- A live handle is given back. -/
def released (a : Account) (id : Nat) (raw : RawHandle) : Account :=
  ⟨a.registry.forget id, a.entries ++ [.givenBack raw]⟩

/-- Everything owed is given back, and the machine is freed. -/
def drained (a : Account) : Account :=
  ⟨a.registry.drain.2, a.entries ++ a.registry.owed.map .givenBack ++ [.freed]⟩

/-- The machine is freed with all that is owed to it, some handles having been dropped. -/
def Abandoned (a a' : Account) : Prop :=
  a.registry.Queued a'.registry ∧ a'.entries = a.entries ++ [.freed]

/-- What was handed out in between, one raw handle at most, is live under a new number. -/
def Takes (a a' : Account) : Prop :=
  (Ledger.handedOut a'.entries = Ledger.handedOut a.entries ∧
    a'.registry.live.Sublist a.registry.live) ∨
  ∃ raw kind, Ledger.handedOut a'.entries = Ledger.handedOut a.entries ++ [raw] ∧
    a'.registry.live = (a.registry.nextId, ⟨raw, kind⟩) :: a.registry.live

/-- What becomes of an account when the machine is entered; the list is what is given back
besides what was waiting. -/
inductive Entered (a : Account) : List RawHandle → Account → Prop
  | ran {r : HandleRegistry} : a.flushed.registry.Queued r → Entered a [] ⟨r, a.flushed.entries⟩
  | adopted (raw : RawHandle) (kind : HandleKind) : Entered a [] (a.flushed.adopted raw kind)
  | released {id : Nat} {entry : HandleEntry} : a.registry.entry? id = some entry →
    Entered a [entry.raw] (a.flushed.released id entry.raw)

end Account

namespace Ledger

@[simp] theorem handedOut_append (xs ys : List LedgerEntry) :
    handedOut (xs ++ ys) = handedOut xs ++ handedOut ys :=
  List.filterMap_append

@[simp] theorem givenBack_append (xs ys : List LedgerEntry) :
    givenBack (xs ++ ys) = givenBack xs ++ givenBack ys :=
  List.filterMap_append

@[simp] theorem handedOut_map_givenBack (raws : List RawHandle) :
    handedOut (raws.map .givenBack) = [] := by
  simp [handedOut]

@[simp] theorem givenBack_map_givenBack (raws : List RawHandle) :
    givenBack (raws.map .givenBack) = raws := by
  unfold givenBack
  rw [List.filterMap_map]
  exact List.filterMap_some

@[simp] theorem handedOut_handedOut (raw : RawHandle) : handedOut [.handedOut raw] = [raw] := rfl

@[simp] theorem givenBack_handedOut (raw : RawHandle) : givenBack [.handedOut raw] = [] := rfl

@[simp] theorem handedOut_givenBack (raw : RawHandle) : handedOut [.givenBack raw] = [] := rfl

@[simp] theorem givenBack_givenBack (raw : RawHandle) : givenBack [.givenBack raw] = [raw] := rfl

@[simp] theorem handedOut_freed : handedOut [.freed] = [] := rfl

@[simp] theorem givenBack_freed : givenBack [.freed] = [] := rfl

end Ledger

namespace Account

variable {a a' : Account}

theorem Balanced.flushed (ha : a.Balanced) : a.flushed.Balanced := by
  unfold Balanced Account.flushed HandleRegistry.owed HandleRegistry.takePending at *
  simp only [Ledger.handedOut_append, Ledger.handedOut_map_givenBack, List.append_nil,
    Ledger.givenBack_append, Ledger.givenBack_map_givenBack, List.append_assoc]
  exact ha.trans (List.perm_append_comm.append_left _)

theorem Balanced.adopted (ha : a.Balanced) (raw : RawHandle) (kind : HandleKind) :
    (a.adopted raw kind).Balanced := by
  unfold Balanced Account.adopted HandleRegistry.owed HandleRegistry.adopt at *
  simp only [Ledger.handedOut_append, Ledger.handedOut_handedOut, Ledger.givenBack_append,
    Ledger.givenBack_handedOut, List.append_nil, List.map_cons, List.cons_append]
  exact (List.perm_append_singleton raw _).trans
    ((ha.cons raw).trans List.perm_middle.symm)

theorem Balanced.released (ha : a.Balanced) (hr : a.registry.Valid) {id : Nat}
    {entry : HandleEntry} (h : a.registry.entry? id = some entry) :
    (a.released id entry.raw).Balanced := by
  have hlive : (a.registry.live.map (·.2.raw)).Perm
      (entry.raw :: (a.registry.forget id).live.map (·.2.raw)) := (hr.perm_forget h).map _
  unfold Balanced Account.released HandleRegistry.owed at *
  simp only [Ledger.handedOut_append, Ledger.handedOut_givenBack, List.append_nil,
    Ledger.givenBack_append, Ledger.givenBack_givenBack, List.append_assoc, List.singleton_append]
  exact ha.trans ((hlive.append_right _).append_left _)

theorem Balanced.drained (ha : a.Balanced) : a.drained.Balanced := by
  have hnothing : a.registry.drain.2.owed = [] := rfl
  unfold Balanced Account.drained at *
  simpa only [Ledger.handedOut_append, Ledger.handedOut_map_givenBack, Ledger.handedOut_freed,
    Ledger.givenBack_append, Ledger.givenBack_map_givenBack, Ledger.givenBack_freed,
    List.append_nil, hnothing] using ha

theorem Balanced.queued {r : HandleRegistry} (ha : a.Balanced) (hr : a.registry.Valid)
    (h : a.registry.Queued r) : (⟨r, a.entries⟩ : Account).Balanced := by
  obtain ⟨raws, hdropped⟩ := h.dropped hr
  exact ha.trans (hdropped.owed.append_left _)

theorem Balanced.abandoned (ha : a.Balanced) (hr : a.registry.Valid) (h : a.Abandoned a') :
    a'.Balanced := by
  have hqueued := ha.queued hr h.1
  unfold Balanced at hqueued ⊢
  rw [h.2]
  simpa using hqueued

theorem Balanced.entered {raws : List RawHandle} (ha : a.Balanced) (hr : a.registry.Valid)
    (h : a.Entered raws a') : a'.Balanced := by
  -- Settling what waits does not touch live handles.
  have hvalid : a.flushed.registry.Valid := ⟨hr.nodup, hr.below⟩
  cases h with
  | ran hqueued => exact ha.flushed.queued hvalid hqueued
  | adopted raw kind => exact ha.flushed.adopted raw kind
  | released hentry => exact ha.flushed.released hvalid hentry

theorem Entered.valid {raws : List RawHandle} (h : a.Entered raws a') (hr : a.registry.Valid) :
    a'.registry.Valid := by
  have hvalid : a.flushed.registry.Valid := ⟨hr.nodup, hr.below⟩
  cases h with
  | ran hqueued =>
    obtain ⟨raws, hdropped⟩ := hqueued.dropped hvalid
    exact hdropped.valid hvalid
  | adopted raw kind => exact hvalid.adopt raw kind
  | released hentry => exact hvalid.forget _

/-- Entering gives back what was waiting, in order, before anything else. -/
theorem Entered.givenBack_eq {raws : List RawHandle} (h : a.Entered raws a') :
    Ledger.givenBack a'.entries = Ledger.givenBack a.entries ++ a.registry.pending ++ raws := by
  cases h <;> simp [Account.adopted, Account.released, Account.flushed]

theorem Takes.same (a : Account) : a.Takes a :=
  .inl ⟨rfl, .refl _⟩

theorem takes_drained (a : Account) : a.Takes a.drained :=
  .inl ⟨by simp [drained], List.nil_sublist _⟩

theorem Abandoned.takes (h : a.Abandoned a') (hr : a.registry.Valid) : a.Takes a' := by
  obtain ⟨raws, hdropped⟩ := h.1.dropped hr
  exact .inl ⟨by simp [h.2], hdropped.live⟩

theorem Entered.takes {raws : List RawHandle} (h : a.Entered raws a') (hr : a.registry.Valid) :
    a.Takes a' := by
  have hvalid : a.flushed.registry.Valid := ⟨hr.nodup, hr.below⟩
  cases h with
  | ran hqueued =>
    obtain ⟨raws, hdropped⟩ := hqueued.dropped hvalid
    exact .inl ⟨by simp [Account.flushed], hdropped.live⟩
  | adopted raw kind =>
    exact .inr ⟨raw, kind, by simp [Account.adopted, Account.flushed], rfl⟩
  | released hentry =>
    exact .inl ⟨by simp [Account.released, Account.flushed], List.filter_sublist⟩

/-- A handle that is live no more was dropped or released. -/
theorem Entered.leaves {raws : List RawHandle} (h : a.Entered raws a') (hr : a.registry.Valid)
    {x : Nat × HandleEntry} (hx : x ∈ a.registry.live) :
    x ∈ a'.registry.live ∨ x.2.raw ∈ a'.registry.pending ∨ x.2.raw ∈ raws := by
  have hvalid : a.flushed.registry.Valid := ⟨hr.nodup, hr.below⟩
  cases h with
  | @ran r hqueued =>
    obtain ⟨raws, hdropped⟩ := hqueued.dropped hvalid
    by_cases hlive : x ∈ r.live
    · exact .inl hlive
    · -- Scripts can make a handle wait, and nothing more.
      refine .inr (.inl ?_)
      rw [hdropped.pending]
      exact List.mem_append_right _ (hdropped.gone x hx hlive)
  | adopted raw kind => exact .inl (List.mem_cons_of_mem _ hx)
  | @released id entry hentry =>
    rcases List.mem_cons.mp ((hr.perm_forget hentry).mem_iff.mp hx) with rfl | hlive
    · exact .inr (.inr (List.mem_singleton.mpr rfl))
    · exact .inl hlive

theorem Entered.freed {raws : List RawHandle} (h : a.Entered raws a')
    (ha : .freed ∉ a.entries) : .freed ∉ a'.entries := by
  cases h <;> simpa [Account.adopted, Account.released, Account.flushed] using ha

end Account

end ScriptHost
