/-
Handles that members drop.

A hand-written member reaches handles by the names they are kept under, and all it can do to one
is to drop it.  A handle of its own machine is given up then, one of another machine waits to be
passed on.  So what a run does to the lives of handles is told by their names:

* **`HandleRegistry.entry?_foldl_queueRelease`** — dropping handles ends their lives and no others;
* **`Keyring.Dropped`**, **`Sheds`** — the handles dropped between two states, and the lives that
  ended meanwhile;
* **`CallAction.sheds_run`**, **`HostState.keeps_sheds`** — actions and callbacks end the lives of
  the handles that were dropped, and no others.
-/
import ScriptHost.Proofs.DispatchTargets
import ScriptHost.Proofs.Sequences

namespace ScriptHost

theorem Handle.eq_of_id {h h' : Handle} (howner : h.owner = h'.owner) (hid : h.id = h'.id) :
    h = h' := by
  cases h
  cases h'
  exact Handle.mk.injEq .. ▸ ⟨howner, hid⟩

namespace HandleRegistry

variable {r r' : HandleRegistry} {id : Nat}

theorem entry?_adopt_of_lt (h : id < r.nextId) (raw : RawHandle) (kind : HandleKind) :
    entry? (r.adopt raw kind).2 id = r.entry? id := by
  have hne : (id == r.nextId) = false := beq_false_of_ne (Nat.ne_of_lt h)
  simp [adopt, entry?, List.lookup_cons, hne]

theorem entry?_forget (r : HandleRegistry) (id id' : Nat) :
    entry? (r.forget id') id = if id = id' then none else r.entry? id :=
  lookup_filter_ne r.live id' id

/-- An entry is forgotten or stays. -/
theorem entry?_forget_cases (r : HandleRegistry) (id id' : Nat) :
    entry? (r.forget id') id = none ∨ entry? (r.forget id') id = r.entry? id := by
  rw [entry?_forget]
  split
  · exact .inl rfl
  · exact .inr rfl

theorem entry?_queueRelease (r : HandleRegistry) (id id' : Nat) :
    entry? (r.queueRelease id') id = if id = id' then none else r.entry? id := by
  unfold queueRelease
  cases hentry : r.entry? id' with
  | some entry => exact r.entry?_forget id id'
  | none =>
    by_cases hid : id = id'
    · simp [hid, hentry]
    · simp [hid]

/-- Dropping handles ends their lives and no others. -/
theorem entry?_foldl_queueRelease (r : HandleRegistry) (ids : List Nat) (id : Nat) :
    entry? (ids.foldl queueRelease r) id = if id ∈ ids then none else r.entry? id := by
  induction ids generalizing r with
  | nil => simp
  | cons id' ids ih =>
    rw [List.foldl_cons, ih, entry?_queueRelease]
    by_cases hlater : id ∈ ids
    · simp [hlater]
    · by_cases hid : id = id' <;> simp [hlater, hid]

theorem nextId_foldl_queueRelease (r : HandleRegistry) (ids : List Nat) :
    (ids.foldl queueRelease r).nextId = r.nextId := by
  induction ids generalizing r with
  | nil => rfl
  | cons id ids ih =>
    have hfirst : (r.queueRelease id).nextId = r.nextId := by
      unfold queueRelease
      cases r.entry? id <;> rfl
    exact (ih _).trans hfirst

theorem Queued.nextId (h : r.Queued r') : r'.nextId = r.nextId := by
  obtain ⟨ids, rfl⟩ := h
  exact r.nextId_foldl_queueRelease ids

theorem Queued.owner (h : r.Queued r') : r'.owner = r.owner := by
  obtain ⟨ids, rfl⟩ := h
  induction ids generalizing r with
  | nil => rfl
  | cons id ids ih => exact ih.trans (r.owner_queueRelease id)

theorem Queued.entry? (h : r.Queued r') (id : Nat) :
    r'.entry? id = none ∨ r'.entry? id = r.entry? id := by
  obtain ⟨ids, rfl⟩ := h
  rw [entry?_foldl_queueRelease]
  split
  · exact .inl rfl
  · exact .inr rfl

end HandleRegistry

/-- The end of one life: a handle that was live is live unless it is the one. -/
theorem HandleRegistry.lives_iff_ne {r r' : HandleRegistry} {h handle : Handle}
    (hlive : ∃ entry, r.entry? h.id = some entry) (howner : handle.owner = h.owner)
    (hends : r'.entry? h.id = if h.id = handle.id then none else r.entry? h.id) :
    (∃ entry, r'.entry? h.id = some entry) ↔ ¬handle = h := by
  by_cases hid : h.id = handle.id
  · have hsame : handle = h := Handle.eq_of_id howner hid.symm
    simp [hends, hsame]
  · have hother : ¬handle = h := fun heq => hid (heq ▸ rfl)
    simpa [hends, hid, hother] using hlive

/-! ### What was dropped -/

namespace Keyring

/-- The handles that a machine takes when the handle of a name is dropped: that handle and all that
wait, as far as they are its own. -/
def taken (k : Keyring) (name : String) (owner : Nat) : List Handle :=
  (k.drop name).2.dropped.filter (·.owner = owner)

/-- What is left of the keyring then. -/
def without (k : Keyring) (name : String) (owner : Nat) : Keyring :=
  { (k.drop name).2 with dropped := (k.drop name).2.dropped.filter (·.owner ≠ owner) }

/-- Since `k` a handle was dropped: it was waiting to be, or a name it was kept under is gone. -/
def Dropped (k k' : Keyring) (h : Handle) : Prop :=
  (h ∈ k.dropped ∧ h ∉ k'.dropped) ∨ ∃ name, k.handle? name = some h ∧ k'.handle? name = none

variable {k k' : Keyring} {owner : Nat} {h : Handle}

theorem handle?_without (k : Keyring) (name : String) (owner : Nat) (name' : String) :
    (k.without name owner).handle? name' = if name' = name then none else k.handle? name' :=
  lookup_filter_ne k.handles name name'

theorem mem_taken (hown : h.owner = owner) (name : String) :
    h ∈ k.taken name owner ↔ h ∈ k.dropped ∨ k.handle? name = some h := by
  simp [taken, drop, hown]

theorem owner_of_mem_taken {name : String} (h' : h ∈ k.taken name owner) : h.owner = owner :=
  of_decide_eq_true (List.mem_filter.mp h').2

theorem not_mem_dropped_without (hown : h.owner = owner) (name : String) :
    h ∉ (k.without name owner).dropped :=
  fun hmem => of_decide_eq_true (List.mem_filter.mp hmem).2 hown

theorem not_dropped_self (k : Keyring) (h : Handle) : ¬k.Dropped k h := by
  rintro (⟨hmem, hnot⟩ | ⟨name, hsome, hnone⟩)
  · exact hnot hmem
  · rw [hsome] at hnone
    cases hnone

/-- Dropped by now is what was dropped before and what the machine takes. -/
theorem dropped_without (hnames : ∀ name, k'.handle? name = none ∨ k'.handle? name = k.handle? name)
    (hwaiting : h ∈ k'.dropped → h ∈ k.dropped) (hown : h.owner = owner) (name : String) :
    k.Dropped (k'.without name owner) h ↔ k.Dropped k' h ∨ h ∈ k'.taken name owner := by
  rw [mem_taken hown]
  -- A name that is gone by now was gone before, or it is the one dropped here.
  constructor
  · rintro (⟨hmem, -⟩ | ⟨name', hsome, hnone⟩)
    · by_cases hstill : h ∈ k'.dropped
      · exact .inr (.inl hstill)
      · exact .inl (.inl ⟨hmem, hstill⟩)
    · rcases hnames name' with hgone | hsame
      · exact .inl (.inr ⟨name', hsome, hgone⟩)
      · rw [handle?_without] at hnone
        split at hnone
        · rename_i heq
          exact .inr (.inr (heq ▸ hsame.trans hsome))
        · exact .inl (.inr ⟨name', hsome, hnone⟩)
  · rintro ((⟨hmem, -⟩ | ⟨name', hsome, hnone⟩) | hmem | hsome)
    · exact .inl ⟨hmem, not_mem_dropped_without hown name⟩
    · refine .inr ⟨name', hsome, ?_⟩
      rw [handle?_without, hnone, ite_self]
    · exact .inl ⟨hwaiting hmem, not_mem_dropped_without hown name⟩
    · refine .inr ⟨name, ?_, by rw [handle?_without, if_pos rfl]⟩
      rcases hnames name with hgone | hsame
      · rw [hsome] at hgone
        cases hgone
      · exact hsame.symm.trans hsome

end Keyring

/-- The lives that end when a machine drops handles of its own. -/
theorem HandleRegistry.entry?_foldl_handles {handles : List Handle} {owner : Nat}
    (howned : ∀ h ∈ handles, h.owner = owner) (r : HandleRegistry) {h : Handle}
    (hown : h.owner = owner) :
    entry? (handles.foldl (fun r h => r.queueRelease h.id) r) h.id =
      if h ∈ handles then none else r.entry? h.id := by
  have hids : h.id ∈ handles.map (·.id) ↔ h ∈ handles := by
    refine ⟨fun hmem => ?_, List.mem_map_of_mem⟩
    obtain ⟨h', hmem', hid⟩ := List.mem_map.mp hmem
    rwa [← Handle.eq_of_id ((howned h' hmem').trans hown.symm) hid]
  rw [← List.foldl_map (f := Handle.id) (g := queueRelease), entry?_foldl_queueRelease]
  simp only [hids]

/-- Between two states handles were dropped at most, and of the handles of a machine those that
were dropped are not live any more, the others as before. -/
structure Sheds (k : Keyring) (r : HandleRegistry) (k' : Keyring) (r' : HandleRegistry) : Prop where
  owner : r'.owner = r.owner
  names : ∀ name, k'.handle? name = none ∨ k'.handle? name = k.handle? name
  waiting : ∀ h, h.owner = r.owner → h ∈ k'.dropped → h ∈ k.dropped
  ended : ∀ h, h.owner = r.owner → k.Dropped k' h → r'.entry? h.id = none
  kept : ∀ h, h.owner = r.owner → ¬k.Dropped k' h → r'.entry? h.id = r.entry? h.id

variable {k k' : Keyring} {r r' : HandleRegistry}

namespace Sheds

theorem refl (k : Keyring) (r : HandleRegistry) : Sheds k r k r where
  owner := rfl
  names _ := .inr rfl
  waiting _ _ hmem := hmem
  ended h _ hdropped := absurd hdropped (k.not_dropped_self h)
  kept _ _ _ := rfl

/-- The handle kept under a name is dropped, and with it all that wait to be. -/
theorem drop (hs : Sheds k r k' r') (name : String) :
    Sheds k r (k'.without name r'.owner)
      ((k'.taken name r'.owner).foldl (fun r h => r.queueRelease h.id) r') := by
  have hdropped : ∀ h, h.owner = r.owner →
      (k.Dropped (k'.without name r'.owner) h ↔ k.Dropped k' h ∨ h ∈ k'.taken name r'.owner) :=
    fun h hown => Keyring.dropped_without hs.names (hs.waiting h hown)
      (hown.trans hs.owner.symm) name
  have hentry : ∀ h, h.owner = r.owner →
      HandleRegistry.entry? ((k'.taken name r'.owner).foldl (fun r h => r.queueRelease h.id) r')
        h.id = if h ∈ k'.taken name r'.owner then none else r'.entry? h.id :=
    fun h hown => HandleRegistry.entry?_foldl_handles (fun _ => Keyring.owner_of_mem_taken) r'
      (hown.trans hs.owner.symm)
  refine ⟨(CallAction.queued_foldl _ r').owner.trans hs.owner, fun name' => ?_,
    fun h hown hmem => ?_, fun h hown hdrop => ?_, fun h hown hkept => ?_⟩
  · rw [Keyring.handle?_without]
    split
    · exact .inl rfl
    · exact hs.names name'
  · exact absurd hmem (Keyring.not_mem_dropped_without (hown.trans hs.owner.symm) name)
  · rw [hentry h hown]
    split
    · rfl
    · rename_i hnot
      exact hs.ended h hown (((hdropped h hown).mp hdrop).resolve_right hnot)
  · have hnot : ¬(k.Dropped k' h ∨ h ∈ k'.taken name r'.owner) :=
      fun h' => hkept ((hdropped h hown).mpr h')
    rw [hentry h hown, if_neg fun h' => hnot (.inr h')]
    exact hs.kept h hown fun h' => hnot (.inl h')

end Sheds

/-! ### What members and callbacks do -/

namespace CallAction

variable {F W : Type} [Slots W] {s s' : CallState F W} {action : CallAction} {reply : CallReply}

/-- Only dropping a handle reaches the keyring and the handles of the machine. -/
theorem reach_run (hrun : action.run s = .ok (reply, s'))
    (hdrop : ∀ name, action ≠ .dropHandle name) :
    s'.keyring = s.keyring ∧ s'.context.handles = s.context.handles := by
  have hwritten : ∀ slot write, (written s (s.context.setWith slot write)).2.keyring = s.keyring ∧
      (written s (s.context.setWith slot write)).2.context.handles = s.context.handles := by
    intro slot write
    unfold CallContext.setWith
    cases s.context.checkWritable slot with
    | error e => exact ⟨rfl, rfl⟩
    | ok _ =>
      cases write s.context.window <;> exact ⟨rfl, rfl⟩
  cases action <;> simp only [run, pure, Except.pure, Except.ok.injEq] at hrun
  case panic cause => cases hrun
  case dropHandle name => exact absurd rfl (hdrop name)
  all_goals obtain rfl : _ = s' := congrArg Prod.snd hrun
  case set slot payload => exact hwritten slot _
  case setReturn payload => exact hwritten 0 _
  case setValue slot value => exact hwritten slot _
  case sum =>
    unfold CallContext.setReturn CallContext.set
    exact hwritten 0 _
  case withInt slot amount =>
    rw [withForeign_eq]
    exact ⟨rfl, rfl⟩
  case withText slot suffix =>
    rw [withForeign_eq]
    exact ⟨rfl, rfl⟩
  case withNested slot inner =>
    rw [withForeign_eq]
    exact ⟨rfl, rfl⟩
  case releaseForeign slot =>
    unfold CallContext.releaseForeign
    cases s.context.token? slot <;> exact ⟨rfl, rfl⟩
  all_goals exact ⟨rfl, rfl⟩

/-- The machine takes what is its own. -/
theorem reach_dropHandle {name : String}
    (hrun : (CallAction.dropHandle name).run s = .ok (reply, s')) :
    s'.keyring = s.keyring.without name s.context.handles.owner ∧
      s'.context.handles = (s.keyring.taken name s.context.handles.owner).foldl
        (fun r h => r.queueRelease h.id) s.context.handles := by
  have howner := (queued_foldl (s.keyring.taken name s.context.handles.owner)
    s.context.handles).owner
  cases hrun
  exact ⟨congrArg (s.keyring.without name) howner, rfl⟩

/-- An action ends the lives of the handles it drops, and no others. -/
theorem sheds_run (hs : Sheds k r s.keyring s.context.handles)
    (hrun : action.run s = .ok (reply, s')) : Sheds k r s'.keyring s'.context.handles := by
  -- All other actions leave the keyring and the handles of the machine alone.
  by_cases hdrop : ∃ name, action = .dropHandle name
  · obtain ⟨name, rfl⟩ := hdrop
    obtain ⟨hkeyring, hhandles⟩ := reach_dropHandle hrun
    rw [hkeyring, hhandles]
    exact hs.drop name
  · obtain ⟨hkeyring, hhandles⟩ := reach_run hrun fun name h => hdrop ⟨name, h⟩
    rw [hkeyring, hhandles]
    exact hs

end CallAction

/-- A member only sheds handles, also when it panics halfway. -/
theorem leads_sheds {F W : Type} [Slots W] [Chronicle W] {s : CallState F W}
    (hs : Sheds k r s.keyring s.context.handles) (program : List CallAction) :
    Run.Leads (runActions program) s (fun _ s' => Sheds k r s'.keyring s'.context.handles)
      fun s' => Sheds k r s'.keyring s'.context.handles :=
  Run.Leads.runActions_of_run (P := fun s' => Sheds k r s'.keyring s'.context.handles)
    (fun _ s' _ reply hs hrun =>
      have hsheds : Sheds k r s'.keyring s'.context.handles := CallAction.sheds_run hs hrun
      (hsheds : Sheds k r (s'.noted reply).keyring (s'.noted reply).context.handles)) program s hs

theorem HostState.keeps_sheds (k : Keyring) (r : HandleRegistry) :
    Host.Keeps fun h : HostState => Sheds k r h.keyring h.handles :=
  keeps_of_members (fun hsame h => by rw [hsame.keyring, hsame.handles]; exact h)
    (fun _ h => h) (fun _ h => h) fun _ program hw => leads_sheds hw program

end ScriptHost
