/-
Foreign instances and the objects behind them.

The instances a machine knows, the table of the host, and the store of objects change
together: an object is registered and an instance made for its token, host code may release
the object early, the machine gives up instances and has them finalized.  `Evolves` is the
order in which this may happen, and the list of events between two states is its record.

From a start without instances, and as long as tokens do not repeat (`Bounded`):

* **`Accounted.of_evolves`** — what the record says about the instances and the objects;
* **`Evolves.resolve?_of_tracked`** — an instance not given up resolves to the object its own
  allocation registered, unless that was released;
* **`Evolves.resolve?_of_released`** — after a release it resolves to nothing.
-/
import ScriptHost.InMemory.Machine
import ScriptHost.Proofs.HeapBook
import ScriptHost.Proofs.Sequences

namespace ScriptHost

open ObjectHeap InMemory

theorem ForeignRegistry.heap_finalize {F : Type} (r : ForeignRegistry F) (t : Token) :
    (r.finalize t).2.heap = (r.heap.remove t).2 := by
  unfold ForeignRegistry.finalize
  rcases r.heap.remove t with ⟨_ | _, _⟩ <;> rfl

/-- Instances by number, those not given up among them, the table of objects behind them, how
many objects there have been, and the tokens host code released, in order. -/
structure Ownership where
  table : ForeignRegistry Finalizer
  objects : Nat
  instances : List Instance
  tracked : List Nat
  releases : List Token

namespace Ownership

/-- Nothing has happened yet. -/
def fresh : Ownership :=
  ⟨.empty, 0, [], [], []⟩

inductive Event where
  /-- An instance was made for an object just registered. -/
  | allocated (number : Nat) (token : Token) (entry : ForeignEntry Finalizer)
  /-- An object was registered, and no instance made for it. -/
  | stranded (token : Token) (entry : ForeignEntry Finalizer)
  /-- Host code released the object of a token. -/
  | released (token : Token)
  /-- The machine gave up some instances. -/
  | swept
  /-- The machine finalized an instance it had given up. -/
  | finalized (token : Token)

/-- A new object is registered. -/
def register (s : Ownership) (finalizer : Option Finalizer) : Token × Ownership :=
  ((s.table.register s.objects finalizer).1,
    { s with table := (s.table.register s.objects finalizer).2, objects := s.objects + 1 })

/-- An instance is made for a token. -/
def addInstance (s : Ownership) (token : Token) (info : ClassInfo) : Ownership :=
  { s with
    instances := s.instances ++ [⟨token, info⟩]
    tracked := s.tracked ++ [s.instances.length] }

/-- What may happen next. -/
inductive Step (s : Ownership) : Event → Ownership → Prop
  | allocated (finalizer : Option Finalizer) (info : ClassInfo) :
    Step s (.allocated s.instances.length (s.register finalizer).1 ⟨s.objects, finalizer⟩)
      ((s.register finalizer).2.addInstance (s.register finalizer).1 info)
  | stranded (finalizer : Option Finalizer) :
    Step s (.stranded (s.register finalizer).1 ⟨s.objects, finalizer⟩) (s.register finalizer).2
  | released {token : Token} {object : ObjectId} : s.table.resolve? token = some object →
    Step s (.released token)
      { s with table := (s.table.release token).2, releases := s.releases ++ [token] }
  | swept {kept : List Nat} : (∀ i ∈ kept, i ∈ s.tracked) →
    Step s .swept { s with tracked := kept }
  | finalized {i : Nat} {inst : Instance} : s.instances[i]? = some inst → i ∉ s.tracked →
    Step s (.finalized inst.token) { s with table := (s.table.finalize inst.token).2 }

/-- Several steps, with the record of what happened. -/
inductive Evolves (s : Ownership) : List Event → Ownership → Prop
  | refl : Evolves s [] s
  | step {events : List Event} {event : Event} {s' s'' : Ownership} :
    Evolves s events s' → Step s' event s'' → Evolves s (events ++ [event]) s''

theorem Evolves.trans {s s' s'' : Ownership} {events events' : List Event}
    (h : s.Evolves events s') (h' : s'.Evolves events' s'') :
    s.Evolves (events ++ events') s'' := by
  induction h' with
  | refl => simpa using h
  | step _ hstep ih =>
    rw [← List.append_assoc]
    exact ih.step hstep

/-- The number of an instance just made. -/
def Event.number? : Event → Option Nat
  | .allocated number _ _ => some number
  | _ => none

/-- The entry put into the table, with its token. -/
def Event.registration? : Event → Option (Token × ForeignEntry Finalizer)
  | .allocated _ token entry | .stranded token entry => some (token, entry)
  | _ => none

/-- The token released. -/
def Event.release? : Event → Option Token
  | .released token => some token
  | _ => none

/-- What is done to the table. -/
def Event.action? : Event → Option (HeapAction (ForeignEntry Finalizer))
  | .allocated _ _ entry | .stranded _ entry => some (.insert entry)
  | .released token | .finalized token => some (.remove token)
  | .swept => none

/-- The entries put into the table, each with the token it got. -/
def registrations (events : List Event) : List (Token × ForeignEntry Finalizer) :=
  events.filterMap Event.registration?

/-- What was done to the table. -/
def actions (events : List Event) : List (HeapAction (ForeignEntry Finalizer)) :=
  events.filterMap Event.action?

/-- The table of a record never had more places than 32 bits number, and none of them was
vacated `2 ^ 32` times. -/
def Bounded (events : List Event) : Prop :=
  (empty.after (actions events)).slots.length ≤ UInt32.size ∧
    ∀ place, vacations place empty (actions events) < UInt32.size

theorem Bounded.of_append {events events' : List Event} (h : Bounded (events ++ events')) :
    Bounded events := by
  rw [Bounded, actions, List.filterMap_append] at h
  exact WithinBounds.of_append h

/-- What a record says of the state it ends in. -/
structure Accounted (events : List Event) (s : Ownership) : Prop where
  heap : s.table.heap = empty.after (actions events)
  /-- Instances are numbered in the order of their allocations. -/
  numbered : events.filterMap Event.number? = List.range s.instances.length
  allocated : ∀ i inst, s.instances[i]? = some inst →
    ∃ entry, .allocated i inst.token entry ∈ events
  /-- No two objects are registered under one number. -/
  objects : (registrations events).map (·.2.object) = List.range s.objects
  /-- Every token is the one the table issued for the entry. -/
  issued : ∀ token entry, (token, entry) ∈ registrations events → ∃ before between,
    actions events = before ++ .insert entry :: between ∧
      token = ((empty.after before).insert entry).1
  tracked : ∀ i ∈ s.tracked, i < s.instances.length
  /-- The record tells of the very releases there were. -/
  releases : events.filterMap Event.release? = s.releases
  /-- Only instances given up are finalized. -/
  finalized : ∀ token, .finalized token ∈ events →
    ∃ i inst, s.instances[i]? = some inst ∧ inst.token = token ∧ i ∉ s.tracked

@[simp] theorem actions_append (events events' : List Event) :
    actions (events ++ events') = actions events ++ actions events' :=
  List.filterMap_append

@[simp] theorem registrations_append (events events' : List Event) :
    registrations (events ++ events') = registrations events ++ registrations events' :=
  List.filterMap_append

theorem filterMap_append_of_none {β : Type} {f : Event → Option β} (events : List Event)
    {event : Event} (h : f event = none) :
    (events ++ [event]).filterMap f = events.filterMap f := by
  simp [h]

theorem mem_registrations_of_allocated {events : List Event} {number : Nat} {token : Token}
    {entry : ForeignEntry Finalizer} (h : .allocated number token entry ∈ events) :
    (token, entry) ∈ registrations events :=
  List.mem_filterMap.mpr ⟨_, h, rfl⟩

namespace Accounted

variable {events : List Event} {event : Event} {s s' : Ownership}

theorem of_fresh : Accounted [] fresh where
  heap := rfl
  numbered := rfl
  allocated i inst hinst := by simp [fresh] at hinst
  objects := rfl
  issued token entry h := by cases h
  tracked i hi := by cases hi
  releases := rfl
  finalized token h := by cases h

/-- The tokens issued so far stay issued, whatever is done to the table next. -/
theorem issued_append (h : Accounted events s) {token : Token} {entry : ForeignEntry Finalizer}
    (hmem : (token, entry) ∈ registrations events) (more : List (HeapAction _)) :
    ∃ before between, actions events ++ more = before ++ .insert entry :: between ∧
      token = ((empty.after before).insert entry).1 := by
  obtain ⟨before, between, hactions, htoken⟩ := h.issued token entry hmem
  exact ⟨before, between ++ more, by rw [hactions]; simp, htoken⟩

/-- An object is registered, with or without an instance made for it. -/
theorem register (h : Accounted events s) (finalizer : Option Finalizer) {instances : List Instance}
    {tracked : List Nat}
    (haction : event.action? = some (.insert ⟨s.objects, finalizer⟩))
    (hregistration : event.registration? =
      some ((s.register finalizer).1, ⟨s.objects, finalizer⟩))
    (hrelease : event.release? = none)
    (hnumbered : (events ++ [event]).filterMap Event.number? = List.range instances.length)
    (hallocated : ∀ i inst, instances[i]? = some inst →
      ∃ entry, .allocated i inst.token entry ∈ events ++ [event])
    (htracked : ∀ i ∈ tracked, i < instances.length)
    (hfinalized : ∀ token, .finalized token ∈ events ++ [event] →
      ∃ i inst, instances[i]? = some inst ∧ inst.token = token ∧ i ∉ tracked) :
    Accounted (events ++ [event])
      { (s.register finalizer).2 with instances := instances, tracked := tracked } := by
  have hactions : actions (events ++ [event]) =
      actions events ++ [.insert ⟨s.objects, finalizer⟩] := by
    simp [actions, haction]
  have hregistrations : registrations (events ++ [event]) =
      registrations events ++ [((s.register finalizer).1, ⟨s.objects, finalizer⟩)] := by
    simp [registrations, hregistration]
  refine ⟨?_, hnumbered, hallocated, ?_, ?_, htracked,
    (filterMap_append_of_none events hrelease).trans h.releases, hfinalized⟩
  · rw [hactions, after_append, ← h.heap]
    rfl
  · rw [hregistrations, List.map_append, h.objects]
    exact List.range_succ.symm
  -- A token stays issued, and that of the new object is issued by the new action.
  · intro token entry hmem
    rw [hactions]
    rw [hregistrations] at hmem
    rcases List.mem_append.mp hmem with hold | hnew
    · exact h.issued_append hold _
    · cases List.mem_singleton.mp hnew
      exact ⟨actions events, [], rfl, by rw [← h.heap]; rfl⟩

/-- The object of a token is taken out of the table. -/
theorem remove (h : Accounted events s) {token : Token} {table : ForeignRegistry Finalizer}
    {releases : List Token} (htable : table.heap = (s.table.heap.remove token).2)
    (haction : event.action? = some (.remove token))
    (hregistration : event.registration? = none) (hnumber : event.number? = none)
    (hreleases : releases = s.releases ++ event.release?.toList)
    (hfinalized : ∀ token', event = .finalized token' →
      ∃ i inst, s.instances[i]? = some inst ∧ inst.token = token' ∧ i ∉ s.tracked) :
    Accounted (events ++ [event]) { s with table := table, releases := releases } := by
  have hactions : actions (events ++ [event]) = actions events ++ [.remove token] := by
    simp [actions, haction]
  have hregistrations : registrations (events ++ [event]) = registrations events := by
    simp [registrations, hregistration]
  refine ⟨?_, ?_, ?_, ?_, ?_, h.tracked, ?_, ?_⟩
  · rw [hactions, after_append, ← h.heap]
    exact htable
  · exact (filterMap_append_of_none events hnumber).trans h.numbered
  · intro i inst hinst
    obtain ⟨entry, hentry⟩ := h.allocated i inst hinst
    exact ⟨entry, List.mem_append_left _ hentry⟩
  · rw [hregistrations]
    exact h.objects
  · intro token' entry hmem
    rw [hactions]
    rw [hregistrations] at hmem
    exact h.issued_append hmem _
  · rw [hreleases, List.filterMap_append, h.releases]
    -- The event is on record as a release exactly if it is one.
    rcases event with _ | _ | _ | _ | _ <;> rfl
  · intro token' hmem
    rcases List.mem_append.mp hmem with hold | hnew
    · exact h.finalized token' hold
    · exact hfinalized token' (List.mem_singleton.mp hnew).symm

theorem getElem?_append_of_some {instances : List Instance} {i : Nat} {inst : Instance}
    (h : instances[i]? = some inst) (new : Instance) :
    (instances ++ [new])[i]? = some inst := by
  rw [List.getElem?_append_left (List.getElem?_eq_some_iff.mp h).1]
  exact h

theorem allocate (h : Accounted events s) (finalizer : Option Finalizer) (info : ClassInfo) :
    Accounted
      (events ++ [.allocated s.instances.length (s.register finalizer).1 ⟨s.objects, finalizer⟩])
      ((s.register finalizer).2.addInstance (s.register finalizer).1 info) := by
  refine h.register finalizer rfl rfl rfl ?_ ?_ ?_ ?_
  · rw [List.filterMap_append, h.numbered]
    show List.range s.instances.length ++ [s.instances.length] = _
    rw [← List.range_succ]
    simp [Ownership.register]
  · intro i inst hinst
    rw [Ownership.register] at hinst
    -- The new instance comes last, and its allocation is the event just recorded.
    rcases Nat.lt_or_ge i s.instances.length with hold | hnew
    · rw [List.getElem?_append_left hold] at hinst
      obtain ⟨entry, hentry⟩ := h.allocated i inst hinst
      exact ⟨entry, List.mem_append_left _ hentry⟩
    · obtain ⟨hlt, hinst⟩ := List.getElem?_eq_some_iff.mp hinst
      have hi : i = s.instances.length := by
        simp only [List.length_append, List.length_singleton] at hlt
        exact Nat.le_antisymm (Nat.le_of_lt_succ hlt) hnew
      subst hi
      rw [← hinst]
      exact ⟨⟨s.objects, finalizer⟩, by simp [Ownership.register]⟩
  · intro i hi
    rw [List.length_append, List.length_singleton]
    rcases List.mem_append.mp hi with hold | hnew
    · exact Nat.lt_succ_of_lt (h.tracked i hold)
    · rw [List.mem_singleton.mp hnew]
      exact Nat.lt_succ_self _
  · intro token hmem
    rcases List.mem_append.mp hmem with hold | hnew
    · obtain ⟨i, inst, hinst, htoken, huntracked⟩ := h.finalized token hold
      have hlt := (List.getElem?_eq_some_iff.mp hinst).1
      refine ⟨i, inst, getElem?_append_of_some hinst _, htoken, ?_⟩
      -- What was finalized is an earlier instance, and the new one alone became tracked.
      rw [List.mem_append, List.mem_singleton]
      rintro (htracked | rfl)
      · exact huntracked htracked
      · exact Nat.lt_irrefl _ hlt
    · cases List.mem_singleton.mp hnew

theorem step (h : Accounted events s) (hstep : s.Step event s') :
    Accounted (events ++ [event]) s' := by
  cases hstep with
  | allocated finalizer info => exact h.allocate finalizer info
  | stranded finalizer =>
    refine h.register finalizer rfl rfl rfl ?_ ?_ h.tracked ?_
    · exact (filterMap_append_of_none events rfl).trans h.numbered
    · intro i inst hinst
      obtain ⟨entry, hentry⟩ := h.allocated i inst hinst
      exact ⟨entry, List.mem_append_left _ hentry⟩
    · intro token hmem
      rcases List.mem_append.mp hmem with hold | hnew
      · exact h.finalized token hold
      · cases List.mem_singleton.mp hnew
  | released hobject => exact h.remove rfl rfl rfl rfl rfl (by rintro token' ⟨⟩)
  | swept hkept =>
    -- A sweep gives up instances and leaves the table to what follows it.
    have hactions : actions (events ++ [.swept]) = actions events :=
      filterMap_append_of_none events rfl
    have hregistrations : registrations (events ++ [.swept]) = registrations events :=
      filterMap_append_of_none events rfl
    refine ⟨?_, ?_, ?_, ?_, ?_, fun i hi => h.tracked i (hkept i hi),
      (filterMap_append_of_none events rfl).trans h.releases, ?_⟩
    · rw [hactions]
      exact h.heap
    · exact (filterMap_append_of_none events rfl).trans h.numbered
    · intro i inst hinst
      obtain ⟨entry, hentry⟩ := h.allocated i inst hinst
      exact ⟨entry, List.mem_append_left _ hentry⟩
    · rw [hregistrations]
      exact h.objects
    · rw [hactions, hregistrations]
      exact h.issued
    · intro token hmem
      rcases List.mem_append.mp hmem with hold | hnew
      · obtain ⟨i, inst, hinst, htoken, huntracked⟩ := h.finalized token hold
        exact ⟨i, inst, hinst, htoken, fun hi => huntracked (hkept i hi)⟩
      · cases List.mem_singleton.mp hnew
  | @finalized i inst hinst huntracked =>
    refine h.remove (s.table.heap_finalize inst.token) rfl rfl rfl (List.append_nil _).symm ?_
    rintro token' ⟨⟩
    exact ⟨i, inst, hinst, rfl, huntracked⟩

theorem of_evolves (h : fresh.Evolves events s) : Accounted events s := by
  induction h with
  | refl => exact of_fresh
  | step _ hstep ih => exact ih.step hstep

/-- A token was released iff that is on record. -/
theorem mem_released_iff (h : Accounted events s) {token : Token} :
    .released token ∈ events ↔ token ∈ s.releases := by
  rw [← h.releases, List.mem_filterMap]
  constructor
  · exact fun hmem => ⟨_, hmem, rfl⟩
  · rintro ⟨event, hmem, hrelease⟩
    cases event <;> cases hrelease
    exact hmem

end Accounted

/-- What a record in which no token repeats says of the table. -/
structure Resolved (events : List Event) (s : Ownership) : Prop where
  /-- No token was issued twice. -/
  tokens : ((registrations events).map (·.1)).Nodup
  /-- The table holds only what was registered. -/
  known : ∀ token entry, s.table.heap.get? token = some entry →
    (token, entry) ∈ registrations events
  /-- What was released or finalized had been registered, and is gone. -/
  gone : ∀ token, .released token ∈ events ∨ .finalized token ∈ events →
    s.table.heap.get? token = none ∧ ∃ entry, (token, entry) ∈ registrations events
  /-- Everything else is still there. -/
  kept : ∀ token entry, (token, entry) ∈ registrations events → .released token ∉ events →
    .finalized token ∉ events → s.table.heap.get? token = some entry

namespace Resolved

variable {events : List Event} {event : Event} {s s' : Ownership}

theorem of_fresh : Resolved [] fresh where
  tokens := List.nodup_nil
  known token entry h := by simp [fresh, ForeignRegistry.empty, ObjectHeap.empty, get?] at h
  gone token h := by rcases h with h | h <;> cases h
  kept token entry h := by cases h

/-- As long as tokens do not repeat, the token of a new entry is a new one. -/
theorem fresh_token (ha : Accounted events s) {entry : ForeignEntry Finalizer}
    (haction : event.action? = some (.insert entry)) (hbound : Bounded (events ++ [event]))
    {token : Token} {entry' : ForeignEntry Finalizer}
    (hmem : (token, entry') ∈ registrations events) :
    token ≠ (s.table.heap.insert entry).1 := by
  obtain ⟨before, between, hactions, htoken⟩ := ha.issued token entry' hmem
  have hall : actions (events ++ [event]) =
      before ++ .insert entry' :: between ++ [.insert entry] := by
    rw [actions_append, hactions]
    simp [actions, haction]
  obtain ⟨hfit, hvacated⟩ := hbound
  rw [hall] at hfit hvacated
  rw [htoken, ha.heap, hactions]
  exact insert_token_ne hfit hvacated

/-- A new entry leaves the others as they are. -/
theorem get?_register (ha : Accounted events s) {entry : ForeignEntry Finalizer}
    (haction : event.action? = some (.insert entry)) (hbound : Bounded (events ++ [event]))
    (token : Token) :
    (s.table.heap.insert entry).2.get? token =
      if token = (s.table.heap.insert entry).1 then some entry else s.table.heap.get? token := by
  have hall : actions (events ++ [event]) = actions events ++ [.insert entry] := by
    simp [actions, haction]
  have hfit : (s.table.heap.insert entry).2.slots.length ≤ UInt32.size := by
    have hfit := hbound.1
    rw [hall, after_append, ← ha.heap] at hfit
    exact hfit
  have hsound := sound_after (actions events) hbound.of_append.1
  rw [← ha.heap] at hsound
  exact hsound.get?_insert entry hfit token

/-- An object is registered. -/
theorem register (h : Resolved events s) (ha : Accounted events s)
    {entry : ForeignEntry Finalizer} (haction : event.action? = some (.insert entry))
    (hregistration : event.registration? = some ((s.table.heap.insert entry).1, entry))
    (hheap : s'.table.heap = (s.table.heap.insert entry).2)
    (hbound : Bounded (events ++ [event])) : Resolved (events ++ [event]) s' := by
  have hregistrations : registrations (events ++ [event]) =
      registrations events ++ [((s.table.heap.insert entry).1, entry)] := by
    simp [registrations, hregistration]
  have hgone : ∀ token, event ≠ .released token ∧ event ≠ .finalized token := by
    intro token
    constructor
    · rintro rfl
      cases hregistration
    · rintro rfl
      cases hregistration
  -- The new token is fresh: it stands for nothing that was there.
  have hget := get?_register ha haction hbound
  refine ⟨?_, ?_, ?_, ?_⟩
  · rw [hregistrations, List.map_append, List.nodup_append]
    refine ⟨h.tokens, List.nodup_singleton _, ?_⟩
    intro token htoken token' htoken'
    obtain ⟨⟨_, entry'⟩, hmem, rfl⟩ := List.mem_map.mp htoken
    rw [List.mem_singleton.mp htoken']
    exact fresh_token ha haction hbound hmem
  · intro token entry' hentry'
    rw [hheap, hget] at hentry'
    rw [hregistrations]
    split at hentry'
    · rename_i htoken
      cases hentry'
      simp [htoken]
    · exact List.mem_append_left _ (h.known token entry' hentry')
  · intro token htoken
    have hold : .released token ∈ events ∨ .finalized token ∈ events := by
      simpa [Ne.symm (hgone token).1, Ne.symm (hgone token).2] using htoken
    obtain ⟨hnone, entry', hmem⟩ := h.gone token hold
    rw [hheap, hget, if_neg (fresh_token ha haction hbound hmem), hregistrations]
    exact ⟨hnone, entry', List.mem_append_left _ hmem⟩
  · intro token entry' hmem hreleased hfinalized
    rw [hheap, hget]
    rw [hregistrations] at hmem
    rcases List.mem_append.mp hmem with hold | hnew
    · rw [if_neg (fresh_token ha haction hbound hold)]
      exact h.kept token entry' hold (fun hr => hreleased (List.mem_append_left _ hr))
        fun hf => hfinalized (List.mem_append_left _ hf)
    · cases List.mem_singleton.mp hnew
      rw [if_pos rfl]

/-- The object of a token is taken out. -/
theorem remove (h : Resolved events s) {token : Token}
    (hevent : event = .released token ∨ event = .finalized token)
    (hregistered : ∃ entry, (token, entry) ∈ registrations events)
    (hheap : s'.table.heap = (s.table.heap.remove token).2) :
    Resolved (events ++ [event]) s' := by
  have hregistrations : registrations (events ++ [event]) = registrations events := by
    refine filterMap_append_of_none events ?_
    rcases hevent with rfl | rfl <;> rfl
  have hget := get?_remove s.table.heap token
  refine ⟨?_, ?_, ?_, ?_⟩
  · rw [hregistrations]
    exact h.tokens
  · intro token' entry hentry
    rw [hheap, hget] at hentry
    rw [hregistrations]
    split at hentry
    · cases hentry
    · exact h.known token' entry hentry
  · intro token' htoken'
    rw [hheap, hget, hregistrations]
    by_cases hsame : token' = token
    · rw [if_pos hsame, hsame]
      exact ⟨rfl, hregistered⟩
    · rw [if_neg hsame]
      refine h.gone token' ?_
      rcases hevent with rfl | rfl <;> simpa [hsame] using htoken'
  · intro token' entry hmem hreleased hfinalized
    rw [hregistrations] at hmem
    -- The token taken out is on record as gone, so one that is not is another.
    have hne : token' ≠ token := by
      rintro rfl
      rcases hevent with rfl | rfl
      · exact hreleased (by simp)
      · exact hfinalized (by simp)
    rw [hheap, hget, if_neg hne]
    exact h.kept token' entry hmem (fun hr => hreleased (List.mem_append_left _ hr))
      fun hf => hfinalized (List.mem_append_left _ hf)

theorem step (h : Resolved events s) (ha : Accounted events s) (hstep : s.Step event s')
    (hbound : Bounded (events ++ [event])) : Resolved (events ++ [event]) s' := by
  cases hstep with
  | allocated finalizer info => exact h.register ha rfl rfl rfl hbound
  | stranded finalizer => exact h.register ha rfl rfl rfl hbound
  -- Only what is registered resolves, so a token that is released was issued.
  | @released token object hobject =>
    refine h.remove (.inl rfl) ?_ rfl
    obtain ⟨entry, hentry, -⟩ := Option.map_eq_some_iff.mp hobject
    exact ⟨entry, h.known token entry hentry⟩
  | swept hkept =>
    have hregistrations : registrations (events ++ [.swept]) = registrations events :=
      filterMap_append_of_none events rfl
    refine ⟨?_, ?_, ?_, ?_⟩
    · rw [hregistrations]
      exact h.tokens
    · rw [hregistrations]
      exact h.known
    · intro token htoken
      rw [hregistrations]
      exact h.gone token (by simpa using htoken)
    · intro token entry hmem hreleased hfinalized
      rw [hregistrations] at hmem
      exact h.kept token entry hmem (fun hr => hreleased (List.mem_append_left _ hr))
        fun hf => hfinalized (List.mem_append_left _ hf)
  | @finalized i inst hinst huntracked =>
    obtain ⟨entry, hentry⟩ := ha.allocated i inst hinst
    exact h.remove (.inr rfl) ⟨entry, mem_registrations_of_allocated hentry⟩
      (s.table.heap_finalize inst.token)

theorem of_evolves (h : fresh.Evolves events s) (hbound : Bounded events) : Resolved events s := by
  -- The bounds hold of every earlier part of a record too.
  induction h with
  | refl => exact of_fresh
  | step hbefore hstep ih =>
    exact (ih hbound.of_append).step (.of_evolves hbefore) hstep hbound

/-- An object has one allocation. -/
theorem eq_of_token (h : Resolved events s) {i j : Nat} {token : Token}
    {entry entry' : ForeignEntry Finalizer} (hi : .allocated i token entry ∈ events)
    (hj : .allocated j token entry' ∈ events) : i = j := by
  have htokens := h.tokens
  rw [registrations, List.map_filterMap] at htokens
  cases eq_of_nodup_filterMap htokens hi hj rfl rfl
  rfl

end Resolved

section

variable {events : List Event} {s : Ownership} {i : Nat} {inst : Instance}

/-- The object of an instance that was not given up is finalized by nobody. -/
theorem Evolves.not_finalized_of_tracked (h : fresh.Evolves events s) (hbound : Bounded events)
    (hinst : s.instances[i]? = some inst) (htracked : i ∈ s.tracked) :
    .finalized inst.token ∉ events := by
  intro hfinalized
  have ha := Accounted.of_evolves h
  obtain ⟨j, inst', hinst', htoken, huntracked⟩ := ha.finalized inst.token hfinalized
  obtain ⟨entry, hi⟩ := ha.allocated i inst hinst
  obtain ⟨entry', hj⟩ := ha.allocated j inst' hinst'
  -- Tokens do not repeat, so the instance finalized was this one, which is still tracked.
  rw [htoken] at hj
  rw [(Resolved.of_evolves h hbound).eq_of_token hi hj] at htracked
  exact huntracked htracked

/-- An instance that was not given up resolves to the object its own allocation registered,
unless host code released that. -/
theorem Evolves.resolve?_of_tracked (h : fresh.Evolves events s) (hbound : Bounded events)
    (hinst : s.instances[i]? = some inst) (htracked : i ∈ s.tracked)
    (hreleased : .released inst.token ∉ events) :
    ∃ entry, .allocated i inst.token entry ∈ events ∧
      s.table.resolve? inst.token = some entry.object := by
  obtain ⟨entry, hentry⟩ := (Accounted.of_evolves h).allocated i inst hinst
  have hget := (Resolved.of_evolves h hbound).kept inst.token entry
    (mem_registrations_of_allocated hentry) hreleased
    (h.not_finalized_of_tracked hbound hinst htracked)
  exact ⟨entry, hentry, by simp [ForeignRegistry.resolve?, hget]⟩

/-- Entries are put in by registrations only. -/
theorem insertions_actions (events : List Event) :
    insertions (actions events) = (registrations events).length := by
  induction events with
  | nil => rfl
  | cons event events ih =>
    cases event with
    | allocated number token entry | stranded token entry =>
      show insertions (.insert entry :: actions events) = (registrations events).length + 1
      rw [insertions_cons, ih]
      exact Nat.add_comm _ _
    | released token | finalized token =>
      show insertions (.remove token :: actions events) = (registrations events).length
      rw [insertions_cons, ih]
      exact Nat.zero_add _
    | swept => exact ih

/-- Where fewer than `2 ^ 32` objects have been registered, no token repeats. -/
theorem Evolves.bounded (h : fresh.Evolves events s) (hobjects : s.objects < UInt32.size) :
    Bounded events := by
  have hcount : insertions (actions events) = s.objects := by
    have hlength := congrArg List.length (Accounted.of_evolves h).objects
    rw [List.length_map, List.length_range] at hlength
    rw [insertions_actions, hlength]
  -- A place is made for an object, and vacated at most as often as objects came to it.
  exact withinBounds_of_insertions (by omega)

/-- What was released resolves to nothing, and finalizing it changes nothing. -/
theorem Evolves.resolve?_of_released (h : fresh.Evolves events s) (hbound : Bounded events)
    {token : Token} (hreleased : .released token ∈ events) :
    s.table.resolve? token = none ∧ (s.table.finalize token).2 = s.table := by
  obtain ⟨hget, -⟩ := (Resolved.of_evolves h hbound).gone token (.inl hreleased)
  refine ⟨by simp [ForeignRegistry.resolve?, hget], ?_⟩
  have hheap : (s.table.finalize token).2.heap = s.table.heap := by
    rw [s.table.heap_finalize, remove_of_get?_eq_none hget]
  exact congrArg ForeignRegistry.mk hheap

end

end Ownership

end ScriptHost
