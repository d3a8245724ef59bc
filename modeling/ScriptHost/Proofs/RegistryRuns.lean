/-
The life of the table of foreign objects.

A `RegistrySession` is the table together with the objects it shares with host code, the
finalizers that have been run, and the changes that have been made to objects.  An operation
does its part on the table, and then the finalizers that are due run, one after the other;
each may change objects, and may panic, which cuts the operation short.

`Registered` says of a record of operations that an entry was registered under a token and has
not left since.  Of every record in which tokens do not repeat (`ObjectHeap.WithinBounds`):

* **`RegistrySession.get?_after`** — the table holds exactly what is registered;
* **`RegistrySession.absent_after`** — what has left stays absent;
* **`RegistrySession.ran_after`** — which finalizers have been run, and in which order;
* **`RegistrySession.changed_after`** — an object is what all changes made to it made of it;
* **`RegistrySession.keepsAccount_after`** — all of this together.
-/
import Mathlib.Data.List.Induction
import ScriptHost.Proofs.ObjectsInUse
import ScriptHost.Proofs.Ownership

namespace ScriptHost

open ObjectHeap

/-! ### Changes to shared objects -/

/-- A change made to an object through some reference to it.  It is made to a value of some
type, so the type of the object stays. -/
structure Change where
  object : ObjectId
  on : HostObject → HostObject
  keepsType : ∀ o, (on o).typeName = o.typeName

namespace Change

/-- Makes a change. -/
def apply (s : ObjectStore) (c : Change) : ObjectStore :=
  match s.get? c.object with
  | some o => s.put c.object (c.on o)
  | none => s

/-- A change to the value of an object of a type. -/
def typed {α : Type} [HostType α] (id : ObjectId) (change : α → α) : Change where
  object := id
  on o := ((HostObject.as? α o).map fun a => .of (change a)).getD o
  keepsType o := by
    unfold HostObject.as?
    split
    · rename_i htype
      cases HostType.ofFields? (α := α) o.fields with
      | none => rfl
      | some a => exact htype.symm
    · rfl

/-- What changes make of an object. -/
def sumOn (changes : List Change) (id : ObjectId) (o : HostObject) : HostObject :=
  changes.foldl (fun o c => if c.object = id then c.on o else o) o

theorem put_get? {s : ObjectStore} {id : ObjectId} {o : HostObject} (h : s.get? id = some o) :
    s.put id o = s := by
  rw [ObjectStore.put, ObjectStore.mk.injEq]
  refine List.ext_getElem? fun id' => ?_
  rw [List.getElem?_modify]
  by_cases hid : id = id'
  · subst hid
    obtain ⟨cell, hcell, rfl⟩ := Option.map_eq_some_iff.mp h
    simp [hcell]
  · simp [hid]

/-- Working on the value behind a reference is a change. -/
theorem update_eq_apply {α : Type} [HostType α] {s : ObjectStore} {id : ObjectId}
    (hfree : s.isInUse id = false) (change : α → α) :
    (s.update id fun a t => ((), change a, t)).2 = apply s (typed id change) := by
  unfold ObjectStore.update ObjectStore.as? apply
  show _ = match s.get? id with
    | some o => s.put id ((typed id change).on o)
    | none => s
  cases hget : s.get? id with
  | none => rfl
  | some o =>
    -- An object of another type is left as it is, and so the change that is typed leaves it.
    cases has : HostObject.as? α o with
    | none =>
      simp only [Option.bind_some, has, typed, Option.map_none, Option.getD_none, put_get? hget]
    | some a =>
      simp only [Option.bind_some, has, typed, Option.map_some, Option.getD_some, hfree,
        Bool.false_eq_true, ↓reduceIte, ObjectStore.setInUse_put_setInUse hfree]

theorem get?_apply (s : ObjectStore) (c : Change) (id : ObjectId) :
    (apply s c).get? id = (s.get? id).map fun o => if c.object = id then c.on o else o := by
  unfold apply
  by_cases hid : c.object = id
  · subst hid
    cases hget : s.get? c.object with
    | none => simp [hget]
    | some o =>
      obtain ⟨cell, hcell, rfl⟩ := Option.map_eq_some_iff.mp hget
      simp [ObjectStore.get?, ObjectStore.put, hcell]
  · cases s.get? c.object with
    | none => simp [hid]
    | some o => simp [ObjectStore.get?, ObjectStore.put, hid, Function.comp_def]

theorem get?_foldl_apply (s : ObjectStore) (changes : List Change) (id : ObjectId) :
    (changes.foldl apply s).get? id = (s.get? id).map (sumOn changes id) := by
  induction changes generalizing s with
  | nil => exact Option.map_id'.symm
  | cons c changes ih =>
    rw [List.foldl_cons, ih, get?_apply, Option.map_map]
    rfl

theorem typeName_sumOn (changes : List Change) (id : ObjectId) (o : HostObject) :
    (sumOn changes id o).typeName = o.typeName := by
  induction changes generalizing o with
  | nil => rfl
  | cons c changes ih =>
    rw [sumOn, List.foldl_cons]
    refine (ih _).trans ?_
    split
    · exact c.keepsType o
    · rfl

theorem sumOn_append (changes changes' : List Change) (id : ObjectId) (o : HostObject) :
    sumOn (changes ++ changes') id o = sumOn changes' id (sumOn changes id o) :=
  List.foldl_append

end Change

/-! ### Operations -/

/-- The table, the objects shared with it, the finalizers run so far, and the changes made so
far. -/
structure RegistrySession (F : Type) where
  table : ForeignRegistry F
  objects : ObjectStore
  ran : List (Finalization F)
  changes : List Change

/-- One thing that is done with a table of objects, or to an object somebody has a reference
to. -/
inductive RegistryAction (F : Type) : Type 1 where
  | place (object : HostObject)
  | change (change : Change)
  | register (object : ObjectId) (finalizer : Option F)
  | resolve (token : Token)
  | resolveAs (token : Token) (type : Type) (hostType : HostType type)
  | contains (token : Token)
  | release (token : Token)
  | finalize (token : Token)
  | clear

inductive RegistryReply where
  | nothing
  | object (id : ObjectId)
  | token (token : Token)
  | found (object : Option ObjectId)
  | flag (value : Bool)

/-- What a finalizer does with the object it is given: the changes it makes, depending on the
objects as it finds them, and the panic it ends with, if it does.  The table is busy until it
has run, so it does nothing there. -/
abbrev Conduct (F : Type) := Finalization F → ObjectStore → List Change × Option Panic

namespace RegistrySession

variable {F : Type}

def fresh : RegistrySession F :=
  ⟨.empty, .empty, [], []⟩

/-- Makes changes to objects. -/
def make (s : RegistrySession F) (changes : List Change) : RegistrySession F :=
  { s with objects := changes.foldl Change.apply s.objects, changes := s.changes ++ changes }

/-- The part of an operation that is done before finalizers run: its reply and the finalizers
that are due. -/
def opening (s : RegistrySession F) :
    RegistryAction F → (RegistryReply × List (Finalization F)) × RegistrySession F
  | .place object =>
    let (id, objects) := s.objects.place object
    ((.object id, []), { s with objects := objects })
  | .change change => ((.nothing, []), s.make [change])
  | .register object finalizer =>
    let (token, table) := s.table.register object finalizer
    ((.token token, []), { s with table := table })
  | .resolve t => ((.found (s.table.resolve? t), []), s)
  | .resolveAs t type _ => ((.found (s.table.resolveAs? s.objects type t), []), s)
  | .contains t => ((.flag (s.table.contains t), []), s)
  | .release t =>
    let (object, table) := s.table.release t
    ((.found object, []), { s with table := table })
  | .finalize t =>
    let ((found, due), table) := s.table.finalize t
    ((.flag found, due), { s with table := table })
  | .clear =>
    let (due, table) := s.table.clear
    ((.nothing, due), { s with table := table })

/-- Runs a finalizer that is due. -/
def attend (conduct : Conduct F) (due : Finalization F) : Run (RegistrySession F) Unit := do
  let (changes, ending) := conduct due (← get).objects
  modify fun s => { s.make changes with ran := s.ran ++ [due] }
  match ending with
  | some cause => throw cause
  | none => pure ()

/-- Carries out an operation. -/
def perform (conduct : Conduct F) (a : RegistryAction F) :
    Run (RegistrySession F) RegistryReply := do
  let (reply, due) ← modifyGet (·.opening a)
  due.forM (attend conduct)
  return reply

/-- The state after operations, those that panicked among them. -/
def after (conduct : Conduct F) (actions : List (RegistryAction F)) : RegistrySession F :=
  actions.foldl (fun s a => (perform conduct a s).2) fresh

end RegistrySession

namespace RegistryAction

variable {F : Type}

/-- What an operation does to the heap of entries. -/
def heapActions : RegistryAction F → List (HeapAction (ForeignEntry F))
  | .place _ | .change _ => []
  | .register object finalizer => [.insert ⟨object, finalizer⟩]
  | .resolve t | .resolveAs t _ _ | .contains t => [.get t]
  | .release t | .finalize t => [.remove t]
  | .clear => [.drain]

/-- The operation takes the entry of a token out, if there is one. -/
def Ends (t : Token) : RegistryAction F → Prop
  | .release t' | .finalize t' => t' = t
  | .clear => True
  | _ => False

/-- The finalizers an operation makes due, by the account of what is registered. -/
def owed (b : Book (ForeignEntry F)) : RegistryAction F → List (Finalization F)
  | .finalize t => ((b.find? t).map (·.value.finalizations)).getD []
  | .clear => b.byPlace.flatMap (·.value.finalizations)
  | _ => []

end RegistryAction

namespace RegistrySession

variable {F : Type} {conduct : Conduct F}

/-- What operations do to the heap of entries. -/
def heapActions (actions : List (RegistryAction F)) : List (HeapAction (ForeignEntry F)) :=
  actions.flatMap (·.heapActions)

/-- The account of what is registered after operations. -/
def account (actions : List (RegistryAction F)) : Book (ForeignEntry F) :=
  .ofRun (heapActions actions)

/-- The finalizers that operations make due, `before` being what was done before them. -/
def owedFrom (before : List (RegistryAction F)) : List (RegistryAction F) → List (Finalization F)
  | [] => []
  | a :: rest => a.owed (account before) ++ owedFrom (before ++ [a]) rest

/-- An entry was registered under a token and has not left the table since. -/
def Registered (conduct : Conduct F) (actions : List (RegistryAction F)) (t : Token)
    (e : ForeignEntry F) : Prop :=
  ∃ before between, actions = before ++ .register e.object e.finalizer :: between ∧
    ((after conduct before).table.register e.object e.finalizer).1 = t ∧
    ∀ a ∈ between, ¬ a.Ends t

/-- Every operation came to its end. -/
def Answered (conduct : Conduct F) (actions : List (RegistryAction F)) : Prop :=
  ∀ before action rest, actions = before ++ action :: rest →
    ∃ reply, (perform conduct action (after conduct before)).1 = .ok reply

/-! ### One operation -/

/-- Finalizers were started one after the other, and made their changes. -/
def Attended (started : List (Finalization F)) (s s' : RegistrySession F) : Prop :=
  ∃ changes, s' = { s.make changes with ran := s.ran ++ started }

theorem attend_apply (due : Finalization F) (s : RegistrySession F) :
    attend conduct due s =
      (match (conduct due s.objects).2 with
        | some cause => .error cause
        | none => .ok (),
        { s.make (conduct due s.objects).1 with ran := s.ran ++ [due] }) := by
  unfold attend
  rw [Run.get_bind_apply]
  cases h : conduct due s.objects with
  | mk changes ending => cases ending <;> rfl

theorem Attended.cons {due : Finalization F} {started : List (Finalization F)}
    {s s' : RegistrySession F} {changes : List Change}
    (h : Attended started { s.make changes with ran := s.ran ++ [due] } s') :
    Attended (due :: started) s s' := by
  obtain ⟨more, rfl⟩ := h
  exact ⟨changes ++ more, by simp [make]⟩

/-- Finalizers that are due are started in order, up to the first that panics. -/
theorem leads_forM_attend (due : List (Finalization F)) (s : RegistrySession F) :
    Run.Leads (due.forM (attend conduct)) s (fun _ s' => Attended due s s')
      fun s' => ∃ started, started <+: due ∧ Attended started s s' := by
  induction due generalizing s with
  | nil => exact ⟨[], by simp [make]⟩
  | cons first due ih =>
    have hrest := ih { s.make (conduct first s.objects).1 with ran := s.ran ++ [first] }
    show Run.Leads (attend conduct first >>= fun _ => due.forM (attend conduct)) s _ _
    unfold Run.Leads at hrest ⊢
    rw [Run.bind_apply, attend_apply]
    cases (conduct first s.objects).2 with
    | some cause => exact ⟨[first], List.prefix_cons_inj first |>.mpr List.nil_prefix, _, rfl⟩
    | none =>
      dsimp only
      -- Where the rest is cut short, so is the whole, one finalizer later.
      split at hrest
      · rename_i heq
        rw [heq]
        exact hrest.cons
      · rename_i heq
        rw [heq]
        obtain ⟨started, hprefix, hstarted⟩ := hrest
        exact ⟨first :: started, (List.prefix_cons_inj first).mpr hprefix, hstarted.cons⟩

/-- What an operation leads to: it does its part, and runs the finalizers that are due. -/
theorem leads_perform (conduct : Conduct F) (a : RegistryAction F) (s : RegistrySession F) :
    Run.Leads (perform conduct a) s
      (fun reply s' => reply = (s.opening a).1.1 ∧ Attended (s.opening a).1.2 (s.opening a).2 s')
      fun s' => ∃ started, started <+: (s.opening a).1.2 ∧ Attended started (s.opening a).2 s' := by
  refine .bind (m := fun p s' => (p, s') = s.opening a) ?_ ?_
  · exact .modifyGet rfl
  · rintro ⟨reply, due⟩ s' heq
    rw [← heq]
    refine .bind (leads_forM_attend due s') ?_
    intro _ s'' hs''
    exact .pure ⟨rfl, hs''⟩

/-- Where an operation ends: some of the finalizers that are due were started, and all of them
if it answers. -/
theorem perform_ends (conduct : Conduct F) (a : RegistryAction F) (s : RegistrySession F) :
    ∃ started, started <+: (s.opening a).1.2 ∧
      Attended started (s.opening a).2 (perform conduct a s).2 ∧
      ∀ reply, (perform conduct a s).1 = .ok reply →
        reply = (s.opening a).1.1 ∧ started = (s.opening a).1.2 := by
  have h := leads_perform conduct a s
  unfold Run.Leads at h
  split at h <;> rename_i heq <;> rw [heq]
  · refine ⟨_, List.prefix_rfl, h.2, ?_⟩
    rintro reply ⟨⟩
    exact ⟨h.1, rfl⟩
  · obtain ⟨started, hprefix, hattended⟩ := h
    exact ⟨started, hprefix, hattended, nofun⟩

theorem after_snoc (conduct : Conduct F) (actions : List (RegistryAction F))
    (a : RegistryAction F) :
    after conduct (actions ++ [a]) = (perform conduct a (after conduct actions)).2 := by
  simp [after]

/-! ### The table -/

theorem heap_opening (s : RegistrySession F) (a : RegistryAction F) :
    (s.opening a).2.table.heap = s.table.heap.after a.heapActions := by
  cases a with
  | finalize t => exact s.table.heap_finalize t
  | _ => rfl

theorem heap_after (conduct : Conduct F) (actions : List (RegistryAction F)) :
    (after conduct actions).table.heap = ObjectHeap.empty.after (heapActions actions) := by
  induction actions using List.reverseRecOn with
  | nil => rfl
  | append_singleton actions a ih =>
    obtain ⟨started, -, ⟨changes, hend⟩, -⟩ := perform_ends conduct a (after conduct actions)
    rw [after_snoc, hend, heapActions, List.flatMap_append, List.flatMap_singleton,
      ObjectHeap.after_append, ← heapActions, ← ih, ← heap_opening]
    rfl

theorem registered_snoc {actions : List (RegistryAction F)} {a : RegistryAction F} {t : Token}
    {e : ForeignEntry F} :
    Registered conduct (actions ++ [a]) t e ↔
      a = .register e.object e.finalizer ∧
          ((after conduct actions).table.register e.object e.finalizer).1 = t ∨
        Registered conduct actions t e ∧ ¬ a.Ends t := by
  constructor
  · rintro ⟨before, between, hsplit, htoken, hkept⟩
    -- The entry was put in by the last action, or before it and has outlived it.
    rcases List.eq_nil_or_concat between with rfl | ⟨between, b, rfl⟩
    · obtain ⟨rfl, hlast⟩ := List.append_inj' hsplit rfl
      exact .inl ⟨List.singleton_inj.mp hlast, htoken⟩
    · rw [List.concat_eq_append] at hsplit hkept
      rw [← List.cons_append, ← List.append_assoc] at hsplit
      obtain ⟨rfl, hlast⟩ := List.append_inj' hsplit rfl
      obtain rfl := List.singleton_inj.mp hlast
      exact .inr ⟨⟨before, between, rfl, htoken, fun c hc => hkept c (by simp [hc])⟩,
        hkept a (by simp)⟩
  · rintro (⟨rfl, htoken⟩ | ⟨⟨before, between, rfl, htoken, hkept⟩, hend⟩)
    · exact ⟨actions, [], rfl, htoken, by simp⟩
    · refine ⟨before, between ++ [a], by simp, htoken, fun c hc => ?_⟩
      rcases List.mem_append.mp hc with hc | hc
      · exact hkept c hc
      · rwa [List.mem_singleton.mp hc]

/-- Every place can be numbered by a token. -/
def Fits (actions : List (RegistryAction F)) : Prop :=
  (ObjectHeap.empty.after (heapActions actions)).slots.length ≤ UInt32.size

theorem Fits.of_append {actions later : List (RegistryAction F)} (h : Fits (actions ++ later)) :
    Fits actions := by
  unfold Fits heapActions at h
  rw [List.flatMap_append] at h
  exact Nat.le_trans (length_le_append _ _ _) h

/-- One operation puts an entry in, or takes an entry out. -/
theorem get?_opening {s : RegistrySession F} {vacated : Nat → Nat}
    (hs : s.table.heap.Sound vacated) (a : RegistryAction F)
    (hfit : (s.opening a).2.table.heap.slots.length ≤ UInt32.size) {t : Token}
    {e : ForeignEntry F} :
    (s.opening a).2.table.heap.get? t = some e ↔
      a = .register e.object e.finalizer ∧ (s.table.register e.object e.finalizer).1 = t ∨
        s.table.heap.get? t = some e ∧ ¬ a.Ends t := by
  cases a with
  | register object finalizer =>
    show (s.table.heap.insert ⟨object, finalizer⟩).2.get? t = some e ↔ _
    -- The token of a new entry resolved to nothing before.
    have hfree : s.table.heap.get? (s.table.heap.insert ⟨object, finalizer⟩).1 = none := by
      refine get?_eq_none_of_entryAt ?_
      rw [hs.insert_place _ hfit]
      exact hs.nextPlace_free.1
    rw [hs.get?_insert _ hfit]
    split
    · rename_i ht
      rw [ht, hfree]
      constructor
      · rintro ⟨⟩
        exact .inl ⟨rfl, rfl⟩
      · rintro (⟨⟨⟩, -⟩ | ⟨hnone, -⟩)
        · rfl
        · cases hnone
    · rename_i ht
      constructor
      · intro hget
        exact .inr ⟨hget, not_false⟩
      · rintro (⟨⟨⟩, hnew⟩ | ⟨hget, -⟩)
        · exact absurd hnew.symm ht
        · exact hget
  | release t' | finalize t' =>
    rw [heap_opening]
    show (s.table.heap.remove t').2.get? t = some e ↔ _
    rw [get?_remove]
    by_cases ht : t = t'
    · simp [RegistryAction.Ends, ht]
    · simp [RegistryAction.Ends, ht, Ne.symm ht]
  | clear =>
    show s.table.heap.drain.2.get? t = some e ↔ _
    simp [get?_drain, RegistryAction.Ends]
  | _ => simp [opening, make, RegistryAction.Ends]

theorem table_perform (conduct : Conduct F) (a : RegistryAction F) (s : RegistrySession F) :
    (perform conduct a s).2.table = (s.opening a).2.table := by
  obtain ⟨started, -, ⟨changes, hend⟩, -⟩ := perform_ends conduct a s
  rw [hend]
  rfl

theorem sound_table {actions : List (RegistryAction F)} (hfit : Fits actions) :
    (after conduct actions).table.heap.Sound fun place =>
      vacations place ObjectHeap.empty (heapActions actions) := by
  rw [heap_after]
  exact sound_after _ hfit

/-- The table holds exactly what is registered. -/
theorem get?_after {actions : List (RegistryAction F)} (hfit : Fits actions) {t : Token}
    {e : ForeignEntry F} :
    (after conduct actions).table.heap.get? t = some e ↔ Registered conduct actions t e := by
  induction actions using List.reverseRecOn with
  | nil =>
    refine iff_of_false nofun ?_
    rintro ⟨before, between, hsplit, -⟩
    exact absurd (congrArg List.length hsplit) (by simp)
  | append_singleton actions a ih =>
    have hlength := hfit
    rw [Fits, ← heap_after conduct, after_snoc, table_perform] at hlength
    rw [registered_snoc, ← ih hfit.of_append, after_snoc, table_perform]
    exact get?_opening (sound_table hfit.of_append) a hlength

/-! ### Entries that have left -/

/-- The table knows nothing of a token. -/
structure Absent (s : RegistrySession F) (t : Token) : Prop where
  resolve : s.table.resolve? t = none
  resolveAs : ∀ (α : Type) [HostType α], s.table.resolveAs? s.objects α t = none
  contains : s.table.contains t = false
  release : (s.table.release t).1 = none
  finalize : (s.table.finalize t).1 = (false, [])

theorem absent_of_get? {s : RegistrySession F} {t : Token} (h : s.table.heap.get? t = none) :
    s.Absent t where
  resolve := by simp [ForeignRegistry.resolve?, h]
  resolveAs α _ := by simp [ForeignRegistry.resolveAs?, ForeignRegistry.resolve?, h]
  contains := by simp [ForeignRegistry.contains, ObjectHeap.contains, h]
  release := by simp [ForeignRegistry.release, remove_of_get?_eq_none h]
  finalize := by simp [ForeignRegistry.finalize, remove_of_get?_eq_none h]

theorem token_register (conduct : Conduct F) (actions : List (RegistryAction F))
    (e : ForeignEntry F) :
    ((after conduct actions).table.register e.object e.finalizer).1 =
      ((ObjectHeap.empty.after (heapActions actions)).insert e).1 := by
  rw [← heap_after conduct]
  rfl

/-- What has left the table stays absent, as its token is not issued again. -/
theorem absent_after {before later : List (RegistryAction F)} {a : RegistryAction F} {t : Token}
    {e : ForeignEntry F} (hbounds : WithinBounds (heapActions (before ++ a :: later)))
    (hregistered : Registered conduct before t e) (hends : a.Ends t) :
    (after conduct (before ++ a :: later)).Absent t := by
  refine absent_of_get? (Option.eq_none_iff_forall_ne_some.mpr fun e' hget => ?_)
  obtain ⟨again, rest, hsplit, htoken', hkept⟩ := (get?_after hbounds.1).mp hget
  obtain ⟨first, between, rfl, htoken, -⟩ := hregistered
  rcases List.append_eq_append_iff.mp hsplit with ⟨middle, rfl, hlater⟩ | ⟨middle, -, hrest⟩
  · cases middle with
    | nil =>
      obtain ⟨rfl, -⟩ := List.cons.inj hlater
      exact hends
    | cons a' middle =>
      -- Both registrations are in the record, and issue tokens of their own.
      rw [token_register] at htoken htoken'
      have hrecord : heapActions (first ++ .register e.object e.finalizer :: between ++
            a' :: middle ++ .register e'.object e'.finalizer :: rest) =
          heapActions first ++ .insert e :: heapActions (between ++ a' :: middle) ++ [.insert e'] ++
            heapActions rest := by
        simp [heapActions, RegistryAction.heapActions]
      rw [hsplit, hrecord] at hbounds
      refine insert_token_ne hbounds.of_append.1 hbounds.of_append.2 ?_
      rw [htoken, ← htoken']
      simp [heapActions, RegistryAction.heapActions]
  · -- The operation took the entry out after its registration.
    cases middle with
    | nil =>
      obtain ⟨rfl, -⟩ := List.cons.inj hrest
      exact hends
    | cons a' middle =>
      obtain ⟨-, rfl⟩ := List.cons.inj hrest
      exact hkept a (by simp) hends

/-! ### Finalizers -/

theorem agrees_account (conduct : Conduct F) {actions : List (RegistryAction F)}
    (hfit : Fits actions) : (after conduct actions).table.heap.Agrees (account actions) := by
  rw [heap_after]
  exact agrees_ofRun _ hfit

/-- The finalizers that an operation makes due are those the account has. -/
theorem due_opening {s : RegistrySession F} {b : Book (ForeignEntry F)} {vacated : Nat → Nat}
    (hs : s.table.heap.Sound vacated) (hb : s.table.heap.Agrees b) (a : RegistryAction F) :
    (s.opening a).1.2 = a.owed b := by
  cases a with
  | finalize t =>
    have hentry := (remove_fst s.table.heap t).trans (hb.get?_eq_find? t)
    show (s.table.finalize t).1.2 = ((b.find? t).map (·.value.finalizations)).getD []
    unfold ForeignRegistry.finalize
    -- What the table takes out under a token is what the account finds under it.
    rcases hremove : s.table.heap.remove t with ⟨_ | entry, heap⟩ <;> rw [hremove] at hentry
    · rw [Option.map_eq_none_iff.mp hentry.symm]
      rfl
    · obtain ⟨held, hfind, hvalue⟩ := Option.map_eq_some_iff.mp hentry.symm
      rw [hfind, ← hvalue]
      rfl
  | clear =>
    show s.table.heap.drain.1.flatMap (·.finalizations) = b.byPlace.flatMap (·.value.finalizations)
    rw [hb.drain_fst hs, List.flatMap_map]
  | _ => rfl

theorem ran_opening (s : RegistrySession F) (a : RegistryAction F) :
    (s.opening a).2.ran = s.ran := by
  cases a <;> rfl

/-- An operation starts the finalizers that it makes due, in order, and all of them if it
comes to its end. -/
theorem ran_perform (conduct : Conduct F) {actions : List (RegistryAction F)}
    (hfit : Fits actions) (a : RegistryAction F) :
    ∃ started, started <+: a.owed (account actions) ∧
      (after conduct (actions ++ [a])).ran = (after conduct actions).ran ++ started ∧
      ∀ reply, (perform conduct a (after conduct actions)).1 = .ok reply →
        reply = ((after conduct actions).opening a).1.1 ∧ started = a.owed (account actions) := by
  have hdue := due_opening (sound_table hfit) (agrees_account conduct hfit) a
  obtain ⟨started, hprefix, ⟨changes, hend⟩, hall⟩ :=
    perform_ends conduct a (after conduct actions)
  rw [hdue] at hprefix hall
  refine ⟨started, hprefix, ?_, hall⟩
  rw [after_snoc, hend]
  show ((after conduct actions).opening a).2.ran ++ started = _
  rw [ran_opening]

theorem owedFrom_snoc (before actions : List (RegistryAction F)) (a : RegistryAction F) :
    owedFrom before (actions ++ [a]) =
      owedFrom before actions ++ a.owed (account (before ++ actions)) := by
  induction actions generalizing before with
  | nil => simp [owedFrom]
  | cons b actions ih => simp [owedFrom, ih]

theorem Answered.of_append {actions later : List (RegistryAction F)}
    (h : Answered conduct (actions ++ later)) : Answered conduct actions := by
  rintro before action rest rfl
  exact h before action (rest ++ later) (by simp)

/-- The finalizers that have been run are those that became due, in that order. -/
theorem ran_after {actions : List (RegistryAction F)} (hfit : Fits actions)
    (hanswered : Answered conduct actions) : (after conduct actions).ran = owedFrom [] actions := by
  induction actions using List.reverseRecOn with
  | nil => rfl
  | append_singleton actions a ih =>
    obtain ⟨started, -, hran, hall⟩ := ran_perform conduct hfit.of_append a
    obtain ⟨reply, hreply⟩ := hanswered actions a [] rfl
    rw [owedFrom_snoc, List.nil_append, hran, ih hfit.of_append hanswered.of_append,
      (hall reply hreply).2]

/-! ### Objects -/

/-- From one state to another, objects are changed as recorded. -/
def Changed (since : List Change) (s s' : RegistrySession F) : Prop :=
  s'.changes = s.changes ++ since ∧
    ∀ id o, s.objects.get? id = some o → s'.objects.get? id = some (Change.sumOn since id o)

theorem Changed.refl (s : RegistrySession F) : Changed [] s s :=
  ⟨(List.append_nil _).symm, fun _ _ h => h⟩

theorem Changed.trans {since since' : List Change} {s s' s'' : RegistrySession F}
    (h : Changed since s s') (h' : Changed since' s' s'') : Changed (since ++ since') s s'' := by
  refine ⟨by rw [h'.1, h.1, List.append_assoc], fun id o ho => ?_⟩
  rw [Change.sumOn_append]
  exact h'.2 id _ (h.2 id o ho)

theorem changed_make (s : RegistrySession F) (changes : List Change) :
    Changed changes s (s.make changes) :=
  ⟨rfl, fun id o ho => by
    show (changes.foldl Change.apply s.objects).get? id = _
    rw [Change.get?_foldl_apply, ho]
    rfl⟩

theorem changed_opening (s : RegistrySession F) (a : RegistryAction F) :
    ∃ since, Changed since s (s.opening a).2 := by
  cases a with
  | place object =>
    exact ⟨[], (List.append_nil _).symm, fun _ _ ho => ObjectStore.get?_place_of_eq_some ho object⟩
  | change c => exact ⟨[c], changed_make s [c]⟩
  | _ => exact ⟨[], .refl s⟩

theorem changed_perform (conduct : Conduct F) (s : RegistrySession F) (a : RegistryAction F) :
    ∃ since, Changed since s (perform conduct a s).2 := by
  obtain ⟨first, hfirst⟩ := changed_opening s a
  obtain ⟨started, -, ⟨changes, hend⟩, -⟩ := perform_ends conduct a s
  rw [hend]
  exact ⟨_, hfirst.trans (changed_make _ changes)⟩

/-- An object is what all changes made to it since made of it. -/
theorem changed_after (conduct : Conduct F) (before later : List (RegistryAction F)) :
    ∃ since, Changed since (after conduct before) (after conduct (before ++ later)) := by
  induction later using List.reverseRecOn with
  | nil =>
    rw [List.append_nil]
    exact ⟨[], .refl _⟩
  | append_singleton later a ih =>
    obtain ⟨since, hsince⟩ := ih
    obtain ⟨last, hlast⟩ := changed_perform conduct (after conduct (before ++ later)) a
    rw [← List.append_assoc, after_snoc]
    exact ⟨_, hsince.trans hlast⟩

/-! ### The table over a record of operations -/

theorem found_finalize (r : ForeignRegistry F) (t : Token) :
    (r.finalize t).1.1 = (r.heap.get? t).isSome := by
  rw [← remove_fst]
  unfold ForeignRegistry.finalize
  rcases r.heap.remove t with ⟨_ | entry, heap⟩ <;> rfl

/-- What the table does, the record of what is registered saying which. -/
structure KeepsAccount (conduct : Conduct F) (actions : List (RegistryAction F)) : Prop where
  /-- The account lists what is registered. -/
  listed : ∀ t e, (∃ held ∈ (account actions).live, held.token = t ∧ held.value = e) ↔
    Registered conduct actions t e
  /-- By place the account lists each of them once. -/
  byPlace : (account actions).byPlace.Perm (account actions).live ∧
    (account actions).byPlace.Pairwise fun held held' => held.token.place < held'.token.place
  /-- The finalizers run are those that became due, in that order. -/
  ran : Answered conduct actions → (after conduct actions).ran = owedFrom [] actions
  /-- Of the next operation too, where a finalizer that panics keeps those after it from
  running. -/
  started : ∀ a, ∃ started, started <+: a.owed (account actions) ∧
    (after conduct (actions ++ [a])).ran = (after conduct actions).ran ++ started ∧
    ∀ reply, (perform conduct a (after conduct actions)).1 = .ok reply →
      reply = ((after conduct actions).opening a).1.1 ∧ started = a.owed (account actions)
  resolve : ∀ t id, (after conduct actions).table.resolve? t = some id ↔
    ∃ e, Registered conduct actions t e ∧ e.object = id
  resolveAs : ∀ (α : Type) [HostType α] t id,
    (after conduct actions).table.resolveAs? (after conduct actions).objects α t = some id ↔
      ∃ e o, Registered conduct actions t e ∧ e.object = id ∧
        (after conduct actions).objects.get? id = some o ∧ o.is α
  contains : ∀ t, (after conduct actions).table.contains t ↔ ∃ e, Registered conduct actions t e
  release : ∀ t id, ((after conduct actions).table.release t).1 = some id ↔
    ∃ e, Registered conduct actions t e ∧ e.object = id
  finalize : ∀ t, ((after conduct actions).table.finalize t).1.1 ↔
    ∃ e, Registered conduct actions t e
  /-- An entry that has left never comes back under its token. -/
  absent : ∀ before a later t e, actions = before ++ a :: later →
    Registered conduct before t e → a.Ends t → (after conduct actions).Absent t
  /-- An object is shared: whoever has a reference sees all changes made to it. -/
  shared : ∀ before later, actions = before ++ later →
    ∃ since, Changed since (after conduct before) (after conduct actions)
  /-- It stays of its type. -/
  typed : ∀ before later, actions = before ++ later → ∀ id o,
    (after conduct before).objects.get? id = some o →
      ∃ o', (after conduct actions).objects.get? id = some o' ∧ o'.typeName = o.typeName
  /-- To work on the value of an object, through whatever reference, is to make such a change. -/
  works : ∀ (α : Type) [HostType α] id (change : α → α),
    (after conduct actions).objects.isInUse id = false →
      ((after conduct actions).objects.update id fun a t => ((), change a, t)).2 =
        (Change.typed id change).apply (after conduct actions).objects

theorem resolveAs?_eq_some_iff {r : ForeignRegistry F} {objects : ObjectStore} {α : Type}
    [HostType α] {t : Token} {id : ObjectId} :
    r.resolveAs? objects α t = some id ↔
      r.resolve? t = some id ∧ ∃ o, objects.get? id = some o ∧ o.is α := by
  rw [ForeignRegistry.resolveAs?, Option.filter_eq_some_iff, Option.any_eq_true]

theorem keepsAccount_after (conduct : Conduct F) (actions : List (RegistryAction F))
    (hbounds : WithinBounds (heapActions actions)) : KeepsAccount conduct actions := by
  have hget : ∀ t e, (after conduct actions).table.heap.get? t = some e ↔
      Registered conduct actions t e := fun t e => get?_after hbounds.1
  have hresolves : ∀ t id, (after conduct actions).table.resolve? t = some id ↔
      ∃ e, Registered conduct actions t e ∧ e.object = id := by
    simp [ForeignRegistry.resolve?, hget]
  have hagrees := agrees_account conduct hbounds.1
  -- Everything that is asked of the table comes down to what a token resolves to.
  refine ⟨fun t e => ?_, ⟨Book.byPlace_perm _, hagrees.pairwise_byPlace⟩, ran_after hbounds.1,
    ran_perform conduct hbounds.1, fun t id => ?_, fun α _ t id => ?_, fun t => ?_, fun t id => ?_,
    fun t => ?_, ?_, ?_, ?_, fun α _ id change hfree => Change.update_eq_apply hfree change⟩
  · rw [← hget, hagrees.resolves]
  · exact hresolves t id
  · rw [resolveAs?_eq_some_iff]
    constructor
    · rintro ⟨hresolve, o, ho, his⟩
      obtain ⟨e, hentry, hobject⟩ := (hresolves t id).mp hresolve
      exact ⟨e, o, hentry, hobject, ho, his⟩
    · rintro ⟨e, o, hentry, hobject, ho, his⟩
      exact ⟨(hresolves t id).mpr ⟨e, hentry, hobject⟩, o, ho, his⟩
  · simp [ForeignRegistry.contains, ObjectHeap.contains, Option.isSome_iff_exists, hget]
  · simp [ForeignRegistry.release, remove_fst, hget]
  · rw [found_finalize, Option.isSome_iff_exists]
    simp [hget]
  · rintro before a later t e rfl hregistered hends
    exact absent_after hbounds hregistered hends
  · rintro before later rfl
    exact changed_after conduct before later
  · rintro before later rfl id o ho
    obtain ⟨since, -, hobjects⟩ := changed_after conduct before later
    exact ⟨_, hobjects id o ho, Change.typeName_sumOn since id o⟩

/-- A table whose first place is used twice: the stale token of the first entry does not reach
the finalizer of the second. -/
def reusing : List (RegistryAction String) :=
  [.place (.of (1 : Int64)), .register 0 (some "first"), .change (.typed 0 fun a : Int64 => a + 4),
    .finalize ⟨0, 0⟩, .place (.of "text"), .register 1 (some "second"), .finalize ⟨0, 0⟩,
    .release ⟨7, 7⟩, .register 0 none, .resolveAs ⟨0, 1⟩ String inferInstance, .clear,
    .contains ⟨0, 1⟩]

/-- Every finalizer doubles the object it is given. -/
def doubling : Conduct String := fun due _ =>
  ([.typed due.object fun a : Int64 => a + a], none)

theorem keepsAccount_reusing :
    WithinBounds (heapActions reusing) ∧ KeepsAccount doubling reusing ∧
      (after doubling reusing).ran.map (·.finalizer) = ["first", "second"] ∧
      (after doubling reusing).objects.get? 0 = some (.of (10 : Int64)) :=
  have hbounds : WithinBounds (heapActions reusing) :=
    withinBounds_of_insertions (by decide)
  ⟨hbounds, keepsAccount_after doubling reusing hbounds, by decide +kernel, by decide +kernel⟩

end RegistrySession

end ScriptHost
