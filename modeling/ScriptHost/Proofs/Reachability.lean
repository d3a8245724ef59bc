/-
What a machine kept in memory can get at.

A value is reached if it is a root or an element of a list that is reached.  Everything
reached counts as alive (**`References.Reaches.mem_aliveValues`**), so no collection takes
it.  Between two instants of a run values are also held by whoever is computing with them;
`m.Moves held m' held'` says that from one instant to the next nothing new came within
reach but lists, and that the instances stayed what they were.  All a machine does with
values, other than making instances and collecting them, is such a move:

* **`Machine.Moves.of_known`** — a state whose roots and lists hold only what was within
  reach before, and new lists, is a move away;
* **`Machine.windowFrame_moves`** — every operation on the window is a move.
-/
import Mathlib.Data.List.InsertIdx
import ScriptHost.InMemory.Liveness
import ScriptHost.Proofs.WindowFrame

namespace ScriptHost

namespace References

variable {V : Type}

/-- What can be got at from the roots, going from lists to their elements. -/
inductive Reaches (r : References V) : V → Prop where
  | root {v : V} : v ∈ r.roots → Reaches r v
  | element {id : Nat} {elements : List V} {v : V} :
    Reaches r (r.list id) → r.lists[id]? = some elements → v ∈ elements → Reaches r v

open Classical in
/-- Whatever is reached lives. -/
theorem Reaches.mem_aliveValues [DecidableEq V] {r : References V} {v : V} (h : r.Reaches v) :
    v ∈ r.aliveValues := by
  -- The lists within reach keep each other alive.
  let kept := (List.range r.lists.length).filter fun id => r.Reaches (r.list id)
  have hreferred : ∀ v, r.Reaches v → v ∈ r.referred kept := by
    intro v hv
    rw [referred, List.mem_append, List.mem_flatMap]
    cases hv with
    | root hroot => exact .inl hroot
    | @element id elements _ hlist hid hmem =>
      have hlt := (List.getElem?_eq_some_iff.mp hid).1
      exact .inr ⟨id, by simp [kept, hlt, hlist], by simpa [hid] using hmem⟩
  have hrange : ∀ id ∈ kept, id < r.lists.length := by
    intro id hid
    exact List.mem_range.mp (List.mem_filter.mp hid).1
  have hkept : ∀ id ∈ kept, r.list id ∈ r.referred kept := by
    intro id hid
    exact hreferred _ (by simpa using (List.mem_filter.mp hid).2)
  exact mem_referred_mono (r.mem_aliveLists hrange hkept) (hreferred v h)

end References

namespace InMemory.Machine

variable {m m' m'' : Machine} {held held' held'' : List ScriptValue}

/-- The references of a machine while some values are held besides. -/
def holding (m : Machine) (held : List ScriptValue) : References ScriptValue :=
  { m.references with roots := m.references.roots ++ held }

/-- What is within reach of a machine and of the values held. -/
def Reaches (m : Machine) (held : List ScriptValue) (v : ScriptValue) : Prop :=
  (m.holding held).Reaches v

/-- What is referred to from outside all lists: by the window, the variables, the live handles,
the abort and the running calls, or as a value held. -/
inductive Root (m : Machine) (held : List ScriptValue) (v : ScriptValue) : Prop where
  | slot : v ∈ m.slots → Root m held v
  | global {name : String × String} : (name, v) ∈ m.globals → Root m held v
  | handle : some v ∈ m.handles → Root m held v
  | aborted : m.aborted = some v → Root m held v
  | running {values : List ScriptValue} : values ∈ m.running → v ∈ values → Root m held v
  | held : v ∈ held → Root m held v

theorem mem_roots {v : ScriptValue} : v ∈ (m.holding held).roots ↔ m.Root held v := by
  simp only [holding, references, List.mem_append, List.mem_map, List.mem_filterMap,
    List.mem_flatten, Option.mem_toList, or_assoc, id_eq]
  constructor
  · rintro (h | ⟨⟨name, _⟩, h, rfl⟩ | ⟨_, h, rfl⟩ | h | ⟨values, hvalues, h⟩ | h)
    · exact .slot h
    · exact .global h
    · exact .handle h
    · exact .aborted h
    · exact .running hvalues h
    · exact .held h
  · intro h
    cases h with
    | slot h => exact .inl h
    | @global name h => exact .inr (.inl ⟨(name, v), h, rfl⟩)
    | handle h => exact .inr (.inr (.inl ⟨some v, h, rfl⟩))
    | aborted h => exact .inr (.inr (.inr (.inl h)))
    | running hvalues h => exact .inr (.inr (.inr (.inr (.inl ⟨_, hvalues, h⟩))))
    | held h => exact .inr (.inr (.inr (.inr (.inr h))))

/-- Lists are not roots. -/
theorem Root.of_setLists {lists : List (List ScriptValue)} {v : ScriptValue}
    (h : Root { m with lists := lists } held v) : m.Root held v := by
  cases h with
  | slot h => exact .slot h
  | global h => exact .global h
  | handle h => exact .handle h
  | aborted h => exact .aborted h
  | running hvalues h => exact .running hvalues h
  | held h => exact .held h

/-- A value that brings nothing new within reach: one that refers to nothing, one within reach,
or a list not made yet. -/
def Known (m : Machine) (held : List ScriptValue) : ScriptValue → Prop
  | .instanceOf id => m.Reaches held (.instanceOf id)
  | .list id => m.Reaches held (.list id) ∨ m.lists.length ≤ id
  | _ => True

theorem Known.of_reaches {v : ScriptValue} (h : m.Reaches held v) : m.Known held v := by
  cases v with
  | instanceOf id => exact h
  | list id => exact .inl h
  | _ => trivial

theorem Known.of_root {v : ScriptValue} (h : m.Root held v) : m.Known held v :=
  .of_reaches (.root (mem_roots.mpr h))

theorem Known.of_held {v : ScriptValue} (h : v ∈ held) : m.Known held v :=
  .of_root (.held h)

theorem Known.slot (i : Nat) : m.Known held (m.slot i) := by
  unfold Machine.slot
  cases hslot : m.slots[i]? with
  | none => trivial
  | some v => exact .of_root (.slot (List.mem_of_getElem? hslot))

theorem Known.variable (module name : String) : m.Known held (m.readVariable module name) := by
  unfold readVariable
  cases hvalue : m.globals.lookup (module, name) with
  | none => trivial
  | some v =>
    obtain ⟨before, after, hglobals, -⟩ := List.lookup_eq_some_iff.mp hvalue
    have hmem : ((module, name), v) ∈ m.globals := by simp [hglobals]
    exact .of_root (.global hmem)

theorem Known.pinned (h : RawHandle) : m.Known held ((m.pinned? h).getD .null) := by
  unfold pinned?
  split
  · trivial
  · cases hvalue : m.handles[h.bits - 1]? with
    | none => trivial
    | some entry =>
      cases entry with
      | none => trivial
      | some v =>
        exact .of_root (.handle (List.mem_of_getElem? hvalue))

/-- The list in a slot is within reach, and so are its elements. -/
theorem reaches_of_listIn? (held : List ScriptValue) {i id : Nat} {elements : List ScriptValue}
    (h : m.listIn? i = some (id, elements)) :
    m.lists[id]? = some elements ∧ m.Reaches held (.list id) ∧
      ∀ v ∈ elements, m.Reaches held v := by
  unfold listIn? at h
  split at h
  · rename_i id' hslot
    rw [Option.map_eq_some_iff] at h
    obtain ⟨_, hid, heq⟩ := h
    cases heq
    have hlist : m.Reaches held (.list id) :=
      .root (mem_roots.mpr (.slot (List.mem_of_getElem? hslot)))
    exact ⟨hid, hlist, fun v hv => .element hlist hid hv⟩
  · cases h

theorem Known.element (i index : Nat) :
    m.Known held (((m.listIn? i).bind (·.2[index]?)).getD .null) := by
  cases hlist : m.listIn? i with
  | none => trivial
  | some found =>
    obtain ⟨id, elements⟩ := found
    cases hvalue : elements[index]? with
    | none => simp [hvalue, Known]
    | some v =>
      obtain ⟨-, -, hreach⟩ := reaches_of_listIn? held hlist
      simpa [hvalue] using Known.of_reaches (hreach v (List.mem_of_getElem? hvalue))

/-- Nothing came within reach but lists, and the instances and scripts stayed what they
were. -/
structure Moves (m : Machine) (held : List ScriptValue) (m' : Machine)
    (held' : List ScriptValue) : Prop where
  instances : m'.instances = m.instances
  tracked : m'.tracked = m.tracked
  scripts : m'.scripts = m.scripts
  methods : m'.methods = m.methods
  reaches : ∀ id, m'.Reaches held' (.instanceOf id) → m.Reaches held (.instanceOf id)

theorem Moves.refl (m : Machine) (held : List ScriptValue) : m.Moves held m held :=
  ⟨rfl, rfl, rfl, rfl, fun _ h => h⟩

theorem Moves.trans (h : m.Moves held m' held') (h' : m'.Moves held' m'' held'') :
    m.Moves held m'' held'' :=
  ⟨h'.instances.trans h.instances, h'.tracked.trans h.tracked, h'.scripts.trans h.scripts,
    h'.methods.trans h.methods, fun id hid => h.reaches id (h'.reaches id hid)⟩

/-- A state whose roots and lists hold only known values is a move away. -/
theorem Moves.of_known (hinstances : m'.instances = m.instances)
    (htracked : m'.tracked = m.tracked) (hscripts : m'.scripts = m.scripts)
    (hmethods : m'.methods = m.methods)
    (hroots : ∀ v, m'.Root held' v → m.Known held v)
    (hlists : ∀ id elements, m'.lists[id]? = some elements → m.Known held (.list id) →
      ∀ v ∈ elements, m.Known held v) : m.Moves held m' held' := by
  refine ⟨hinstances, htracked, hscripts, hmethods, ?_⟩
  -- By induction on how a value is reached afterwards: it was known before.
  have hknown : ∀ v, (m'.holding held').Reaches v → m.Known held v := by
    intro v hv
    induction hv with
    | root hroot => exact hroots _ (mem_roots.mp hroot)
    | element _ hid hmem ih => exact hlists _ _ hid ih _ hmem
  intro id hid
  exact hknown _ hid

theorem Known.of_element {id : Nat} {elements : List ScriptValue} {v : ScriptValue}
    (hid : m.lists[id]? = some elements) (hlist : m.Known held (.list id)) (hv : v ∈ elements) :
    m.Known held v := by
  rcases hlist with hreach | hlen
  · exact .of_reaches (.element hreach hid hv)
  · have := (List.getElem?_eq_some_iff.mp hid).1
    omega

/-- A state with the same lists, whose roots are old ones or known, is a move away. -/
theorem Moves.of_roots (hinstances : m'.instances = m.instances)
    (htracked : m'.tracked = m.tracked) (hscripts : m'.scripts = m.scripts)
    (hmethods : m'.methods = m.methods) (hlists : m'.lists = m.lists)
    (hroots : ∀ v, m'.Root held' v → m.Root held v ∨ m.Known held v) :
    m.Moves held m' held' := by
  refine .of_known hinstances htracked hscripts hmethods ?_ ?_
  · intro v hv
    rcases hroots v hv with hold | hknown
    · exact .of_root hold
    · exact hknown
  · intro id elements hid hlist v hv
    rw [hlists] at hid
    exact hlist.of_element hid hv

theorem Moves.forget (m : Machine) (hsub : ∀ v ∈ held', v ∈ held) : m.Moves held m held' := by
  refine .of_roots rfl rfl rfl rfl rfl ?_
  intro v hv
  cases hv with
  | slot h => exact .inl (.slot h)
  | global h => exact .inl (.global h)
  | handle h => exact .inl (.handle h)
  | aborted h => exact .inl (.aborted h)
  | running hvalues h => exact .inl (.running hvalues h)
  | held h => exact .inl (.held (hsub v h))

/-- Holding known values. -/
theorem Moves.hold (m : Machine) {values : List ScriptValue}
    (hvalues : ∀ v ∈ values, m.Known held v) : m.Moves held m (values ++ held) := by
  refine .of_roots rfl rfl rfl rfl rfl ?_
  intro v hv
  cases hv with
  | slot h => exact .inl (.slot h)
  | global h => exact .inl (.global h)
  | handle h => exact .inl (.handle h)
  | aborted h => exact .inl (.aborted h)
  | running hvalues h => exact .inl (.running hvalues h)
  | held h =>
    rcases List.mem_append.mp h with hnew | hold
    · exact .inr (hvalues v hnew)
    · exact .inl (.held hold)

/-- A grown window holds what it held, and nulls. -/
theorem known_of_mem_ensure {count : Nat} {v : ScriptValue} (h : v ∈ (m.ensure count).slots) :
    m.Root held v ∨ m.Known held v := by
  rcases List.mem_append.mp h with hold | hnull
  · exact .inl (.slot hold)
  · rw [(List.mem_replicate.mp hnull).2]
    exact .inr trivial

/-- Writing a known value to a slot. -/
theorem Moves.setSlot (i : Nat) {v : ScriptValue} (hv : m.Known held v) :
    m.Moves held (m.setSlot i v) held := by
  refine .of_roots rfl rfl rfl rfl rfl ?_
  intro u hu
  cases hu with
  | slot h =>
    rcases List.mem_or_eq_of_mem_set h with hgrown | rfl
    · exact known_of_mem_ensure hgrown
    · exact .inr hv
  | global h => exact .inl (.global h)
  | handle h => exact .inl (.handle h)
  | aborted h => exact .inl (.aborted h)
  | running hvalues h => exact .inl (.running hvalues h)
  | held h => exact .inl (.held h)

/-- Making a new list of values held. -/
theorem Moves.newList (elements : List ScriptValue) :
    m.Moves (elements ++ held) (m.newList elements).2 ((m.newList elements).1 :: held) := by
  refine .of_known rfl rfl rfl rfl ?_ ?_
  · intro v hv
    cases hv with
    | slot h => exact .of_root (.slot h)
    | global h => exact .of_root (.global h)
    | handle h => exact .of_root (.handle h)
    | aborted h => exact .of_root (.aborted h)
    | running hvalues h => exact .of_root (.running hvalues h)
    | held h =>
      -- The new list is known as one not made yet.
      rcases List.mem_cons.mp h with rfl | hold
      · exact .inr (Nat.le_refl _)
      · exact .of_held (List.mem_append_right _ hold)
  · -- No list has new elements but the new one, and those were held.
    intro id values hid hlist v hv
    show m.Known (elements ++ held) v
    rcases Nat.lt_or_ge id m.lists.length with hlt | hge
    · have hold : m.lists[id]? = some values := by
        rwa [show (m.newList elements).2.lists = m.lists ++ [elements] from rfl,
          List.getElem?_append_left hlt] at hid
      exact hlist.of_element hold hv
    · rw [show (m.newList elements).2.lists = m.lists ++ [elements] from rfl,
        List.getElem?_append_right hge] at hid
      have hmem := List.mem_of_getElem? hid
      rw [List.mem_singleton] at hmem
      subst hmem
      exact .of_held (List.mem_append_left _ hv)

/-- Putting a value of the window into a list of the window. -/
theorem Moves.insertElement {slot element : Nat} {index : Int}
    (h : Slots.insertElement m slot index element = .ok m') : m.Moves held m' held := by
  simp only [Slots.insertElement] at h
  cases hlist : m.listIn? slot with
  | none =>
    rw [hlist] at h
    cases h
    exact .refl m held
  | some found =>
    obtain ⟨id, elements⟩ := found
    obtain ⟨hid, hreach, -⟩ := reaches_of_listIn? held hlist
    rw [hlist] at h
    dsimp only at h
    split at h
    · cases h
      refine .of_known rfl rfl rfl rfl (fun v hv => .of_root hv.of_setLists) ?_
      intro id' values hvalues hlist' v hv
      by_cases hsame : id' = id
      · subst hsame
        rw [List.getElem?_set_self (List.getElem?_eq_some_iff.mp hid).1, Option.some.injEq]
          at hvalues
        subst hvalues
        rcases List.eq_or_mem_of_mem_insertIdx hv with rfl | hv
        · exact .slot element
        · exact (Known.of_reaches hreach).of_element hid hv
      · rw [List.getElem?_set_ne (Ne.symm hsame)] at hvalues
        exact hlist'.of_element hvalues hv
    · cases h

theorem Moves.setSlots {values : List ScriptValue} (h : ∀ v ∈ values, m.Known held v) :
    m.Moves held { m with slots := values } held := by
  refine .of_roots rfl rfl rfl rfl rfl ?_
  intro v hv
  cases hv with
  | slot hv => exact .inr (h v hv)
  | global hv => exact .inl (.global hv)
  | handle hv => exact .inl (.handle hv)
  | aborted hv => exact .inl (.aborted hv)
  | running hvalues hv => exact .inl (.running hvalues hv)
  | held hv => exact .inl (.held hv)

theorem Moves.defineVariable (module name : String) {v : ScriptValue} (hv : m.Known held v) :
    m.Moves held (m.defineVariable module name v) held := by
  refine .of_roots rfl rfl rfl rfl rfl ?_
  intro u hu
  cases hu with
  | slot h => exact .inl (.slot h)
  | global h =>
    rcases List.mem_cons.mp h with hnew | hold
    · cases hnew
      exact .inr hv
    · exact .inl (.global (List.mem_filter.mp hold).1)
  | handle h => exact .inl (.handle h)
  | aborted h => exact .inl (.aborted h)
  | running hvalues h => exact .inl (.running hvalues h)
  | held h => exact .inl (.held h)

/-- Remembering the receiver and the arguments of a call. -/
theorem Moves.pushRunning {values : List ScriptValue} (h : ∀ v ∈ values, m.Known held v) :
    m.Moves held { m with running := values :: m.running } held := by
  refine .of_roots rfl rfl rfl rfl rfl ?_
  intro v hv
  cases hv with
  | slot hv => exact .inl (.slot hv)
  | global hv => exact .inl (.global hv)
  | handle hv => exact .inl (.handle hv)
  | aborted hv => exact .inl (.aborted hv)
  | running hframe hv =>
    rcases List.mem_cons.mp hframe with rfl | hold
    · exact .inr (h v hv)
    · exact .inl (.running hold hv)
  | held hv => exact .inl (.held hv)

/-- Giving up some of the roots. -/
theorem Moves.giveUp {slots : List ScriptValue} {handles : List (Option ScriptValue)}
    {aborted : Option ScriptValue} {running : List (List ScriptValue)} {released : Nat}
    (hslots : ∀ v ∈ slots, v ∈ m.slots) (hhandles : ∀ v, some v ∈ handles → some v ∈ m.handles)
    (haborted : ∀ v, aborted = some v → m.aborted = some v)
    (hrunning : ∀ frame ∈ running, frame ∈ m.running) :
    m.Moves held
      { m with
        slots := slots
        handles := handles
        aborted := aborted
        running := running
        releasedHandles := released } held := by
  refine .of_roots rfl rfl rfl rfl rfl ?_
  intro v hv
  cases hv with
  | slot hv => exact .inl (.slot (hslots v hv))
  | global hv => exact .inl (.global hv)
  | handle hv => exact .inl (.handle (hhandles v hv))
  | aborted hv => exact .inl (.aborted (haborted v hv))
  | running hframe hv => exact .inl (.running (hrunning _ hframe) hv)
  | held hv => exact .inl (.held hv)

/-- Pinning a known value. -/
theorem Moves.pin {v : ScriptValue} (hv : m.Known held v) : m.Moves held (m.pin v).2 held := by
  refine .of_roots rfl rfl rfl rfl rfl ?_
  intro u hu
  cases hu with
  | slot h => exact .inl (.slot h)
  | global h => exact .inl (.global h)
  | handle h =>
    rcases List.mem_append.mp h with hold | hnew
    · exact .inl (.handle hold)
    · rw [List.mem_singleton, Option.some.injEq] at hnew
      rw [hnew]
      exact .inr hv
  | aborted h => exact .inl (.aborted h)
  | running hvalues h => exact .inl (.running hvalues h)
  | held h => exact .inl (.held h)

theorem Moves.ensure (count : Nat) : m.Moves held (m.ensure count) held := by
  refine .of_roots rfl rfl rfl rfl rfl ?_
  intro v hv
  cases hv with
  | slot h => exact known_of_mem_ensure h
  | global h => exact .inl (.global h)
  | handle h => exact .inl (.handle h)
  | aborted h => exact .inl (.aborted h)
  | running hvalues h => exact .inl (.running hvalues h)
  | held h => exact .inl (.held h)

theorem Moves.abort (i : Nat) : m.Moves held (Slots.abort m i) held := by
  refine .of_roots rfl rfl rfl rfl rfl ?_
  intro v hv
  cases hv with
  | slot h => exact .inl (.slot h)
  | global h => exact .inl (.global h)
  | handle h => exact .inl (.handle h)
  | aborted h =>
    cases h
    exact .inr (.slot i)
  | running hvalues h => exact .inl (.running hvalues h)
  | held h => exact .inl (.held h)

/-- Every operation on the window is a move, but for making an instance. -/
theorem windowFrame_moves (held : List ScriptValue) :
    WindowFrame fun m m' : Machine => m.Moves held m' held where
  refl m := .refl m held
  trans h h' := h.trans h'
  note m entry := ⟨rfl, rfl, rfl, rfl, fun _ h => h⟩
  ensure m count := .ensure count
  setBool m i b := .setSlot i trivial
  setNumber m i x := .setSlot i trivial
  setBytes m i b := .setSlot i trivial
  setPinned m i h := .setSlot i (.pinned h)
  setNull m i := .setSlot i trivial
  setNewList m i := by
    have hnew : m.Moves held (m.newList []).2 ((m.newList []).1 :: held) := .newList []
    have hset : (m.newList []).2.Moves ((m.newList []).1 :: held)
        ((m.newList []).2.setSlot i (m.newList []).1) ((m.newList []).1 :: held) :=
      .setSlot i (.of_held (by simp))
    exact (hnew.trans hset).trans (.forget _ fun v hv => List.mem_cons_of_mem _ hv)
  getElement m i index element := .setSlot element (.element i index)
  insertElement h := .insertElement h
  getVariable {m m' module name i} h := by
    simp only [Slots.getVariable] at h
    cases hmodule : refuseNul module with
    | error e =>
      rw [hmodule] at h
      cases h
    | ok _ =>
      cases hname : refuseNul name with
      | error e =>
        rw [hmodule, hname] at h
        cases h
      | ok _ =>
        rw [hmodule, hname] at h
        cases h
        exact .setSlot i (.variable module name)
  abort m i := .abort i

end InMemory.Machine

end ScriptHost
