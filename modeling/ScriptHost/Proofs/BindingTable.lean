/-
The table of a described class.

A class is bound method by method, in the order in which they are declared, and the binding fails
at the first that scripts would call like an earlier one.  Otherwise positions in the table and
what scripts call a method by determine each other.  Constructors are tried by their number of
parameters, the longest first, and in the order of their declaration where that leaves a choice.

* **`MethodTable.Indexed`** — the list of methods and the positions by key agree; one more method
  keeps that (`MethodTable.Indexed.add`), and so does the loop (`MethodTable.Indexed.bindAll`);
* **`MethodTable.Indexed.bindAll_of_nodup`**, **`MethodTable.Indexed.bindAll_of_firstRepeat`** —
  when the loop goes through, and what it fails with;
* **`ForeignBinding.triedAs_of`** — the order of the constructors;
* **`ForeignBinding.tabulates_of`** — the whole table.
-/
import Mathlib.Data.List.Nodup
import ScriptHost.Proofs.CheckedAccess
import ScriptHost.Proofs.Dispatch
import ScriptHost.Proofs.HostFunctions
import ScriptHost.Proofs.Sequences

namespace ScriptHost

/-! ### Repetitions -/

section

variable {κ : Type} {keys : List κ} {j j' : Nat} {key key' : κ}

/-- The key at position `j` is the first that repeats an earlier one. -/
structure FirstRepeat (keys : List κ) (j : Nat) (key : κ) : Prop where
  there : keys[j]? = some key
  repeats : ∃ i, i < j ∧ keys[i]? = some key
  before : ∀ i i' k, i < i' → i' < j → keys[i]? = some k → keys[i']? ≠ some k

theorem FirstRepeat.unique (h : FirstRepeat keys j key) (h' : FirstRepeat keys j' key') :
    j = j' ∧ key = key' := by
  obtain ⟨i, hi, hrepeat⟩ := h.repeats
  obtain ⟨i', hi', hrepeat'⟩ := h'.repeats
  rcases Nat.lt_trichotomy j j' with hlt | rfl | hgt
  · exact absurd h.there (h'.before i j key hi hlt hrepeat)
  · exact ⟨rfl, Option.some.inj (h.there.symm.trans h'.there)⟩
  · exact absurd h'.there (h.before i' j' key' hi' hgt hrepeat')

/-- A key that repeats one of distinct keys before it is the first to repeat one. -/
theorem firstRepeat_append {front : List κ} (hfront : front.Nodup) (hmem : key ∈ front)
    (rest : List κ) : FirstRepeat (front ++ key :: rest) front.length key where
  there := by simp
  repeats := by
    obtain ⟨i, hi, hkey⟩ := List.getElem_of_mem hmem
    exact ⟨i, hi, by rw [List.getElem?_append_left hi, List.getElem?_eq_getElem hi, hkey]⟩
  before i i' k hlt hlt' hkey := by
    rw [List.getElem?_append_left (by omega)] at hkey ⊢
    exact getElem?_ne_of_nodup hfront hlt hkey

/-- Keys are distinct or there is a first that repeats an earlier one. -/
theorem nodup_or_firstRepeat (rest : List κ) :
    ∀ front : List κ, front.Nodup →
      (front ++ rest).Nodup ∨ ∃ j key, FirstRepeat (front ++ rest) j key := by
  classical
  induction rest with
  | nil =>
    intro front hfront
    exact .inl (by simpa using hfront)
  | cons key rest ih =>
    intro front hfront
    by_cases hmem : key ∈ front
    · exact .inr ⟨_, _, firstRepeat_append hfront hmem rest⟩
    · have hlonger : (front ++ [key]).Nodup := by
        rw [List.nodup_append_comm]
        exact List.nodup_cons.mpr ⟨hmem, hfront⟩
      simpa using ih (front ++ [key]) hlonger

theorem FirstRepeat.not_nodup (h : FirstRepeat keys j key) : ¬keys.Nodup := by
  obtain ⟨i, hi, hkey⟩ := h.repeats
  exact fun hnodup => getElem?_ne_of_nodup hnodup hi hkey h.there

end

/-! ### Methods -/

section

variable {α : Type}

def Invocation.isStatic : Invocation α → Bool
  | .onReceiver _ => false
  | .onClass _ => true

/-- What scripts call a method by: whether it is static, and its signature. -/
def Method.key (m : Method α) : Bool × String :=
  (m.invocation.isStatic,
    signature (m.scriptName.getD (ScriptHost.scriptName m.name)) m.params.length)

end

theorem Method.key_describe_bind {α : Type} [HostType α] (className : String) (m : Method α) :
    (m.describe className).bind.key = m.key := by
  obtain ⟨name, scriptName, params, invocation⟩ := m
  cases invocation <;> rfl

/-! ### Positions by key -/

namespace MethodTable

variable {t t' : MethodTable} {className : String} {key : Bool × String}

/-- What scripts call the bound methods by, in order. -/
def keys (t : MethodTable) : List (Bool × String) :=
  t.methods.map (·.key)

/-- The two halves of a table agree: a position is found under what scripts call the method at
that position by, and under nothing else. -/
def Indexed (t : MethodTable) : Prop :=
  ∀ key i, t.dispatch.lookup key = some i ↔ t.keys[i]? = some key

theorem keys_add (t : MethodTable) (m : BoundMethod) : (t.add m).keys = t.keys ++ [m.key] := by
  simp [keys, add]

theorem Indexed.lookup_eq_none_iff (h : t.Indexed) :
    t.dispatch.lookup key = none ↔ key ∉ t.keys := by
  simp only [Option.eq_none_iff_forall_ne_some, ne_eq, h key, List.mem_iff_getElem?, not_exists]

theorem Indexed.nodup (h : t.Indexed) : t.keys.Nodup := by
  refine List.nodup_iff_injective_get.mpr fun i i' heq => Fin.ext ?_
  -- One key at two positions would be found at both.
  have hi := (h _ i.val).mpr (List.getElem?_eq_getElem i.isLt)
  have hi' := (h _ i'.val).mpr (List.getElem?_eq_getElem i'.isLt)
  rw [List.get_eq_getElem, List.get_eq_getElem] at heq
  rw [heq] at hi
  exact Option.some.inj (hi.symm.trans hi')

theorem indexed_empty : empty.Indexed := by
  simp [Indexed, empty, keys]

/-- Binding one more method keeps the halves in agreement if its key is free. -/
theorem Indexed.add (h : t.Indexed) {m : BoundMethod} (hfree : t.dispatch.lookup m.key = none) :
    (t.add m).Indexed := by
  intro key i
  have hnew : m.key ∉ t.keys := h.lookup_eq_none_iff.mp hfree
  have hlength : t.methods.length = t.keys.length := (List.length_map _).symm
  rw [keys_add, MethodTable.add, List.lookup_cons, hlength]
  by_cases hkey : key = m.key
  · subst hkey
    -- Its own key is at the new position only.
    rw [beq_self_eq_true]
    constructor
    · rintro ⟨⟩
      simp
    · intro hfound
      rcases Nat.lt_trichotomy i t.keys.length with hlt | rfl | hgt
      · rw [List.getElem?_append_left hlt] at hfound
        exact absurd (List.mem_of_getElem? hfound) hnew
      · rfl
      · rw [List.getElem?_eq_none (by simp; omega)] at hfound
        cases hfound
  · rw [beq_false_of_ne hkey]
    refine (h key i).trans ?_
    rcases Nat.lt_trichotomy i t.keys.length with hlt | rfl | hgt
    · rw [List.getElem?_append_left hlt]
    · simp [Ne.symm hkey]
    · rw [List.getElem?_eq_none (Nat.le_of_lt hgt), List.getElem?_eq_none (by simp; omega)]

/-- Binding any number of methods keeps the map in step with them, as far as it gets. -/
theorem Indexed.bindAll (methods : List ObjectMethod) :
    ∀ t : MethodTable, t.Indexed → t.bindAll className methods = .ok t' → t'.Indexed := by
  induction methods with
  | nil =>
    intro t ht h
    cases h
    exact ht
  | cons m methods ih =>
    intro t ht h
    rw [MethodTable.bindAll] at h
    split at h
    · cases h
    · exact ih _ (ht.add ‹_›) h

/-- Methods that scripts call differently are all bound. -/
theorem Indexed.bindAll_of_nodup (methods : List ObjectMethod) :
    ∀ t : MethodTable, t.Indexed → (t.keys ++ methods.map (·.bind.key)).Nodup →
      ∃ t', t.bindAll className methods = .ok t' := by
  induction methods with
  | nil => exact fun t _ _ => ⟨t, rfl⟩
  | cons m methods ih =>
    intro t ht hnodup
    have hfree : t.dispatch.lookup m.bind.key = none := by
      rw [List.nodup_append] at hnodup
      exact ht.lookup_eq_none_iff.mpr fun hmem => hnodup.2.2 _ hmem _ (by simp) rfl
    rw [MethodTable.bindAll, hfree]
    exact ih _ (ht.add hfree) (by simpa [keys_add] using hnodup)

/-- The first method that scripts would call like an earlier one is refused. -/
theorem Indexed.bindAll_of_firstRepeat (methods : List ObjectMethod) {j : Nat} :
    ∀ t : MethodTable, t.Indexed → FirstRepeat (t.keys ++ methods.map (·.bind.key)) j key →
      t.bindAll className methods = .error (.duplicateSignature className key.2) := by
  induction methods with
  | nil =>
    intro t ht h
    exact absurd ht.nodup (by simpa using h.not_nodup)
  | cons m methods ih =>
    intro t ht h
    rw [MethodTable.bindAll]
    cases hlookup : t.dispatch.lookup m.bind.key with
    | none => exact ih _ (ht.add hlookup) (by simpa [keys_add] using h)
    | some i =>
      -- The repetition found here is the first, so it is the one at `j`.
      have htaken : m.bind.key ∈ t.keys := List.mem_of_getElem? ((ht _ i).mp hlookup)
      have hhere := firstRepeat_append ht.nodup htaken (methods.map (·.bind.key))
      obtain ⟨-, rfl⟩ := hhere.unique (by simpa using h)
      rfl

end MethodTable

namespace ForeignBinding

theorem signatures_eq (b : ForeignBinding) : b.signatures = b.toMethodTable.keys :=
  rfl

theorem indexed_of {c : ClassDescription} {b : ForeignBinding} (hb : of c = .ok b) :
    b.toMethodTable.Indexed := by
  unfold of at hb
  cases htable : MethodTable.empty.bindAll c.className c.methods with
  | error e =>
    rw [htable] at hb
    cases hb
  | ok table =>
    rw [htable] at hb
    cases hb
    exact MethodTable.Indexed.bindAll c.methods _ MethodTable.indexed_empty htable

end ForeignBinding

/-! ### Constructors -/

section

variable {α : Type}

/-- A constructor is tried ahead of another, each given with its position in the declaration: it
has more parameters, or as many and an earlier position. -/
def Constructor.Ahead (k k' : Constructor α × Nat) : Prop :=
  k'.1.params.length < k.1.params.length ∨
    k.1.params.length = k'.1.params.length ∧ k.2 < k'.2

/-- The constructors of a declaration, with their positions, in the order in which they are
tried. -/
structure TriedAs (declared : List (Constructor α)) (order : List (Constructor α × Nat)) :
    Prop where
  perm : order.Perm declared.zipIdx
  ahead : order.Pairwise Constructor.Ahead

/-- A stable sort by descending number of parameters tries constructors in that order. -/
theorem exists_triedAs (declared : List (Constructor α)) :
    ∃ order, TriedAs declared order ∧
      declared.mergeSort (fun k k' => k'.params.length ≤ k.params.length) = order.map (·.1) := by
  let le : Constructor α → Constructor α → Bool := fun k k' => k'.params.length ≤ k.params.length
  have htrans : ∀ a b c, le a b → le b c → le a c := by
    simp only [le, decide_eq_true_eq]
    omega
  have htotal : ∀ a b, le a b || le b a := by
    simp only [le, Bool.or_eq_true, decide_eq_true_eq]
    omega
  -- A stable sort is a sort of the constructors with their positions.
  refine ⟨declared.zipIdx.mergeSort (List.zipIdxLE le), ⟨List.mergeSort_perm _ _, ?_⟩,
    List.mergeSort_zipIdx.symm⟩
  have hpositions : ((declared.zipIdx.mergeSort (List.zipIdxLE le)).map (·.2)).Nodup := by
    refine ((List.mergeSort_perm _ _).map _).nodup_iff.mpr ?_
    rw [show declared.zipIdx.map (·.2) = List.range' 0 declared.length from
      List.zipIdx_map_snd 0 declared]
    exact List.nodup_range'
  have hsorted := List.pairwise_mergeSort (List.zipIdxLE_trans htrans)
    (List.zipIdxLE_total htotal) declared.zipIdx
  refine (hsorted.and (List.pairwise_map.mp hpositions)).imp ?_
  rintro k k' ⟨hle, hne⟩
  simp only [List.zipIdxLE, le, decide_eq_true_eq] at hle
  unfold Constructor.Ahead
  split at hle
  · split at hle
    · simp only [decide_eq_true_eq] at hle
      omega
    · omega
  · cases hle

variable [HostType α] {c : ForeignClass α} {b : ForeignBinding}

/-- The constructors of a bound class are tried in the order of `TriedAs`. -/
theorem ForeignBinding.triedAs_of (hb : of c.describe = .ok b) :
    ∃ order, TriedAs c.constructors order ∧ b.constructors = order.map (·.1.describe) := by
  obtain ⟨order, htried, hsort⟩ := exists_triedAs c.constructors
  refine ⟨order, htried, ?_⟩
  have hconstructors : b.constructors = (c.constructors.map (·.describe)).mergeSort
      (fun k k' => k'.params.length ≤ k.params.length) := by
    obtain ⟨methods, -, hok⟩ := exists_of_bind_eq_ok hb
    rw [← Except.ok.inj hok]
    rfl
  have hdescribed : (c.constructors.mergeSort fun k k' => k'.params.length ≤ k.params.length).map
      (·.describe) = b.constructors := by
    rw [hconstructors]
    exact List.map_mergeSort fun _ _ _ _ => rfl
  rw [← hdescribed, hsort, List.map_map]
  rfl

end

/-! ### The table -/

namespace ForeignBinding

section

variable {α : Type} [HostType α]

/-- The call `run` runs the method `bound` once, with its receiver and the arguments in the window
`w`; it runs none if either is missing. -/
structure RunsOnly {m : Type → Type} [Monad m] {W : Type} [Slots W]
    (call : BoundMethod → Option ObjectId → Args → m ForeignReturn) (bound : BoundMethod)
    (receiver? : Option (Option ObjectId)) (w : W) (run : m W) : Prop where
  once : ∀ receiver args, receiver? = some receiver → Coerces w 1 bound.params args →
    run = answer w <$> call bound receiver args
  idle : (receiver? = none ∨ ∀ args, ¬Coerces w 1 bound.params args) → ∃ w', run = pure w'

/-- What is in the table `b` of a class, and what calls through it reach. -/
structure Lists (c : ForeignClass α) (b : ForeignBinding) : Prop where
  /-- The methods stand in the order of their declaration. -/
  signatures : b.signatures = c.methods.map (·.key)
  found : ∀ isStatic signature i,
    b.findMethod? isStatic signature = some i ↔ b.signatures[i]? = some (isStatic, signature)
  missing : ∀ isStatic signature,
    b.findMethod? isStatic signature = none ↔ (isStatic, signature) ∉ b.signatures
  /-- Whatever effects methods have, a call at a position has those of the method declared there,
  or none if its receiver or its arguments are missing. -/
  runs : ∀ {m : Type → Type} [Monad m] {W F : Type} [Slots W]
    (call : BoundMethod → Option ObjectId → Args → m ForeignReturn) (w : W)
    (registry : ForeignRegistry F) objects (i : Nat) (method : Method α),
    c.methods[i]? = some method →
    RunsOnly call (method.describe c.name).bind
      (b.receiverFor? (method.describe c.name).bind w registry objects) w
      (b.invokeBy call i w registry objects)
  beyond : ∀ {m : Type → Type} [Monad m] {W F : Type} [Slots W]
    (call : BoundMethod → Option ObjectId → Args → m ForeignReturn) (w : W)
    (registry : ForeignRegistry F) objects (i : Nat),
    c.methods[i]? = none → b.invokeBy call i w registry objects = pure w
  /-- As the methods come their effects are those on the objects. -/
  plain : ∀ {W F : Type} [Slots W] (w : W) (registry : ForeignRegistry F) objects (i : Nat),
    (b.invokeBy (m := StateM ObjectStore) (fun bound receiver args => bound.call receiver args)
      i w registry objects).run objects = b.invoke i w registry objects
  /-- Constructors are tried the longest first, and in the order of their declaration where that
  leaves a choice. -/
  order : ∃ order, TriedAs c.constructors order ∧ b.constructors = order.map (·.1.describe) ∧
    b.constructorArities = order.map (·.1.params.length)
  permuted : b.constructorArities.Perm (c.constructors.map (·.params.length))
  descending : b.constructorArities.Pairwise fun n n' => n' ≤ n

/-- A call at a position runs the method bound there, if any. -/
theorem runsOnly_invokeBy {b : ForeignBinding} {i : Nat} {bound : BoundMethod}
    (hbound : b.methods[i]? = some bound) {m : Type → Type} [Monad m] {W F : Type} [Slots W]
    (call : BoundMethod → Option ObjectId → Args → m ForeignReturn) (w : W)
    (registry : ForeignRegistry F) (objects : ObjectStore) :
    RunsOnly call bound (b.receiverFor? bound w registry objects) w
      (b.invokeBy call i w registry objects) := by
  rw [invokeBy, hbound]
  dsimp only
  cases b.receiverFor? bound w registry objects with
  | none => exact ⟨by rintro _ _ ⟨⟩, fun _ => ⟨_, rfl⟩⟩
  | some receiver =>
    dsimp only
    rcases hcoerce : coerceAll w 1 bound.params with ⟨param, mismatch⟩ | args
    · have hunfit : ∀ args, ¬Coerces w 1 bound.params args := by
        intro args hargs
        rw [(coerceAll_eq_ok_iff w bound.params 1 _).mpr hargs] at hcoerce
        cases hcoerce
      exact ⟨fun _ args _ hargs => absurd hargs (hunfit args), fun _ => ⟨_, rfl⟩⟩
    · have hargs := (coerceAll_eq_ok_iff w bound.params 1 args).mp hcoerce
      constructor
      · rintro _ args' ⟨⟩ hargs'
        have hsame := (coerceAll_eq_ok_iff w bound.params 1 _).mpr hargs'
        rw [hcoerce] at hsame
        cases hsame
        rfl
      · rintro (hnone | hunfit)
        · cases hnone
        · exact absurd hargs (hunfit args)

/-- When a class has a table, and what it is. -/
structure Tabulates (c : ForeignClass α) : Prop where
  /-- There is none iff scripts would call two of the methods alike. -/
  fails : (∃ e, of c.describe = .error e) ↔
    ∃ (i j : Nat) (key : Bool × String), i < j ∧ (c.methods.map (·.key))[i]? = some key ∧
      (c.methods.map (·.key))[j]? = some key
  /-- The first that they would call like an earlier one is then reported. -/
  reports : ∀ e, of c.describe = .error e →
    ∃ j key, FirstRepeat (c.methods.map (·.key)) j key ∧
      e = .duplicateSignature c.name key.2
  lists : ∀ b, of c.describe = .ok b → Lists c b

theorem keys_describe (c : ForeignClass α) :
    c.describe.methods.map (·.bind.key) = c.methods.map (·.key) := by
  simp only [ForeignClass.describe, List.map_map]
  exact List.map_congr_left fun m _ => m.key_describe_bind c.name

/-- A class with distinct keys has a table. -/
theorem of_of_nodup {c : ForeignClass α} (h : (c.methods.map (·.key)).Nodup) :
    ∃ b, of c.describe = .ok b := by
  rw [← keys_describe] at h
  obtain ⟨table, htable⟩ := MethodTable.indexed_empty.bindAll_of_nodup c.describe.methods _ h
  rw [of, htable]
  exact ⟨_, rfl⟩

/-- A class with a repeated key has none. -/
theorem of_of_firstRepeat {c : ForeignClass α} {j : Nat} {key : Bool × String}
    (h : FirstRepeat (c.methods.map (·.key)) j key) :
    of c.describe = .error (.duplicateSignature c.name key.2) := by
  rw [← keys_describe] at h
  rw [of, MethodTable.indexed_empty.bindAll_of_firstRepeat c.describe.methods _ h]
  rfl

/-- A class has distinct keys and a table, or a first key that repeats one and no table. -/
theorem of_cases (c : ForeignClass α) :
    ((c.methods.map (·.key)).Nodup ∧ ∃ b, of c.describe = .ok b) ∨
      ∃ j key, FirstRepeat (c.methods.map (·.key)) j key ∧
        of c.describe = .error (.duplicateSignature c.name key.2) := by
  rcases nodup_or_firstRepeat (c.methods.map (·.key)) [] .nil with hnodup | ⟨j, key, h⟩
  · exact .inl ⟨hnodup, of_of_nodup hnodup⟩
  · exact .inr ⟨j, key, h, of_of_firstRepeat h⟩

theorem signatures_of {c : ForeignClass α} {b : ForeignBinding} (hb : of c.describe = .ok b) :
    b.signatures = c.methods.map (·.key) := by
  rw [signatures_eq, MethodTable.keys, (of_eq hb).2.2, List.map_map, ← keys_describe]
  rfl

theorem lists_of {c : ForeignClass α} {b : ForeignBinding} (hb : of c.describe = .ok b) :
    Lists c b := by
  have hindexed := indexed_of hb
  obtain ⟨order, htried, hconstructors⟩ := triedAs_of hb
  have harities : b.constructorArities = order.map (·.1.params.length) := by
    rw [constructorArities, hconstructors, List.map_map]
    rfl
  refine ⟨signatures_of hb, fun _ _ => hindexed _, fun _ _ => hindexed.lookup_eq_none_iff, ?_, ?_,
    fun w registry objects i => invokeBy_call b i w registry objects,
    ⟨order, htried, hconstructors, harities⟩, ?_, ?_⟩
  · intro m _ W F _ call w registry objects i method hmethod
    exact runsOnly_invokeBy (methods_of hb hmethod) call w registry objects
  · intro m _ W F _ call w registry objects i hmethod
    have hnone : b.methods[i]? = none := by
      rw [(of_eq hb).2.2, List.getElem?_map, ForeignClass.describe, List.getElem?_map, hmethod]
      rfl
    rw [invokeBy, hnone]
  · have hdeclared : c.constructors.zipIdx.map (·.1.params.length) =
        c.constructors.map (·.params.length) := by
      rw [← List.zipIdx_map_fst 0 c.constructors, List.map_map, List.zipIdx_map_fst]
      rfl
    rw [harities, ← hdeclared]
    exact htried.perm.map _
  · rw [harities, List.pairwise_map]
    refine htried.ahead.imp fun hahead => ?_
    rcases hahead with hmore | ⟨hequal, -⟩
    · exact Nat.le_of_lt hmore
    · exact Nat.le_of_eq hequal.symm

/-- A class has a table iff scripts call its methods differently; the table lists the methods as
declared, finds each under what it is called by, and runs it at its position. -/
theorem tabulates_of (c : ForeignClass α) : Tabulates c := by
  refine ⟨⟨?_, ?_⟩, ?_, fun b => lists_of⟩
  · rintro ⟨e, he⟩
    rcases of_cases c with ⟨-, b, hb⟩ | ⟨j, key, h, -⟩
    · rw [hb] at he
      cases he
    · obtain ⟨i, hi, hkey⟩ := h.repeats
      exact ⟨i, j, key, hi, hkey, h.there⟩
  · rintro ⟨i, j, key, hlt, hi, hj⟩
    rcases of_cases c with ⟨hnodup, -⟩ | ⟨j', key', -, hfailed⟩
    · exact absurd hj (getElem?_ne_of_nodup hnodup hlt hi)
    · exact ⟨_, hfailed⟩
  · intro e he
    rcases of_cases c with ⟨-, b, hb⟩ | ⟨j, key, h, hfailed⟩
    · rw [hb] at he
      cases he
    · rw [he] at hfailed
      exact ⟨j, key, h, Except.error.inj hfailed⟩

end

/-- Names that differ on the host's side may be one name for scripts. -/
example :
    of (⟨"Twice", [], [⟨"Run", none, [], .onReceiver (respond ())⟩,
      ⟨"run", none, [], .onReceiver (respond ())⟩]⟩ : ForeignClass Int64).describe =
      .error (.duplicateSignature "Twice" "run()") := by
  rfl

end ForeignBinding

end ScriptHost
