/-
The choice of a constructor.

A constructor fits a window that has a slot for each of its parameters, all of which coerce; slots
left over do not matter.  Of those that fit, the one with the most parameters makes the object, the
first to be declared where that leaves a choice.  It runs once, and if it fails no other is tried.

* **`Wins.chooseConstructor`** — the search finds the constructor that wins;
* **`exists_wins`** — one does, unless none fits;
* **`ForeignBinding.selects_of`** — what the making of an instance comes to.
-/
import ScriptHost.Proofs.BindingTable
import ScriptHost.Samples.Counter

namespace ScriptHost

open Slots

section

variable {W α : Type} [Slots W]

/-- The constructor can take its arguments from the slots after the first. -/
structure Fits (w : W) (k : Constructor α) (args : Args) : Prop where
  room : k.params.length ≤ Slots.argCount w
  coerces : Coerces w 1 k.params args

/-- The constructor declared at position `i` fits, and is tried ahead of all others that do. -/
structure Wins (declared : List (Constructor α)) (w : W) (i : Nat) (k : Constructor α)
    (args : Args) : Prop where
  there : declared[i]? = some k
  fits : Fits w k args
  ahead : ∀ j k' args', declared[j]? = some k' → Fits w k' args' → j ≠ i →
    Constructor.Ahead (k, i) (k', j)

theorem Fits.unique {w : W} {k : Constructor α} {args args' : Args} (h : Fits w k args)
    (h' : Fits w k args') : args = args' := by
  have hall := (coerceAll_eq_ok_iff w k.params 1 args).mpr h.coerces
  rw [(coerceAll_eq_ok_iff w k.params 1 args').mpr h'.coerces] at hall
  exact (Except.ok.inj hall).symm

theorem Constructor.Ahead.asymm {k k' : Constructor α × Nat} (h : Ahead k k') : ¬Ahead k' k := by
  unfold Ahead at *
  omega

/-- At most one constructor wins. -/
theorem Wins.unique {declared : List (Constructor α)} {w : W} {i i' : Nat}
    {k k' : Constructor α} {args args' : Args} (h : Wins declared w i k args)
    (h' : Wins declared w i' k' args') : i = i' ∧ k = k' ∧ args = args' := by
  by_cases hi : i = i'
  · subst hi
    obtain rfl : k = k' := Option.some.inj (h.there.symm.trans h'.there)
    exact ⟨rfl, rfl, h.fits.unique h'.fits⟩
  · have hahead := h.ahead i' k' args' h'.there h'.fits (Ne.symm hi)
    exact absurd (h'.ahead i k args h.there h.fits hi) hahead.asymm

/-! ### The search -/

section

variable {declared : List (Constructor α)} {order : List (Constructor α × Nat)}

theorem TriedAs.mem_iff (h : TriedAs declared order) {k : Constructor α × Nat} :
    k ∈ order ↔ declared[k.2]? = some k.1 := by
  rw [h.perm.mem_iff, List.mem_zipIdx_iff_getElem?]

/-- Two constructors that are tried differ in their positions. -/
theorem TriedAs.eq_of_position (h : TriedAs declared order) {k k' : Constructor α × Nat}
    (hk : k ∈ order) (hk' : k' ∈ order) (hposition : k.2 = k'.2) : k = k' := by
  have hthere := h.mem_iff.mp hk
  rw [hposition, h.mem_iff.mp hk'] at hthere
  exact Prod.ext (Option.some.inj hthere).symm hposition

end

variable [HostType α]

theorem constructorArguments?_eq_some_iff (k : Constructor α) (w : W) (args : Args) :
    ForeignBinding.constructorArguments? k.describe w = some args ↔ Fits w k args := by
  have hcoerces := coerceAll_eq_ok_iff w k.params 1 args
  rw [ForeignBinding.constructorArguments?, show k.describe.params = k.params from rfl]
  split
  · rename_i hfew
    exact ⟨nofun, fun h => absurd h.room (Nat.not_le.mpr hfew)⟩
  · rename_i hroom
    have hfound : (coerceAll w 1 k.params).toOption = some args ↔ Coerces w 1 k.params args := by
      rw [← hcoerces]
      cases coerceAll w 1 k.params <;> simp [Except.toOption]
    rw [hfound]
    exact ⟨fun h => ⟨Nat.not_lt.mp hroom, h⟩, fun h => h.coerces⟩

/-- What the search for a constructor finds in one that is tried. -/
def offer? (w : W) (k : Constructor α × Nat) : Option (ObjectConstructor × Args) :=
  (ForeignBinding.constructorArguments? k.1.describe w).map fun args => (k.1.describe, args)

theorem offer?_eq_some_of_fits {w : W} {k : Constructor α × Nat} {args : Args}
    (h : Fits w k.1 args) : offer? w k = some (k.1.describe, args) := by
  rw [offer?, (constructorArguments?_eq_some_iff k.1 w args).mpr h]
  rfl

theorem offer?_eq_none_iff {w : W} {k : Constructor α × Nat} :
    offer? w k = none ↔ ∀ args, ¬Fits w k.1 args := by
  rw [offer?, Option.map_eq_none_iff, Option.eq_none_iff_forall_ne_some]
  exact forall_congr' fun args => not_congr (constructorArguments?_eq_some_iff k.1 w args)

section

variable {declared : List (Constructor α)} {order : List (Constructor α × Nat)} {w : W}

/-- The search finds the constructor that wins. -/
theorem Wins.findSome? {i : Nat} {k : Constructor α} {args : Args} (htried : TriedAs declared order)
    (h : Wins declared w i k args) : order.findSome? (offer? w) = some (k.describe, args) := by
  have hmem : (k, i) ∈ order := htried.mem_iff.mpr h.there
  obtain ⟨earlier, later, rfl⟩ := List.append_of_mem hmem
  refine List.findSome?_eq_some_iff.mpr ⟨earlier, (k, i), later, rfl,
    offer?_eq_some_of_fits h.fits, fun k' hk' => ?_⟩
  -- One that is tried earlier would lose to this one if it fitted.
  have hahead : Constructor.Ahead k' (k, i) :=
    (List.pairwise_append.mp htried.ahead).2.2 k' hk' (k, i) (by simp)
  have hmem' : k' ∈ earlier ++ (k, i) :: later := List.mem_append_left _ hk'
  rw [offer?_eq_none_iff]
  intro args' hfits
  have hother : k'.2 ≠ i := by
    intro hsame
    rw [htried.eq_of_position hmem' hmem hsame] at hahead
    exact hahead.asymm hahead
  exact hahead.asymm (h.ahead k'.2 k'.1 args' (htried.mem_iff.mp hmem') hfits hother)

/-- A constructor wins, unless none fits. -/
theorem exists_wins (htried : TriedAs declared order) (w : W) :
    (∃ i k args, Wins declared w i k args) ∨ ∀ k ∈ declared, ∀ args, ¬Fits w k args := by
  cases hfound : order.findSome? (offer? w) with
  | none =>
    refine .inr fun k hk args => ?_
    obtain ⟨i, hi⟩ := List.mem_iff_getElem?.mp hk
    have hmem : (k, i) ∈ order := htried.mem_iff.mpr hi
    exact offer?_eq_none_iff.mp (List.findSome?_eq_none_iff.mp hfound (k, i) hmem) args
  | some found =>
    obtain ⟨earlier, k, later, rfl, hk, hearlier⟩ := List.findSome?_eq_some_iff.mp hfound
    -- The first in the order of trial wins: none ahead of it fits, and those behind are no better.
    obtain ⟨args, hargs, -⟩ := Option.map_eq_some_iff.mp hk
    refine .inl ⟨k.2, k.1, args, htried.mem_iff.mp (by simp),
      (constructorArguments?_eq_some_iff k.1 w args).mp hargs, ?_⟩
    intro j k' args' hj hfits hother
    have hmem : (k', j) ∈ earlier ++ k :: later := htried.mem_iff.mpr hj
    rcases List.mem_append.mp hmem with hbefore | hafter
    · exact absurd hfits (offer?_eq_none_iff.mp (hearlier _ hbefore) args')
    · rcases List.mem_cons.mp hafter with rfl | hlater
      · exact absurd rfl hother
      · exact List.rel_of_pairwise_cons (List.pairwise_append.mp htried.ahead).2.1 hlater

theorem findSome?_eq_none (htried : TriedAs declared order)
    (h : ∀ k ∈ declared, ∀ args, ¬Fits w k args) : order.findSome? (offer? w) = none := by
  refine List.findSome?_eq_none_iff.mpr fun k hk => offer?_eq_none_iff.mpr ?_
  exact h k.1 (List.mem_of_getElem? (htried.mem_iff.mp hk))

end

/-! ### The making of an instance -/

namespace ForeignBinding

/-- What the making of an instance of `c` through its table `b` comes to on the window `w`. -/
structure Selects [Fiber W] (c : ForeignClass α) (b : ForeignBinding) (w : W) : Prop where
  decided : (∃ i k args, Wins c.constructors w i k args) ∨
    ∀ k ∈ c.constructors, ∀ args, ¬Fits w k args
  unique : ∀ i k args i' k' args', Wins c.constructors w i k args →
    Wins c.constructors w i' k' args' → i = i' ∧ k = k' ∧ args = args'
  /-- Whatever effects constructors have, those that remain are of one run of the winner. -/
  once : ∀ i k args, Wins c.constructors w i k args →
    ∀ {m : Type → Type} [Monad m]
      (construct : ObjectConstructor → Args → m (Except ForeignError HostObject)),
      b.allocateBy construct w = made w <$> construct k.describe args
  succeeds : ∀ i k args, Wins c.constructors w i k args → ∀ a, k.construct.answer args = .ok a →
    b.allocate w = (some (HostObject.of a), w)
  fails : ∀ i k args, Wins c.constructors w i k args → ∀ e, k.construct.answer args = .error e →
    ∃ w', b.allocate w = (none, w') ∧ AbortedWith w w' e.message
  /-- If none fits then none runs, and nothing happens. -/
  unfit : (∀ k ∈ c.constructors, ∀ args, ¬Fits w k args) →
    b.allocate w = (none, w) ∧
    ∀ {m : Type → Type} [Monad m]
      (construct : ObjectConstructor → Args → m (Except ForeignError HostObject)),
      b.allocateBy construct w = pure (none, w)

variable {c : ForeignClass α} {b : ForeignBinding}

theorem chooseConstructor_eq {order : List (Constructor α × Nat)}
    (h : b.constructors = order.map (·.1.describe)) (w : W) :
    b.chooseConstructor w = order.findSome? (offer? w) := by
  rw [chooseConstructor, h, List.findSome?_map]
  rfl

/-- Of the constructors that fit the window, the one with the most parameters makes the object,
the first to be declared where that leaves a choice; it runs once, and no other does. -/
theorem selects_of [Fiber W] [LawfulSlots W] (hb : of c.describe = .ok b) (w : W) :
    Selects c b w := by
  -- If none fits the call aborts, and no constructor runs.
  obtain ⟨order, htried, hconstructors⟩ := triedAs_of hb
  have hchoose := chooseConstructor_eq hconstructors w
  refine ⟨exists_wins htried w, fun _ _ _ _ _ _ => Wins.unique, ?_, ?_, ?_, fun hunfit => ?_⟩
  · intro i k args hwins m _ construct
    rw [allocateBy, hchoose, hwins.findSome? htried]
  · intro i k args hwins a ha
    rw [allocate, hchoose, hwins.findSome? htried]
    simp only [Constructor.describe, ha, Except.map_ok]
  · intro i k args hwins e he
    rw [allocate, hchoose, hwins.findSome? htried]
    simp only [Constructor.describe, he, Except.map_error]
    exact ⟨_, rfl, abortWith_aborts w e.message⟩
  · have hnone : b.chooseConstructor w = none := by
      rw [hchoose, findSome?_eq_none htried hunfit]
    constructor
    · rw [allocate, hnone]
    · intro m _ construct
      rw [allocateBy, hnone]

/-- A number is an argument for either of two constructors, the first of which wins. -/
theorem selects_of_overlapping :
    let c := Samples.counterClass 0 ⟨[⟨.blank, [⟨"value", .any, "HostValue"⟩]⟩,
      ⟨.int, [⟨"count", .int, "Int64"⟩]⟩], []⟩
    let w : InMemory.Machine :=
      { InMemory.Machine.bare with slots := [.null, .num (.ofInt64 3)] }
    ∃ b, of c.describe = .ok b ∧ Selects c b w ∧
      b.allocate w = (some (HostObject.of (⟨0, ""⟩ : Samples.Counter 0)), w) := by
  intro c w
  refine ⟨_, rfl, selects_of rfl w, ?_⟩
  have hfirst : Wins c.constructors w 0 ⟨[⟨"value", .any, "HostValue"⟩], pure ⟨0, ""⟩⟩
      [.float (.ofInt64 3)] := by
    refine ⟨rfl, ⟨by decide, (coerceAll_eq_ok_iff w _ 1 _).mp rfl⟩, ?_⟩
    rintro (_ | _ | j) k' args' hj - hother
    · exact absurd rfl hother
    · cases hj
      exact .inr ⟨rfl, Nat.zero_lt_one⟩
    · cases hj
  exact (selects_of rfl w).succeeds 0 _ _ hfirst _ rfl

end ForeignBinding

end

end ScriptHost
