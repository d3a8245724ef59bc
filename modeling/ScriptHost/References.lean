/-
Which values live, when references are counted.

A list lives as long as something that lives refers to it, so lists that refer to each
other in a circle keep each other alive.  The lists alive are thus the largest set whose
members are all referred to by a root or by a member; `aliveLists` finds it by taking away
lists nothing refers to until none is left:

* `mem_aliveLists` — a set of lists that is kept by the roots and itself is alive.
-/

namespace ScriptHost

/-- Who refers to what: values referred to from outside all lists, the elements of every
list by its number, and the value a list is. -/
structure References (V : Type) where
  roots : List V
  lists : List (List V)
  list : Nat → V

namespace References

variable {V : Type}

/-- Everything referred to by the roots and by the lists in `alive`. -/
def referred (r : References V) (alive : List Nat) : List V :=
  r.roots ++ alive.flatMap fun id => r.lists[id]?.getD []

theorem mem_referred_mono {r : References V} {few more : List Nat} {v : V}
    (hsub : ∀ id ∈ few, id ∈ more) (hv : v ∈ r.referred few) : v ∈ r.referred more := by
  simp only [referred, List.mem_append, List.mem_flatMap] at hv ⊢
  rcases hv with hv | ⟨id, hid, hv⟩
  · exact Or.inl hv
  · exact Or.inr ⟨id, hsub id hid, hv⟩

variable [DecidableEq V]

/-- Takes away, up to `fuel` times, the lists nothing refers to. -/
def shrink (r : References V) : (fuel : Nat) → List Nat → List Nat
  | 0, alive => alive
  | fuel + 1, alive =>
    let values := r.referred alive
    let kept := alive.filter fun id => r.list id ∈ values
    if kept.length = alive.length then alive else r.shrink fuel kept

/-- The lists that live. -/
def aliveLists (r : References V) : List Nat :=
  r.shrink r.lists.length (List.range r.lists.length)

/-- Everything something that lives refers to. -/
def aliveValues (r : References V) : List V :=
  r.referred r.aliveLists

theorem mem_shrink (r : References V) {kept : List Nat}
    (hkept : ∀ id ∈ kept, r.list id ∈ r.referred kept) :
    ∀ (fuel : Nat) (alive : List Nat), (∀ id ∈ kept, id ∈ alive) →
      ∀ id ∈ kept, id ∈ r.shrink fuel alive
  | 0, _, hsub, id, hid => hsub id hid
  | fuel + 1, alive, hsub, id, hid => by
    rw [shrink]
    split
    · exact hsub id hid
    · refine r.mem_shrink hkept fuel _ (fun other hother => ?_) id hid
      exact List.mem_filter.mpr
        ⟨hsub other hother, by simpa using mem_referred_mono hsub (hkept other hother)⟩

/-- Lists that are referred to by the roots and by each other live. -/
theorem mem_aliveLists (r : References V) {kept : List Nat}
    (hrange : ∀ id ∈ kept, id < r.lists.length)
    (hkept : ∀ id ∈ kept, r.list id ∈ r.referred kept) (id : Nat) (hid : id ∈ kept) :
    id ∈ r.aliveLists :=
  r.mem_shrink hkept _ _ (fun other hother => List.mem_range.mpr (hrange other hother)) id hid

end References

end ScriptHost
