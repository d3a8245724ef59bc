/-
Lists, and steps taken one after the other that may fail.

What the proofs need of them and the library does not have: lists without repetitions, lists of
keys and values, lists split at a separator, and `mapM` where every member succeeds.
-/
import Mathlib.Data.List.Nodup
import Mathlib.Data.List.Pairwise
import Mathlib.Data.List.TakeWhile

namespace ScriptHost

/-! ### Steps that may fail -/

section

variable {ε α β : Type}

theorem exists_of_bind_eq_ok {first : Except ε β} {next : β → Except ε α} {a : α}
    (h : (first >>= next) = .ok a) : ∃ b, first = .ok b ∧ next b = .ok a := by
  cases first with
  | error e => cases h
  | ok b => exact ⟨b, rfl, h⟩

theorem exists_of_map_eq_ok {first : Except ε β} {f : β → α} {a : α} (h : f <$> first = .ok a) :
    ∃ b, first = .ok b ∧ f b = a := by
  cases first with
  | error e => cases h
  | ok b => exact ⟨b, rfl, Except.ok.inj h⟩

theorem mem_of_mapM_ok {f : α → Except ε β} {xs : List α} {ys : List β} {y : β}
    (h : xs.mapM f = .ok ys) (hy : y ∈ ys) : ∃ x ∈ xs, f x = .ok y := by
  induction xs generalizing ys with
  | nil =>
    obtain rfl := Except.ok.inj h
    cases hy
  | cons x xs ih =>
    rw [List.mapM_cons] at h
    obtain ⟨first, hfirst, hlater⟩ := exists_of_bind_eq_ok h
    obtain ⟨rest, hrest, hcons⟩ := exists_of_bind_eq_ok hlater
    obtain rfl := Except.ok.inj hcons
    rcases List.mem_cons.mp hy with rfl | hy
    · exact ⟨x, List.mem_cons_self, hfirst⟩
    · obtain ⟨x', hx', hfx'⟩ := ih hrest hy
      exact ⟨x', List.mem_cons_of_mem x hx', hfx'⟩

end

section

variable {α β γ : Type} {f : α → Option β} {xs : List α} {ys : List β}

theorem exists_of_mapM_cons_eq_some {x : α} (h : (x :: xs).mapM f = some ys) :
    ∃ y rest, f x = some y ∧ xs.mapM f = some rest ∧ ys = y :: rest := by
  simp only [List.mapM_cons, Option.pure_def, Option.bind_eq_bind, Option.bind_eq_some_iff,
    Option.some.injEq] at h
  obtain ⟨y, hy, rest, hrest, rfl⟩ := h
  exact ⟨y, rest, hy, hrest, rfl⟩

theorem mem_of_mapM_some {y : β} (h : xs.mapM f = some ys) (hy : y ∈ ys) :
    ∃ x ∈ xs, f x = some y := by
  induction xs generalizing ys with
  | nil =>
    obtain rfl := Option.some.inj h
    cases hy
  | cons x xs ih =>
    obtain ⟨y', rest, hy', hrest, rfl⟩ := exists_of_mapM_cons_eq_some h
    rcases List.mem_cons.mp hy with rfl | hy
    · exact ⟨x, List.mem_cons_self, hy'⟩
    · obtain ⟨x', hx', hfx'⟩ := ih hrest hy
      exact ⟨x', List.mem_cons_of_mem x hx', hfx'⟩

/-- What is kept of every member is kept of the whole list. -/
theorem map_of_mapM_some {g : β → γ} {k : α → γ} (hstep : ∀ x y, f x = some y → g y = k x)
    (h : xs.mapM f = some ys) : ys.map g = xs.map k := by
  induction xs generalizing ys with
  | nil =>
    obtain rfl := Option.some.inj h
    rfl
  | cons x xs ih =>
    obtain ⟨y, rest, hy, hrest, rfl⟩ := exists_of_mapM_cons_eq_some h
    rw [List.map_cons, List.map_cons, hstep x y hy, ih hrest]

theorem mapM_some_of_forall (h : ∀ x ∈ xs, ∃ y, f x = some y) : ∃ ys, xs.mapM f = some ys := by
  induction xs with
  | nil => exact ⟨[], rfl⟩
  | cons x xs ih =>
    rw [List.forall_mem_cons] at h
    obtain ⟨⟨y, hy⟩, hrest⟩ := h
    obtain ⟨ys, hys⟩ := ih hrest
    refine ⟨y :: ys, ?_⟩
    rw [List.mapM_cons, hy, hys]
    rfl

end

/-! ### Lists without repetitions -/

/-- Keys without repetitions differ position by position. -/
theorem getElem?_ne_of_nodup {κ : Type} {keys : List κ} {key : κ} {i i' : Nat} (h : keys.Nodup)
    (hlt : i < i') (hkey : keys[i]? = some key) : keys[i']? ≠ some key := by
  intro hkey'
  have hi : i < keys.length := (List.getElem?_eq_some_iff.mp hkey).1
  have heq : i = i' := (List.getElem?_inj hi h).mp (hkey.trans hkey'.symm)
  omega

/-- Members of a list that are mapped to the same value are the same, if no value comes
twice. -/
theorem eq_of_nodup_filterMap {α β : Type} {f : α → Option β} {as : List α}
    (h : (as.filterMap f).Nodup) {a b : α} {c : β} (ha : a ∈ as) (hb : b ∈ as)
    (hfa : f a = some c) (hfb : f b = some c) : a = b := by
  have hsymm : Std.Symm fun x y => ∀ d, f x = some d → ∀ d', f y = some d' → d ≠ d' :=
    ⟨fun _ _ hxy d hy d' hx heq => hxy d' hx d hy heq.symm⟩
  by_contra hne
  exact (List.pairwise_filterMap.mp h).forall ha hb hne c hfa c hfb rfl

/-! ### Keys and values -/

/-- What is found among the entries of the other keys. -/
theorem lookup_filter_ne {κ α : Type} [DecidableEq κ] (entries : List (κ × α)) (key key' : κ) :
    (entries.filter (·.1 ≠ key)).lookup key' =
      if key' = key then none else entries.lookup key' := by
  induction entries with
  | nil => simp
  | cons x entries ih =>
    obtain ⟨k, v⟩ := x
    by_cases hk : k = key
    · rw [List.filter_cons_of_neg (by simp [hk]), ih, List.lookup_cons]
      by_cases hkey : key' = key
      · simp [hkey]
      · have hne : (key' == k) = false := beq_false_of_ne (hk ▸ hkey)
        simp [hkey, hne]
    · rw [List.filter_cons_of_pos (by simp [hk]), List.lookup_cons, List.lookup_cons, ih]
      by_cases hkey : key' = k
      · have hne : key' ≠ key := hkey ▸ hk
        simp only [if_neg hne]
      · have hne : (key' == k) = false := beq_false_of_ne hkey
        simp [hne]

/-! ### Insertion -/

theorem insertIdx_eq_take_append {α : Type} (a : α) :
    ∀ {l : List α} {i : Nat}, i ≤ l.length → l.insertIdx i a = l.take i ++ a :: l.drop i
  | _, 0, _ => rfl
  | _ :: l, i + 1, h => by
    rw [List.insertIdx_succ_cons, insertIdx_eq_take_append a (Nat.le_of_succ_le_succ h)]
    rfl

/-! ### Separators -/

section

variable {c : Char} {cs : List Char}

theorem takeWhile_ne_append {front back : List Char} (h : c ∉ front) :
    (front ++ c :: back).takeWhile (· ≠ c) = front := by
  rw [List.takeWhile_append_of_pos fun x hx => by simpa using ne_of_mem_of_not_mem hx h]
  simp

/-- No piece between separators has a separator in it. -/
theorem not_mem_of_mem_splitOn {w : List Char} (h : w ∈ cs.splitOn c) : c ∉ w := by
  induction cs generalizing w with
  | nil =>
    rw [List.splitOn_nil, List.mem_singleton] at h
    rw [h]
    exact List.not_mem_nil
  | cons d cs ih =>
    rw [List.splitOn_cons_eq_if_modifyHead] at h
    split at h
    · rcases List.mem_cons.mp h with rfl | h
      · exact List.not_mem_nil
      · exact ih h
    · rename_i hd
      cases hsplit : cs.splitOn c with
      | nil => exact absurd hsplit (List.splitOn_ne_nil c cs)
      | cons first rest =>
        rw [hsplit] at ih h
        rcases List.mem_cons.mp h with rfl | h
        · -- The first piece is longer by `d`, which is not the separator.
          rw [List.mem_cons, not_or]
          exact ⟨fun heq => hd (by simp [heq]), ih List.mem_cons_self⟩
        · exact ih (List.mem_cons_of_mem _ h)

/-- A character that is no separator belongs to the first piece. -/
theorem splitOn_cons_of_ne {d : Char} (hd : d ≠ c) {w : List Char} {ws : List (List Char)}
    (h : cs.splitOn c = w :: ws) : (d :: cs).splitOn c = (d :: w) :: ws := by
  rw [List.splitOn_cons_eq_if_modifyHead, if_neg (by simpa using hd), h]
  rfl

end

end ScriptHost
