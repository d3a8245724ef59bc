/-
The cases of characters in the tables are lawful.

A table moves whole ranges of characters by one offset each, and what it says of all characters
comes down to its ranges: where the images of one range lie, and that no other range reaches into
them.  That is checked range against range, not character by character.

* **`CaseRange.map?_of_misses`** — a range whose images miss another one;
* **`CaseTable.map_clean`**, **`CaseTable.map_of_unmoved`** — what a table does to characters;
* **`CaseMapping.unicode_lawful`** — the tables tell cases names can rely on.
-/
import ScriptHost.Text.Case

namespace ScriptHost

/-- What names rely on in a mapping of cases. -/
structure CaseMapping.Lawful (m : CaseMapping) : Prop where
  /-- Every character has a lower case, -/
  lower_ne_nil : ∀ c, m.lower c ≠ []
  /-- which starts with a character that is its own lower case. -/
  lower_lower : ∀ c d, (m.lower c).head? = some d → m.lower d = [d]
  /-- Of other characters no underscore comes. -/
  lower_clean : ∀ c, c ≠ '_' → '_' ∉ m.lower c
  upper_clean : ∀ c, c ≠ '_' → '_' ∉ m.upper c

/-- A number is that of its character, or of none. -/
theorem toNat_charOfNat (n : Nat) : (Char.ofNat n).toNat = n ∨ (Char.ofNat n).toNat = 0 := by
  unfold Char.ofNat
  by_cases hvalid : n.isValidChar
  · rw [dif_pos hvalid]
    exact .inl rfl
  · rw [dif_neg hvalid]
    exact .inr rfl

namespace CaseRange

variable {r r' : CaseRange} {c n : Nat}

/-- The least image. -/
def imageFirst (r : CaseRange) : Nat :=
  ((r.first : Int) + r.offset).toNat

/-- The greatest image. -/
def imageLast (r : CaseRange) : Nat :=
  ((r.last : Int) + r.offset).toNat

/-- The images of `r` lie outside of `r'`, or between the characters it moves. -/
def misses (r r' : CaseRange) : Bool :=
  r'.last.blt r.imageFirst || r.imageLast.blt r'.first ||
    (r'.step = 2 && (r.step = 2 || r.first = r.last) && 0 ≤ r.offset &&
      (r.imageFirst + r'.first) % 2 = 1)

theorem map?_eq_some (h : r.map? c = some n) :
    r.first ≤ c ∧ c ≤ r.last ∧ (c - r.first) % r.step = 0 ∧ n = ((c : Int) + r.offset).toNat := by
  rw [map?] at h
  split at h
  · rename_i hin
    exact ⟨hin.1, hin.2.1, hin.2.2, (Option.some.inj h).symm⟩
  · cases h

theorem map?_bounds (h : r.map? c = some n) : r.imageFirst ≤ n ∧ n ≤ r.imageLast := by
  obtain ⟨hfirst, hlast, -, hn⟩ := map?_eq_some h
  rw [imageFirst, imageLast]
  omega

theorem map?_of_misses (hmiss : r.misses r' = true) (h : r.map? c = some n) :
    r'.map? n = none := by
  cases h' : r'.map? n with
  | none => rfl
  | some n' =>
    obtain ⟨hlow, hhigh⟩ := map?_bounds h
    obtain ⟨hfirst, hlast, hstep, hn⟩ := map?_eq_some h
    obtain ⟨hfirst', hlast', hstep', -⟩ := map?_eq_some h'
    simp only [misses, Bool.or_eq_true, Bool.and_eq_true, Nat.blt_eq, decide_eq_true_eq] at hmiss
    rcases hmiss with (hbelow | habove) | ⟨⟨⟨htwo, hsteps⟩, hoffset⟩, hodd⟩
    · omega
    · omega
    · -- The images are all even and the characters of the other range odd, or the other way round.
      rw [htwo] at hstep'
      rw [imageFirst] at hodd
      rcases hsteps with heven | hsingle
      · rw [heven] at hstep
        omega
      · omega

end CaseRange

namespace CaseTable

variable {ranges : List CaseRange} {sequences : List (Nat × List Nat)} {c d : Char}

/-- A character is moved by a range, comes to a sequence, or stays. -/
theorem map_cases (ranges : List CaseRange) (sequences : List (Nat × List Nat)) (c : Char) :
    (∃ r ∈ ranges, ∃ n, r.map? c.toNat = some n ∧ map ranges sequences c = [Char.ofNat n]) ∨
      (∃ ns, (c.toNat, ns) ∈ sequences ∧ map ranges sequences c = ns.map Char.ofNat) ∨
      map ranges sequences c = [c] := by
  unfold map
  cases hfound : ranges.findSome? (·.map? c.toNat) with
  | some n =>
    obtain ⟨r, hr, hn⟩ := List.exists_of_findSome?_eq_some hfound
    exact .inl ⟨r, hr, n, hn, rfl⟩
  | none =>
    cases hsequence : sequences.lookup c.toNat with
    | some ns =>
      refine .inr (.inl ⟨ns, ?_, rfl⟩)
      obtain ⟨before, after, hsplit, -⟩ := List.lookup_eq_some_iff.mp hsequence
      rw [hsplit]
      exact List.mem_append_right _ List.mem_cons_self
    | none => exact .inr (.inr rfl)

theorem map_ne_nil (h : ∀ s ∈ sequences, s.2 ≠ []) : map ranges sequences c ≠ [] := by
  rcases map_cases ranges sequences c with ⟨r, -, n, -, hmap⟩ | ⟨ns, hmem, hmap⟩ | hmap
  · rw [hmap]
    exact List.cons_ne_nil _ _
  · rw [hmap, ne_eq, List.map_eq_nil_iff]
    exact h _ hmem
  · rw [hmap]
    exact List.cons_ne_nil _ _

/-- The character of another number than the underscore's is no underscore. -/
theorem charOfNat_ne {n : Nat} (h : n ≠ 95) : Char.ofNat n ≠ '_' := by
  intro heq
  have hcode : (Char.ofNat n).toNat = 95 := by
    rw [heq]
    rfl
  rcases toNat_charOfNat n with hn | hzero
  · exact h (hn.symm.trans hcode)
  · rw [hzero] at hcode
    cases hcode

theorem map_clean (hranges : ∀ r ∈ ranges, r.imageLast < 95 ∨ 95 < r.imageFirst)
    (hsequences : ∀ s ∈ sequences, 95 ∉ s.2) (hc : c ≠ '_') : '_' ∉ map ranges sequences c := by
  rcases map_cases ranges sequences c with ⟨r, hr, n, hn, hmap⟩ | ⟨ns, hmem, hmap⟩ | hmap
  · obtain ⟨hlow, hhigh⟩ := CaseRange.map?_bounds hn
    have hne : n ≠ 95 := by
      rcases hranges r hr with hbelow | habove
      · omega
      · omega
    rw [hmap, List.mem_singleton]
    exact Ne.symm (charOfNat_ne hne)
  · rw [hmap, List.mem_map]
    rintro ⟨n, hn, heq⟩
    exact charOfNat_ne (fun h95 => hsequences _ hmem (h95 ▸ hn)) heq
  · rw [hmap, List.mem_singleton]
    exact Ne.symm hc

/-- No range moves the character of a number, and it comes to no sequence. -/
def Unmoved (ranges : List CaseRange) (sequences : List (Nat × List Nat)) (n : Nat) : Prop :=
  (∀ r ∈ ranges, r.map? n = none) ∧ ∀ s ∈ sequences, s.1 ≠ n

theorem map_of_unmoved (h : Unmoved ranges sequences c.toNat) : map ranges sequences c = [c] := by
  have hfound : ranges.findSome? (·.map? c.toNat) = none := List.findSome?_eq_none_iff.mpr h.1
  have hsequence : sequences.lookup c.toNat = none := by
    rw [List.lookup_eq_none_iff]
    intro s hs
    exact bne_iff_ne.mpr (Ne.symm (h.2 s hs))
  rw [map, hfound, hsequence]

/-! ### The tables in use -/

theorem lowerRanges_misses :
    (lowerRanges.all fun r => lowerRanges.all r.misses) = true := by
  decide +kernel

theorem unmoved_image {r : CaseRange} (hr : r ∈ lowerRanges) {c n : Nat} (h : r.map? c = some n) :
    Unmoved lowerRanges lowerSequences n := by
  obtain ⟨hlow, hhigh⟩ := CaseRange.map?_bounds h
  refine ⟨fun r' hr' => ?_, fun s hs => ?_⟩
  · have hmisses := List.all_eq_true.mp (List.all_eq_true.mp lowerRanges_misses r hr) r' hr'
    exact CaseRange.map?_of_misses hmisses h
  · have houtside : ∀ r ∈ lowerRanges, ∀ s ∈ lowerSequences,
        s.1 < r.imageFirst ∨ r.imageLast < s.1 := by
      decide +kernel
    rcases houtside r hr s hs with hbelow | habove
    · omega
    · omega

theorem unmoved_zero : Unmoved lowerRanges lowerSequences 0 := by
  constructor
  · decide +kernel
  · decide

theorem lowerCase_of_head? (h : (lowerCase c).head? = some d) : lowerCase d = [d] := by
  rcases map_cases lowerRanges lowerSequences c with ⟨r, hr, n, hn, hmap⟩ | ⟨ns, hmem, hmap⟩ | hmap
  · rw [lowerCase, hmap] at h
    obtain rfl := Option.some.inj h
    refine map_of_unmoved ?_
    rcases toNat_charOfNat n with hsame | hzero
    · rw [hsame]
      exact unmoved_image hr hn
    · rw [hzero]
      exact unmoved_zero
  · have hfirst : ∀ s ∈ lowerSequences, ∀ n ∈ s.2.head?,
        lowerCase (Char.ofNat n) = [Char.ofNat n] := by
      decide +kernel
    rw [lowerCase, hmap, List.head?_map] at h
    obtain ⟨n, hn, rfl⟩ := Option.map_eq_some_iff.mp h
    exact hfirst _ hmem n hn
  · rw [lowerCase, hmap] at h
    obtain rfl := Option.some.inj h
    exact hmap

end CaseTable

open CaseTable in
theorem CaseMapping.unicode_lawful : unicode.Lawful where
  lower_ne_nil c := map_ne_nil (by decide)
  lower_lower _ _ := lowerCase_of_head?
  lower_clean _ hc := map_clean (by decide +kernel) (by decide) hc
  upper_clean _ hc := map_clean (by decide +kernel) (by decide) hc

end ScriptHost
