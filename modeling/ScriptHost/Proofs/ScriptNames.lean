/-
Script names by words.

The words of a host name stand between its underscores.  A script's name is made of them: the
first word in lower case at its start, each later one in upper case at its start, and nothing
between them.  Reading the name character by character, two flags take the place of the words:
whether anything has been written, and whether the next character opens a word.

* **`scriptNameChars_start`** — the two flags come to the words, by induction over the characters;
* **`words_append`**, **`joinWords_clean`**, **`lowerFirst_joinWords`** — an underscore only
  separates, none is left, and what is left is one word that starts in lower case;
* **`CaseMapping.joinsWords`** — the rule for script names, for every lawful mapping of cases.
-/
import ScriptHost.Proofs.CaseMappings
import ScriptHost.Proofs.Sequences
import ScriptHost.Signature

namespace ScriptHost

/-- The words of a host name: what stands between its underscores, where anything does. -/
def hostWords (cs : List Char) : List (List Char) :=
  (cs.splitOn '_').filter (· ≠ [])

/-- Some underscores. -/
def underscores (count : Nat) : String :=
  String.ofList (List.replicate count '_')

@[simp] theorem toList_underscores (count : Nat) :
    (underscores count).toList = List.replicate count '_' :=
  String.toList_ofList

/-! ### Words -/

theorem words_append (cs ds : List Char) :
    hostWords (cs ++ '_' :: ds) = hostWords cs ++ hostWords ds := by
  rw [hostWords, List.splitOn_append_cons_self, List.filter_append]
  rfl

theorem words_underscore (cs : List Char) : hostWords ('_' :: cs) = hostWords cs :=
  words_append [] cs

theorem words_replicate_append (count : Nat) (cs : List Char) :
    hostWords (List.replicate count '_' ++ cs) = hostWords cs := by
  induction count with
  | zero => rfl
  | succ count ih => rw [List.replicate_succ, List.cons_append, words_underscore, ih]

theorem words_append_replicate (cs : List Char) (count : Nat) :
    hostWords (cs ++ List.replicate count '_') = hostWords cs := by
  cases count with
  | zero => rw [List.replicate_zero, List.append_nil]
  | succ count =>
    have hnone : hostWords (List.replicate count '_') = [] := by
      rw [← List.append_nil (List.replicate count '_'), words_replicate_append]
      rfl
    rw [List.replicate_succ, words_append, hnone, List.append_nil]

theorem words_of_not_mem {cs : List Char} (h : '_' ∉ cs) (hne : cs ≠ []) : hostWords cs = [cs] := by
  rw [hostWords, List.splitOn_eq_singleton h]
  exact List.filter_cons_of_pos (decide_eq_true hne)

theorem not_mem_of_mem_words {cs w : List Char} (h : w ∈ hostWords cs) : '_' ∉ w :=
  not_mem_of_mem_splitOn (List.mem_filter.mp h).1

theorem ne_nil_of_mem_words {cs w : List Char} (h : w ∈ hostWords cs) : w ≠ [] :=
  of_decide_eq_true (List.mem_filter.mp h).2

namespace CaseMapping

variable (m : CaseMapping)

/-- A word that starts in lower case. -/
def lowerFirst : List Char → List Char
  | [] => []
  | c :: cs => m.lower c ++ cs

/-- A word that starts in upper case. -/
def upperFirst : List Char → List Char
  | [] => []
  | c :: cs => m.upper c ++ cs

/-- Words put together: the first one starts in lower case and the others in upper case. -/
def joinWords : List (List Char) → List Char
  | [] => []
  | w :: ws => m.lowerFirst w ++ ws.flatMap m.upperFirst

/-- The rule for script names. -/
structure JoinsWords : Prop where
  /-- The words of the host name are put together. -/
  joins : ∀ name, (m.scriptName name).toList = m.joinWords (hostWords name.toList)
  /-- No underscore is left. -/
  clean : ∀ name, '_' ∉ (m.scriptName name).toList
  /-- Underscores on the outside have no influence. -/
  outside : ∀ before name after,
    m.scriptName (underscores before ++ name ++ underscores after) = m.scriptName name
  /-- Between two words any number of underscores does what one does. -/
  between : ∀ name count name',
    m.scriptName (name ++ underscores (count + 1) ++ name') = m.scriptName (name ++ "_" ++ name')
  idempotent : ∀ name, m.scriptName (m.scriptName name) = m.scriptName name

/-! ### Reading character by character -/

variable {m}

theorem scriptNameChars_underscore (started boundary : Bool) (cs : List Char) :
    m.scriptNameChars started boundary ('_' :: cs) = m.scriptNameChars started started cs := by
  rw [scriptNameChars, if_pos rfl]

/-- Within a word the rest of the word is kept, and what follows are words of their own. -/
theorem scriptNameChars_within (cs : List Char) :
    ∀ w ws, cs.splitOn '_' = w :: ws →
      m.scriptNameChars true false cs = w ++ (ws.filter (· ≠ [])).flatMap m.upperFirst ∧
      m.scriptNameChars true true cs = ((w :: ws).filter (· ≠ [])).flatMap m.upperFirst := by
  -- Both flags for what is written at once: an underscore leads from the first to the second.
  induction cs with
  | nil =>
    rintro w ws h
    obtain ⟨rfl, rfl⟩ := List.cons.inj h
    exact ⟨rfl, rfl⟩
  | cons c cs ih =>
    intro w ws h
    by_cases hc : c = '_'
    · subst hc
      rw [List.splitOn_cons_eq_if_modifyHead, if_pos (beq_self_eq_true _)] at h
      obtain ⟨rfl, rfl⟩ := List.cons.inj h
      cases hsplit : cs.splitOn '_' with
      | nil => exact absurd hsplit (List.splitOn_ne_nil _ cs)
      | cons w ws =>
        obtain ⟨-, hboundary⟩ := ih w ws hsplit
        rw [scriptNameChars_underscore, scriptNameChars_underscore, hboundary]
        exact ⟨rfl, rfl⟩
    · cases hsplit : cs.splitOn '_' with
      | nil => exact absurd hsplit (List.splitOn_ne_nil _ cs)
      | cons w' ws' =>
        rw [splitOn_cons_of_ne hc hsplit] at h
        obtain ⟨rfl, rfl⟩ := List.cons.inj h
        obtain ⟨hwithin, -⟩ := ih w' ws' hsplit
        rw [scriptNameChars, scriptNameChars, if_neg hc, if_neg hc]
        simp [hwithin, upperFirst]

theorem scriptNameChars_start (h : m.Lawful) (cs : List Char) :
    m.scriptNameChars false false cs = m.joinWords (hostWords cs) := by
  induction cs with
  | nil => rfl
  | cons c cs ih =>
    by_cases hc : c = '_'
    · rw [hc, scriptNameChars_underscore, words_underscore, ih]
    · cases hsplit : cs.splitOn '_' with
      | nil => exact absurd hsplit (List.splitOn_ne_nil _ cs)
      | cons w ws =>
        obtain ⟨hwithin, -⟩ := scriptNameChars_within (m := m) cs w ws hsplit
        -- The lower case of a character is not empty, so after it something has been written.
        have hwritten : (m.lower c).isEmpty = false := by simpa using h.lower_ne_nil c
        rw [scriptNameChars, if_neg hc, hostWords, splitOn_cons_of_ne hc hsplit]
        simp [hwritten, hwithin, joinWords, lowerFirst]

theorem toList_scriptName (h : m.Lawful) (name : String) :
    (m.scriptName name).toList = m.joinWords (hostWords name.toList) := by
  rw [scriptName, String.toList_ofList, scriptNameChars_start h]

theorem scriptName_of_words (h : m.Lawful) {name name' : String}
    (hwords : hostWords name.toList = hostWords name'.toList) :
    m.scriptName name = m.scriptName name' := by
  rw [← String.toList_inj, toList_scriptName h, toList_scriptName h, hwords]

/-! ### What is left -/

theorem joinWords_clean (h : m.Lawful) {ws : List (List Char)} (hws : ∀ w ∈ ws, '_' ∉ w) :
    '_' ∉ m.joinWords ws := by
  have hlower : ∀ w, '_' ∉ w → '_' ∉ m.lowerFirst w := by
    intro w hw
    cases w with
    | nil => exact hw
    | cons c cs =>
      rw [List.mem_cons, not_or] at hw
      rw [lowerFirst, List.mem_append, not_or]
      exact ⟨h.lower_clean c (Ne.symm hw.1), hw.2⟩
  have hupper : ∀ w, '_' ∉ w → '_' ∉ m.upperFirst w := by
    intro w hw
    cases w with
    | nil => exact hw
    | cons c cs =>
      rw [List.mem_cons, not_or] at hw
      rw [upperFirst, List.mem_append, not_or]
      exact ⟨h.upper_clean c (Ne.symm hw.1), hw.2⟩
  cases ws with
  | nil => exact List.not_mem_nil
  | cons w ws =>
    rw [joinWords, List.mem_append, not_or]
    refine ⟨hlower w (hws w List.mem_cons_self), fun hmem => ?_⟩
    obtain ⟨w', hw', hmem'⟩ := List.mem_flatMap.mp hmem
    exact hupper w' (hws w' (List.mem_cons_of_mem _ hw')) hmem'

/-- Words put together start as they would in lower case. -/
theorem lowerFirst_joinWords (h : m.Lawful) {ws : List (List Char)} (hws : ∀ w ∈ ws, w ≠ []) :
    m.lowerFirst (m.joinWords ws) = m.joinWords ws := by
  rcases ws with _ | ⟨_ | ⟨c, cs⟩, ws⟩
  · rfl
  · exact absurd rfl (hws [] List.mem_cons_self)
  · cases hlower : m.lower c with
    | nil => exact absurd hlower (h.lower_ne_nil c)
    | cons d ds =>
      have hfirst : m.lower d = [d] := h.lower_lower c d (by rw [hlower]; rfl)
      simp [joinWords, lowerFirst, hlower, hfirst]

theorem joinWords_words_joinWords (h : m.Lawful) {ws : List (List Char)}
    (hne : ∀ w ∈ ws, w ≠ []) (hclean : ∀ w ∈ ws, '_' ∉ w) :
    m.joinWords (hostWords (m.joinWords ws)) = m.joinWords ws := by
  by_cases hempty : m.joinWords ws = []
  · rw [hempty]
    rfl
  · rw [words_of_not_mem (joinWords_clean h hclean) hempty, joinWords, List.flatMap_nil,
      List.append_nil, lowerFirst_joinWords h hne]

/-- Script names are made of the words of host names, whatever the cases of characters are, as
long as they are lawful. -/
theorem joinsWords (m : CaseMapping) (h : m.Lawful) : m.JoinsWords where
  joins := toList_scriptName h
  clean name := by
    rw [toList_scriptName h]
    exact joinWords_clean h fun w hw => not_mem_of_mem_words hw
  outside before name after := by
    refine scriptName_of_words h ?_
    rw [String.toList_append, String.toList_append, toList_underscores, toList_underscores,
      words_append_replicate, words_replicate_append]
  between name count name' := by
    refine scriptName_of_words h ?_
    have hone : "_".toList = ['_'] := rfl
    simp only [String.toList_append, toList_underscores, hone, List.append_assoc,
      List.replicate_succ, List.cons_append, List.nil_append, words_append,
      words_replicate_append]
  idempotent name := by
    rw [← String.toList_inj, toList_scriptName h, toList_scriptName h]
    exact joinWords_words_joinWords h (fun w hw => ne_nil_of_mem_words hw)
      fun w hw => not_mem_of_mem_words hw

/-- By the cases of the tables, where the upper case of a character may be two. -/
theorem joinsWords_unicode :
    unicode.Lawful ∧ unicode.JoinsWords ∧
      ScriptHost.scriptName "__straße_élan__ß_" = "straßeÉlanSS" :=
  ⟨unicode_lawful, joinsWords unicode unicode_lawful, by decide +kernel⟩

end CaseMapping

end ScriptHost
