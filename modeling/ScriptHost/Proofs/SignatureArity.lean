/-
What a signature asks for.

A signature lists one placeholder for each parameter behind the name, and its arity is read off
the text again: from the parameter list that closes it and from a subscript that opens it.  A name
may be any text.  What it holds besides an opening subscript does not count, since the parameter
list starts at the last parenthesis, which is never one of the name.

* **`callArity_signature`** — the arity of a signature, whatever the name;
* **`callArity_subscript`** — the arity of a subscript;
* **`signature_inj`** — signatures tell names and numbers of parameters apart;
* **`signaturesDecode`** — all of it.
-/
import ScriptHost.Proofs.Sequences
import ScriptHost.Signature
import Mathlib.Data.List.TakeWhile

namespace ScriptHost

/-! ### Lists of placeholders -/

theorem afterLast?_append {c : Char} {front back : List Char} (h : c ∉ back) :
    afterLast? c (front ++ c :: back) = some back := by
  have hreverse : (front ++ c :: back).reverse = back.reverse ++ c :: front.reverse := by simp
  have hfree : c ∉ back.reverse := by simpa using h
  rw [afterLast?, if_pos (by simp), hreverse, takeWhile_ne_append hfree, List.reverse_reverse]

theorem count_placeholders : ∀ n, (placeholders n).count '_' = n
  | 0 | 1 => rfl
  | n + 2 => by simp [placeholders, count_placeholders (n + 1)]

/-- Nothing but placeholders and what separates them. -/
theorem eq_of_mem_placeholders {c : Char} : ∀ {n}, c ∈ placeholders n → c = '_' ∨ c = ','
  | 1, h => .inl (List.mem_singleton.mp h)
  | n + 2, h => by
    rcases List.mem_cons.mp h with rfl | h
    · exact .inl rfl
    · rcases List.mem_cons.mp h with rfl | h
      · exact .inr rfl
      · exact eq_of_mem_placeholders h

theorem not_mem_placeholders {c : Char} (hplaceholder : c ≠ '_') (hcomma : c ≠ ',') (n : Nat) :
    c ∉ placeholders n :=
  fun h => (eq_of_mem_placeholders h).elim hplaceholder hcomma

/-! ### Arities -/

/-- The placeholders in the parameter list that closes a text. -/
def listedArity (cs : List Char) : Nat :=
  if cs.getLast? = some ')' then ((afterLast? '(' cs).map (·.count '_')).getD 0 else 0

/-- The placeholders in the subscript that opens a text. -/
def subscriptArity (cs : List Char) : Nat :=
  if cs.head? = some '[' ∧ ']' ∈ cs then (cs.takeWhile (· ≠ ']')).count '_' else 0

theorem callArity_eq (text : String) :
    callArity text = listedArity text.toList + subscriptArity text.toList :=
  rfl

/-- A subscript is what stands before the first bracket that closes one. -/
theorem subscriptArity_append {inside rest : List Char} (h : ']' ∉ inside) :
    subscriptArity ('[' :: (inside ++ ']' :: rest)) = inside.count '_' := by
  have hfree : ']' ∉ '[' :: inside := by simpa using h
  rw [subscriptArity, if_pos (by simp), ← List.cons_append, takeWhile_ne_append hfree]
  exact List.count_cons_of_ne (by decide)

theorem subscriptArity_of_not {cs : List Char} (h : cs.head? ≠ some '[' ∨ ']' ∉ cs) :
    subscriptArity cs = 0 :=
  if_neg fun hopen => h.elim (fun hhead => hhead hopen.1) fun hclosed => hclosed hopen.2

theorem toList_signature (name : String) (n : Nat) :
    (signature name n).toList = name.toList ++ '(' :: (placeholders n ++ [')']) :=
  String.toList_ofList

theorem listedArity_signature (name : String) (n : Nat) :
    listedArity (signature name n).toList = n := by
  have hfree : '(' ∉ placeholders n ++ [')'] := by
    simpa using not_mem_placeholders (by decide) (by decide) n
  have hlast : (name.toList ++ '(' :: (placeholders n ++ [')'])).getLast? = some ')' := by
    rw [← List.cons_append, ← List.append_assoc, List.getLast?_concat]
  rw [toList_signature, listedArity, if_pos hlast, afterLast?_append hfree]
  simp [count_placeholders]

/-- What follows the name neither opens a subscript nor closes one. -/
theorem subscriptArity_signature (name : String) (n : Nat) :
    subscriptArity (signature name n).toList = subscriptArity name.toList := by
  rw [toList_signature]
  generalize name.toList = cs
  have hfree : ']' ∉ '(' :: (placeholders n ++ [')']) := by
    simpa using not_mem_placeholders (by decide) (by decide) n
  by_cases hopen : cs.head? = some '['
  · obtain ⟨cs, rfl⟩ := List.head?_eq_some_iff.mp hopen
    -- A subscript ends at the first bracket that closes it, which is in the name if there is one
    -- there.
    by_cases hclosed : ']' ∈ cs
    · obtain ⟨inside, rest, rfl, hinside⟩ := List.eq_append_cons_of_mem hclosed
      rw [List.cons_append, List.append_assoc, List.cons_append, subscriptArity_append hinside,
        subscriptArity_append hinside]
    · have hnever : ']' ∉ '[' :: cs := by simpa using hclosed
      rw [subscriptArity_of_not (.inr hnever), subscriptArity_of_not (.inr ?_)]
      exact fun hmem => (List.mem_append.mp hmem).elim hnever hfree
  · rw [subscriptArity_of_not (.inl hopen), subscriptArity_of_not (.inl ?_)]
    cases cs with
    | nil => simp
    | cons c cs => exact hopen

/-- A signature asks for its placeholders, and for those of the subscript in its name. -/
theorem callArity_signature (name : String) (n : Nat) :
    callArity (signature name n) = n + subscriptArity name.toList := by
  rw [callArity_eq, listedArity_signature, subscriptArity_signature]

theorem callArity_signature_of_head? {name : String} (h : name.toList.head? ≠ some '[') (n : Nat) :
    callArity (signature name n) = n := by
  rw [callArity_signature, subscriptArity_of_not (.inl h), Nat.add_zero]

/-- A subscript by `n` values. -/
def subscript (n : Nat) : String :=
  String.ofList ('[' :: (placeholders n ++ [']']))

theorem subscriptArity_subscript (n : Nat) (rest : List Char) :
    subscriptArity ((subscript n).toList ++ rest) = n := by
  have hfree : ']' ∉ placeholders n := not_mem_placeholders (by decide) (by decide) n
  rw [subscript, String.toList_ofList, List.cons_append, List.append_assoc, List.singleton_append,
    subscriptArity_append hfree, count_placeholders]

theorem listedArity_of_getLast? {cs : List Char} (h : cs.getLast? ≠ some ')') :
    listedArity cs = 0 :=
  if_neg h

theorem callArity_subscript (n : Nat) : callArity (subscript n) = n := by
  have hlast : (subscript n).toList.getLast? ≠ some ')' := by
    rw [subscript, String.toList_ofList, ← List.cons_append, List.getLast?_concat]
    decide
  have hsubscript := subscriptArity_subscript n []
  rw [List.append_nil] at hsubscript
  rw [callArity_eq, listedArity_of_getLast? hlast, hsubscript, Nat.zero_add]

/-- A setter takes the value. -/
theorem signature_setter (name : String) : signature (name ++ "=") 1 = name ++ "=(_)" := by
  refine String.toList_inj.mp ?_
  rw [toList_signature, String.toList_append, String.toList_append, List.append_assoc]
  rfl

/-! ### What signatures tell apart -/

/-- The parameter list tells how many parameters there are, and what stands before it is the
name. -/
theorem signature_inj {a b : String} {m n : Nat} (h : signature a m = signature b n) :
    a = b ∧ m = n := by
  have harity : m = n := by
    rw [← listedArity_signature a m, h, listedArity_signature]
  subst harity
  have hlists := congrArg String.toList h
  rw [toList_signature, toList_signature] at hlists
  exact ⟨String.toList_inj.mp (List.append_cancel_right hlists), rfl⟩

/-- How signatures and texts in general are decoded. -/
structure SignaturesDecode : Prop where
  arity : ∀ name n, callArity (signature name n) = n + subscriptArity name.toList
  opened : ∀ inside rest, ']' ∉ inside →
    subscriptArity ('[' :: (inside ++ ']' :: rest)) = inside.count '_'
  unopened : ∀ cs, cs.head? ≠ some '[' ∨ ']' ∉ cs → subscriptArity cs = 0
  method : ∀ name n, name.toList.head? ≠ some '[' → callArity (signature name n) = n
  setter : ∀ name, name.toList.head? ≠ some '[' → callArity (name ++ "=(_)") = 1
  subscript : ∀ n, callArity (subscript n) = n
  subscriptSetter : ∀ n, callArity (ScriptHost.subscript n ++ "=(_)") = n + 1
  other : ∀ text, text.toList.getLast? ≠ some ')' → text.toList.head? ≠ some '[' →
    callArity text = 0
  injective : ∀ a b m n, signature a m = signature b n → a = b ∧ m = n

theorem signaturesDecode : SignaturesDecode where
  arity := callArity_signature
  opened _ _ := subscriptArity_append
  unopened _ := subscriptArity_of_not
  method _ n h := callArity_signature_of_head? h n
  setter name h := by
    rw [← signature_setter]
    refine callArity_signature_of_head? ?_ 1
    rw [String.toList_append]
    -- The name of a setter begins as the method's does, and an empty one with its sign.
    cases hname : name.toList with
    | nil => decide
    | cons c cs => rwa [hname] at h
  subscript := callArity_subscript
  subscriptSetter n := by
    rw [← signature_setter, callArity_signature, String.toList_append, subscriptArity_subscript,
      Nat.add_comm]
  other text hlast hhead := by
    rw [callArity_eq, listedArity_of_getLast? hlast, subscriptArity_of_not (.inl hhead)]
  injective _ _ _ _ := signature_inj

/-- Underscores, brackets and parentheses of a name. -/
example : callArity "__[_](_)_(_,_)" = 2 ∧ callArity "[_,_]_[_]=(_)" = 3 := by
  decide

end ScriptHost
