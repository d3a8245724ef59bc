/-
The names scripts have for the functions of a block.

A name that an attribute gives is never empty: a block with an empty one is not exposed.  A name
that is made of the function's own has the words of it and nothing else, so it is empty when
there is no word, and nothing looks at it then: the function is bound under a signature without
a name.

* **`CaseMapping.scriptName_eq_empty_iff`** — the names nothing is left of;
* **`Function.label_eq_empty_iff`** — the functions scripts have no name for;
* **`namesMethods_of_expose`** — the signatures of an exposed block, with and without a name.
-/
import ScriptHost.Proofs.BindingTable
import ScriptHost.Proofs.GeneratedCalls
import ScriptHost.Proofs.ScriptNames
import ScriptHost.Proofs.Sequences
import ScriptHost.Proofs.SignatureArity
import ScriptHost.Samples.Calculator

namespace ScriptHost

/-! ### Names without words -/

/-- There are no words in underscores, and one in anything else. -/
theorem words_eq_nil_iff {cs : List Char} : hostWords cs = [] ↔ ∀ c ∈ cs, c = '_' := by
  induction cs with
  | nil => exact iff_of_true rfl nofun
  | cons c cs ih =>
    rw [List.forall_mem_cons]
    by_cases hc : c = '_'
    · rw [hc, words_underscore, ih]
      exact (and_iff_right rfl).symm
    · refine iff_of_false (fun hnone => ?_) fun h => hc h.1
      cases hsplit : cs.splitOn '_' with
      | nil => exact absurd hsplit (List.splitOn_ne_nil _ cs)
      | cons w ws =>
        rw [hostWords, splitOn_cons_of_ne hc hsplit] at hnone
        exact List.cons_ne_nil _ _ hnone

namespace CaseMapping

variable {m : CaseMapping}

/-- The first word leaves something of itself, since every character has a lower case. -/
theorem joinWords_eq_nil_iff (h : m.Lawful) {ws : List (List Char)} (hne : ∀ w ∈ ws, w ≠ []) :
    m.joinWords ws = [] ↔ ws = [] := by
  rcases ws with _ | ⟨_ | ⟨c, cs⟩, ws⟩
  · exact iff_of_true rfl rfl
  · exact absurd rfl (hne [] List.mem_cons_self)
  · refine iff_of_false (fun hnone => ?_) (List.cons_ne_nil _ _)
    rw [joinWords, lowerFirst, List.append_assoc, List.append_eq_nil_iff] at hnone
    exact h.lower_ne_nil c hnone.1

/-- Nothing is left of a name iff it is underscores. -/
theorem scriptName_eq_empty_iff (h : m.Lawful) {name : String} :
    m.scriptName name = "" ↔ ∀ c ∈ name.toList, c = '_' := by
  rw [← String.toList_inj, toList_scriptName h, ← words_eq_nil_iff]
  exact joinWords_eq_nil_iff h fun w hw => ne_nil_of_mem_words hw

end CaseMapping

namespace Exposure

/-! ### Names of functions -/

namespace Function

variable {f : Function}

/-- The name scripts have for a function: the one its attributes give, or else the one that its
own name makes. -/
def label (f : Function) : String :=
  f.givenName?.getD (scriptName f.name)

/-- No attribute of a function gives a name, and there is no word in its own. -/
def Nameless (f : Function) : Prop :=
  f.givenName? = none ∧ ∀ c ∈ f.name.toList, c = '_'

/-- An empty name is a fault of the attribute that gives it. -/
theorem givenName?_ne_empty (hsound : ¬ f.Faulty) : f.givenName? ≠ some "" := by
  intro hempty
  -- The name is given by an item of one of the attributes, and that item would be at fault.
  obtain ⟨item, hitem, hgiven⟩ := List.mem_filterMap.mp (List.mem_of_getLast? hempty)
  obtain ⟨a, ha, hread⟩ := List.mem_flatMap.mp hitem
  have hnameless : item.Faulty := by
    rw [AttributeItem.givenName?] at hgiven
    split at hgiven
    · rename_i hkey hvalue
      obtain rfl := Option.some.inj hgiven
      exact .nameless hkey hvalue
    · cases hgiven
  rw [Attribute.memberItems] at hread
  split at hread
  · rename_i items hmember hform
    exact hsound ⟨a, ha, .item (of_decide_eq_true hmember) hform hread hnameless⟩
  · cases hread

theorem label_eq_empty_iff (hsound : ¬ f.Faulty) : f.label = "" ↔ f.Nameless := by
  rw [label, Nameless]
  cases hgiven : f.givenName? with
  | none =>
    rw [Option.getD_none, and_iff_right rfl]
    exact CaseMapping.scriptName_eq_empty_iff CaseMapping.unicode_lawful
  | some name =>
    refine iff_of_false (fun hempty => ?_) nofun
    rw [Option.getD_some] at hempty
    exact givenName?_ne_empty hsound (hgiven.trans (congrArg some hempty))

end Function

/-- A signature has a name iff it is made of one that is not empty. -/
theorem named_signature_iff {label : String} {arity : Nat} :
    (∃ name n, name ≠ "" ∧ signature label arity = signature name n) ↔ label ≠ "" := by
  constructor
  · rintro ⟨name, n, hname, hsame⟩
    rwa [(signature_inj hsame).1]
  · intro hlabel
    exact ⟨label, arity, hlabel, rfl⟩

/-! ### From a block to its table -/

/-- What is exposed as methods are the methods among the functions of the block, none of which is
faulty. -/
theorem methods_of_expose {block : Block} {arguments : List AttributeItem} {e : ExposedClass}
    (h : block.expose arguments = .ok e) :
    (∀ f ∈ block.functions, ¬ f.Faulty) ∧
      e.methods = Function.methodMetas block.type.lastName? block.functions := by
  obtain ⟨members, hmembers, -, hmethods⟩ := members_of_expose h
  rcases Item.mapM_member block.type.lastName? block.items with
    ⟨-, e, hfails⟩ | ⟨hsound, members', hmembers', -, hmetas⟩
  · cases hmembers.symm.trans hfails
  · obtain rfl := Except.ok.inj (hmembers.symm.trans hmembers')
    exact ⟨hsound, hmethods.trans hmetas⟩

variable {α : Type}

/-- What scripts call a generated method by. -/
theorem key_of_generate? {impl : Implementation α} {m : ExposedMethod} {m' : Method α}
    (h : m.generate? impl = some m') :
    m'.key = (m.isStatic, signature (m.scriptName.getD (scriptName m.name)) m.params.length) := by
  rw [ExposedMethod.generate?] at h
  obtain ⟨params, hparams, hmethod⟩ := Option.bind_eq_some_iff.mp h
  obtain rfl := Option.some.inj hmethod
  have hlength : params.length = m.params.length := by
    have hunits := map_of_mapM_some (g := fun _ => ()) (k := fun _ => ()) (fun _ _ _ => rfl) hparams
    simpa using congrArg List.length hunits
  simp only [Method.key, List.length_map, hlength, Implementation.body]
  cases m.isStatic <;> rfl

/-- What it means for a table to have the methods of a block under their names. -/
structure NamesMethods (block : Block) (b : ForeignBinding) : Prop where
  /-- The methods of the block are bound in order, each under the name that scripts have for it
  and with one placeholder for each parameter. -/
  signatures : b.signatures =
    (block.functions.filter fun f => f.IsMethod block.type.lastName?).map fun f =>
      (decide (f.receiver = .none), signature f.label f.params.length)
  /-- No attribute gives an empty name. -/
  given : ∀ f ∈ block.functions, f.givenName? ≠ some ""
  /-- A name stands before the parameter list, except for functions without one. -/
  named : ∀ f ∈ block.functions, ∀ arity,
    (∃ name n, name ≠ "" ∧ signature f.label arity = signature name n) ↔ ¬ f.Nameless

/-- Every exposed block becomes a class, and in a table of it the methods without a name are those
whose attributes give none and whose own name is underscores. -/
theorem namesMethods_of_expose [HostType α] {block : Block} {arguments : List AttributeItem}
    {e : ExposedClass} (h : block.expose arguments = .ok e) (impl : Implementation α) :
    ∃ c, e.generate? impl = some c ∧
      ∀ b, ForeignBinding.of c.describe = .ok b → NamesMethods block b := by
  obtain ⟨hsound, hmethods⟩ := methods_of_expose h
  obtain ⟨c, hc, -⟩ := generate?_of_expose h impl
  refine ⟨c, hc, fun b hb => ⟨?_, fun f hf => Function.givenName?_ne_empty (hsound f hf), ?_⟩⟩
  · rw [ExposedClass.generate?] at hc
    obtain ⟨constructors, -, hrest⟩ := Option.bind_eq_some_iff.mp hc
    obtain ⟨methods, hgenerated, hclass⟩ := Option.bind_eq_some_iff.mp hrest
    obtain rfl := Option.some.inj hclass
    rw [ForeignBinding.signatures_of hb,
      map_of_mapM_some (fun m m' => key_of_generate?) hgenerated, hmethods, Function.methodMetas,
      List.map_map]
    refine List.map_congr_left fun f _ => ?_
    simp [Function.methodMeta, Function.paramMetas, Function.label]
  -- A signature has an empty name exactly if its label is empty.
  · intro f hf arity
    rw [named_signature_iff, Ne, Function.label_eq_empty_iff (hsound f hf)]

/-- Functions that do nothing. -/
def idle : Implementation Samples.Calculator where
  make _ _ _ := ⟨0⟩
  onClass _ _ _ := .ok none
  onReceiver _ _ _ c := (.ok none, c)

/-- A method with a word in its name, one that is given a name instead, and one with neither. -/
theorem namesMethods_of_expose_words :
    let block := Block.ofWidget [
      .plain "_set_size_" .byReference [⟨some "size", .path [("i32", [])]⟩] none [],
      .plain "__" .none [] none [⟨"wren", .list [⟨"name", .text "reset"⟩]⟩],
      .plain "___" .none [] none []]
    ∃ e c b, block.expose [] = .ok e ∧ e.generate? idle = some c ∧
      ForeignBinding.of c.describe = .ok b ∧ NamesMethods block b ∧
      b.signatures = [(false, "setSize(_)"), (true, "reset()"), (true, "()")] := by
  intro block
  obtain ⟨e, he⟩ : ∃ e, block.expose [] = .ok e := ⟨_, rfl⟩
  obtain ⟨c, hc, hnames⟩ := namesMethods_of_expose he idle
  -- The three signatures differ, so there is a table.
  have hnodup : (c.methods.map (·.key)).Nodup := by
    cases he
    cases hc
    decide +kernel
  obtain ⟨b, hb⟩ := ForeignBinding.of_of_nodup hnodup
  refine ⟨e, c, b, he, hc, hb, hnames b hb, ?_⟩
  rw [ForeignBinding.signatures_of hb]
  cases he
  cases hc
  decide +kernel

/-- An empty name that an attribute gives is refused, and one that is left of underscores is
bound. -/
theorem nameless_of_underscores :
    (Block.ofWidget [.plain "f" .byReference [] none
        [⟨"wren", .list [⟨"name", .text ""⟩]⟩]]).expose [] = .error .emptyName ∧
      ∃ e c b, (Block.ofWidget [.plain "__" .byReference [] none []]).expose [] = .ok e ∧
        e.generate? idle = some c ∧ ForeignBinding.of c.describe = .ok b ∧
        b.signatures = [(false, "()")] ∧ ¬ ∃ name n, name ≠ "" ∧ "()" = signature name n := by
  refine ⟨rfl, _, _, _, rfl, rfl, rfl, by decide +kernel, ?_⟩
  have hempty : "()" = signature "" 0 := by decide
  rw [hempty, named_signature_iff]
  exact not_not_intro rfl

end Exposure

end ScriptHost
