/-
Which functions of a block scripts can call, read off the block.

A block is exposed in one pass over its functions, which reads the attributes of each, filters it
and classifies it.  Here the result is told without the pass: what makes an attribute `Faulty`, what
makes a function `Callable`, a constructor or a method, and what is declared for it.

* **`Function.memberAttributes_eq`** — what the attributes of a function say, or that one of them
  is faulty;
* **`Function.member_eq`** — what a function is exposed as;
* **`Block.lists_expose`** — the lists of an exposed block, and when there are none.
-/
import ScriptHost.Exposure

namespace ScriptHost.Exposure

/-! ### Attributes -/

/-- An item of an attribute on a function that says nothing that is known. -/
inductive AttributeItem.Faulty (item : AttributeItem) : Prop
  | unknownKey : keyName? item.key ≠ some "ignore" → keyName? item.key ≠ some "name" → Faulty item
  /-- There is no value to give to `ignore`. -/
  | valued : keyName? item.key = some "ignore" → item.value ≠ .absent → Faulty item
  /-- The value of `name` is a text. -/
  | textless : keyName? item.key = some "name" → (∀ name, item.value ≠ .text name) → Faulty item
  | nameless : keyName? item.key = some "name" → item.value = .text "" → Faulty item

/-- An attribute on a function that is not a list of items, or has a faulty item in it. -/
inductive Attribute.Faulty (a : Attribute) : Prop
  | listless : a.path = "wren" → (∀ items, a.form ≠ .list items) → Faulty a
  | item {items : List AttributeItem} {item : AttributeItem} : a.path = "wren" →
    a.form = .list items → item ∈ items → item.Faulty → Faulty a

/-- The name an item gives to a function. -/
def AttributeItem.givenName? (item : AttributeItem) : Option String :=
  match keyName? item.key, item.value with
  | some "name", .text name => some name
  | _, _ => none

/-- What has been said, with what some more items say: the last name given counts. -/
def MemberAttributes.hearing (said : MemberAttributes) (items : List AttributeItem) :
    MemberAttributes where
  isIgnored := said.isIgnored || items.any fun item => keyName? item.key = some "ignore"
  name := (items.filterMap (·.givenName?)).getLast?.or said.name

@[simp] theorem MemberAttributes.hearing_nil (said : MemberAttributes) :
    said.hearing [] = said := by
  simp [hearing]

theorem MemberAttributes.hearing_append (said : MemberAttributes)
    (items items' : List AttributeItem) :
    said.hearing (items ++ items') = (said.hearing items).hearing items' := by
  simp [hearing, List.getLast?_append, Bool.or_assoc, Option.or_assoc]

/-- The item read first is faulty, or what it says is added. -/
theorem readItems_cons (said : MemberAttributes) (item : AttributeItem)
    (items : List AttributeItem) :
    (item.Faulty ∧ ∃ e, readItems said (item :: items) = .error e) ∨
      ¬ item.Faulty ∧ readItems said (item :: items) = readItems (said.hearing [item]) items := by
  rw [readItems]
  -- The key is one of two, and each of them asks for its own form of value.
  by_cases hignore : keyName? item.key = some "ignore"
  · rw [if_pos hignore]
    cases hvalue : item.value with
    | absent =>
      refine .inr ⟨fun h => ?_, ?_⟩
      · cases h <;> simp_all
      · simp [MemberAttributes.hearing, AttributeItem.givenName?, hignore]
    | missing | text | integer =>
      exact .inl ⟨.valued hignore (by simp [hvalue]), _, rfl⟩
  · rw [if_neg hignore]
    by_cases hname : keyName? item.key = some "name"
    · rw [if_pos hname, textOf]
      cases hvalue : item.value with
      | absent | missing | integer =>
        exact .inl ⟨.textless hname (by simp [hvalue]), _, rfl⟩
      | text name =>
        by_cases hempty : name = ""
        · refine .inl ⟨.nameless hname (hvalue.trans (by rw [hempty])), .emptyName, ?_⟩
          rw [hempty]
          rfl
        · refine .inr ⟨fun h => ?_, ?_⟩
          · cases h <;> simp_all
          · simp [MemberAttributes.hearing, AttributeItem.givenName?, hname, hvalue, hempty]
    · rw [if_neg hname]
      exact .inl ⟨.unknownKey hignore hname, _, rfl⟩

/-- The items of an attribute are read, unless one of them is faulty. -/
theorem readItems_eq (said : MemberAttributes) (items : List AttributeItem) :
    ((∃ item ∈ items, item.Faulty) ∧ ∃ e, readItems said items = .error e) ∨
      (∀ item ∈ items, ¬ item.Faulty) ∧ readItems said items = .ok (said.hearing items) := by
  induction items generalizing said with
  | nil => exact .inr ⟨by simp, by rw [MemberAttributes.hearing_nil]; rfl⟩
  | cons item items ih =>
    rcases readItems_cons said item items with ⟨hfaulty, hfails⟩ | ⟨hsound, hread⟩
    · exact .inl ⟨⟨item, List.mem_cons_self, hfaulty⟩, hfails⟩
    · rw [hread]
      rcases ih (said.hearing [item]) with ⟨⟨other, hother, hfaulty⟩, hfails⟩ | ⟨hrest, hheard⟩
      · exact .inl ⟨⟨other, List.mem_cons_of_mem _ hother, hfaulty⟩, hfails⟩
      · refine .inr ⟨List.forall_mem_cons.mpr ⟨hsound, hrest⟩, ?_⟩
        rw [hheard, ← MemberAttributes.hearing_append]
        rfl

/-- The items of an attribute that is read. -/
def Attribute.memberItems (a : Attribute) : List AttributeItem :=
  match a.isMemberAttribute, a.form with
  | true, .list items => items
  | _, _ => []

theorem readAttributes_cons (said : MemberAttributes) (a : Attribute)
    (attributes : List Attribute) :
    (a.Faulty ∧ ∃ e, readAttributes said (a :: attributes) = .error e) ∨
      ¬ a.Faulty ∧ readAttributes said (a :: attributes) =
        readAttributes (said.hearing a.memberItems) attributes := by
  rw [readAttributes, Attribute.memberItems]
  -- Attributes under other paths are skipped, whatever they hold.
  by_cases hmember : a.isMemberAttribute = true
  · have hpath : a.path = "wren" := of_decide_eq_true hmember
    rw [if_pos hmember, hmember]
    cases hform : a.form with
    | bare | value => exact .inl ⟨.listless hpath (by simp [hform]), _, rfl⟩
    | list items =>
      dsimp only
      rcases readItems_eq said items with ⟨⟨item, hitem, hfaulty⟩, e, hfails⟩ | ⟨hsound, hheard⟩
      · rw [hfails]
        exact .inl ⟨.item hpath hform hitem hfaulty, e, rfl⟩
      · rw [hheard]
        refine .inr ⟨fun h => ?_, rfl⟩
        cases h with
        | listless _ hnot => exact hnot items hform
        | item _ hform' hitem hfaulty =>
          obtain rfl := AttributeForm.list.inj (hform.symm.trans hform')
          exact hsound _ hitem hfaulty
  · have hpath : a.path ≠ "wren" := fun h => hmember (decide_eq_true h)
    rw [if_neg hmember, Bool.not_eq_true _ |>.mp hmember, MemberAttributes.hearing_nil]
    refine .inr ⟨fun h => ?_, rfl⟩
    cases h with
    | listless h | item h => exact hpath h

/-- Attributes are read, unless one of them is faulty. -/
theorem readAttributes_eq (said : MemberAttributes) (attributes : List Attribute) :
    ((∃ a ∈ attributes, a.Faulty) ∧ ∃ e, readAttributes said attributes = .error e) ∨
      (∀ a ∈ attributes, ¬ a.Faulty) ∧ readAttributes said attributes =
        .ok (said.hearing (attributes.flatMap (·.memberItems))) := by
  induction attributes generalizing said with
  | nil => exact .inr ⟨by simp, by rw [List.flatMap_nil, MemberAttributes.hearing_nil]; rfl⟩
  | cons a attributes ih =>
    rcases readAttributes_cons said a attributes with ⟨hfaulty, hfails⟩ | ⟨hsound, hread⟩
    · exact .inl ⟨⟨a, List.mem_cons_self, hfaulty⟩, hfails⟩
    · rw [hread]
      rcases ih (said.hearing a.memberItems) with
        ⟨⟨other, hother, hfaulty⟩, hfails⟩ | ⟨hrest, hheard⟩
      · exact .inl ⟨⟨other, List.mem_cons_of_mem _ hother, hfaulty⟩, hfails⟩
      · refine .inr ⟨List.forall_mem_cons.mpr ⟨hsound, hrest⟩, ?_⟩
        rw [hheard, List.flatMap_cons, MemberAttributes.hearing_append]

namespace Function

/-- The items of all attributes of a function that are read. -/
def memberItems (f : Function) : List AttributeItem :=
  f.attributes.flatMap (·.memberItems)

/-- A function is to be left out. -/
def Ignored (f : Function) : Prop :=
  ∃ item ∈ f.memberItems, keyName? item.key = some "ignore"

/-- The name scripts have for a function, if its attributes give one. -/
def givenName? (f : Function) : Option String :=
  (f.memberItems.filterMap (·.givenName?)).getLast?

/-- One of the attributes of a function is faulty. -/
def Faulty (f : Function) : Prop :=
  ∃ a ∈ f.attributes, a.Faulty

/-- The attributes of a function are read, unless one of them is faulty. -/
theorem memberAttributes_eq (f : Function) :
    (f.Faulty ∧ ∃ e, f.memberAttributes = .error e) ∨
      ¬ f.Faulty ∧ ∃ said, f.memberAttributes = .ok said ∧
        (said.isIgnored = true ↔ f.Ignored) ∧ said.name = f.givenName? := by
  unfold memberAttributes Faulty
  rcases readAttributes_eq ⟨false, none⟩ f.attributes with hfails | ⟨hsound, hheard⟩
  · exact .inl hfails
  · refine .inr ⟨fun ⟨a, ha, hfaulty⟩ => hsound a ha hfaulty, _, hheard, ?_, ?_⟩
    · simp only [MemberAttributes.hearing, Bool.false_or, List.any_eq_true, decide_eq_true_eq,
        Ignored, memberItems]
    · simp [MemberAttributes.hearing, givenName?, memberItems]

end Function

/-! ### Types -/

namespace TypeExpr

variable {t : TypeExpr} {name : String}

/-- A type is a path that ends with a name. -/
def EndsWith (t : TypeExpr) (name : String) : Prop :=
  ∃ front arguments, t = .path (front ++ [(name, arguments)])

/-- A type arguments are taken at and answers given at. -/
def Supported (t : TypeExpr) : Prop :=
  ∃ name ∈ supportedTypes, t.EndsWith name

/-- A type answers can be given at, or nothing. -/
def Answer (t : TypeExpr) : Prop :=
  t = .tuple [] ∨ t.Supported

/-- A type is a path, wherever it starts, that ends with a result whose first argument is another
type. -/
def ResultOf (t ok : TypeExpr) : Prop :=
  ∃ front rest, t = .path (front ++ [("Result", some ok :: rest)]) ∨
    t = .qualified (front ++ [("Result", some ok :: rest)])

theorem lastName?_eq_some_iff : t.lastName? = some name ↔ t.EndsWith name := by
  unfold EndsWith
  cases t with
  | path segments =>
    rw [lastName?, Option.map_eq_some_iff]
    constructor
    · rintro ⟨⟨_, arguments⟩, hlast, rfl⟩
      obtain ⟨front, hfront⟩ := List.getLast?_eq_some_iff.mp hlast
      exact ⟨front, arguments, by rw [hfront]⟩
    · rintro ⟨front, arguments, heq⟩
      obtain rfl := TypeExpr.path.inj heq
      exact ⟨(name, arguments), List.getLast?_concat, rfl⟩
  | qualified segments | tuple elements | other => exact iff_of_false nofun nofun

theorem isSupported_iff : t.isSupported = true ↔ t.Supported := by
  unfold isSupported Supported
  simp only [← lastName?_eq_some_iff]
  cases t.lastName? <;> simp

theorem isUnit_iff : t.isUnit = true ↔ t = .tuple [] := by
  cases t <;> simp [isUnit]

theorem isAnswer_iff : t.isAnswer = true ↔ t.Answer := by
  rw [isAnswer, Bool.or_eq_true, isUnit_iff, isSupported_iff, Answer]

theorem resultType?_path {segments : List (String × List (Option TypeExpr))} {ok : TypeExpr} :
    (path segments).resultType? = some ok ↔
      ∃ front rest, segments = front ++ [("Result", some ok :: rest)] := by
  constructor
  · intro h
    rw [resultType?] at h
    split at h
    · rename_i t rest hlast
      obtain ⟨front, hfront⟩ := List.getLast?_eq_some_iff.mp hlast
      obtain rfl := Option.some.inj h
      exact ⟨front, rest, hfront⟩
    · cases h
  · rintro ⟨front, rest, rfl⟩
    simp [resultType?]

theorem resultType?_eq_some_iff {ok : TypeExpr} : t.resultType? = some ok ↔ t.ResultOf ok := by
  unfold ResultOf
  cases t with
  | path segments =>
    rw [resultType?_path]
    simp
  | qualified segments =>
    -- The path is looked at in the same way wherever it starts.
    have hpath : (qualified segments).resultType? = (path segments).resultType? := rfl
    rw [hpath, resultType?_path]
    simp
  | tuple elements | other => exact iff_of_false nofun (by simp)

end TypeExpr

/-! ### Functions -/

namespace Function

variable {f : Function}

/-- What a function needs for scripts to call it. -/
structure Callable (f : Function) : Prop where
  notIgnored : ¬ f.Ignored
  isPublic : f.isPublic
  notAsync : ¬ f.isAsync
  safe : ¬ f.isUnsafe
  notGeneric : ¬ f.isGeneric
  notVariadic : ¬ f.isVariadic
  /-- The receiver, if there is one, is taken by reference. -/
  receiver : f.receiver = .none ∨ f.receiver = .byReference
  params : ∀ p ∈ f.params, p.type.Supported

/-- A function answers with the type of its block. -/
def AnswersOwn (f : Function) (typeName : Option String) : Prop :=
  ∃ t name, f.result = some t ∧ t.EndsWith name ∧ (name = "Self" ∨ some name = typeName)

/-- A function answers with something a script can be given, or with nothing, or with either or a
failure. -/
def Answers (f : Function) : Prop :=
  f.result = none ∨
    ∃ t, f.result = some t ∧ (t.Answer ∨ ∃ ok, t.ResultOf ok ∧ ok.Answer)

/-- A function of a block whose type ends with a name, or with none, makes values of the type. -/
def IsConstructor (typeName : Option String) (f : Function) : Prop :=
  f.Callable ∧ f.receiver = .none ∧ f.AnswersOwn typeName

/-- A function of such a block is one scripts can call on values of the type, or on the type. -/
def IsMethod (typeName : Option String) (f : Function) : Prop :=
  f.Callable ∧ ¬ (f.receiver = .none ∧ f.AnswersOwn typeName) ∧ f.Answers

theorem answersSelf_iff {typeName : Option String} :
    f.answersSelf typeName = true ↔ f.AnswersOwn typeName := by
  unfold answersSelf AnswersOwn
  simp only [← TypeExpr.lastName?_eq_some_iff]
  cases f.result with
  | none => simp
  | some t =>
    cases hlast : t.lastName? with
    | none => simp [hlast]
    | some name => simp [hlast]

theorem hasAnswer_iff : f.hasAnswer = true ↔ f.Answers := by
  unfold hasAnswer Answers
  simp only [← TypeExpr.resultType?_eq_some_iff, ← TypeExpr.isAnswer_iff]
  cases f.result with
  | none => simp
  | some t =>
    cases hok : t.resultType? with
    | none => simp [hok]
    | some ok => simp [hok]

/-- What is declared for the parameters of a function: a name and the path of the type for each
of them, in order.  One without a name is called after its place, the receiver counted. -/
def paramMetas (f : Function) : List ExposedParam :=
  f.params.mapIdx fun i p =>
    ⟨p.name.getD s!"arg{(if f.receiver = .none then 0 else 1) + i}", p.type.pathNames⟩

def constructorMeta (f : Function) : ExposedConstructor :=
  ⟨f.name, f.paramMetas⟩

/-- What is declared for a method, which is one of the type if it has no receiver. -/
def methodMeta (f : Function) : ExposedMethod where
  name := f.name
  scriptName := f.givenName?
  isStatic := f.receiver = .none
  calls := f.name
  params := f.paramMetas

/-- Parameters are exposed if the types of all are supported. -/
theorem exposeParams_eq_some_iff {index : Nat} {ps : List FunctionParam}
    {params : List ExposedParam} :
    exposeParams index ps = some params ↔ (∀ p ∈ ps, p.type.Supported) ∧
      params = ps.mapIdx fun i p => ⟨p.name.getD s!"arg{index + i}", p.type.pathNames⟩ := by
  induction ps generalizing index params with
  | nil => simp [exposeParams, eq_comm]
  | cons p ps ih =>
    rw [exposeParams, List.mapIdx_cons, List.forall_mem_cons]
    by_cases hsupported : p.type.isSupported = true
    · rw [if_pos hsupported]
      simp only [Option.bind_eq_bind, Option.bind_eq_some_iff, ih, Option.pure_def,
        Option.some.injEq, TypeExpr.isSupported_iff.mp hsupported, true_and]
      -- The rest is counted from one further on.
      have hplace : ∀ i, index + 1 + i = index + (i + 1) := fun i => by omega
      simp only [hplace, Nat.add_zero]
      constructor
      · rintro ⟨_, ⟨hrest, rfl⟩, rfl⟩
        exact ⟨hrest, rfl⟩
      · rintro ⟨hrest, rfl⟩
        exact ⟨_, ⟨hrest, rfl⟩, rfl⟩
    · rw [if_neg hsupported]
      refine iff_of_false nofun ?_
      rintro ⟨⟨hfirst, -⟩, -⟩
      exact hsupported (TypeExpr.isSupported_iff.mpr hfirst)

theorem exposedParams?_eq_some_iff {params : List ExposedParam} :
    f.exposedParams? = some params ↔
      (∀ p ∈ f.params, p.type.Supported) ∧ params = f.paramMetas := by
  have hstart : (if f.hasReceiver then 1 else 0) = if f.receiver = .none then 0 else 1 := by
    unfold hasReceiver
    cases f.receiver <;> rfl
  rw [exposedParams?, hstart, exposeParams_eq_some_iff]
  rfl

theorem isExposable_iff : f.isExposable = true ↔
    f.isPublic ∧ ¬ f.isAsync ∧ ¬ f.isUnsafe ∧ ¬ f.isGeneric ∧ ¬ f.isVariadic ∧
      (f.receiver = .none ∨ f.receiver = .byReference) := by
  have hreceiver : f.receiver ≠ .otherwise ↔ f.receiver = .none ∨ f.receiver = .byReference := by
    cases f.receiver <;> decide
  simp [isExposable, ← hreceiver, and_assoc]

theorem callable_iff : f.Callable ↔ ¬ f.Ignored ∧ f.isExposable = true ∧
    ∀ p ∈ f.params, p.type.Supported := by
  rw [isExposable_iff]
  constructor
  · intro h
    exact ⟨h.notIgnored, ⟨h.isPublic, h.notAsync, h.safe, h.notGeneric, h.notVariadic, h.receiver⟩,
      h.params⟩
  · rintro ⟨hignored, ⟨hpublic, hasync, hsafe, hgeneric, hvariadic, hreceiver⟩, hparams⟩
    exact ⟨hignored, hpublic, hasync, hsafe, hgeneric, hvariadic, hreceiver, hparams⟩

/-- A callable function is exposed with its parameters. -/
theorem exposedParams?_of_callable {said : MemberAttributes}
    (hignored : said.isIgnored = true ↔ f.Ignored) :
    f.Callable ↔ (said.isIgnored || !f.isExposable) = false ∧
      f.exposedParams? = some f.paramMetas := by
  rw [callable_iff, Bool.or_eq_false_iff, Bool.not_eq_false', ← Bool.not_eq_true, hignored,
    exposedParams?_eq_some_iff, and_assoc, and_iff_left rfl]

/-- What a function is exposed as. -/
theorem member_eq {typeName : Option String} {said : MemberAttributes}
    (hignored : said.isIgnored = true ↔ f.Ignored) (hname : said.name = f.givenName?) :
    f.IsConstructor typeName ∧ f.member typeName said = .constructor f.constructorMeta ∨
      f.IsMethod typeName ∧ f.member typeName said = .method f.methodMeta ∨
      (¬ f.IsConstructor typeName ∧ ¬ f.IsMethod typeName) ∧ f.member typeName said = .hidden := by
  have hreceiver : f.hasReceiver = false ↔ f.receiver = .none := by
    unfold hasReceiver
    cases f.receiver <;> decide
  have hown : (!f.hasReceiver && f.answersSelf typeName) = true ↔
      f.receiver = .none ∧ f.AnswersOwn typeName := by
    rw [Bool.and_eq_true, Bool.not_eq_true', hreceiver, answersSelf_iff]
  by_cases hcallable : f.Callable
  · obtain ⟨hshown, hparams⟩ := (exposedParams?_of_callable hignored).mp hcallable
    rw [member, hshown, hparams, if_neg Bool.false_ne_true]
    dsimp only
    by_cases hmakes : f.receiver = .none ∧ f.AnswersOwn typeName
    · rw [if_pos (hown.mpr hmakes)]
      exact .inl ⟨⟨hcallable, hmakes⟩, rfl⟩
    · rw [if_neg (mt hown.mp hmakes)]
      by_cases hanswers : f.Answers
      · have hstatic : (!f.hasReceiver) = decide (f.receiver = .none) := by
          unfold hasReceiver
          cases f.receiver <;> rfl
        rw [if_pos (hasAnswer_iff.mpr hanswers), hname, hstatic]
        exact .inr (.inl ⟨⟨hcallable, hmakes, hanswers⟩, rfl⟩)
      · rw [if_neg (mt hasAnswer_iff.mp hanswers)]
        exact .inr (.inr ⟨⟨fun h => hmakes h.2, fun h => hanswers h.2.2⟩, rfl⟩)
  · refine .inr (.inr ⟨⟨fun h => hcallable h.1, fun h => hcallable h.1⟩, ?_⟩)
    rw [member]
    by_cases hshown : (said.isIgnored || !f.isExposable) = true
    · rw [if_pos hshown]
    · rw [if_neg hshown]
      cases hparams : f.exposedParams? with
      | none => rfl
      | some params =>
        -- Parameters that are exposed are those declared, so the function were callable.
        obtain ⟨-, rfl⟩ := exposedParams?_eq_some_iff.mp hparams
        rw [Bool.not_eq_true] at hshown
        exact absurd ((exposedParams?_of_callable hignored).mpr ⟨hshown, hparams⟩) hcallable

end Function

/-! ### Specifications that can be computed -/

deriving instance DecidableEq for ExposedParam, ExposedConstructor, ExposedMethod

instance (t : TypeExpr) : Decidable t.Supported :=
  decidable_of_iff _ TypeExpr.isSupported_iff

namespace Function

instance (f : Function) : Decidable f.Ignored :=
  inferInstanceAs (Decidable (∃ item ∈ f.memberItems, keyName? item.key = some "ignore"))

instance (f : Function) : Decidable f.Callable :=
  decidable_of_iff _ callable_iff.symm

instance (f : Function) (typeName : Option String) : Decidable (f.AnswersOwn typeName) :=
  decidable_of_iff _ answersSelf_iff

instance (f : Function) : Decidable f.Answers :=
  decidable_of_iff _ hasAnswer_iff

instance (f : Function) (typeName : Option String) : Decidable (f.IsConstructor typeName) :=
  inferInstanceAs (Decidable (_ ∧ _ ∧ _))

instance (f : Function) (typeName : Option String) : Decidable (f.IsMethod typeName) :=
  inferInstanceAs (Decidable (_ ∧ ¬ _ ∧ _))

end Function

/-! ### Blocks -/

/-- The function an item is, if it is one. -/
def Item.function? : Item → Option Function
  | .function f => some f
  | .other => none

/-- The functions among some items, in order. -/
def Item.functions (items : List Item) : List Function :=
  items.filterMap (·.function?)

/-- The functions of a block, in order. -/
def Block.functions (b : Block) : List Function :=
  Item.functions b.items

namespace Function

/-- The constructor something is exposed as, if it is one. -/
def Member.constructor? : Member → Option ExposedConstructor
  | .constructor c => some c
  | _ => none

/-- The method something is exposed as, if it is one. -/
def Member.method? : Member → Option ExposedMethod
  | .method m => some m
  | _ => none

/-- What is declared for the constructors among some functions, in order. -/
def constructorMetas (typeName : Option String) (functions : List Function) :
    List ExposedConstructor :=
  (functions.filter fun f => f.IsConstructor typeName).map (·.constructorMeta)

/-- What is declared for the methods among some functions, in order. -/
def methodMetas (typeName : Option String) (functions : List Function) : List ExposedMethod :=
  (functions.filter fun f => f.IsMethod typeName).map (·.methodMeta)

/-- What a function adds to the lists of its block. -/
theorem metas_of_member {typeName : Option String} {f : Function} {said : MemberAttributes}
    (hignored : said.isIgnored = true ↔ f.Ignored) (hname : said.name = f.givenName?) :
    [f.member typeName said].filterMap (·.constructor?) = constructorMetas typeName [f] ∧
      [f.member typeName said].filterMap (·.method?) = methodMetas typeName [f] := by
  unfold constructorMetas methodMetas
  rcases member_eq hignored hname with ⟨his, hmember⟩ | ⟨his, hmember⟩ | ⟨⟨hno, hno'⟩, hmember⟩
  · have hnot : ¬ f.IsMethod typeName := fun h => h.2.1 his.2
    simp [hmember, his, hnot, Member.constructor?, Member.method?]
  · have hnot : ¬ f.IsConstructor typeName := fun h => his.2.1 h.2
    simp [hmember, his, hnot, Member.constructor?, Member.method?]
  · simp [hmember, hno, hno', Member.constructor?, Member.method?]

end Function

theorem Function.constructorMetas_append (typeName : Option String) (fs gs : List Function) :
    constructorMetas typeName (fs ++ gs) =
      constructorMetas typeName fs ++ constructorMetas typeName gs := by
  unfold constructorMetas
  rw [List.filter_append, List.map_append]

theorem Function.methodMetas_append (typeName : Option String) (fs gs : List Function) :
    methodMetas typeName (fs ++ gs) = methodMetas typeName fs ++ methodMetas typeName gs := by
  unfold methodMetas
  rw [List.filter_append, List.map_append]

/-- An item is read, unless it is a function that is faulty. -/
theorem Item.member_eq (typeName : Option String) (item : Item) :
    ((∃ f ∈ functions [item], f.Faulty) ∧ ∃ e, item.member typeName = .error e) ∨
      (∀ f ∈ functions [item], ¬ f.Faulty) ∧ ∃ m, item.member typeName = .ok m ∧
        [m].filterMap (·.constructor?) = Function.constructorMetas typeName (functions [item]) ∧
        [m].filterMap (·.method?) = Function.methodMetas typeName (functions [item]) := by
  cases item with
  | other => exact .inr ⟨nofun, .hidden, rfl, rfl, rfl⟩
  | function f =>
    have hfunctions : functions [.function f] = [f] := rfl
    simp only [hfunctions, List.mem_singleton, exists_eq_left, forall_eq, member]
    rcases f.memberAttributes_eq with ⟨hfaulty, e, hfails⟩ | ⟨hsound, said, hsaid, hignored, hname⟩
    · rw [hfails]
      exact .inl ⟨hfaulty, e, rfl⟩
    · rw [hsaid]
      exact .inr ⟨hsound, f.member typeName said, rfl, Function.metas_of_member hignored hname⟩

/-- Items are read, unless a function among them is faulty. -/
theorem Item.mapM_member (typeName : Option String) (items : List Item) :
    ((∃ f ∈ functions items, f.Faulty) ∧ ∃ e, items.mapM (·.member typeName) = .error e) ∨
      (∀ f ∈ functions items, ¬ f.Faulty) ∧ ∃ ms, items.mapM (·.member typeName) = .ok ms ∧
        ms.filterMap (·.constructor?) = Function.constructorMetas typeName (functions items) ∧
        ms.filterMap (·.method?) = Function.methodMetas typeName (functions items) := by
  induction items with
  | nil => exact .inr ⟨nofun, [], rfl, rfl, rfl⟩
  | cons item items ih =>
    have hfunctions : functions (item :: items) = functions [item] ++ functions items :=
      List.filterMap_append (l := [item])
    rw [List.mapM_cons, hfunctions, List.forall_mem_append]
    rcases item.member_eq typeName with ⟨⟨f, hf, hfaulty⟩, e, hfails⟩ | ⟨hsound, m, hm, hmetas⟩
    · rw [hfails]
      exact .inl ⟨⟨f, List.mem_append_left _ hf, hfaulty⟩, e, rfl⟩
    · rw [hm]
      -- This item is read; whether all are is up to the rest.
      rcases ih with ⟨⟨f, hf, hfaulty⟩, e, hfails⟩ | ⟨hrest, ms, hms, hmetas'⟩
      · rw [hfails]
        exact .inl ⟨⟨f, List.mem_append_right _ hf, hfaulty⟩, e, rfl⟩
      · rw [hms, Function.constructorMetas_append, Function.methodMetas_append, ← hmetas.1,
          ← hmetas.2, ← hmetas'.1, ← hmetas'.2, ← List.filterMap_append, ← List.filterMap_append]
        exact .inr ⟨⟨hsound, hrest⟩, m :: ms, rfl, rfl, rfl⟩

/-- An item gives a class name. -/
def AttributeItem.NamesClass (item : AttributeItem) : Prop :=
  keyName? item.key = some "name" ∧ ∃ name, item.value = .text name

/-- A class name is read off arguments that each give one; the last of them counts. -/
theorem classNameGiven_eq {arguments : List AttributeItem}
    (hnames : ∀ item ∈ arguments, item.NamesClass) (given : Option String) :
    classNameGiven given arguments =
      .ok ((arguments.filterMap (·.givenName?)).getLast?.or given) := by
  induction arguments generalizing given with
  | nil => rfl
  | cons item items ih =>
    obtain ⟨⟨hkey, name, hvalue⟩, hrest⟩ := List.forall_mem_cons.mp hnames
    have hgiven : item.givenName? = some name := by
      rw [AttributeItem.givenName?, hkey, hvalue]
      rfl
    have htext : textOf item items = .ok name := by
      rw [textOf, hvalue]
      rfl
    rw [classNameGiven, if_pos hkey, htext, List.filterMap_cons_some hgiven, List.getLast?_cons]
    -- A later name replaces this one, if there is any.
    refine (ih hrest (some name)).trans ?_
    cases (items.filterMap (·.givenName?)).getLast? <;> rfl

/-- A public function with nothing out of the ordinary about it. -/
def Function.plain (name : String) (receiver : Receiver) (params : List FunctionParam)
    (result : Option TypeExpr) (attributes : List Attribute) : Function where
  name := name
  isPublic := true
  isAsync := false
  isUnsafe := false
  isGeneric := false
  isVariadic := false
  receiver := receiver
  params := params
  result := result
  attributes := attributes

namespace Block

/-- The name of the class a block stands for: the one given last, else that of its type. -/
def className? (b : Block) (arguments : List AttributeItem) : Option String :=
  (arguments.filterMap (·.givenName?)).getLast?.or b.type.lastName?

/-- A block is read once its own attribute and its head are in order. -/
theorem expose_eq {b : Block} {arguments : List AttributeItem} {className : String}
    (hnames : ∀ item ∈ arguments, item.NamesClass) (htrait : b.ofTrait = false)
    (hgeneric : b.isGeneric = false) (hclass : b.className? arguments = some className) :
    b.expose arguments = (b.items.mapM (Item.member b.type.lastName?)).map fun members =>
      { className := className
        constructors := members.filterMap (·.constructor?)
        methods := members.filterMap (·.method?)
        functions := b.items.map (·.remaining) } := by
  have hgiven : ((arguments.filterMap (·.givenName?)).getLast?.or none <|> b.type.lastName?) =
      some className := by
    rw [← hclass, className?, Option.or_none]
    cases (arguments.filterMap (·.givenName?)).getLast? <;> rfl
  unfold expose
  rw [classNameGiven_eq hnames none, htrait, hgeneric]
  dsimp only [bind, Except.bind]
  rw [if_neg Bool.false_ne_true, if_neg Bool.false_ne_true, hgiven]
  cases b.items.mapM (Item.member b.type.lastName?) <;> rfl

/-- What a block is exposed as under the name of a class, read off its functions. -/
structure Exposes (b : Block) (arguments : List AttributeItem) (className : String) : Prop where
  /-- Any faulty attribute is a reason to fail, also on a function that is not exposed, and there
  is no other. -/
  fails : (∃ e, b.expose arguments = .error e) ↔ ∃ f ∈ b.functions, f.Faulty
  lists : (∀ f ∈ b.functions, ¬ f.Faulty) → ∃ e, b.expose arguments = .ok e ∧
    e.className = className ∧
    e.constructors = Function.constructorMetas b.type.lastName? b.functions ∧
    e.methods = Function.methodMetas b.type.lastName? b.functions
  /-- No function is listed twice. -/
  apart : ∀ f : Function, ¬ (f.IsConstructor b.type.lastName? ∧ f.IsMethod b.type.lastName?)

/-- The lists of an exposed block hold its callable functions, in order, and a block is exposed
unless an attribute of one of its functions is faulty. -/
theorem lists_expose (b : Block) (arguments : List AttributeItem) (className : String)
    (hnames : ∀ item ∈ arguments, item.NamesClass) (htrait : b.ofTrait = false)
    (hgeneric : b.isGeneric = false) (hclass : b.className? arguments = some className) :
    b.Exposes arguments className := by
  have hexpose := expose_eq hnames htrait hgeneric hclass
  -- A constructor has no receiver and answers its own type, which is what no method does.
  have hapart (f : Function) :
      ¬ (f.IsConstructor b.type.lastName? ∧ f.IsMethod b.type.lastName?) :=
    fun h => h.2.2.1 h.1.2
  rcases Item.mapM_member b.type.lastName? b.items with
    ⟨hfaulty, e, hfails⟩ | ⟨hsound, members, hmembers, hconstructors, hmethods⟩
  · rw [hfails] at hexpose
    obtain ⟨f, hf, hfault⟩ := hfaulty
    exact ⟨iff_of_true ⟨e, hexpose⟩ ⟨f, hf, hfault⟩, fun h => absurd hfault (h f hf), hapart⟩
  · rw [hmembers] at hexpose
    have hnot : ¬ ∃ e, b.expose arguments = .error e := by
      rintro ⟨e, he⟩
      cases hexpose.symm.trans he
    exact ⟨iff_of_false hnot fun ⟨f, hf, hfault⟩ => hsound f hf hfault,
      fun _ => ⟨_, hexpose, rfl, hconstructors, hmethods⟩, hapart⟩

/-- A block for `Widget`. -/
def ofWidget (functions : List Function) : Block where
  type := .path [("Widget", [])]
  ofTrait := false
  isGeneric := false
  items := .other :: functions.map .function

/-- A constructor, a method that may fail and has a name of its own for scripts, and a method left
out. -/
def widget : Block :=
  ofWidget [
    .plain "new" .none [⟨some "size", .path [("i32", [])]⟩] (some (.path [("Self", [])])) [],
    .plain "resize" .byReference [⟨none, .path [("i32", [])]⟩]
      (some (.path [("Result", [some (.tuple []), some (.path [("Error", [])])])]))
      [⟨"wren", .list [⟨"name", .text "scale"⟩]⟩],
    .plain "reset" .byReference [] none [⟨"wren", .list [⟨"ignore", .absent⟩]⟩]]

theorem lists_expose_widget :
    (∀ item ∈ [⟨"name", .text "Box"⟩], AttributeItem.NamesClass item) ∧
      widget.ofTrait = false ∧ widget.isGeneric = false ∧
      widget.className? [⟨"name", .text "Box"⟩] = some "Box" ∧
      widget.Exposes [⟨"name", .text "Box"⟩] "Box" ∧
      Function.constructorMetas (some "Widget") widget.functions =
        [⟨"new", [⟨"size", ["i32"]⟩]⟩] ∧
      Function.methodMetas (some "Widget") widget.functions =
        [⟨"resize", some "scale", false, "resize", [⟨"arg1", ["i32"]⟩]⟩] := by
  have hnames : ∀ item ∈ [⟨"name", .text "Box"⟩], AttributeItem.NamesClass item := by
    simp only [List.mem_singleton, forall_eq]
    exact ⟨by decide +kernel, "Box", rfl⟩
  have hclass : widget.className? [⟨"name", .text "Box"⟩] = some "Box" := by decide +kernel
  exact ⟨hnames, rfl, rfl, hclass, lists_expose widget _ "Box" hnames rfl rfl hclass,
    by decide +kernel, by decide +kernel⟩

/-- A parameter whose type starts at another type keeps a method from being listed, though the path
ends with the name of a supported type.  An attribute with no list of items keeps a block from
being exposed, though there is no item in it that could be wrong. -/
theorem not_listed_qualified :
    (∃ f : Function,
      f = .plain "f" .byReference [⟨some "a", .qualified [("X", []), ("i32", [])]⟩] none [] ∧
        (∀ p ∈ f.params, ∃ front, ∃ name ∈ supportedTypes,
          p.type = .qualified (front ++ [(name, [])])) ∧
        ∃ e, (ofWidget [f]).expose [] = .ok e ∧ e.constructors = [] ∧ e.methods = []) ∧
      ∃ f : Function, f = .plain "f" .byReference [] none [⟨"wren", .bare⟩] ∧
        f.memberItems = [] ∧ ∃ e, (ofWidget [f]).expose [] = .error e := by
  refine ⟨⟨_, rfl, ?_, _, rfl, rfl, rfl⟩, _, rfl, rfl, _, rfl⟩
  rintro p (_ | ⟨_, ⟨⟩⟩)
  exact ⟨[("X", [])], "i32", by decide, rfl⟩

end Block

end ScriptHost.Exposure
