/-
What the guards of a window let through.

A guard is a conversation with the engine: it asks for the number of slots, for the kind of value
in one, for the length of a list, and decides something that can be said without it.  So a method
of the window comes to one of two things: its guards hold, and then it makes the calls it is for,
or they do not, and then the engine has been asked but not called.

* **`Guarded.asks_holds`**, **`Guarded.asks_hasElement`**, **`Guarded.asks_canInsert`** — what the
  guards decide;
* **`SlotMethod.Admitted`**, **`SlotMethod.Goes`**, **`SlotMethod.refusal`** — what a method asks
  for, what it does then, and what it answers otherwise;
* **`SlotMethod.calls_perform`** — one case for each method;
* **`SlotMethod.guardsHold`** — the calls on record are those of the window itself, and every one
  of them is one the engine may receive.
-/
import ScriptHost.Proofs.EngineCalls

namespace ScriptHost

/-! ### Words -/

namespace Guarded

theorem countOfWord_le (w : Int32) : (countOfWord w : Int) ≤ 2147483647 := by
  have hle := w.toInt_lt
  rw [countOfWord]
  omega

/-- An index that fits a word is passed on as it is. -/
theorem toInt_word {n : Nat} (h : (n : Int) ≤ 2147483647) : (word n).toInt = n := by
  have hmin : min (n : Int) Int32.maxValue.toInt = n := by
    rw [Int32.toInt_maxValue]
    omega
  rw [word, hmin]
  exact Int32.toInt_ofInt_of_le (by omega) (by omega)

end Guarded

/-- A text with a NUL in it is refused, and no other. -/
theorem refuseNul_cases (text : String) :
    (refuseNul text = .ok () ∧ 0 ∉ Utf8.encode text) ∨
      ∃ e, refuseNul text = .error e ∧ 0 ∈ Utf8.encode text := by
  rw [refuseNul, Utf8.nulPosition?]
  cases hfound : (Utf8.encode text).findIdx? (· = 0) with
  | none =>
    refine .inl ⟨rfl, fun hnul => ?_⟩
    have hclean := List.findIdx?_eq_none_iff.mp hfound 0 hnul
    exact absurd hclean (by decide)
  | some position =>
    have hnul : 0 ∈ Utf8.encode text := by
      obtain ⟨hlt, hat, -⟩ := List.findIdx?_eq_some_iff_getElem.mp hfound
      exact of_decide_eq_true hat ▸ List.getElem_mem hlt
    exact .inr ⟨.stringConversion position, rfl, hnul⟩

open Guarded

section

variable {C α β : Type} [EngineApi (StateM C)] {c : C} {named : List Nat} {place : Option Int}

theorem Guarded.toInt_word_of_lt {n : Nat} (h : n < slotsOf c) : (word n).toInt = n := by
  have hle : (slotsOf c : Int) ≤ 2147483647 := countOfWord_le _
  exact toInt_word (by omega)

theorem Guarded.inside_word {n : Nat} (h : n < slotsOf c) : Inside c (word n) := by
  rw [Inside, toInt_word_of_lt h]
  omega

/-- A call without a place and without texts. -/
theorem ApiCall.Fits.plain {call : ApiCall}
    (hnamed : ∀ w ∈ call.slots, (∃ n ∈ named, w.toInt = (n : Int)) ∧ Inside c w)
    (hplace : call.position? = none) (htexts : call.texts = []) (hsound : call.Sound c) :
    call.Fits c named place where
  named := hnamed
  place index hindex := by
    rw [hplace] at hindex
    cases hindex
  texts text htext := by
    rw [htexts] at htext
    cases htext
  sound := hsound

/-- Such a call that names one slot of the window. -/
theorem ApiCall.Fits.of_slot {call : ApiCall} {n : Nat} (hmem : n ∈ named) (hin : n < slotsOf c)
    (hslots : call.slots = [word n]) (hplace : call.position? = none) (htexts : call.texts = [])
    (hsound : call.Sound c) : call.Fits c named place := by
  refine .plain (fun slot hslot => ?_) hplace htexts hsound
  rw [hslots] at hslot
  obtain rfl := List.mem_singleton.mp hslot
  exact ⟨⟨n, hmem, toInt_word_of_lt hin⟩, inside_word hin⟩

/-! ### Guards -/

namespace Guarded

/-- There is a slot of that index, and it holds that kind of value. -/
def Holds (c : C) (slot : Nat) (kind : SlotType) : Prop :=
  slot < slotsOf c ∧ kindAt c (word slot) = kind

theorem asks_slotCount : Asks c named place slotCount (· = slotsOf c) := by
  have hask : Asks c named place (EngineApi.slotCount : StateM (Monitored C) Int32)
      fun count => countOfWord count = slotsOf c :=
    Asks.record (fun _ => rfl) (.plain (by rintro _ ⟨⟩) rfl rfl trivial)
      fun _ halike => halike.same.slots
  exact hask.bind fun count hcount => Asks.pure hcount

theorem asks_inWindow (slot : Nat) :
    Asks c named place (inWindow slot) fun answer => (answer = true ↔ slot < slotsOf c) := by
  refine asks_slotCount.bind fun count hcount => Asks.pure ?_
  rw [hcount, decide_eq_true_iff]

/-- A guard, and a question that is put only if there is such a slot. -/
theorem asks_ite_inWindow {slot : Nat} {operation other : StateM (Monitored C) α} {P : α → Prop}
    (hinside : slot < slotsOf c → Asks c named place operation P)
    (houtside : ¬slot < slotsOf c → Asks c named place other P) :
    Asks c named place (do if ← inWindow slot then operation else other) P := by
  refine (asks_inWindow slot).bind fun answer hanswer => ?_
  cases answer with
  | true => exact hinside (hanswer.mp rfl)
  | false => exact houtside fun hlt => Bool.false_ne_true (hanswer.mpr hlt)

theorem asks_slotType {slot : Nat} (hmem : slot ∈ named) :
    Asks c named place (slotType slot) fun kind =>
      (slot < slotsOf c → kind = kindAt c (word slot)) ∧
        (¬slot < slotsOf c → kind = .unknown) := by
  refine asks_ite_inWindow (fun hin => ?_) fun hout => ?_
  · have hask : Asks c named place (EngineApi.slotType (word slot) : StateM (Monitored C) Int32)
        fun code => SlotType.ofCode code.toInt = kindAt c (word slot) :=
      Asks.record (fun _ => rfl) (.of_slot hmem hin rfl rfl rfl trivial)
        fun _ halike => halike.same.kind _
    exact hask.bind fun code hcode => Asks.pure ⟨fun _ => hcode, fun hout => absurd hin hout⟩
  · exact Asks.pure ⟨fun hin => absurd hin hout, fun _ => rfl⟩

theorem asks_holds {slot : Nat} (hmem : slot ∈ named) (kind : SlotType) :
    Asks c named place (holds slot kind) fun answer => (answer = true ↔ Holds c slot kind) := by
  refine asks_ite_inWindow (fun hin => ?_) fun hout => ?_
  · refine (asks_slotType hmem).bind fun actual hactual => Asks.pure ?_
    rw [hactual.1 hin, decide_eq_true_iff]
    exact ⟨fun hkind => ⟨hin, hkind⟩, (·.2)⟩
  · exact Asks.pure ⟨by rintro ⟨⟩, fun h => absurd h.1 hout⟩

/-- A guard that decides `p`, with what is done if `p` and if not. -/
theorem asks_whenever {p : Prop} {permitted : StateM (Monitored C) Bool} {default : α}
    {operation : StateM (Monitored C) α} {P : α → Prop}
    (hguard : Asks c named place permitted fun answer => (answer = true ↔ p))
    (hcall : p → Asks c named place operation P) (hdefault : ¬p → P default) :
    Asks c named place (whenever permitted default operation) P := by
  refine hguard.bind fun answer hanswer => ?_
  cases answer with
  | true => exact hcall (hanswer.mp rfl)
  | false => exact Asks.pure (hdefault fun hp => Bool.false_ne_true (hanswer.mpr hp))

theorem asks_listCount {slot : Nat} (hmem : slot ∈ named) :
    Asks c named place (listCount slot) fun count =>
      (Holds c slot .list → count = lengthAt c (word slot)) ∧
        (¬Holds c slot .list → count = 0) := by
  refine asks_whenever (asks_holds hmem .list) (fun hholds => ?_) fun hnot => ?_
  · have hask : Asks c named place (EngineApi.listCount (word slot) : StateM (Monitored C) Int32)
        fun count => countOfWord count = lengthAt c (word slot) :=
      Asks.record (fun _ => rfl) (.of_slot hmem hholds.1 rfl rfl rfl hholds.2)
        fun _ halike => halike.same.length _
    exact hask.bind fun count hcount =>
      Asks.pure ⟨fun _ => hcount, fun hnot => absurd hholds hnot⟩
  · exact ⟨fun hholds => absurd hholds hnot, fun _ => rfl⟩

/-- There is a list with an element of that index, and a slot for it. -/
def HasElement (c : C) (listSlot index elementSlot : Nat) : Prop :=
  Holds c listSlot .list ∧ elementSlot < slotsOf c ∧ index < lengthAt c (word listSlot)

theorem asks_hasElement {listSlot : Nat} (hmem : listSlot ∈ named) (index elementSlot : Nat) :
    Asks c named place (hasElement listSlot index elementSlot)
      fun answer => (answer = true ↔ HasElement c listSlot index elementSlot) := by
  refine asks_ite_inWindow (fun hin => ?_) fun hout => ?_
  · refine (asks_listCount hmem).bind fun count hcount => Asks.pure ?_
    rw [decide_eq_true_iff]
    by_cases hholds : Holds c listSlot .list
    · rw [hcount.1 hholds]
      exact ⟨fun hlt => ⟨hholds, hin, hlt⟩, (·.2.2)⟩
    · rw [hcount.2 hholds]
      exact ⟨fun hlt => absurd hlt (Nat.not_lt_zero _), fun h => absurd h.1 hholds⟩
  · exact Asks.pure ⟨by rintro ⟨⟩, fun h => absurd h.2.1 hout⟩

/-- There is a list with a place for another element at that index, and a slot with the
element. -/
def CanInsert (c : C) (listSlot : Nat) (index : Int) (elementSlot : Nat) : Prop :=
  Holds c listSlot .list ∧ elementSlot < slotsOf c ∧
    -((lengthAt c (word listSlot) : Int) + 1) ≤ index ∧ index ≤ lengthAt c (word listSlot)

/-- A place in a list fits a word. -/
theorem CanInsert.fits {listSlot elementSlot : Nat} {index : Int}
    (h : CanInsert c listSlot index elementSlot) :
    Int32.minValue.toInt ≤ index ∧ index ≤ Int32.maxValue.toInt := by
  have hlength : (lengthAt c (word listSlot) : Int) ≤ 2147483647 := countOfWord_le _
  obtain ⟨-, -, hlow, hhigh⟩ := h
  rw [Int32.toInt_minValue, Int32.toInt_maxValue]
  omega

theorem asks_canInsert {listSlot : Nat} (hmem : listSlot ∈ named) (index : Int)
    (elementSlot : Nat) :
    Asks c named place (canInsert listSlot index elementSlot)
      fun answer => (answer = true ↔ CanInsert c listSlot index elementSlot) := by
  refine asks_ite_inWindow (fun hin => ?_) fun hout => ?_
  · refine (asks_holds hmem .list).bind fun answer hanswer => ?_
    cases answer with
    | true =>
      have hholds := hanswer.mp rfl
      -- The length is asked for once it is known that there is a list.
      refine (asks_listCount hmem).bind fun count hcount => Asks.pure ?_
      rw [decide_eq_true_iff, hcount.1 hholds]
      constructor
      · rintro ⟨-, -, hlow, hhigh⟩
        exact ⟨hholds, hin, hlow, hhigh⟩
      · intro h
        exact ⟨h.fits.1, h.fits.2, h.2.2⟩
    | false =>
      refine Asks.pure ⟨by rintro ⟨⟩, fun h => ?_⟩
      exact absurd (hanswer.mpr h.1) Bool.false_ne_true
  · exact Asks.pure ⟨by rintro ⟨⟩, fun h => absurd h.2.1 hout⟩

theorem asks_bothInWindow (slot other : Nat) :
    Asks c named place (bothInWindow slot other)
      fun answer => (answer = true ↔ slot < slotsOf c ∧ other < slotsOf c) := by
  refine asks_ite_inWindow (fun hin => ?_) fun hout => ?_
  · refine (asks_inWindow other).mono fun answer hanswer => hanswer.trans ?_
    exact ⟨fun hlt => ⟨hin, hlt⟩, (·.2)⟩
  · exact Asks.pure ⟨by rintro ⟨⟩, fun h => absurd h.1 hout⟩

/-- Texts that are passed to an engine have no NUL in them. -/
theorem asks_isDefined {module name : String} (hmodule : 0 ∉ Utf8.encode module)
    (hname : 0 ∉ Utf8.encode name) :
    Asks c named place (isDefined module name) fun _ => True := by
  have hasModule : Asks c named place
      (EngineApi.hasModule module : StateM (Monitored C) Bool) fun _ => True := by
    refine Asks.record (fun _ => rfl)
      ⟨by rintro _ ⟨⟩, by rintro _ ⟨⟩, fun text htext => ?_, trivial⟩ fun _ _ => trivial
    obtain rfl := List.mem_singleton.mp htext
    exact hmodule
  have hasVariable : Asks c named place
      (EngineApi.hasVariable module name : StateM (Monitored C) Bool) fun _ => True := by
    refine Asks.record (fun _ => rfl)
      ⟨by rintro _ ⟨⟩, by rintro _ ⟨⟩, fun text htext => ?_, trivial⟩ fun _ _ => trivial
    rcases List.mem_cons.mp htext with rfl | hlast
    · exact hmodule
    · obtain rfl := List.mem_singleton.mp hlast
      exact hname
  refine hasModule.bind fun known _ => ?_
  -- An engine is not asked for a variable of a module it does not have.
  cases known with
  | true => exact hasVariable
  | false => exact Asks.pure trivial

/-- What a guard lets through, and what happens if it does not. -/
theorem calls_whenever {p : Prop} {permitted : StateM (Monitored C) Bool} {default : α}
    {operation : StateM (Monitored C) α} {post : α → List ApiCall → Prop}
    (hguard : Asks c named place permitted fun answer => (answer = true ↔ p))
    (hcall : p → Calls c named place operation post) :
    Calls c named place (whenever permitted default operation) fun a made =>
      (p → post a made) ∧ (¬p → a = default ∧ made = []) := by
  refine hguard.andCall fun answer hanswer => ?_
  cases answer with
  | true =>
    have hp := hanswer.mp rfl
    exact (hcall hp).mono fun a made hpost => ⟨fun _ => hpost, fun hnot => absurd hp hnot⟩
  | false =>
    have hnot : ¬p := fun hp => Bool.false_ne_true (hanswer.mpr hp)
    refine (Asks.calls (P := (· = default)) (Asks.pure rfl)).mono ?_
    exact fun a made h => ⟨fun hp => absurd hp hnot, fun _ => h⟩

end Guarded

end

/-! ### The methods of a window -/

/-- A method of a window with what it is given, less the one that grows the window. -/
inductive SlotMethod : Type → Type
  | count : SlotMethod Nat
  | type (slot : Nat) : SlotMethod SlotType
  | bool (slot : Nat) : SlotMethod Bool
  | number (slot : Nat) : SlotMethod Number
  | bytes (slot : Nat) : SlotMethod Bytes
  | text (slot : Nat) : SlotMethod String
  | pin (slot : Nat) : SlotMethod (Option RawHandle)
  | token (slot : Nat) : SlotMethod (Option Token)
  | setBool (slot : Nat) (value : Bool) : SlotMethod Unit
  | setNumber (slot : Nat) (value : Number) : SlotMethod Unit
  | setBytes (slot : Nat) (value : Bytes) : SlotMethod Unit
  | setText (slot : Nat) (content : String) : SlotMethod Unit
  | setPinned (slot : Nat) (handle : RawHandle) : SlotMethod Unit
  | setNull (slot : Nat) : SlotMethod Unit
  | setNewList (slot : Nat) : SlotMethod Unit
  | setNewForeign (slot classSlot : Nat) (key : Token) : SlotMethod Unit
  | listCount (slot : Nat) : SlotMethod Nat
  | getElement (listSlot index elementSlot : Nat) : SlotMethod Unit
  | insertElement (listSlot : Nat) (index : Int) (elementSlot : Nat) : SlotMethod Unit
  | getVariable (module name : String) (slot : Nat) : SlotMethod (Except HostError Unit)
  | abort (slot : Nat) : SlotMethod Unit

namespace SlotMethod

/-- What the guarded window makes of a method. -/
def perform {m : Type → Type} [Monad m] [EngineApi m] {α : Type} : SlotMethod α → m α
  | .count => Guarded.slotCount
  | .type slot => Guarded.slotType slot
  | .bool slot => Guarded.slotBool slot
  | .number slot => Guarded.slotNumber slot
  | .bytes slot => Guarded.slotBytes slot
  | .text slot => do return Utf8.decode (← Guarded.slotBytes slot)
  | .pin slot => Guarded.slotHandle slot
  | .token slot => Guarded.slotToken slot
  | .setBool slot value => Guarded.setBool slot value
  | .setNumber slot value => Guarded.setNumber slot value
  | .setBytes slot value => Guarded.setBytes slot value
  | .setText slot content => Guarded.setBytes slot (Utf8.encode content)
  | .setPinned slot handle => Guarded.setHandle slot handle
  | .setNull slot => Guarded.setNull slot
  | .setNewList slot => Guarded.setNewList slot
  | .setNewForeign slot classSlot key => Guarded.setNewForeign slot classSlot key
  | .listCount slot => Guarded.listCount slot
  | .getElement listSlot index elementSlot => Guarded.getElement listSlot index elementSlot
  | .insertElement listSlot index elementSlot => Guarded.insertElement listSlot index elementSlot
  | .getVariable module name slot => Guarded.getVariable module name slot
  | .abort slot => Guarded.abort slot

/-- The slots it is given. -/
def named {α : Type} : SlotMethod α → List Nat
  | .count => []
  | .type slot | .bool slot | .number slot | .bytes slot | .text slot | .pin slot | .token slot
  | .setBool slot _ | .setNumber slot _ | .setBytes slot _ | .setText slot _ | .setPinned slot _
  | .setNull slot | .setNewList slot | .listCount slot | .getVariable _ _ slot | .abort slot =>
    [slot]
  | .setNewForeign slot classSlot _ => [slot, classSlot]
  | .getElement listSlot _ elementSlot | .insertElement listSlot _ elementSlot =>
    [listSlot, elementSlot]

/-- The place in a list it is given. -/
def place {α : Type} : SlotMethod α → Option Int
  | .getElement _ index _ => some index
  | .insertElement _ index _ => some index
  | _ => none

section

variable {C α : Type} [EngineApi (StateM C)]

/-- What its guards ask for. -/
def Admitted (c : C) : SlotMethod α → Prop
  | .count => True
  | .type slot | .pin slot | .setBool slot _ | .setNumber slot _ | .setBytes slot _
  | .setText slot _ | .setPinned slot _ | .setNull slot | .setNewList slot | .abort slot =>
    slot < slotsOf c
  | .bool slot => Holds c slot .bool
  | .number slot => Holds c slot .num
  | .bytes slot | .text slot => Holds c slot .string
  | .token slot => Holds c slot .foreign
  | .setNewForeign slot classSlot _ => slot < slotsOf c ∧ classSlot < slotsOf c
  | .listCount slot => Holds c slot .list
  | .getElement listSlot index elementSlot => HasElement c listSlot index elementSlot
  | .insertElement listSlot index elementSlot => CanInsert c listSlot index elementSlot
  | .getVariable module name slot =>
    (0 ∉ Utf8.encode module ∧ 0 ∉ Utf8.encode name) ∧ slot < slotsOf c

/-- What comes of it if its guards let it through: what it answers, or the calls it makes. -/
def Goes (c : C) : {α : Type} → SlotMethod α → α → List ApiCall → Prop
  | _, .count, answer, made => answer = slotsOf c ∧ made = []
  | _, .type slot, answer, made => answer = kindAt c (word slot) ∧ made = []
  | _, .bool slot, _, made => made = [.slotBool (word slot)]
  | _, .number slot, _, made => made = [.slotNumber (word slot)]
  | _, .bytes slot, _, made => made = [.slotBytes (word slot)]
  | _, .text slot, _, made => made = [.slotBytes (word slot)]
  | _, .pin slot, _, made => made = [.slotHandle (word slot)]
  | _, .token slot, _, made => made = [.slotMemory (word slot)]
  | _, .setBool slot value, _, made => made = [.setBool (word slot) value]
  | _, .setNumber slot value, _, made => made = [.setNumber (word slot) value]
  | _, .setBytes slot value, _, made => made = [.setBytes (word slot) value]
  | _, .setText slot content, _, made => made = [.setBytes (word slot) (Utf8.encode content)]
  | _, .setPinned slot handle, _, made => made = [.setHandle (word slot) handle]
  | _, .setNull slot, _, made => made = [.setNull (word slot)]
  | _, .setNewList slot, _, made => made = [.setNewList (word slot)]
  | _, .setNewForeign slot classSlot _, _, made =>
    ∃ stored, made = .setNewForeign (word slot) (word classSlot) ForeignCell.size :: stored ∧
      (stored = [] ∨ ∃ address memory, stored = [.store address memory])
  | _, .listCount slot, answer, made => answer = lengthAt c (word slot) ∧ made = []
  | _, .getElement listSlot index elementSlot, _, made =>
    made = [.getElement (word listSlot) (word index) (word elementSlot)]
  | _, .insertElement listSlot index elementSlot, _, made =>
    made = [.insertElement (word listSlot) (Int32.ofInt index) (word elementSlot)]
  | _, .getVariable module name slot, answer, made =>
    answer = .ok () ∧
      (made = [.getVariable module name (word slot)] ∨ made = [.setNull (word slot)])
  | _, .abort slot, _, made => made = [.abort (word slot)]

/-- What it answers if its guards refuse. -/
def refusal (c : C) : {α : Type} → SlotMethod α → α
  | _, .count => 0
  | _, .type _ => .unknown
  | _, .bool _ => false
  | _, .number _ => .zero
  | _, .bytes _ => []
  | _, .text _ => ""
  | _, .pin _ => none
  | _, .token _ => none
  | _, .setBool .. | _, .setNumber .. | _, .setBytes .. | _, .setText .. | _, .setPinned ..
  | _, .setNull _ | _, .setNewList _ | _, .setNewForeign .. | _, .getElement ..
  | _, .insertElement .. | _, .abort _ => ()
  | _, .listCount _ => 0
  | _, .getVariable module name slot => do
    refuseNul module
    refuseNul name
    throw (.slotOutOfRange slot (slotsOf c))

/-- What comes of a method whose guards decide `p`. -/
def Comes (c : C) (method : SlotMethod α) (answer : α) (made : List ApiCall) : Prop :=
  (method.Admitted c → method.Goes c answer made) ∧
    (¬method.Admitted c → answer = method.refusal c ∧ made = [])

variable {c : C}

/-- A guarded operation that makes one call on one slot. -/
theorem calls_slot {slot : Nat} {p : Prop} {named : List Nat} {place : Option Int}
    {permitted : StateM (Monitored C) Bool} {call : ApiCall} {default : α}
    {operation : StateM (Monitored C) α} (hmem : slot ∈ named)
    (hguard : Asks c named place permitted fun answer => (answer = true ↔ p))
    (hcall : call.Fits c named place → Calls c named place operation fun _ made => made = [call])
    (hin : p → slot < slotsOf c) (hslots : call.slots = [word slot])
    (hplace : call.position? = none) (htexts : call.texts = []) (hsound : p → call.Sound c) :
    Calls c named place (whenever permitted default operation)
      fun a made => (p → made = [call]) ∧ (¬p → a = default ∧ made = []) :=
  calls_whenever hguard fun hp => hcall (.of_slot hmem (hin hp) hslots hplace htexts (hsound hp))

theorem calls_setter {slot : Nat} {call : ApiCall} {operation : StateM C Unit}
    (hslots : call.slots = [word slot]) (hplace : call.position? = none)
    (htexts : call.texts = []) (hsound : call.Sound c) :
    Calls c [slot] none (whenever (inWindow slot) () (Monitored.record call operation))
      fun a made => (slot < slotsOf c → made = [call]) ∧
        (¬slot < slotsOf c → a = () ∧ made = []) :=
  calls_slot (List.mem_singleton_self slot) (asks_inWindow slot) Calls.record id hslots hplace
    htexts fun _ => hsound

/-- Two slots of the window are passed on as they are. -/
theorem named_pair {slot other : Nat} (hslot : slot < slotsOf c) (hother : other < slotsOf c) :
    ∀ w ∈ [word slot, word other], (∃ n ∈ [slot, other], w.toInt = (n : Int)) ∧ Inside c w := by
  intro w hw
  rcases List.mem_cons.mp hw with rfl | hlast
  · exact ⟨⟨slot, List.mem_cons_self, toInt_word_of_lt hslot⟩, inside_word hslot⟩
  · obtain rfl := List.mem_singleton.mp hlast
    have hmem : other ∈ [slot, other] := List.mem_cons_of_mem _ (List.mem_singleton_self other)
    exact ⟨⟨other, hmem, toInt_word_of_lt hother⟩, inside_word hother⟩

/-- An instance is made, and its memory is written if it has some. -/
theorem calls_makeAndStore {slot classSlot : Int32} {size : Nat} {memory : Memory}
    {next : Option Address → StateM (Monitored C) Unit} {named : List Nat} {place : Option Int}
    (hfits : (ApiCall.setNewForeign slot classSlot size).Fits c named place)
    (hsome : ∀ address, next (some address) = EngineApi.store address memory)
    (hnone : next none = pure ()) :
    Calls c named place (EngineApi.setNewForeign slot classSlot size >>= next) fun _ made =>
      ∃ stored, made = .setNewForeign slot classSlot size :: stored ∧
        (stored = [] ∨ ∃ address memory, stored = [.store address memory]) := by
  intro r _
  let made := answerOf (EngineApi.setNewForeign slot classSlot size) r.engine
  let r' : Monitored C :=
    ⟨stateAfter (EngineApi.setNewForeign slot classSlot size) r.engine,
      r.calls ++ [.setNewForeign slot classSlot size]⟩
  have hrun : (EngineApi.setNewForeign slot classSlot size >>= next).run r =
      (next made).run r' := rfl
  rw [hrun]
  cases made with
  | none =>
    rw [hnone]
    refine ⟨[], _, rfl, by rintro _ ⟨⟩, fun call hcall => ?_, [], rfl, .inl rfl⟩
    obtain rfl := List.mem_singleton.mp hcall
    exact hfits
  | some address =>
    rw [hsome]
    -- The memory is the instance's own, so writing it names no slot.
    let store := ApiCall.store address memory
    have hcalls : r'.calls ++ [store] =
        r.calls ++ ([] ++ [.setNewForeign slot classSlot size, store]) :=
      List.append_assoc ..
    refine ⟨[], _, hcalls, by rintro _ ⟨⟩, fun call hcall => ?_, [store], rfl,
      .inr ⟨address, memory, rfl⟩⟩
    rcases List.mem_cons.mp hcall with rfl | hlast
    · exact hfits
    · obtain rfl := List.mem_singleton.mp hlast
      exact .plain (by rintro _ ⟨⟩) rfl rfl trivial

theorem calls_setNewForeign (slot classSlot : Nat) (key : Token) :
    Calls c [slot, classSlot] none (Guarded.setNewForeign slot classSlot key)
      ((SlotMethod.setNewForeign slot classSlot key).Comes c) := by
  refine calls_whenever (asks_bothInWindow slot classSlot) fun hin => ?_
  have hfits : (ApiCall.setNewForeign (word slot) (word classSlot) ForeignCell.size).Fits c
      [slot, classSlot] none :=
    .plain (named_pair hin.1 hin.2) rfl rfl trivial
  have hask : Asks c [slot, classSlot] none
      (EngineApi.userData : StateM (Monitored C) UInt64) fun _ => True :=
    Asks.record (fun _ => rfl) (.plain (by rintro _ ⟨⟩) rfl rfl trivial)
      fun _ _ => trivial
  exact hask.andCall fun userData _ => calls_makeAndStore hfits (fun _ => rfl) rfl

/-- A variable is loaded if it is defined.  If not it reads as null, through a setter with a
guard of its own. -/
theorem calls_load {module name : String} {slot : Nat} (hmodule : 0 ∉ Utf8.encode module)
    (hname : 0 ∉ Utf8.encode name) (hin : slot < slotsOf c) :
    Calls c [slot] none (do
        if ← isDefined module name then EngineApi.getVariable module name (word slot)
        else Guarded.setNull slot
        return .ok () : StateM (Monitored C) (Except HostError Unit)) fun answer made =>
      answer = .ok () ∧
        (made = [.getVariable module name (word slot)] ∨ made = [.setNull (word slot)]) := by
  have hread : Calls c [slot] none
      (EngineApi.getVariable module name (word slot) : StateM (Monitored C) Unit)
      fun _ made => made = [.getVariable module name (word slot)] := by
    refine Calls.record ⟨fun w hw => ?_, by rintro _ ⟨⟩, fun text htext => ?_, trivial⟩
    · obtain rfl := List.mem_singleton.mp hw
      exact ⟨⟨slot, List.mem_singleton_self slot, toInt_word_of_lt hin⟩, inside_word hin⟩
    · rcases List.mem_cons.mp htext with rfl | hlast
      · exact hmodule
      · obtain rfl := List.mem_singleton.mp hlast
        exact hname
  -- The setter asks again whether the slot is there, which it is.
  have hnull : Calls c [slot] none (Guarded.setNull slot : StateM (Monitored C) Unit)
      fun answer made => (slot < slotsOf c → made = [.setNull (word slot)]) ∧
        (¬slot < slotsOf c → answer = () ∧ made = []) :=
    calls_setter rfl rfl rfl trivial
  refine (asks_isDefined hmodule hname).andCall fun known _ => ?_
  cases known with
  | true => exact Calls.andThen (hread.mono fun _ made hmade => ⟨rfl, .inl hmade⟩)
  | false => exact Calls.andThen (hnull.mono fun _ made hmade => ⟨rfl, .inr (hmade.1 hin)⟩)

theorem calls_getVariable (module name : String) (slot : Nat) :
    Calls c [slot] none (Guarded.getVariable module name slot)
      ((SlotMethod.getVariable module name slot).Comes c) := by
  let method := SlotMethod.getVariable module name slot
  have hrefused : ∀ {e}, method.refusal c = .error e → ¬method.Admitted c →
      Calls c [slot] none (pure (.error e)) (method.Comes c) := by
    intro e he hnot
    refine (Asks.calls (P := (· = .error e)) (Asks.pure rfl)).mono ?_
    rintro a made ⟨rfl, rfl⟩
    exact ⟨fun hadmitted => absurd hadmitted hnot, fun _ => ⟨he.symm, rfl⟩⟩
  unfold Guarded.getVariable
  -- The texts come first, so one with a NUL is refused whatever the slot is.
  rcases refuseNul_cases module with ⟨hmodule, hclean⟩ | ⟨e, hmodule, hnul⟩
  · rcases refuseNul_cases name with ⟨hname, hclean'⟩ | ⟨e, hname, hnul⟩
    · rw [hmodule, hname]
      refine (asks_inWindow slot).andCall fun answer hanswer => ?_
      cases answer with
      | false =>
        have hout : ¬slot < slotsOf c := fun hlt => Bool.false_ne_true (hanswer.mpr hlt)
        refine asks_slotCount.andCall fun count hcount => ?_
        rw [hcount]
        refine hrefused ?_ fun hadmitted => hout hadmitted.2
        rw [refusal, hmodule, hname]
        rfl
      | true =>
        have hin : slot < slotsOf c := hanswer.mp rfl
        refine (calls_load hclean hclean' hin).mono fun answer made hloaded => ?_
        exact ⟨fun _ => hloaded, fun hnot => absurd ⟨⟨hclean, hclean'⟩, hin⟩ hnot⟩
    · rw [hmodule, hname]
      refine hrefused ?_ fun hadmitted => hadmitted.1.2 hnul
      rw [refusal, hmodule, hname]
      rfl
  · rw [hmodule]
    refine hrefused ?_ fun hadmitted => hadmitted.1.1 hnul
    rw [refusal, hmodule]
    rfl

theorem calls_slotBytes (c : C) (slot : Nat) :
    Calls c [slot] none (Guarded.slotBytes slot) fun a made =>
      (Holds c slot .string → made = [.slotBytes (word slot)]) ∧
        (¬Holds c slot .string → a = [] ∧ made = []) :=
  calls_slot (List.mem_singleton_self slot) (asks_holds (List.mem_singleton_self slot) .string)
    (fun hfits => (Calls.record hfits).andThen) (·.1) rfl rfl rfl (·.2)

theorem calls_getElement (c : C) (listSlot index elementSlot : Nat) :
    Calls c [listSlot, elementSlot] (some (index : Int))
      (Guarded.getElement listSlot index elementSlot)
      ((SlotMethod.getElement listSlot index elementSlot).Comes c) := by
  refine calls_whenever (asks_hasElement List.mem_cons_self index elementSlot) fun h => ?_
  -- The length of a list fits a word, and so does an index below it.
  have hindex : (word index).toInt = index := by
    have hlength : (lengthAt c (word listSlot) : Int) ≤ 2147483647 := countOfWord_le _
    have hlt := h.2.2
    exact toInt_word (by omega)
  refine Calls.record ⟨named_pair h.1.1 h.2.1, fun i hi => ?_, by rintro _ ⟨⟩, h.1.2, ?_, ?_⟩
  · obtain rfl := Option.some.inj hi
    exact congrArg some hindex.symm
  · rw [hindex]
    omega
  · rw [hindex]
    exact Int.ofNat_lt.mpr h.2.2

theorem calls_insertElement (c : C) (listSlot : Nat) (index : Int) (elementSlot : Nat) :
    Calls c [listSlot, elementSlot] (some index)
      (Guarded.insertElement listSlot index elementSlot)
      ((SlotMethod.insertElement listSlot index elementSlot).Comes c) := by
  refine calls_whenever (asks_canInsert List.mem_cons_self index elementSlot) fun h => ?_
  -- The guard asks the index to fit a word, negative ones included.
  have hindex : (Int32.ofInt index).toInt = index := by
    obtain ⟨hlow, hhigh⟩ := h.fits
    exact Int32.toInt_ofInt_of_le hlow (Int.lt_of_le_of_lt hhigh (by decide))
  refine Calls.record ⟨named_pair h.1.1 h.2.1, fun i hi => ?_, by rintro _ ⟨⟩, h.1.2, ?_, ?_⟩
  · obtain rfl := Option.some.inj hi
    exact congrArg some hindex.symm
  · rw [hindex]
    exact h.2.2.1
  · rw [hindex]
    exact h.2.2.2

/-- What comes of each method. -/
theorem calls_perform (c : C) (method : SlotMethod α) :
    Calls c method.named method.place method.perform (method.Comes c) := by
  cases method with
  | count =>
    refine asks_slotCount.calls.mono fun a made h => ⟨fun _ => h, fun hnot => ?_⟩
    exact absurd trivial hnot
  | type slot =>
    refine (asks_slotType (List.mem_singleton_self slot)).calls.mono fun a made h => ?_
    exact ⟨fun hin => ⟨h.1.1 hin, h.2⟩, fun hout => ⟨h.1.2 hout, h.2⟩⟩
  | bool slot =>
    have hmem := List.mem_singleton_self slot
    exact calls_slot hmem (asks_holds hmem .bool) Calls.record (·.1) rfl rfl rfl (·.2)
  | number slot =>
    have hmem := List.mem_singleton_self slot
    exact calls_slot hmem (asks_holds hmem .num) Calls.record (·.1) rfl rfl rfl (·.2)
  | bytes slot => exact calls_slotBytes c slot
  | text slot =>
    -- The bytes are read and decoded; where nothing is read, no bytes decode to the empty text.
    refine Calls.andThen ((calls_slotBytes c slot).mono fun a made h => ⟨h.1, fun hnot => ?_⟩)
    obtain ⟨rfl, hmade⟩ := h.2 hnot
    exact ⟨rfl, hmade⟩
  | pin slot =>
    exact calls_slot (List.mem_singleton_self slot) (asks_inWindow slot) Calls.record id rfl rfl
      rfl fun _ => trivial
  | token slot =>
    have hmem := List.mem_singleton_self slot
    exact calls_slot hmem (asks_holds hmem .foreign) (fun hfits => (Calls.record hfits).andThen)
      (·.1) rfl rfl rfl (·.2)
  | setBool | setNumber | setBytes | setText | setPinned | setNull | setNewList | abort =>
    exact calls_setter rfl rfl rfl trivial
  | setNewForeign slot classSlot key => exact calls_setNewForeign slot classSlot key
  | listCount slot =>
    refine (asks_listCount (List.mem_singleton_self slot)).calls.mono fun a made h => ?_
    exact ⟨fun hholds => ⟨h.1.1 hholds, h.2⟩, fun hnot => ⟨h.1.2 hnot, h.2⟩⟩
  | getElement listSlot index elementSlot => exact calls_getElement c listSlot index elementSlot
  | insertElement listSlot index elementSlot =>
    exact calls_insertElement c listSlot index elementSlot
  | getVariable module name slot => exact calls_getVariable module name slot

end

end SlotMethod

/-! ### The record makes no difference to the window -/

namespace Monitored

variable {C α : Type}

theorem Erases.whenever {permitted : StateM (Monitored C) Bool} {plain : StateM C Bool}
    {default : α} {call : StateM (Monitored C) α} {plainCall : StateM C α}
    (h : Erases permitted plain) (hcall : Erases call plainCall) :
    Erases (whenever permitted default call) (whenever plain default plainCall) :=
  .bind h fun _ => .ite hcall (.pure _)

variable [EngineApi (StateM C)]

theorem erases_slotCount : Erases (C := C) Guarded.slotCount Guarded.slotCount :=
  .bind (.record _ _) fun _ => .pure _

theorem erases_inWindow (slot : Nat) : Erases (C := C) (inWindow slot) (inWindow slot) :=
  .bind erases_slotCount fun _ => .pure _

theorem erases_slotType (slot : Nat) :
    Erases (C := C) (Guarded.slotType slot) (Guarded.slotType slot) :=
  .bind (erases_inWindow slot) fun _ => .ite (.bind (.record _ _) fun _ => .pure _) (.pure _)

theorem erases_holds (slot : Nat) (kind : SlotType) :
    Erases (C := C) (holds slot kind) (holds slot kind) :=
  .bind (erases_inWindow slot) fun _ =>
    .ite (.bind (erases_slotType slot) fun _ => .pure _) (.pure _)

theorem erases_listCount (slot : Nat) :
    Erases (C := C) (Guarded.listCount slot) (Guarded.listCount slot) :=
  .whenever (erases_holds slot .list) (.bind (.record _ _) fun _ => .pure _)

theorem erases_slotBytes (slot : Nat) :
    Erases (C := C) (Guarded.slotBytes slot) (Guarded.slotBytes slot) :=
  .whenever (erases_holds slot .string) (.bind (.record _ _) fun _ => .pure _)

theorem erases_setter (slot : Nat) (call : ApiCall) (plain : StateM C Unit) :
    Erases (whenever (inWindow slot) () (record call plain)) (whenever (inWindow slot) () plain) :=
  .whenever (erases_inWindow slot) (.record _ _)

theorem erases_setNewForeign (slot classSlot : Nat) (key : Token) :
    Erases (C := C) (Guarded.setNewForeign slot classSlot key)
      (Guarded.setNewForeign slot classSlot key) := by
  have hboth : Erases (C := C) (bothInWindow slot classSlot) (bothInWindow slot classSlot) :=
    .bind (erases_inWindow slot) fun _ => .ite (erases_inWindow classSlot) (.pure _)
  refine .whenever hboth (.bind (.record _ _) fun userData => .bind (.record _ _) fun made => ?_)
  cases made with
  | none => exact .pure _
  | some address => exact .record _ _

theorem erases_getVariable (module name : String) (slot : Nat) :
    Erases (C := C) (Guarded.getVariable module name slot)
      (Guarded.getVariable module name slot) := by
  have hdefined : Erases (C := C) (isDefined module name) (isDefined module name) :=
    .bind (.record _ _) fun _ => .ite (.record _ _) (.pure _)
  unfold Guarded.getVariable
  cases refuseNul module with
  | error e => exact .pure _
  | ok _ =>
    cases refuseNul name with
    | error e => exact .pure _
    | ok _ =>
      refine .bind (erases_inWindow slot) fun _ => .ite (.bind hdefined fun _ => ?_) ?_
      · exact .ite (.bind (.record _ _) fun _ => .pure _)
          (.bind (erases_setter slot _ _) fun _ => .pure _)
      · exact .bind erases_slotCount fun _ => .pure _

/-- A method does on the monitored engine what it does on the engine. -/
theorem erases_perform (method : SlotMethod α) :
    Erases (C := C) method.perform method.perform := by
  cases method with
  | count => exact erases_slotCount
  | type slot => exact erases_slotType slot
  | bool slot => exact .whenever (erases_holds slot _) (.record _ _)
  | number slot => exact .whenever (erases_holds slot _) (.record _ _)
  | bytes slot => exact erases_slotBytes slot
  | text slot => exact .bind (erases_slotBytes slot) fun _ => .pure _
  | pin slot => exact .whenever (erases_inWindow slot) (.record _ _)
  | token slot => exact .whenever (erases_holds slot _) (.bind (.record _ _) fun _ => .pure _)
  | setBool slot value => exact erases_setter slot _ _
  | setNumber slot value => exact erases_setter slot _ _
  | setBytes slot value => exact erases_setter slot _ _
  | setText slot content => exact erases_setter slot _ _
  | setPinned slot handle => exact erases_setter slot _ _
  | setNull slot => exact erases_setter slot _ _
  | setNewList slot => exact erases_setter slot _ _
  | setNewForeign slot classSlot key => exact erases_setNewForeign slot classSlot key
  | listCount slot => exact erases_listCount slot
  -- What the guards ask is not put on record, and what they permit is.
  | getElement listSlot index elementSlot =>
    have hguard : Erases (C := C) (hasElement listSlot index elementSlot)
        (hasElement listSlot index elementSlot) :=
      .bind (erases_inWindow elementSlot) fun _ =>
        .ite (.bind (erases_listCount listSlot) fun _ => .pure _) (.pure _)
    exact .whenever hguard (.record _ _)
  | insertElement listSlot index elementSlot =>
    have hguard : Erases (C := C) (canInsert listSlot index elementSlot)
        (canInsert listSlot index elementSlot) :=
      .bind (erases_inWindow elementSlot) fun _ =>
        .ite (.bind (erases_holds listSlot .list) fun _ =>
          .ite (.bind (erases_listCount listSlot) fun _ => .pure _) (.pure _)) (.pure _)
    exact .whenever hguard (.record _ _)
  | getVariable module name slot => exact erases_getVariable module name slot
  | abort slot => exact erases_setter slot _ _

end Monitored

/-! ### What an engine is told -/

section

variable {C α : Type} [EngineApi (StateM C)]

/-- A method on an engine in the state `c` whose calls are put on record. -/
def SlotMethod.monitored (method : SlotMethod α) (c : C) : α × Monitored C :=
  (method.perform : StateM (Monitored C) α).run ⟨c, []⟩

/-- A method of the window tells an engine in the state `c` only what it may be told. -/
structure GuardsHold (c : C) (method : SlotMethod α) : Prop where
  /-- The calls on record are those of the method. -/
  answer : (method.monitored c).1 = answerOf method.perform c
  engine : (method.monitored c).2.engine = stateAfter method.perform c
  /-- Each is one the engine may receive: its slots are those the method was given, and in the
  window, it reads what the slot holds, and its place is in the list. -/
  fits : ∀ call ∈ (method.monitored c).2.calls, call.Fits c method.named method.place
  /-- If the guards refuse the engine is only asked, and the answer is the default or an
  error. -/
  refused : ¬method.Admitted c →
    (∀ call ∈ (method.monitored c).2.calls, ∃ question, call = .ask question) ∧
      answerOf method.perform c = method.refusal c
  /-- If they do not the method goes through, after some questions. -/
  admitted : method.Admitted c → ∃ asked made,
    (method.monitored c).2.calls = asked ++ made ∧
      (∀ call ∈ asked, ∃ question, call = .ask question) ∧
      method.Goes c (answerOf method.perform c) made

theorem SlotMethod.guardsHold {c : C} (hsteady : Steady c) (method : SlotMethod α) :
    GuardsHold c method := by
  obtain ⟨asked, made, hcalls, hasked, hmade, hcomes⟩ :=
    calls_perform c method ⟨c, []⟩ hsteady.alike
  rw [List.nil_append] at hcalls
  -- What comes of the method was said of the monitored engine; the engine answers the same.
  obtain ⟨hanswer, hengine⟩ := Monitored.erases_perform method ⟨c, []⟩
  rw [hanswer] at hcomes
  refine ⟨hanswer, hengine, fun call hcall => ?_, fun hnot => ⟨fun call hcall => ?_, ?_⟩,
    fun hadmitted => ⟨asked, made, hcalls, fun call hcall => (hasked call hcall).1, ?_⟩⟩
  · rcases List.mem_append.mp (hcalls ▸ hcall) with hold | hnew
    · exact (hasked call hold).2
    · exact hmade call hnew
  · obtain ⟨-, rfl⟩ := hcomes.2 hnot
    rw [List.append_nil] at hcalls
    exact (hasked call (hcalls ▸ hcall)).1
  · exact (hcomes.2 hnot).1
  · exact hcomes.1 hadmitted

end

end ScriptHost
