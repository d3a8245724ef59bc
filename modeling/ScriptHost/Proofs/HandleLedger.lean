/-
A machine whose raw handles are put on record.

`Ledger B` is a machine of kind `B` together with what has become of its raw handles:
which it handed out, which it was given back, and when it was freed, in this order.  It
does what the machine does.

A machine knows its host through the callbacks only.  `CallsBackOnly B` says so: what every
callback keeps of the host, the entry points keep.

* **`HostState.keeps_queued`** — callbacks do nothing to the handles of a host but drop
  some;
* **`InMemory.callsBackOnly`** — the machine kept in memory calls back and does nothing
  else to its host.
-/
import ScriptHost.Proofs.Callbacks
import ScriptHost.Proofs.ScriptInvariant

namespace ScriptHost

open Run

/-- What became of a raw handle, or of the machine. -/
inductive LedgerEntry where
  | handedOut (raw : RawHandle)
  | givenBack (raw : RawHandle)
  | freed
deriving DecidableEq

/-- A machine with the record of its raw handles. -/
structure Ledger (B : Type) where
  machine : B
  entries : List LedgerEntry

namespace Ledger

variable {B : Type}

def write (l : Ledger B) (entry : LedgerEntry) : Ledger B :=
  { l with entries := l.entries ++ [entry] }

/-- The raw handles handed out, in order. -/
def handedOut (entries : List LedgerEntry) : List RawHandle :=
  entries.filterMap fun
    | .handedOut raw => some raw
    | _ => none

/-- The raw handles given back, in order. -/
def givenBack (entries : List LedgerEntry) : List RawHandle :=
  entries.filterMap fun
    | .givenBack raw => some raw
    | _ => none

/-- What runs on the machine runs on the machine with its record. -/
def lift {H α : Type} (run : Run (World H B) α) : Run (World H (Ledger B)) α := fun world =>
  let (outcome, inner) := run ⟨world.host, world.vm.machine⟩
  (outcome, ⟨inner.host, { world.vm with machine := inner.vm }⟩)

instance [Slots B] : Slots (Ledger B) where
  ensure l count := { l with machine := Slots.ensure l.machine count }
  count l := Slots.count l.machine
  type l slot := Slots.type l.machine slot
  bool l slot := Slots.bool l.machine slot
  number l slot := Slots.number l.machine slot
  bytes l slot := Slots.bytes l.machine slot
  pin l slot :=
    match Slots.pin l.machine slot with
    | (some raw, machine) => (some raw, { l with machine := machine }.write (.handedOut raw))
    | (none, machine) => (none, { l with machine := machine })
  token l slot := Slots.token l.machine slot
  setBool l slot b := { l with machine := Slots.setBool l.machine slot b }
  setNumber l slot x := { l with machine := Slots.setNumber l.machine slot x }
  setBytes l slot b := { l with machine := Slots.setBytes l.machine slot b }
  setPinned l slot h := { l with machine := Slots.setPinned l.machine slot h }
  setNull l slot := { l with machine := Slots.setNull l.machine slot }
  setNewList l slot := { l with machine := Slots.setNewList l.machine slot }
  setNewForeign l slot classSlot token := do
    return { l with machine := ← Slots.setNewForeign l.machine slot classSlot token }
  listCount l slot := Slots.listCount l.machine slot
  getElement l slot index element :=
    { l with machine := Slots.getElement l.machine slot index element }
  insertElement l slot index element := do
    return { l with machine := ← Slots.insertElement l.machine slot index element }
  getVariable l module name slot := do
    return { l with machine := ← Slots.getVariable l.machine module name slot }
  abort l slot := { l with machine := Slots.abort l.machine slot }

instance [Chronicle B] : Chronicle (Ledger B) where
  note l entry := { l with machine := Chronicle.note l.machine entry }
  freed l := Chronicle.freed l.machine

instance [Backend B] : Backend (Ledger B) where
  start config l :=
    let (outcome, machine) := Backend.start config l.machine
    (outcome, { l with machine := machine })
  interpret module source := lift (Backend.interpret module source)
  makeCallHandle l signature :=
    match Backend.makeCallHandle l.machine signature with
    | .ok (.ok raw, machine) =>
      .ok (.ok raw, { l with machine := machine }.write (.handedOut raw))
    | .ok (.error e, machine) => .ok (.error e, { l with machine := machine })
    | .error p => .error p
  call method := lift (Backend.call method)
  releaseHandle l raw :=
    { l with machine := Backend.releaseHandle l.machine raw }.write (.givenBack raw)
  collectGarbage := lift Backend.collectGarbage
  free := do
    World.onVm (·.write .freed)
    lift Backend.free

@[simp] theorem entries_releaseHandle [Backend B] (l : Ledger B) (raw : RawHandle) :
    (Backend.releaseHandle l raw).entries = l.entries ++ [.givenBack raw] := rfl

@[simp] theorem entries_foldl_releaseHandle [Backend B] (raws : List RawHandle) (l : Ledger B) :
    (raws.foldl Backend.releaseHandle l).entries = l.entries ++ raws.map .givenBack := by
  induction raws generalizing l with
  | nil => simp
  | cons raw raws ih =>
    rw [List.foldl_cons, ih, entries_releaseHandle, List.append_assoc]
    rfl

/-- What a run on the machine keeps of the host, and nothing on record. -/
theorem leads_lift {H α : Type} {P : H → Prop} {run : Run (World H B) α} {w : World H (Ledger B)}
    (h : Leads run ⟨w.host, w.vm.machine⟩ (fun _ v => P v.host) fun v => P v.host) :
    Leads (lift run) w (fun _ v => P v.host ∧ v.vm.entries = w.vm.entries)
      fun v => P v.host ∧ v.vm.entries = w.vm.entries := by
  unfold Leads at h ⊢
  unfold lift
  rcases hrun : run ⟨w.host, w.vm.machine⟩ with ⟨_ | _, _⟩ <;> rw [hrun] at h <;> exact ⟨h, rfl⟩

/-- Operations on the window leave no record, but for pinning. -/
theorem windowFrame_entries [Slots B] [Chronicle B] :
    WindowFrame fun l l' : Ledger B => l'.entries = l.entries where
  refl _ := rfl
  trans h h' := h'.trans h
  note _ _ := rfl
  ensure _ _ := rfl
  setBool _ _ _ := rfl
  setNumber _ _ _ := rfl
  setBytes _ _ _ := rfl
  setPinned _ _ _ := rfl
  setNull _ _ := rfl
  setNewList _ _ := rfl
  getElement _ _ _ _ := rfl
  -- The two that can fail are passed on to the machine, and fail with it.
  insertElement {l l' slot index element} h := by
    simp only [Slots.insertElement] at h
    cases hinsert : Slots.insertElement l.machine slot index element with
    | error p =>
      rw [hinsert] at h
      cases h
    | ok machine =>
      rw [hinsert] at h
      cases h
      rfl
  getVariable {l l' module name slot} h := by
    simp only [Slots.getVariable] at h
    cases hvariable : Slots.getVariable l.machine module name slot with
    | error e =>
      rw [hvariable] at h
      cases h
    | ok machine =>
      rw [hvariable] at h
      cases h
      rfl
  abort _ _ := rfl

end Ledger

/-- Every callback keeps `P`, whatever machine calls. -/
structure Host.Keeps {H : Type} [Host H] (P : H → Prop) : Prop where
  bindMethod {W : Type} [Slots W] [Chronicle W] {w : World H W} (module className : String)
    (isStatic : Bool) (signature : String) : P w.host →
    Leads (Host.bindMethod module className isStatic signature) w (fun _ v => P v.host)
      fun v => P v.host
  bindClass {W : Type} [Slots W] [Chronicle W] {w : World H W} (module className : String) :
    P w.host →
    Leads (Host.bindClass module className) w (fun _ v => P v.host) fun v => P v.host
  invoke {W : Type} [Slots W] [Chronicle W] {w : World H W} (id : Nat) : P w.host →
    Leads (Host.invoke id) w (fun _ v => P v.host) fun v => P v.host
  allocate {W : Type} [Slots W] [Chronicle W] {w : World H W} (id : Nat) : P w.host →
    Leads (Host.allocate id) w (fun _ v => P v.host) fun v => P v.host
  finalize {W : Type} [Slots W] [Chronicle W] {w : World H W} (token : Token) : P w.host →
    Leads (Host.finalize token) w (fun _ v => P v.host) fun v => P v.host
  write {W : Type} [Slots W] [Chronicle W] {w : World H W} (text : String) : P w.host →
    Leads (Host.write text) w (fun _ v => P v.host) fun v => P v.host
  report {W : Type} [Slots W] [Chronicle W] {w : World H W} (event : StackFrame) : P w.host →
    Leads (Host.report event) w (fun _ v => P v.host) fun v => P v.host

/-- A machine whose entry points reach its host through the callbacks only, which is all they
can do with a host they do not know. -/
class CallsBackOnly (B : Type) [Backend B] : Prop where
  interpret {H : Type} [Host H] {P : H → Prop} {w : World H B} (module source : String) :
    Host.Keeps P → P w.host →
    Leads (Backend.interpret module source) w (fun _ v => P v.host) fun v => P v.host
  call {H : Type} [Host H] {P : H → Prop} {w : World H B} (method : RawHandle) :
    Host.Keeps P → P w.host →
    Leads (Backend.call method) w (fun _ v => P v.host) fun v => P v.host
  collectGarbage {H : Type} [Host H] {P : H → Prop} {w : World H B} :
    Host.Keeps P → P w.host →
    Leads Backend.collectGarbage w (fun _ v => P v.host) fun v => P v.host
  free {H : Type} [Host H] {P : H → Prop} {w : World H B} :
    Host.Keeps P → P w.host →
    Leads Backend.free w (fun _ v => P v.host) fun v => P v.host

namespace InMemory

variable {H : Type} [Host H] {P : H → Prop}

theorem leads_collectGarbage (hP : Host.Keeps P) {w : World H Machine} (hw : P w.host) :
    Leads collectGarbage w (fun _ v => P v.host) fun v => P v.host := by
  unfold collectGarbage
  refine Leads.get_bind ?_
  refine Leads.bind (m := fun _ v => P v.host) (Leads.modify hw) fun _ w₁ h₁ => ?_
  exact Leads.forM (fun token _ w₂ h₂ => hP.finalize token h₂) h₁

theorem leads_free (hP : Host.Keeps P) {w : World H Machine} (hw : P w.host) :
    Leads free w (fun _ v => P v.host) fun v => P v.host := by
  unfold free
  refine Leads.get_bind ?_
  refine Leads.bind (m := fun _ v => P v.host) (Leads.modify hw) fun _ w₁ h₁ => ?_
  refine Leads.bind (m := fun _ v => P v.host)
    (Leads.forM (fun token _ w₂ h₂ => hP.finalize token h₂) h₁) fun _ w₂ h₂ => ?_
  exact Leads.modify h₂

/-- What callbacks keep of the host, scripts keep, forged instances or not. -/
theorem invariant_of_keeps (hP : Host.Keeps P) :
    Invariant (fun _ => True) fun _ (w : World H Machine) => P w.host where
  scripts _ _ _ := trivial
  move _ _ h := h
  forge _ _ h := h
  bindMethod module className isStatic signature h :=
    hP.bindMethod module className isStatic signature h
  bindClass module className h := hP.bindClass module className h
  invoke id h := hP.invoke id h
  allocate id h := hP.allocate id h
  write text h := hP.write text h
  report event h := hP.report event h
  collect h := leads_collectGarbage hP h

instance callsBackOnly : CallsBackOnly Machine where
  interpret module source hP h := (invariant_of_keeps hP).interpret module source h
  call method hP h := (invariant_of_keeps hP).call method h
  collectGarbage hP h := leads_collectGarbage hP h
  free hP h := leads_free hP h

end InMemory

namespace HostState

/-- Whatever a callback does to a host, the handles are the old ones, some of them dropped. -/
theorem unbroken_queued {W : Type} [Slots W] [Chronicle W] (r : HandleRegistry) :
    Unbroken (fun _ _ : W => True) fun w => r.Queued w.host.handles where
  frame := slotFrame_true
  window _ h := h
  note _ h := h
  host halike h := h.trans halike.handles
  method _ _ h := h
  release _ _ h := h
  strand _ _ h := h
  place _ h := h

theorem keeps_queued (r : HandleRegistry) :
    Host.Keeps fun h : HostState => r.Queued h.handles where
  bindMethod module className isStatic signature h :=
    (unbroken_queued r).bindMethod module className isStatic signature h
  bindClass module className h := (unbroken_queued r).bindClass module className h
  invoke id h := (unbroken_queued r).invoke id h
  allocate id h := (unbroken_queued r).allocate id h
  finalize token h := leads_finalize token (fun _ _ _ _ h => h) h
  write text h := (unbroken_queued r).write text h
  report event h := leads_report event (fun _ _ h => h) h

end HostState

end ScriptHost
