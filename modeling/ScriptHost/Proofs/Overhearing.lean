/-
Hosts that are overheard.

`Overheard H` is a host that keeps a list of the errors reported to it, and otherwise does what
`H` does.  A machine knows its host through the callbacks only, so what it does under one of the
two hosts it does under the other, and the list tells what it reported meanwhile.

`Host.Related R` says that two hosts answer every callback alike and stay related by `R`, which
may speak of what subscribers to errors were told according to the machine's record.

* **`HostState.leads_report_told`** — what a report comes to, told subscribers included;
* **`Overheard.related_tells`** — the reports heard add up to the error captured, and the
  subscribers were told of them, in order.
-/
import ScriptHost.Proofs.Callbacks
import ScriptHost.Proofs.RunAgreement

namespace ScriptHost

open Run

/-- What a note says a subscriber to errors was told. -/
def Entry.told : Entry → List (String × StackFrame)
  | .onError label event => [(label, event)]
  | _ => []

/-- A machine from whose record can be read what subscribers to errors were told. -/
class Recorded (W : Type) [Slots W] [Chronicle W] where
  told : W → List (String × StackFrame)
  told_note (w : W) (entry : Entry) : told (Chronicle.note w entry) = told w ++ entry.told
  frame : SlotFrame fun w w' : W => told w' = told w
  told_setNewForeign {w w' : W} {slot classSlot : Nat} {token : Token} :
    Slots.setNewForeign w slot classSlot token = .ok w' → told w' = told w

section Related

variable {H H' : Type} (R : H → H' → List (String × StackFrame) → Prop)

/-- Two hosts of a machine are related, as far as it has on record what was told. -/
def World.Related {W : Type} [Slots W] [Chronicle W] [Recorded W] (w : World (H × H') W) : Prop :=
  R w.host.1 w.host.2 (Recorded.told w.vm)

/-- Every callback is answered alike by two related hosts, which stay related, whatever machine
calls. -/
structure Host.Related [Host H] [Host H'] : Prop where
  bindMethod {W : Type} [Slots W] [Chronicle W] [Recorded W] {w : World (H × H') W}
    (module className : String) (isStatic : Bool) (signature : String) : w.Related R →
    Agrees (Host.bindMethod module className isStatic signature)
      (Host.bindMethod module className isStatic signature) w (fun _ => World.Related R)
      (World.Related R)
  bindClass {W : Type} [Slots W] [Chronicle W] [Recorded W] {w : World (H × H') W}
    (module className : String) : w.Related R →
    Agrees (Host.bindClass module className) (Host.bindClass module className) w
      (fun _ => World.Related R) (World.Related R)
  invoke {W : Type} [Slots W] [Chronicle W] [Recorded W] {w : World (H × H') W} (id : Nat) :
    w.Related R →
    Agrees (Host.invoke id) (Host.invoke id) w (fun _ => World.Related R) (World.Related R)
  allocate {W : Type} [Slots W] [Chronicle W] [Recorded W] {w : World (H × H') W} (id : Nat) :
    w.Related R →
    Agrees (Host.allocate id) (Host.allocate id) w (fun _ => World.Related R) (World.Related R)
  finalize {W : Type} [Slots W] [Chronicle W] [Recorded W] {w : World (H × H') W}
    (token : Token) : w.Related R →
    Agrees (Host.finalize token) (Host.finalize token) w (fun _ => World.Related R)
      (World.Related R)
  write {W : Type} [Slots W] [Chronicle W] [Recorded W] {w : World (H × H') W} (text : String) :
    w.Related R →
    Agrees (Host.write text) (Host.write text) w (fun _ => World.Related R) (World.Related R)
  report {W : Type} [Slots W] [Chronicle W] [Recorded W] {w : World (H × H') W}
    (event : StackFrame) : w.Related R →
    Agrees (Host.report event) (Host.report event) w (fun _ => World.Related R)
      (World.Related R)

end Related

/-- A host that keeps a list of the errors reported to it. -/
structure Overheard (H : Type) where
  host : H
  events : List StackFrame

namespace Overheard

variable {H W α : Type}

/-- What is done to the host is done to the overheard one. -/
def lift (run : Run (World H W) α) : Run (World (Overheard H) W) α := fun w =>
  let (outcome, v) := run ⟨w.host.host, w.vm⟩
  (outcome, ⟨⟨v.host, w.host.events⟩, v.vm⟩)

def hear (event : StackFrame) : Run (World (Overheard H) W) Unit :=
  modify fun w => { w with host := { w.host with events := w.host.events ++ [event] } }

instance [Host H] : Host (Overheard H) where
  bindMethod module className isStatic signature :=
    lift (Host.bindMethod module className isStatic signature)
  bindClass module className := lift (Host.bindClass module className)
  invoke id := lift (Host.invoke id)
  allocate id := lift (Host.allocate id)
  finalize token := lift (Host.finalize token)
  write text := lift (Host.write text)
  report event := do
    hear event
    lift (Host.report event)

/-- Where a run leads, it leads under the overheard host. -/
theorem agrees_lift {run : Run (World H W) α} {w : World (H × Overheard H) W}
    {post : α → World H W → Prop} {crash : World H W → Prop} (hsame : w.host.2.host = w.host.1)
    (h : Leads run w.first post crash) :
    Agrees run (lift run) w
      (fun a v => v.host.2 = ⟨v.host.1, w.host.2.events⟩ ∧ post a v.first)
      fun v => v.host.2 = ⟨v.host.1, w.host.2.events⟩ ∧ crash v.first := by
  have hlift : lift run w.second = ((run w.first).1,
      ⟨⟨(run w.first).2.host, w.host.2.events⟩, (run w.first).2.vm⟩) := by
    have hfirst : ⟨w.host.2.host, w.vm⟩ = w.first := by rw [hsame, World.first]
    rw [← hfirst]
    rfl
  unfold Leads at h
  -- The plain run decides where both end, and nothing was overheard on the way.
  rcases hrun : run w.first with ⟨outcome, v⟩
  rw [hrun] at h hlift
  refine ⟨outcome, ⟨(v.host, ⟨v.host, w.host.2.events⟩), v.vm⟩, hrun, hlift, ?_⟩
  cases outcome with
  | ok a => exact ⟨rfl, h⟩
  | error p => exact ⟨rfl, h⟩

end Overheard

namespace ErrorBridge

/-- Several reports in order. -/
def reports (b : ErrorBridge) (events : List StackFrame) : ErrorBridge :=
  events.foldl report b

@[simp] theorem reports_nil (b : ErrorBridge) : b.reports [] = b := rfl

@[simp] theorem reports_append (b : ErrorBridge) (events events' : List StackFrame) :
    b.reports (events ++ events') = (b.reports events).reports events' :=
  List.foldl_append

end ErrorBridge

/-- Those who are told when there is something to tell: the subscribers in order, up to the
first one that panics. -/
def audience : List Subscriber → List Subscriber
  | [] => []
  | s :: subscribers => if s.panics then [s] else s :: audience subscribers

/-- What subscribers are told of errors: of one after the other, each time from the first
subscriber on. -/
def deliveries (subscribers : List Subscriber) (events : List StackFrame) :
    List (String × StackFrame) :=
  events.flatMap fun event => (audience subscribers).map fun s => (s.label, event)

theorem deliveries_append (subscribers : List Subscriber) (events events' : List StackFrame) :
    deliveries subscribers (events ++ events') =
      deliveries subscribers events ++ deliveries subscribers events' :=
  List.flatMap_append

namespace HostState

variable {W : Type} [Slots W] [Chronicle W] [Recorded W]

/-- All that happened is that subscribers were told of an error. -/
structure ToldOf (subscribers : List Subscriber) (event : StackFrame)
    (w v : World HostState W) : Prop where
  host : v.host = w.host
  told : Recorded.told v.vm = Recorded.told w.vm ++ deliveries subscribers [event]

/-- One subscriber after the other is told of an error. -/
theorem leads_tellErrors (event : StackFrame) (subscribers : List Subscriber)
    (w : World HostState W) :
    Leads (subscribers.forM fun s => tell s (.onError s.label event)) w
      (fun _ => ToldOf subscribers event w) (ToldOf subscribers event w) := by
  induction subscribers generalizing w with
  | nil => exact ⟨rfl, (List.append_nil _).symm⟩
  | cons s subscribers ih =>
    have hnoted : Recorded.told (Chronicle.note w.vm (.onError s.label event)) =
        Recorded.told w.vm ++ [(s.label, event)] := Recorded.told_note _ _
    -- One that panics is told, and nobody behind it is.
    have hwhole : deliveries (s :: subscribers) [event] =
        if s.panics then [(s.label, event)]
        else (s.label, event) :: deliveries subscribers [event] := by
      simp only [deliveries, audience, List.flatMap_cons, List.flatMap_nil, List.append_nil]
      split <;> rfl
    refine Leads.bind
      (m := fun _ v => s.panics = false ∧
        v = { w with vm := Chronicle.note w.vm (.onError s.label event) }) ?_ ?_
    · unfold tell
      refine Leads.bind
        (m := fun _ v => v = { w with vm := Chronicle.note w.vm (.onError s.label event) })
        (Leads.modify rfl) ?_
      rintro _ _ rfl
      split
      · rename_i hpanics
        refine Leads.throw ⟨rfl, ?_⟩
        rw [hwhole, if_pos hpanics, hnoted]
      · rename_i hpanics
        exact ⟨by simpa using hpanics, rfl⟩
    · rintro _ _ ⟨hpanics, rfl⟩
      have hrest : ∀ v : World HostState W,
          ToldOf subscribers event
            { w with vm := Chronicle.note w.vm (.onError s.label event) } v →
          ToldOf (s :: subscribers) event w v := by
        rintro v ⟨hhost, htold⟩
        refine ⟨hhost, ?_⟩
        rw [htold, hnoted, hwhole, hpanics]
        simp
      exact (ih _).mono (fun _ => hrest) hrest

/-- A report is taken in and told to the subscribers. -/
theorem leads_report_told (event : StackFrame) (w : World HostState W) :
    let reported := { w with host := { w.host with errors := w.host.errors.report event } }
    Leads (report event) w (fun _ => ToldOf w.host.errorSubscribers event reported)
      (ToldOf w.host.errorSubscribers event reported) := by
  unfold report
  refine Leads.bind (m := fun _ v =>
    v = { w with host := { w.host with errors := w.host.errors.report event } })
    (Leads.modify rfl) ?_
  rintro _ _ rfl
  exact Leads.get_bind (leads_tellErrors event w.host.errorSubscribers _)

/-- Neither the errors nor those who are told of them have changed, and nobody was told. -/
structure Silent (w v : World HostState W) : Prop where
  errors : v.host.errors = w.host.errors
  errorSubscribers : v.host.errorSubscribers = w.host.errorSubscribers
  told : Recorded.told v.vm = Recorded.told w.vm

theorem Silent.refl (w : World HostState W) : Silent w w :=
  ⟨rfl, rfl, rfl⟩

theorem Silent.note {w v : World HostState W} (hv : Silent w v) {entry : Entry}
    (hentry : entry.told = []) : Silent w { v with vm := Chronicle.note v.vm entry } := by
  refine ⟨hv.errors, hv.errorSubscribers, (Recorded.told_note _ _).trans ?_⟩
  rw [hentry, List.append_nil]
  exact hv.told

/-- Callbacks other than reports are silent. -/
theorem unbroken_silent (w : World HostState W) :
    Unbroken (fun v v' : W => Recorded.told v' = Recorded.told v) (Silent w) where
  frame := Recorded.frame
  window hv hw := ⟨hw.errors, hw.errorSubscribers, hv.trans hw.told⟩
  note {v entry} hentry hv := hv.note (by cases entry <;> simp_all [Entry.isPlain, Entry.told])
  host halike hw :=
    ⟨halike.errors.trans hw.errors, halike.errorSubscribers.trans hw.errorSubscribers, hw.told⟩
  method _ _ hw := ⟨hw.errors, hw.errorSubscribers, hw.told⟩
  release {_ reply _ _} _ _ hw := by
    have hnoted := hw.note (show (Entry.raw reply).told = [] from rfl)
    exact ⟨hnoted.errors, hnoted.errorSubscribers, hnoted.told⟩
  strand _ _ hw := ⟨hw.errors, hw.errorSubscribers, hw.told⟩
  place hv hw :=
    ⟨hw.errors, hw.errorSubscribers, (Recorded.told_setNewForeign hv).trans hw.told⟩

theorem silent_finalize (token : Token) (w : World HostState W) :
    Leads (finalize token) w (fun _ => Silent w) (Silent w) :=
  leads_finalize token (fun _ _ _ _ hv => hv.note rfl) ⟨rfl, rfl, rfl⟩

end HostState

namespace Overheard

/-- Since the host was `h₀` and `before` was what subscribers had been told, the overheard host
heard what added up to the error captured and was told to the subscribers. -/
structure Tells (h₀ : HostState) (before : List (String × StackFrame)) (h : HostState)
    (h' : Overheard HostState) (after : List (String × StackFrame)) : Prop where
  same : h'.host = h
  errors : h.errors = h₀.errors.reports h'.events
  errorSubscribers : h.errorSubscribers = h₀.errorSubscribers
  told : after = before ++ deliveries h₀.errorSubscribers h'.events

variable {h₀ : HostState} {before : List (String × StackFrame)}

theorem Tells.refl (h₀ : HostState) (before : List (String × StackFrame)) :
    Tells h₀ before h₀ ⟨h₀, []⟩ before :=
  ⟨rfl, rfl, rfl, (List.append_nil _).symm⟩

variable {W α : Type} [Slots W] [Chronicle W] [Recorded W]
  {w : World (HostState × Overheard HostState) W}

/-- What is silent under the host is silent under the overheard one. -/
theorem agrees_of_silent {run : Run (World HostState W) α} (hw : w.Related (Tells h₀ before))
    (hrun : Leads run w.first (fun _ => HostState.Silent w.first) (HostState.Silent w.first)) :
    Agrees run (lift run) w (fun _ => World.Related (Tells h₀ before))
      (World.Related (Tells h₀ before)) := by
  have hkept : ∀ v : World (HostState × Overheard HostState) W,
      v.host.2 = ⟨v.host.1, w.host.2.events⟩ ∧ HostState.Silent w.first v.first →
        v.Related (Tells h₀ before) := by
    rintro v ⟨hsame, hsilent⟩
    refine ⟨by rw [hsame], ?_, hsilent.errorSubscribers.trans hw.errorSubscribers, ?_⟩
    · rw [hsame]
      exact hsilent.errors.trans hw.errors
    · rw [hsame]
      exact hsilent.told.trans hw.told
  exact (agrees_lift hw.same hrun).mono (fun _ => hkept) hkept

/-- A report is heard, and told to the subscribers. -/
theorem agrees_report (event : StackFrame) (hw : w.Related (Tells h₀ before)) :
    Agrees (Host.report event) (Host.report event) w (fun _ => World.Related (Tells h₀ before))
      (World.Related (Tells h₀ before)) := by
  -- The report is heard first, so the two runs start from there.
  let heard : World (HostState × Overheard HostState) W :=
    { w with host := (w.host.1, { w.host.2 with events := w.host.2.events ++ [event] }) }
  have hkept : ∀ v : World (HostState × Overheard HostState) W,
      v.host.2 = ⟨v.host.1, heard.host.2.events⟩ ∧
        HostState.ToldOf w.host.1.errorSubscribers event
          { heard.first with
            host := { w.host.1 with errors := w.host.1.errors.report event } } v.first →
        v.Related (Tells h₀ before) := by
    rintro v ⟨hsame, hhost, htold⟩
    have hhost' : v.host.1 = { w.host.1 with errors := w.host.1.errors.report event } := hhost
    have hevents : v.host.2.events = w.host.2.events ++ [event] := by rw [hsame]
    refine ⟨by rw [hsame], ?_, by rw [hhost']; exact hw.errorSubscribers, ?_⟩
    · rw [hevents, hhost', ErrorBridge.reports_append, ← hw.errors]
      rfl
    · rw [hevents, deliveries_append, ← List.append_assoc, ← hw.told, ← hw.errorSubscribers]
      exact htold
  have hreport := HostState.leads_report_told event heard.first
  exact (agrees_lift (w := heard) hw.same hreport).mono (fun _ => hkept) hkept

/-- An overheard host answers like the host itself. -/
theorem related_tells (h₀ : HostState) (before : List (String × StackFrame)) :
    Host.Related (Tells h₀ before) where
  bindMethod module className isStatic signature hw := agrees_of_silent hw
    ((HostState.unbroken_silent _).bindMethod module className isStatic signature (.refl _))
  bindClass module className hw := agrees_of_silent hw
    ((HostState.unbroken_silent _).bindClass module className (.refl _))
  invoke id hw := agrees_of_silent hw ((HostState.unbroken_silent _).invoke id (.refl _))
  allocate id hw := agrees_of_silent hw ((HostState.unbroken_silent _).allocate id (.refl _))
  finalize token hw := agrees_of_silent hw (HostState.silent_finalize token _)
  write text hw := agrees_of_silent hw ((HostState.unbroken_silent _).write text (.refl _))
  report event hw := agrees_report event hw

end Overheard

end ScriptHost
