/-
What the reports of a run add up to.

`Captured events error` says in closed form which error is captured by the reports `events`:
the last runtime error with the stack frames after it, unless a compile error came later; else
the first compile error since then, alone; else nothing.  It determines the error, and a bridge
that is reported to and collected from in any order holds just that error of the reports since
the last collection.

`TraceBridge` is the bridge with the error kept as the bare list of its frames, where reading
the primary frame is reading at index 0.

* **`Captured.report`** — what one report adds;
* **`TraceBridge.report_traces`** — the two bridges take in a report alike, and the bare one
  never reads outside its list;
* **`ErrorBridge.take_after`** — what is collected after any sequence of reports and
  collections, and the form of the error.
-/
import ScriptHost.Proofs.Overhearing
import Mathlib.Data.List.Induction

namespace ScriptHost

/-- The error that a sequence of reports adds up to. -/
inductive Captured : List StackFrame → Option VmError → Prop
  /-- The last runtime error, if no compile error follows it: with the stack frames that do. -/
  | runtime (before : List StackFrame) (primary : StackFrame) (after : List StackFrame)
      (isRuntime : primary.kind = .runtime) (last : ∀ f ∈ after, f.kind ≠ .runtime)
      (uncompiled : ∀ f ∈ after, f.kind ≠ .compile) :
      Captured (before ++ primary :: after)
        (some ⟨primary, after.filter fun f => f.kind = .stackTrace⟩)
  /-- The first compile error after the last runtime error, or of all if there is no runtime
  error: alone. -/
  | compile (before between : List StackFrame) (primary : StackFrame) (after : List StackFrame)
      (upToRuntime : ∀ f ∈ before.getLast?, f.kind = .runtime)
      (last : ∀ f ∈ between ++ primary :: after, f.kind ≠ .runtime)
      (first : ∀ f ∈ between, f.kind ≠ .compile) (isCompile : primary.kind = .compile) :
      Captured (before ++ (between ++ primary :: after)) (some ⟨primary, []⟩)
  /-- Without a runtime error and a compile error, nothing. -/
  | nothing (events : List StackFrame) (unraised : ∀ f ∈ events, f.kind ≠ .runtime)
      (uncompiled : ∀ f ∈ events, f.kind ≠ .compile) : Captured events none

theorem stackTrace_of_ne {kind : ErrorKind} (hruntime : kind ≠ .runtime)
    (hcompile : kind ≠ .compile) : kind = .stackTrace := by
  cases kind with
  | compile => exact absurd rfl hcompile
  | runtime => exact absurd rfl hruntime
  | stackTrace => rfl

namespace VmError

theorem isCompileError_iff {e : VmError} : e.isCompileError = true ↔ e.primary.kind = .compile := by
  rw [isCompileError, decide_eq_true_eq]

theorem isRuntimeError_iff {e : VmError} : e.isRuntimeError = true ↔ e.primary.kind = .runtime := by
  rw [isRuntimeError, decide_eq_true_eq]

end VmError

namespace ErrorBridge

variable {b : ErrorBridge} {e : VmError} {event : StackFrame} {events : List StackFrame}

/-! ### One report -/

theorem report_runtime (h : event.kind = .runtime) : b.report event = ⟨some ⟨event, []⟩⟩ := by
  rw [report, h]

theorem report_compile (h : event.kind = .compile)
    (hpending : ∀ e ∈ b.pending, e.primary.kind ≠ .compile) :
    b.report event = ⟨some ⟨event, []⟩⟩ := by
  rcases b with ⟨_ | e⟩
  · rw [report, h]
  · have hnot : ¬e.isCompileError = true := mt VmError.isCompileError_iff.mp (hpending e rfl)
    rw [report, h]
    exact if_neg hnot

/-- While a compile error is pending, only a runtime error counts. -/
theorem report_of_compileError (he : e.primary.kind = .compile) (h : event.kind ≠ .runtime) :
    (⟨some e⟩ : ErrorBridge).report event = ⟨some e⟩ := by
  cases hkind : event.kind with
  | compile =>
    rw [report, hkind]
    exact if_pos (VmError.isCompileError_iff.mpr he)
  | runtime => exact absurd hkind h
  | stackTrace =>
    have hnot : ¬e.isRuntimeError = true := by
      rw [VmError.isRuntimeError_iff, he]
      decide
    rw [report, hkind]
    exact if_neg hnot

theorem report_frame (he : e.primary.kind = .runtime) (h : event.kind = .stackTrace) :
    (⟨some e⟩ : ErrorBridge).report event = ⟨some { e with frames := e.frames ++ [event] }⟩ := by
  rw [report, h]
  exact if_pos (VmError.isRuntimeError_iff.mpr he)

theorem report_frame_none (h : event.kind = .stackTrace) :
    (⟨none⟩ : ErrorBridge).report event = ⟨none⟩ := by
  rw [report, h]

/-! ### Several reports -/

theorem reports_cons : b.reports (event :: events) = (b.report event).reports events := rfl

/-- Stack frames gather behind a runtime error. -/
theorem reports_frames (he : e.primary.kind = .runtime)
    (h : ∀ f ∈ events, f.kind = .stackTrace) :
    (⟨some e⟩ : ErrorBridge).reports events =
      ⟨some { e with frames := e.frames ++ events }⟩ := by
  induction events generalizing e with
  | nil => rw [reports_nil, List.append_nil]
  | cons event events ih =>
    rw [List.forall_mem_cons] at h
    have hrest := ih (e := { e with frames := e.frames ++ [event] }) he h.2
    rw [reports_cons, report_frame he h.1, hrest, List.append_assoc, List.singleton_append]

/-- Stack frames are lost where no runtime error is pending. -/
theorem reports_frames_none (h : ∀ f ∈ events, f.kind = .stackTrace) :
    (⟨none⟩ : ErrorBridge).reports events = ⟨none⟩ := by
  induction events with
  | nil => rfl
  | cons event events ih =>
    rw [List.forall_mem_cons] at h
    rw [reports_cons, report_frame_none h.1, ih h.2]

theorem reports_of_compileError (he : e.primary.kind = .compile)
    (h : ∀ f ∈ events, f.kind ≠ .runtime) :
    (⟨some e⟩ : ErrorBridge).reports events = ⟨some e⟩ := by
  induction events with
  | nil => rfl
  | cons event events ih =>
    rw [List.forall_mem_cons] at h
    rw [reports_cons, report_of_compileError he h.1, ih h.2]

/-- Reports that end with a runtime error leave no compile error pending, and stack frames do
not change that. -/
theorem not_compileError_reports {before between : List StackFrame}
    (hbefore : ∀ f ∈ before.getLast?, f.kind = .runtime)
    (hbetween : ∀ f ∈ between, f.kind = .stackTrace) :
    ∀ e ∈ (idle.reports (before ++ between)).pending, e.primary.kind ≠ .compile := by
  intro e he
  rw [reports_append] at he
  rcases List.eq_nil_or_concat before with rfl | ⟨before, r, rfl⟩
  · rw [reports_nil, idle, reports_frames_none hbetween] at he
    cases he
  · rw [List.concat_eq_append] at hbefore he
    have hr : r.kind = .runtime := hbefore r (by rw [List.getLast?_concat]; rfl)
    rw [reports_append, reports_cons, reports_nil, report_runtime hr,
      reports_frames (e := ⟨r, []⟩) hr hbetween] at he
    obtain rfl := Option.mem_some_iff.mp he
    show r.kind ≠ .compile
    rw [hr]
    decide

end ErrorBridge

namespace Captured

variable {b : ErrorBridge} {error : Option VmError} {events : List StackFrame}

/-- What one more report adds to what is captured. -/
theorem report (event : StackFrame) (h : Captured events b.pending) :
    Captured (events ++ [event]) (b.report event).pending := by
  obtain ⟨error⟩ := b
  change Captured events error at h
  cases hkind : event.kind with
  | runtime =>
    -- A runtime error makes everything before it forgotten.
    rw [ErrorBridge.report_runtime hkind]
    exact .runtime events event [] hkind (by simp) (by simp)
  | compile =>
    cases h with
    | runtime before primary after isRuntime last uncompiled =>
      have hpending : primary.kind ≠ .compile := by
        rw [isRuntime]
        decide
      rw [ErrorBridge.report_compile hkind (by simpa), List.append_assoc, List.cons_append,
        ← List.singleton_append, ← List.append_assoc]
      refine .compile (before ++ [primary]) after event [] (by simpa) ?_ uncompiled hkind
      simpa [or_imp, forall_and, hkind] using last
    | compile before between primary after upToRuntime last first isCompile =>
      -- The first compile error stands, and this one is lost.
      have hevent : event.kind ≠ .runtime := by
        rw [hkind]
        decide
      rw [ErrorBridge.report_of_compileError isCompile hevent, List.append_assoc,
        List.append_assoc, List.cons_append]
      refine .compile before between primary (after ++ [event]) upToRuntime ?_ first isCompile
      simpa [or_imp, forall_and, hevent] using last
    | nothing events unraised uncompiled =>
      rw [ErrorBridge.report_compile hkind (by simp)]
      refine .compile [] events event [] (by simp) ?_ uncompiled hkind
      simpa [or_imp, forall_and, hkind] using unraised
  | stackTrace =>
    have hcalm : event.kind ≠ .runtime ∧ event.kind ≠ .compile := by
      rw [hkind]
      decide
    cases h with
    | runtime before primary after isRuntime last uncompiled =>
      have hframes : after.filter (fun f => f.kind = .stackTrace) ++ [event] =
          (after ++ [event]).filter fun f => f.kind = .stackTrace := by
        simp [hkind]
      rw [ErrorBridge.report_frame (e := ⟨primary, _⟩) isRuntime hkind, List.append_assoc,
        List.cons_append, hframes]
      refine .runtime before primary (after ++ [event]) isRuntime ?_ ?_
      · simpa [or_imp, forall_and, hcalm.1] using last
      · simpa [or_imp, forall_and, hcalm.2] using uncompiled
    | compile before between primary after upToRuntime last first isCompile =>
      rw [ErrorBridge.report_of_compileError isCompile hcalm.1, List.append_assoc,
        List.append_assoc, List.cons_append]
      refine .compile before between primary (after ++ [event]) upToRuntime ?_ first isCompile
      simpa [or_imp, forall_and, hcalm.1] using last
    | nothing events unraised uncompiled =>
      rw [ErrorBridge.report_frame_none hkind]
      refine .nothing _ ?_ ?_
      · simpa [or_imp, forall_and, hcalm.1] using unraised
      · simpa [or_imp, forall_and, hcalm.2] using uncompiled

/-- The reports to an idle bridge add up to what it captures. -/
theorem reports (events : List StackFrame) :
    Captured events (ErrorBridge.idle.reports events).pending := by
  induction events using List.reverseRecOn with
  | nil => exact .nothing [] (by simp) (by simp)
  | append_singleton events event ih =>
    rw [ErrorBridge.reports_append]
    exact ih.report event

/-- Nothing else can be what they add up to. -/
theorem eq_reports (h : Captured events error) :
    (ErrorBridge.idle.reports events).pending = error := by
  cases h with
  | runtime before primary after isRuntime last uncompiled =>
    have hafter : ∀ f ∈ after, f.kind = .stackTrace := fun f hf =>
      stackTrace_of_ne (last f hf) (uncompiled f hf)
    have hframes : after.filter (fun f => f.kind = .stackTrace) = after :=
      List.filter_eq_self.mpr fun f hf => decide_eq_true (hafter f hf)
    rw [ErrorBridge.reports_append, ErrorBridge.reports_cons, ErrorBridge.report_runtime isRuntime,
      ErrorBridge.reports_frames (e := ⟨primary, []⟩) isRuntime hafter, List.nil_append, hframes]
  | compile before between primary after upToRuntime last first isCompile =>
    rw [List.forall_mem_append, List.forall_mem_cons] at last
    obtain ⟨hbetween, -, hafter⟩ := last
    have hclear := ErrorBridge.not_compileError_reports upToRuntime fun f hf =>
      stackTrace_of_ne (hbetween f hf) (first f hf)
    rw [← List.append_assoc, ErrorBridge.reports_append, ErrorBridge.reports_cons,
      ErrorBridge.report_compile isCompile hclear,
      ErrorBridge.reports_of_compileError (e := ⟨primary, []⟩) isCompile hafter]
  | nothing events unraised uncompiled =>
    have hframes : ∀ f ∈ events, f.kind = .stackTrace := fun f hf =>
      stackTrace_of_ne (unraised f hf) (uncompiled f hf)
    rw [ErrorBridge.idle, ErrorBridge.reports_frames_none hframes]

theorem iff_reports :
    Captured events error ↔ (ErrorBridge.idle.reports events).pending = error := by
  constructor
  · exact eq_reports
  · rintro rfl
    exact reports events

end Captured

/-! ### Errors as bare lists of frames -/

/-- The frame at index 0 of an error's frames, which there has to be. -/
def primaryFrame (frames : List StackFrame) : Except Panic StackFrame :=
  match frames[0]? with
  | some primary => .ok primary
  | none => .error (.message "index out of bounds: the len is 0 but the index is 0")

/-- The bridge with the error kept as the bare list of its frames. -/
structure TraceBridge where
  pending : Option (List StackFrame)

/-- The form of an error's frames. -/
structure WellTraced (trace : List StackFrame) : Prop where
  /-- There is a primary frame to read, and it is a compile error or a runtime error. -/
  primary : ∃ primary, primaryFrame trace = .ok primary ∧ trace.head? = some primary ∧
    (primary.kind = .compile ∨ primary.kind = .runtime)
  frames : ∀ f ∈ trace.tail, f.kind = .stackTrace
  /-- A compile error stands alone. -/
  lone : ∀ f ∈ trace.head?, f.kind = .compile → trace.length = 1

/-- What is captured has the form of an error. -/
theorem Captured.wellTraced {events : List StackFrame} {e : VmError}
    (h : Captured events (some e)) : WellTraced e.trace := by
  cases h with
  | runtime before primary after isRuntime last uncompiled =>
    refine ⟨⟨primary, rfl, rfl, .inr isRuntime⟩, ?_, ?_⟩
    · intro f hf
      exact of_decide_eq_true (List.mem_filter.mp hf).2
    · intro f hf hcompile
      obtain rfl := Option.mem_some_iff.mp hf
      rw [isRuntime] at hcompile
      cases hcompile
  | compile before between primary after upToRuntime last first isCompile =>
    exact ⟨⟨primary, rfl, rfl, .inl isCompile⟩, by simp [VmError.trace], fun _ _ _ => rfl⟩

/-- A use of the bridge. -/
inductive BridgeUse where
  | report (event : StackFrame)
  | take

/-- The reports since the last collection, or since the start if there was none. -/
def sinceTake (uses : List BridgeUse) : List StackFrame :=
  uses.foldl (fun events use =>
    match use with
    | .report event => events ++ [event]
    | .take => []) []

theorem sinceTake_report (uses : List BridgeUse) (event : StackFrame) :
    sinceTake (uses ++ [.report event]) = sinceTake uses ++ [event] := by
  rw [sinceTake, List.foldl_append]
  rfl

theorem sinceTake_take (uses : List BridgeUse) : sinceTake (uses ++ [.take]) = [] := by
  rw [sinceTake, List.foldl_append]
  rfl

namespace TraceBridge

def idle : TraceBridge :=
  ⟨none⟩

/-- Takes in one report, as `ErrorBridge.report` does. -/
def report (b : TraceBridge) (event : StackFrame) : Except Panic TraceBridge :=
  match event.kind, b.pending with
  | .compile, some trace => do
    let primary ← primaryFrame trace
    return if primary.kind = .compile then b else ⟨some [event]⟩
  | .compile, none => return ⟨some [event]⟩
  | .runtime, _ => return ⟨some [event]⟩
  | .stackTrace, some trace => do
    let primary ← primaryFrame trace
    return if primary.kind = .runtime then ⟨some (trace ++ [event])⟩ else b
  | .stackTrace, none => return b

def step (b : TraceBridge) : BridgeUse → Except Panic TraceBridge
  | .report event => b.report event
  | .take => return idle

def after (b : TraceBridge) (uses : List BridgeUse) : Except Panic TraceBridge :=
  uses.foldlM step b

end TraceBridge

namespace ErrorBridge

def step (b : ErrorBridge) : BridgeUse → ErrorBridge
  | .report event => b.report event
  | .take => b.take.2

def after (b : ErrorBridge) (uses : List BridgeUse) : ErrorBridge :=
  uses.foldl step b

/-- The same bridge with the frames of its error only. -/
def traces (b : ErrorBridge) : TraceBridge :=
  ⟨b.pending.map VmError.trace⟩

/-- What is pending comes from the reports since the last collection. -/
theorem after_idle (uses : List BridgeUse) :
    idle.after uses = idle.reports (sinceTake uses) := by
  induction uses using List.reverseRecOn with
  | nil => rfl
  | append_singleton uses use ih =>
    have hlast : idle.after (uses ++ [use]) = (idle.after uses).step use := List.foldl_append
    rw [hlast, ih]
    cases use with
    | report event =>
      rw [sinceTake_report, reports_append]
      rfl
    | take =>
      rw [sinceTake_take]
      rfl

end ErrorBridge

namespace TraceBridge

/-- The two bridges take in a report alike. -/
theorem report_traces (b : ErrorBridge) (event : StackFrame) :
    b.traces.report event = .ok (b.report event).traces := by
  obtain ⟨_ | e⟩ := b
  · rw [report, ErrorBridge.report]
    cases event.kind with
    | compile => rfl
    | runtime => rfl
    | stackTrace => rfl
  · rw [report, ErrorBridge.report]
    cases event.kind with
    | compile =>
      show Except.ok (if e.primary.kind = .compile then _ else _) =
        Except.ok (ErrorBridge.traces (if e.isCompileError then _ else _))
      by_cases h : e.primary.kind = .compile
      · rw [if_pos h, if_pos (VmError.isCompileError_iff.mpr h)]
      · rw [if_neg h, if_neg (mt VmError.isCompileError_iff.mp h)]
        rfl
    | runtime => rfl
    | stackTrace =>
      show Except.ok (if e.primary.kind = .runtime then _ else _) =
        Except.ok (ErrorBridge.traces (if e.isRuntimeError then _ else _))
      by_cases h : e.primary.kind = .runtime
      · rw [if_pos h, if_pos (VmError.isRuntimeError_iff.mpr h)]
        rfl
      · rw [if_neg h, if_neg (mt VmError.isRuntimeError_iff.mp h)]

theorem after_traces (b : ErrorBridge) (uses : List BridgeUse) :
    b.traces.after uses = .ok (b.after uses).traces := by
  induction uses generalizing b with
  | nil => rfl
  | cons use uses ih =>
    have hstep : b.traces.step use = .ok (b.step use).traces := by
      cases use with
      | report event => exact report_traces b event
      | take => rfl
    rw [after, List.foldlM_cons, hstep]
    exact ih (b.step use)

end TraceBridge

namespace ErrorBridge

/-- A bridge after any sequence of reports and collections: collecting yields what the reports
since the last collection add up to and leaves the bridge idle; kept as the bare list of its
frames the error is the same, which includes that no read goes outside the list; and what is
pending has the form of an error. -/
theorem take_after (uses : List BridgeUse) :
    (∀ error, (idle.after uses).take = (error, idle) ↔ Captured (sinceTake uses) error) ∧
    TraceBridge.idle.after uses = .ok (idle.after uses).traces ∧
    ∀ trace ∈ (idle.after uses).traces.pending, WellTraced trace := by
  refine ⟨?_, TraceBridge.after_traces idle uses, ?_⟩
  · intro error
    rw [Captured.iff_reports, after_idle, take, Prod.mk.injEq, and_iff_left rfl]
  · intro trace htrace
    obtain ⟨e, he, rfl⟩ := Option.map_eq_some_iff.mp htrace
    have hcaptured : Captured (sinceTake uses) (some e) := by
      rw [Captured.iff_reports, ← after_idle, he]
    exact hcaptured.wellTraced

/-- A second run: its runtime error is collected with the frame after it, and nothing of the
compile error of the first. -/
theorem take_after_secondRun :
    let compile : StackFrame := ⟨.compile, some "main", 1, "Error at end of file."⟩
    let runtime : StackFrame := ⟨.runtime, none, -1, "Subscript out of bounds."⟩
    let frame : StackFrame := ⟨.stackTrace, some "main", 3, "(script)"⟩
    let uses := [.report compile, .take, .report frame, .report runtime, .report frame]
    (idle.after uses).take = (some ⟨runtime, [frame]⟩, idle) ∧ WellTraced [runtime, frame] := by
  intro compile runtime frame uses
  have hcaptured : Captured [frame, runtime, frame] (some ⟨runtime, [frame]⟩) :=
    .runtime [frame] runtime [frame] rfl (by decide) (by decide)
  have h := take_after uses
  exact ⟨(h.1 _).mpr hcaptured, h.2.2 _ rfl⟩

end ErrorBridge

end ScriptHost
