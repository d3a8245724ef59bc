/-
Runs of one machine under two hosts.

A `World (H × H') W` is a machine with two hosts side by side.  `run.Agrees run' w post crash`
says that a run under the first host and a run under the second one end alike: with the same
outcome and with the machine in the same state, where `post` holds of machine and hosts if
they answer and `crash` if they panic.  The laws are those of **`Leads`**, one for each way of
putting runs together.  A run agrees with itself, so what two runs have in common says in
particular where one leads:

* **`Leads.agrees`**, **`Agrees.leads`** — from one run to two equal ones, and back.
-/
import ScriptHost.Proofs.RunLaws

namespace ScriptHost

namespace World

variable {H H' W : Type}

/-- The machine with the first of its hosts. -/
def first (w : World (H × H') W) : World H W :=
  ⟨w.host.1, w.vm⟩

/-- The machine with the second of its hosts. -/
def second (w : World (H × H') W) : World H' W :=
  ⟨w.host.2, w.vm⟩

end World

namespace Run

variable {H H' W α β : Type}

/-- Two runs on one machine under two hosts end alike, at `post` or at `crash`. -/
def Agrees (run : Run (World H W) α) (run' : Run (World H' W) α) (w : World (H × H') W)
    (post : α → World (H × H') W → Prop) (crash : World (H × H') W → Prop) : Prop :=
  ∃ outcome v, run w.first = (outcome, v.first) ∧ run' w.second = (outcome, v.second) ∧
    match outcome with
    | .ok a => post a v
    | .error _ => crash v

namespace Agrees

variable {w : World (H × H') W} {post : α → World (H × H') W → Prop}
  {crash : World (H × H') W → Prop}

theorem mono {run : Run (World H W) α} {run' : Run (World H' W) α}
    {post' : α → World (H × H') W → Prop} {crash' : World (H × H') W → Prop}
    (h : Agrees run run' w post crash) (hpost : ∀ a v, post a v → post' a v)
    (hcrash : ∀ v, crash v → crash' v) : Agrees run run' w post' crash' := by
  obtain ⟨outcome, v, hrun, hrun', hend⟩ := h
  refine ⟨outcome, v, hrun, hrun', ?_⟩
  cases outcome with
  | ok a => exact hpost a v hend
  | error p => exact hcrash v hend

theorem pure {a : α} (h : post a w) : Agrees (pure a) (pure a) w post crash :=
  ⟨.ok a, w, rfl, rfl, h⟩

theorem throw {p : Panic} (h : crash w) :
    Agrees (throw p : Run (World H W) α) (throw p) w post crash :=
  ⟨.error p, w, rfl, rfl, h⟩

theorem bind {run : Run (World H W) β} {run' : Run (World H' W) β}
    {next : β → Run (World H W) α} {next' : β → Run (World H' W) α}
    {m : β → World (H × H') W → Prop} (h : Agrees run run' w m crash)
    (hnext : ∀ b v, m b v → Agrees (next b) (next' b) v post crash) :
    Agrees (run >>= next) (run' >>= next') w post crash := by
  obtain ⟨outcome, v, hrun, hrun', hend⟩ := h
  unfold Agrees
  rw [bind_apply, bind_apply, hrun, hrun']
  cases outcome with
  | ok b => exact hnext b v hend
  | error p => exact ⟨.error p, v, rfl, rfl, hend⟩

theorem get_bind {next : World H W → Run (World H W) α} {next' : World H' W → Run (World H' W) α}
    (h : Agrees (next w.first) (next' w.second) w post crash) :
    Agrees (get >>= next) (get >>= next') w post crash := h

theorem onVm {f : W → W} {post : Unit → World (H × H') W → Prop}
    (h : post () { w with vm := f w.vm }) :
    Agrees (World.onVm f) (World.onVm f) w post crash :=
  ⟨.ok (), { w with vm := f w.vm }, rfl, rfl, h⟩

theorem onVm_bind {f : W → W} {next : Unit → Run (World H W) α}
    {next' : Unit → Run (World H' W) α}
    (h : Agrees (next ()) (next' ()) { w with vm := f w.vm } post crash) :
    Agrees (World.onVm f >>= next) (World.onVm f >>= next') w post crash :=
  bind (m := fun _ v => v = { w with vm := f w.vm }) (onVm rfl) (by rintro _ _ rfl; exact h)

theorem modifyGet {f : World H W → α × World H W} {f' : World H' W → α × World H' W} {a : α}
    {v : W} (hf : f w.first = (a, ⟨w.host.1, v⟩)) (hf' : f' w.second = (a, ⟨w.host.2, v⟩))
    (h : post a { w with vm := v }) :
    Agrees (modifyGet f : Run (World H W) α) (modifyGet f') w post crash := by
  refine ⟨.ok a, { w with vm := v }, ?_, ?_, h⟩
  · show (Except.ok (f w.first).1, (f w.first).2) = _
    rw [hf]
    rfl
  · show (Except.ok (f' w.second).1, (f' w.second).2) = _
    rw [hf']
    rfl

theorem onVm? {f : W → Except Panic (α × W)}
    (hok : ∀ a vm, f w.vm = .ok (a, vm) → post a { w with vm := vm })
    (herror : ∀ p, f w.vm = .error p → crash w) :
    Agrees (World.onVm? f) (World.onVm? f) w post crash := by
  unfold World.onVm?
  refine get_bind ?_
  dsimp only [World.first, World.second]
  cases hf : f w.vm with
  | error p => exact throw (herror p hf)
  | ok answer => exact ⟨.ok answer.1, { w with vm := answer.2 }, rfl, rfl, hok _ _ hf⟩

/-- What every round keeps, the whole keeps. -/
theorem forM {as : List β} {round : β → Run (World H W) Unit} {round' : β → Run (World H' W) Unit}
    {keep : World (H × H') W → Prop}
    (hround : ∀ b, b ∈ as → ∀ v, keep v → Agrees (round b) (round' b) v (fun _ => keep) crash)
    (h : keep w) : Agrees (as.forM round) (as.forM round') w (fun _ => keep) crash := by
  induction as generalizing w with
  | nil => exact pure h
  | cons b as ih =>
    refine bind (hround b (by simp) w h) ?_
    intro _ v hv
    exact ih (fun c hc => hround c (by simp [hc])) hv

theorem leads {run : Run (World H W) α} {run' : Run (World H' W) α}
    (h : Agrees run run' w post crash) :
    Leads run w.first (fun a v => ∃ h', post a ⟨(v.host, h'), v.vm⟩)
      fun v => ∃ h', crash ⟨(v.host, h'), v.vm⟩ := by
  obtain ⟨outcome, v, hrun, -, hend⟩ := h
  unfold Leads
  rw [hrun]
  cases outcome with
  | ok a => exact ⟨v.host.2, hend⟩
  | error p => exact ⟨v.host.2, hend⟩

end Agrees

/-- A run agrees with itself. -/
theorem Leads.agrees {run : Run (World H W) α} {w : World (H × H) W}
    {post : α → World H W → Prop} {crash : World H W → Prop} (hsame : w.host.2 = w.host.1)
    (h : Leads run w.first post crash) :
    Agrees run run w (fun a v => v.host.2 = v.host.1 ∧ post a v.first)
      fun v => v.host.2 = v.host.1 ∧ crash v.first := by
  have hworlds : w.second = w.first := by rw [World.second, hsame, World.first]
  unfold Leads at h
  rcases hrun : run w.first with ⟨outcome, v⟩
  rw [hrun] at h
  refine ⟨outcome, ⟨(v.host, v.host), v.vm⟩, hrun, hworlds ▸ hrun, ?_⟩
  cases outcome with
  | ok a => exact ⟨rfl, h⟩
  | error p => exact ⟨rfl, h⟩

end Run

end ScriptHost
