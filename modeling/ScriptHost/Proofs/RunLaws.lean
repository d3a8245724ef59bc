/-
Reasoning about runs.

`run.Leads s post crash` says where a run from `s` leads: to `post` if it answers, to
`crash` if it panics.  There is one law for each way of putting runs together, named
after it; **`Leads.bind`** is the one for running one thing after another.
-/
import ScriptHost.Host

namespace ScriptHost.Run

variable {σ α β : Type}

/-- One run after another; the second starts where the first ends, unless that panicked. -/
theorem bind_apply (run : Run σ β) (next : β → Run σ α) (s : σ) :
    (run >>= next) s =
      match run s with
      | (.ok b, s') => next b s'
      | (.error p, s') => (.error p, s') := by
  simp only [bind, ExceptT.bind, ExceptT.mk, StateT.bind, ExceptT.bindCont]
  rcases run s with ⟨_ | _, _⟩ <;> rfl

theorem get_bind_apply (next : σ → Run σ α) (s : σ) : (get >>= next) s = next s s := rfl

theorem map_apply (f : β → α) (run : Run σ β) (s : σ) :
    (f <$> run) s = ((run s).1.map f, (run s).2) := by
  simp only [Functor.map, ExceptT.map, ExceptT.mk, StateT.bind, bind]
  rcases run s with ⟨_ | _, _⟩ <;> rfl

theorem discard_apply (run : Run σ β) (s : σ) :
    (discard run) s = ((run s).1.map fun _ => (), (run s).2) :=
  map_apply (fun _ => ()) run s

/-- A run from `s` leads to `post` if it answers, and to `crash` if it panics. -/
def Leads (run : Run σ α) (s : σ) (post : α → σ → Prop) (crash : σ → Prop) : Prop :=
  match run s with
  | (.ok a, s') => post a s'
  | (.error _, s') => crash s'

namespace Leads

variable {s : σ} {post : α → σ → Prop} {crash : σ → Prop}

theorem mono {run : Run σ α} {post' : α → σ → Prop} {crash' : σ → Prop}
    (h : Leads run s post crash) (hpost : ∀ a s', post a s' → post' a s')
    (hcrash : ∀ s', crash s' → crash' s') : Leads run s post' crash' := by
  unfold Leads at h ⊢
  split at h
  · exact hpost _ _ h
  · exact hcrash _ h

theorem of_ok {run : Run σ α} (h : Leads run s post crash) {a : α} {s' : σ}
    (hrun : run s = (.ok a, s')) : post a s' := by
  unfold Leads at h
  rw [hrun] at h
  exact h

theorem of_error {run : Run σ α} (h : Leads run s post crash) {p : Panic} {s' : σ}
    (hrun : run s = (.error p, s')) : crash s' := by
  unfold Leads at h
  rw [hrun] at h
  exact h

theorem ends {run : Run σ α} {keep : σ → Prop} (h : Leads run s (fun _ => keep) keep) :
    keep (run s).2 := by
  unfold Leads at h
  split at h <;> rename_i heq <;> rw [heq] <;> exact h

/-- A run leads wherever it ends. -/
theorem of_outcomes {run : Run σ α} (hok : ∀ a s', run s = (.ok a, s') → post a s')
    (herror : ∀ p s', run s = (.error p, s') → crash s') : Leads run s post crash := by
  unfold Leads
  split <;> rename_i heq
  · exact hok _ _ heq
  · exact herror _ _ heq

/-- What holds everywhere holds wherever a run leads. -/
theorem of_forall {run : Run σ α} (hpost : ∀ a s', post a s') (hcrash : ∀ s', crash s') :
    Leads run s post crash :=
  of_outcomes (fun a s' _ => hpost a s') fun _ s' _ => hcrash s'

theorem pure {a : α} (h : post a s) : Leads (pure a) s post crash := h

theorem throw {p : Panic} (h : crash s) : Leads (throw p : Run σ α) s post crash := h

theorem bind {run : Run σ β} {next : β → Run σ α} {m : β → σ → Prop}
    (h : Leads run s m crash) (hnext : ∀ b s', m b s' → Leads (next b) s' post crash) :
    Leads (run >>= next) s post crash := by
  unfold Leads at h ⊢
  rw [bind_apply]
  rcases hrun : run s with ⟨_ | b, s'⟩
  · rw [hrun] at h
    exact h
  · rw [hrun] at h
    exact hnext b s' h

theorem get_bind {next : σ → Run σ α} (h : Leads (next s) s post crash) :
    Leads (get >>= next) s post crash :=
  bind (m := fun b s' => b = s ∧ s' = s) ⟨rfl, rfl⟩ (by rintro _ _ ⟨rfl, rfl⟩; exact h)

theorem modify {f : σ → σ} {post : Unit → σ → Prop} (h : post () (f s)) :
    Leads (modify f : Run σ Unit) s post crash := h

theorem modifyGet {f : σ → α × σ} (h : post (f s).1 (f s).2) :
    Leads (modifyGet f : Run σ α) s post crash := h

theorem set {s' : σ} {post : Unit → σ → Prop} (h : post () s') :
    Leads (set s' : Run σ Unit) s post crash := h

theorem map {run : Run σ β} {f : β → α} (h : Leads run s (fun b s' => post (f b) s') crash) :
    Leads (f <$> run) s post crash := by
  unfold Leads at h ⊢
  rw [map_apply]
  rcases hrun : run s with ⟨_ | b, s'⟩ <;> rw [hrun] at h <;> exact h

/-- What every round keeps, the whole keeps. -/
theorem forM {as : List β} {round : β → Run σ Unit} {keep : σ → Prop}
    (hround : ∀ b, b ∈ as → ∀ s', keep s' → Leads (round b) s' (fun _ => keep) crash)
    (h : keep s) : Leads (as.forM round) s (fun _ => keep) crash := by
  induction as generalizing s with
  | nil => exact h
  | cons b as ih =>
    refine bind (hround b (by simp) s h) ?_
    intro _ s' hs'
    exact ih (fun c hc => hround c (by simp [hc])) hs'

theorem onVm? {H W : Type} {f : W → Except Panic (α × W)} {world : World H W}
    {post : α → World H W → Prop} {crash : World H W → Prop}
    (hok : ∀ a vm, f world.vm = .ok (a, vm) → post a { world with vm := vm })
    (herror : ∀ p, f world.vm = .error p → crash world) :
    Leads (World.onVm? f) world post crash := by
  unfold World.onVm?
  refine get_bind ?_
  cases hf : f world.vm with
  | error p => exact throw (herror p hf)
  | ok answer => exact hok answer.1 answer.2 hf

end Leads

end ScriptHost.Run
