import PipeShell.Proofs.Asking
import PipeShell.Proofs.Launching

/-!
# Sessions stay sound

Whatever lines a shell runs and whenever it asks after its jobs, its ends are of pipes that there are,
and nothing was closed by a process that has not started (`Session.Lives.sound`).
-/

namespace PipeShell

/-! ## Asking -/

section
variable {σ : Type} {watch : Watch σ} {P : σ → Prop}

theorem Member.askAll_preserves (ask : ∀ pid s, P s → P (watch.ask pid s).2)
    (tell : ∀ n s, P s → P (watch.tell n s)) (members : List Member) {s : σ} (holds : P s) :
    P (Member.askAll watch members s).2 := by
  induction members generalizing s with
  | nil => exact holds
  | cons m rest ih =>
    refine ih (s := (m.ask watch s).2) ?_
    unfold Member.ask
    split
    · exact holds
    · have asked := ask m.pid s holds
      split
      · rename_i answer
        exact (congrArg (fun p => P p.2) answer).mp asked
      · rename_i answer
        exact (congrArg (fun p => P p.2) answer).mp asked
      · rename_i answer
        exact tell _ _ ((congrArg (fun p => P p.2) answer).mp asked)

theorem Job.askAll_preserves (ask : ∀ pid s, P s → P (watch.ask pid s).2)
    (tell : ∀ n s, P s → P (watch.tell n s)) (jobs : List Job) {s : σ} (holds : P s) :
    P (Job.askAll watch jobs s).2 := by
  induction jobs generalizing s with
  | nil => exact holds
  | cons job rest ih => exact ih (Member.askAll_preserves ask tell job.members holds)

end

/-! ## Sessions -/

namespace Session
variable {σ : Type} {host : Host σ} {diary : σ → Diary}

def Sound (diary : σ → Diary) (s : Session σ) : Prop := (diary s.host).Sound s.world

theorem OnlyReports.sound {s s' : Session σ} (reports : OnlyReports s s') (sound : s.Sound diary) :
    s'.Sound diary := by
  rw [Sound, reports.host]
  exact Diary.Sound.alike sound reports.alike

theorem runPlan_sound (keeps : host.Keeps diary) (plan : Plan) {s : Session σ}
    (sound : s.Sound diary) : (s.runPlan host plan).2.Sound diary := by
  cases wired : (plan.wire s.world).wiring with
  | ok wiring =>
    obtain ⟨f, fits⟩ := Plan.exists_frame wired sound
    exact (runPlan_flow keeps sound wired fits .refl).1.sound
  | error fault =>
    simp only [runPlan, wired, (wire_refused wired).1]
    exact sound

theorem execute_sound (keeps : host.Keeps diary) (line : Line) {s : Session σ}
    (sound : s.Sound diary) : (s.execute host line).2.Sound diary := by
  rcases execute_cases host line s with ⟨result, s', eq, reports, -⟩ | ⟨plan, s', -, reports, eq⟩
  · rw [eq]
    exact reports.sound sound
  · rw [eq]
    exact runPlan_sound keeps plan (reports.sound sound)

theorem reap_sound (keeps : host.Keeps diary) {s : Session σ} (sound : s.Sound diary) :
    (s.reap host).2.Sound diary := by
  have asked : (Job.askAll (watch host) s.jobs.jobs s).2.Sound diary := by
    refine Job.askAll_preserves (fun pid s sound => ?_) (fun n s sound => sound) s.jobs.jobs sound
    exact (keeps.polls pid s.host s.world sound).sound sound
  exact asked

inductive Lives (host : Host σ) : Session σ → Session σ → Prop
  | refl {s : Session σ} : Lives host s s
  | execute {s s' : Session σ} (before : Lives host s s') (line : Line) :
      Lives host s (s'.execute host line).2
  | reap {s s' : Session σ} (before : Lives host s s') : Lives host s (s'.reap host).2

theorem Lives.sound (keeps : host.Keeps diary) {s s' : Session σ} (lives : Lives host s s')
    (sound : s.Sound diary) : s'.Sound diary := by
  induction lives with
  | refl => exact sound
  | execute _ line ih => exact execute_sound keeps line ih
  | reap _ ih => exact reap_sound keeps ih

end Session
end PipeShell
