import PipeShell.Host.Scripted
import PipeShell.Proofs.Agreement
import PipeShell.Proofs.FailFast
import PipeShell.Proofs.Turns

/-!
# What comes of a line

The result of a line that is launched depends on the fates of its stages and on its waits alone
(`Session.runPlan_verdict`). The last command that leaves the shell decides before all else, then the
background, then the first wait that fails, and then the status of the last stage. The faults of all
stages are told in each of these cases but one: where a wait fails, its fault stands alone
(`Session.execute_tells`).
-/

namespace PipeShell

/-! ## Exits -/

namespace Fate

theorem exit?_eq_some {fate : Fate} {code : Int} (left : fate.exit? = some code) :
    fate = .command (.ok (.exit code)) := by
  rcases fate with _ | _ | _ | _ | _ <;> cases left
  rfl

theorem exit_results {fates : List Fate} {code : Int} (leaves : (results fates).exit = some code) :
    ∃ before after, fates = before ++ .command (.ok (.exit code)) :: after ∧
      ∀ fate ∈ after, fate.exit? = none := by
  simp only [results, List.getLast?_filterMap, List.findSome?_eq_some_iff] at leaves
  obtain ⟨after, fate, before, split, left, quiet⟩ := leaves
  rw [exit?_eq_some left] at split
  refine ⟨before.reverse, after.reverse, ?_, by simpa using quiet⟩
  rw [List.reverse_eq_iff.1 split]
  simp

theorem not_exit_results {fates : List Fate} (stays : (results fates).exit = none) :
    ∀ fate ∈ fates, fate.exit? = none := by
  simpa [results, List.getLast?_eq_none_iff] using stays

end Fate

namespace Session
variable {σ : Type}

/-! ## Waiting -/

/-- The shell waits for one process after another, also after a wait that failed. Each stage has the
status of its process, or that of its fate. -/
inductive Waits (host : Host σ) :
    Session σ → List Fate → List (Except Fault Int) → Session σ → Prop
  | nil (s : Session σ) : Waits host s [] [] s
  | ended {s t s' : Session σ} {fates : List Fate} {statuses : List (Except Fault Int)} {pid : Pid}
      {code : Int} (asked : s.wait host pid = (.ok code, t))
      (later : Waits host t fates statuses s') :
      Waits host s (.process pid :: fates) (.ok code :: statuses) s'
  | lost {s t s' : Session σ} {fates : List Fate} {statuses : List (Except Fault Int)} {pid : Pid}
      {cause : Fault} (asked : s.wait host pid = (.error cause, t))
      (later : Waits host (t.note (.waitFailed pid cause)) fates statuses s') :
      Waits host s (.process pid :: fates) (.error cause :: statuses) s'
  | refused {s s' : Session σ} {fates : List Fate} {statuses : List (Except Fault Int)}
      (cause : Fault) (later : Waits host s fates statuses s') :
      Waits host s (.refused cause :: fates) (.ok 127 :: statuses) s'
  | succeeded {s s' : Session σ} {fates : List Fate} {statuses : List (Except Fault Int)}
      (effect : Effect) (later : Waits host s fates statuses s') :
      Waits host s (.command (.ok effect) :: fates) (.ok 0 :: statuses) s'
  | failed {s s' : Session σ} {fates : List Fate} {statuses : List (Except Fault Int)}
      (cause : Fault) (later : Waits host s fates statuses s') :
      Waits host s (.command (.error cause) :: fates) (.ok 1 :: statuses) s'

/-- All waits went well and gave these codes, or this is the fault of the first that did not. -/
inductive CodesOrFirstFault : List (Except Fault Int) → List Int → Option Fault → Prop
  | all (codes : List Int) : CodesOrFirstFault (codes.map .ok) codes none
  | lost (before : List Int) (cause : Fault) (after : List (Except Fault Int)) (codes : List Int) :
      CodesOrFirstFault (before.map .ok ++ .error cause :: after) codes (some cause)

theorem CodesOrFirstFault.cons {statuses : List (Except Fault Int)} {codes : List Int}
    {failure : Option Fault} (code : Int) (summed : CodesOrFirstFault statuses codes failure) :
    CodesOrFirstFault (.ok code :: statuses) (code :: codes) failure := by
  cases summed with
  | all => exact .all (code :: codes)
  | lost before cause after => exact .lost (code :: before) cause after (code :: codes)

theorem waitAll_waits (host : Host σ) (fates : List Fate) (s : Session σ) :
    ∃ statuses,
      Waits host s fates statuses (s.waitAll host (fates.map Fate.settled)).2.2 ∧
      CodesOrFirstFault statuses (s.waitAll host (fates.map Fate.settled)).1
        (s.waitAll host (fates.map Fate.settled)).2.1 := by
  induction fates generalizing s with
  | nil => exact ⟨[], .nil s, .all []⟩
  | cons fate fates ih =>
    rw [List.map_cons]
    cases fate with
    | process pid =>
      simp only [Fate.settled, waitAll]
      rcases asked : s.wait host pid with ⟨cause | code, t⟩
      · -- The other processes are still waited for, but their faults no longer count.
        obtain ⟨statuses, waits, -⟩ := ih (t.note (.waitFailed pid cause))
        exact ⟨.error cause :: statuses, .lost asked waits, .lost [] cause statuses _⟩
      · obtain ⟨statuses, waits, summed⟩ := ih t
        exact ⟨.ok code :: statuses, .ended asked waits, summed.cons code⟩
    | refused cause =>
      obtain ⟨statuses, waits, summed⟩ := ih s
      exact ⟨_, .refused cause waits, summed.cons statusNotFound⟩
    | command result =>
      obtain ⟨statuses, waits, summed⟩ := ih s
      rcases result with cause | effect
      · exact ⟨_, .failed cause waits, summed.cons 1⟩
      · exact ⟨_, .succeeded effect waits, summed.cons 0⟩

/-! ## Endings -/

inductive Verdict (host : Host σ) (plan : Plan) (s : Session σ) (fates : List Fate) :
    Except Fault Execution × Session σ → Prop
  | exit {before after : List Fate} {code : Int}
      (asked : fates = before ++ .command (.ok (.exit code)) :: after)
      (last : ∀ fate ∈ after, fate.exit? = none) :
      Verdict host plan s fates (.ok ⟨.exit code, Fate.faults fates⟩, s)
  | background {job : Nat} {s' : Session σ} (stays : ∀ fate ∈ fates, fate.exit? = none)
      (apart : plan.background)
      (added : s.addJob plan.describe (fates.map Fate.settled) = (job, s')) :
      Verdict host plan s fates
        (.ok ⟨.background job, Fate.faults fates⟩, s'.note (.phase .running .collected))
  | finished {codes : List Int} {s' : Session σ} (stays : ∀ fate ∈ fates, fate.exit? = none)
      (here : ¬plan.background) (waits : Waits host s fates (codes.map .ok) s') :
      Verdict host plan s fates
        (.ok ⟨.finished (codes.getLast?.getD 0), Fate.faults fates⟩,
          s'.note (.phase .running .waited))
  | lost {before : List Int} {cause : Fault} {after : List (Except Fault Int)} {s' : Session σ}
      (stays : ∀ fate ∈ fates, fate.exit? = none) (here : ¬plan.background)
      (waits : Waits host s fates (before.map .ok ++ .error cause :: after) s') :
      Verdict host plan s fates (.error cause, s'.note (.phase .running .waited))

theorem conclude_verdict (host : Host σ) (plan : Plan) (fates : List Fate) (s : Session σ) :
    Verdict host plan s fates
      (s.conclude host plan (Fate.faults fates) (Fate.results fates)) := by
  cases leaves : (Fate.results fates).exit with
  | some code =>
    obtain ⟨before, after, asked, last⟩ := Fate.exit_results leaves
    rw [conclude_exit host plan _ s leaves]
    exact .exit asked last
  | none =>
    have stays := Fate.not_exit_results leaves
    unfold conclude
    simp only [leaves]
    split
    · rename_i apart
      exact .background stays apart rfl
    · rename_i here
      obtain ⟨statuses, waits, summed⟩ := waitAll_waits host fates s
      change CodesOrFirstFault statuses (s.waitAll host (Fate.results fates).settled).1
        (s.waitAll host (Fate.results fates).settled).2.1 at summed
      change Waits host s fates statuses (s.waitAll host (Fate.results fates).settled).2.2 at waits
      generalize s.waitAll host (Fate.results fates).settled = waited at summed waits ⊢
      obtain ⟨codes, failure, s'⟩ := waited
      cases summed with
      | all => exact .finished stays here waits
      | lost => exact .lost stays here waits

/-- Each stage of a launched plan meets its fate, and the result follows from the fates and from the
waits, whatever the order in which the commands leave the shell, fail or succeed. -/
theorem runPlan_verdict (host : Host σ) (plan : Plan) (s : Session σ) (wiring : Wiring)
    (wired : (plan.wire s.world).wiring = .ok wiring) :
    ∃ fates s', fates.length = plan.stages.length ∧ s.Launches host plan wiring fates s' ∧
      Verdict host plan (s'.note (.phase .launching .running)) fates (s.runPlan host plan) := by
  obtain ⟨fates, s', launched, ran⟩ := runPlan_launches host wired
  refine ⟨fates, s', launched.length wired, launched, ?_⟩
  rw [ran]
  exact conclude_verdict host plan fates _

def departure : Plan where
  stages := [⟨.program, ["nowhere"]⟩, ⟨.builtin .exit, ["exit", "3"]⟩,
    ⟨.builtin .exit, ["exit", "x"]⟩, ⟨.program, ["cat"]⟩]
  background := true

def patchy : Session ScriptedHost :=
  { host :=
      { scripts := [("nowhere", { refusal := some "lost" }), ("stray", { lostToWait := true })] } }

theorem runPlan_verdict_departure :
    (patchy.runPlan ScriptedHost.host departure).1 = .ok ⟨.exit 3,
      [.launch "nowhere" (.refused "lost"), .builtin .exit (.notNumeric "x")]⟩ ∧
    ∃ wiring, (departure.wire patchy.world).wiring = .ok wiring ∧
      ∃ fates s', fates.length = 4 ∧
        patchy.Launches ScriptedHost.host departure wiring fates s' ∧
        Verdict ScriptedHost.host departure (s'.note (.phase .launching .running)) fates
          (patchy.runPlan ScriptedHost.host departure) := by
  refine ⟨by decide +kernel, _, rfl, ?_⟩
  exact runPlan_verdict ScriptedHost.host departure patchy _ rfl

/-! ## What the caller is told -/

def told : Except Fault Execution → List Fault
  | .ok execution => execution.failures
  | .error cause => [cause]

/-- The caller of a line is told the faults of all its stages, unless the shell waits for the line and
a wait fails. Then the first fault of a wait is all that the caller is told. -/
theorem execute_tells (host : Host σ) (line : Line) (s : Session σ) :
    Untouched s (s.execute host line).2 ∨
    ∃ notices plan wiring fates s', line.plan? s.symbols = some plan ∧
      fates.length = plan.stages.length ∧
      (s.noteAll notices).Launches host plan wiring fates s' ∧
      ((∃ outcome, (s.execute host line).1 = .ok ⟨outcome, Fate.faults fates⟩) ∨
        ∃ (before : List Int) (cause : Fault) (after : List (Except Fault Int)) (s'' : Session σ),
          ¬plan.background ∧ (∀ fate ∈ fates, fate.exit? = none) ∧
          Waits host (s'.note (.phase .launching .running)) fates
            (before.map .ok ++ .error cause :: after) s'' ∧
          (s.execute host line).1 = .error cause) := by
  obtain ⟨notices, ⟨-, same, -⟩ | ⟨plan, ready, -, ran⟩⟩ := execute_plan host line s
  · rw [same]
    exact .inl (.noteAll s notices)
  · cases wired : (plan.wire (s.noteAll notices).world).wiring with
    | error fault =>
      rw [ran]
      exact .inl ((Untouched.noteAll s notices).trans (runPlan_refused host wired).2.2)
    | ok wiring =>
      obtain ⟨fates, s', launched, concluded⟩ := runPlan_launches host wired
      have verdict := conclude_verdict host plan fates (s'.note (.phase .launching .running))
      rw [← concluded, ← ran] at verdict
      refine .inr ⟨notices, plan, wiring, fates, s', ready, launched.length wired, launched, ?_⟩
      generalize s.execute host line = ended at verdict
      cases verdict with
      | exit _ _ => exact .inl ⟨_, rfl⟩
      | background _ _ _ => exact .inl ⟨_, rfl⟩
      | finished _ _ _ => exact .inl ⟨_, rfl⟩
      | lost stays here waits => exact .inr ⟨_, _, _, _, here, stays, waits, rfl⟩

def strayLine : Line :=
  ⟨#[{ text := some "nowhere", nextStage := some 1 }, { text := some "stray" }], some 0, some 1⟩

theorem execute_untold :
    ¬∀ (line : Line) (s : Session ScriptedHost) (launch : Launch) (cause : Fault),
      .spawned launch (.error cause) ∈ s.since (s.execute ScriptedHost.host line).2 →
        cause ∈ told (s.execute ScriptedHost.host line).1 := by
  intro all
  have events : patchy.since (patchy.execute ScriptedHost.host strayLine).2 =
      [.spawned ⟨["nowhere"], "", ⟨none, some (.writer 1)⟩⟩
          (.error (.launch "nowhere" (.refused "lost"))),
        .spawned ⟨["stray"], "", ⟨some (.reader 1), none⟩⟩ (.ok 1001),
        .waited 1001 (.error (.ending .noChild))] := by
    decide +kernel
  have ends : (patchy.execute ScriptedHost.host strayLine).1 = .error (.ending .noChild) := by
    decide +kernel
  have fault := all strayLine patchy ⟨["nowhere"], "", ⟨none, some (.writer 1)⟩⟩
    (.launch "nowhere" (.refused "lost")) (by rw [events]; exact List.mem_cons_self)
  rw [ends] at fault
  cases fault with
  | tail _ later => cases later

end Session
end PipeShell
