import PipeShell.Host.Scripted
import PipeShell.Proofs.Outcome

/-!
# What the status of a job stands on

A line in the background is reported with a status at last. It stands on what has become of the last
stage: on the answer of its process, or on how its command has ended (`Fate.reports_of_becomes`). So a
success is reported only where the last stage is known to have succeeded, or where its process was lost
and nobody knows its status (`Session.execute_evidence`). In the second case it may have failed
(`Session.execute_unfounded`).
-/

namespace PipeShell

/-! ## Stages and their statuses -/

namespace Fate

def Succeeds (es : List Event) : Fate → Prop
  | process pid => .polled pid (.ok (some 0)) ∈ es
  | refused _ => False
  | command result => ∃ effect, result = .ok effect

def Lost (es : List Event) : Fate → Prop
  | process pid => ∃ cause, .polled pid (.error cause) ∈ es
  | refused _ => False
  | command _ => False

/-- The status that the last stage of a line gives to its job. -/
inductive Reports (es : List Event) : Fate → Int → Prop
  | told {pid : Pid} {code : Int} (answered : .polled pid (.ok (some code)) ∈ es) :
      Reports es (.process pid) code
  | lost {pid : Pid} {cause : Fault} (answered : .polled pid (.error cause) ∈ es) :
      Reports es (.process pid) 0
  | refused (cause : Fault) : Reports es (.refused cause) statusNotFound
  | succeeded (effect : Effect) : Reports es (.command (.ok effect)) 0
  | failed (cause : Fault) : Reports es (.command (.error cause)) 1

theorem Reports.zero {es : List Event} {fate : Fate} (reports : fate.Reports es 0) :
    fate.Succeeds es ∨ fate.Lost es := by
  cases reports with
  | told answered => exact .inl answered
  | lost answered => exact .inr ⟨_, answered⟩
  | succeeded effect => exact .inl ⟨effect, rfl⟩

def job (index : Nat) (command : String) (fates : List Fate) : Job where
  index
  members := ((fates.map settled).filterMap Settled.pid?).map ({ pid := · })
  command
  known := (fates.map settled).getLast?.bind Settled.status?

variable {index : Nat} {command : String} {es : List Event} {job' : Job}

theorem reports_process {init : List Fate} {pid : Pid}
    (becomes : (job index command (init ++ [.process pid])).Becomes es job') (closed : job'.isOver) :
    Reports es (.process pid) job'.status := by
  have known : job'.known = none := becomes.known_eq.trans (by simp [job, settled, Settled.status?])
  have last : job'.pids.getLast? = some pid := by
    rw [becomes.pids_eq, job, Job.pids_new]
    simp [settled, Settled.pid?]
  rw [Job.pids, List.getLast?_map, Option.map_eq_some_iff] at last
  obtain ⟨m, final, rfl⟩ := last
  have member := List.mem_of_getLast? final
  have ended : m.ending.isSome := List.all_eq_true.1 closed m member
  rcases becomes.learnt m member with old | ⟨answer, polled, ending⟩
  · obtain ⟨_, -, rfl⟩ := List.mem_map.1 old
    cases ended
  · rw [Job.status, known, final, Option.bind_some, ending]
    rcases answer with cause | (_ | code)
    · exact .lost polled
    · rw [ending] at ended
      cases ended
    · exact .told polled

theorem reports_of_becomes {init : List Fate} {last : Fate}
    (becomes : (job index command (init ++ [last])).Becomes es job') (closed : job'.isOver) :
    last.Reports es job'.status := by
  have status (code : Int) (ended : last.settled = .ended code) : job'.status = code := by
    have known : job'.known = some code :=
      becomes.known_eq.trans (by simp [job, ended, Settled.status?])
    rw [Job.status, known]
  cases last with
  | process pid => exact reports_process becomes closed
  | refused cause =>
    rw [status _ rfl]
    exact .refused cause
  | command result =>
    rcases result with cause | effect
    · rw [status _ rfl]
      exact .failed cause
    · rw [status _ rfl]
      exact .succeeded effect

end Fate

/-! ## Lines in the background -/

namespace Session
variable {σ : Type} {host : Host σ} {line : Line} {s s' : Session σ} {index : Nat}
  {failures : List Fault}

theorem execute_background
    (ran : s.execute host line = (.ok ⟨.background index, failures⟩, s')) :
    ∃ notices plan wiring fates s₁, line.plan? s.symbols = some plan ∧ plan.stages ≠ [] ∧
      plan.background ∧ (s.noteAll notices).Launches host plan wiring fates s₁ ∧
      fates.length = plan.stages.length ∧
      s'.jobs.jobs.filter (·.index = index) = [Fate.job index plan.describe fates] := by
  obtain ⟨notices, ⟨-, -, finishes⟩ | ⟨plan, ready, staged, same⟩⟩ := execute_plan host line s
  · rw [ran] at finishes
    cases finishes
  · rw [ran] at same
    cases wired : (plan.wire (s.noteAll notices).world).wiring with
    | error fault =>
      obtain ⟨-, refused, -⟩ := runPlan_refused host wired
      rw [← same] at refused
      cases refused
    | ok wiring =>
      obtain ⟨fates, s₁, launched, concluded⟩ := runPlan_launches host wired
      have verdict := conclude_verdict host plan fates (s₁.note (.phase .launching .running))
      rw [← concluded, ← same] at verdict
      cases verdict with
      | @background _ s₂ stays apart added =>
        obtain ⟨number, jobs, -⟩ := addJob_spec plan.describe (fates.map Fate.settled)
          (s₁.note (.phase .launching .running))
        rw [added] at number jobs
        dsimp only at number jobs
        have noted := OnlyReports.note s₂ (.phase .running .collected)
        refine ⟨notices, plan, wiring, fates, s₁, ready, staged, apart, launched,
          launched.length wired, ?_⟩
        rw [number, noted.jobs, jobs]
        exact JobTable.filter_add_self _ _ _ _

/-- Whatever the host answers, and whatever calls come later: a line in the background is reported as a
success only if its last stage is known to have succeeded, or was lost. -/
theorem execute_evidence (ran : s.execute host line = (.ok ⟨.background index, failures⟩, s')) :
    ∃ notices plan wiring init last s₁, line.plan? s.symbols = some plan ∧ plan.background ∧
      (s.noteAll notices).Launches host plan wiring (init ++ [last]) s₁ ∧
      (init ++ [last]).length = plan.stages.length ∧
      ∀ calls before turn after, (serveAll host calls s'.jobs).1 = before ++ turn :: after →
        (∀ t ∈ before, ∀ j ∈ t.reported, j.index ≠ index) →
        ∀ j ∈ turn.reported, j.index = index → j.status = 0 →
          last.Succeeds ((before ++ [turn]).flatMap Turn.dealings) ∨
            last.Lost ((before ++ [turn]).flatMap Turn.dealings) := by
  obtain ⟨notices, plan, wiring, fates, s₁, ready, staged, apart, launched, length, only⟩ :=
    execute_background ran
  rcases List.eq_nil_or_concat' fates with rfl | ⟨init, last, rfl⟩
  · exact absurd (List.length_eq_zero_iff.1 length.symm) staged
  · refine ⟨notices, plan, wiring, init, last, s₁, ready, apart, launched, length, ?_⟩
    intro calls before turn after split first j member number zero
    obtain ⟨becomes, closed⟩ :=
      (serveAll_runs host calls s'.jobs).becomes split only first j member number
    have reports := Fate.reports_of_becomes becomes closed
    rw [zero] at reports
    exact reports.zero

def slowLine : Line :=
  ⟨#[{ text := some "cat", nextStage := some 1 }, { text := some "slow", background := true }],
    some 0, some 1⟩

def shifty : Session ScriptedHost :=
  { host := { scripts := [("slow", { polls := 1 }), ("lost", { status := 3, lostToPoll := true })] } }

def asking (s : Session ScriptedHost) : Call ScriptedHost := ⟨.reap, s.host, s.surroundings⟩

theorem execute_evidence_slowLine :
    ∃ (s' : Session ScriptedHost) (first second : Turn) (job : Job),
      shifty.execute ScriptedHost.host slowLine = (.ok ⟨.background 1, []⟩, s') ∧
      (serveAll ScriptedHost.host [asking s', asking (s'.reap ScriptedHost.host).2] s'.jobs).1 =
        [first, second] ∧
      first.reported = [] ∧ second.reported = [job] ∧ job.index = 1 ∧ job.status = 0 ∧
      ∃ notices plan wiring init last s₁, slowLine.plan? shifty.symbols = some plan ∧
        plan.background ∧
        (shifty.noteAll notices).Launches ScriptedHost.host plan wiring (init ++ [last]) s₁ ∧
        (init ++ [last]).length = plan.stages.length ∧
        (last.Succeeds ([first, second].flatMap Turn.dealings) ∨
          last.Lost ([first, second].flatMap Turn.dealings)) := by
  have ran : shifty.execute ScriptedHost.host slowLine =
      (.ok ⟨.background 1, []⟩, (shifty.execute ScriptedHost.host slowLine).2) :=
    Prod.ext (by decide +kernel) rfl
  generalize after : (shifty.execute ScriptedHost.host slowLine).2 = s' at ran
  have reported : (serveAll ScriptedHost.host [asking s', asking (s'.reap ScriptedHost.host).2]
      s'.jobs).1.map Turn.reported =
        [[], [⟨1, [⟨1001, some (.status 0)⟩, ⟨1002, some (.status 0)⟩], "cat | slow &",
          none⟩]] := by
    rw [← after]
    decide +kernel
  obtain ⟨first, rest, turns, runs, later⟩ := List.map_eq_cons_iff.1 reported
  obtain ⟨second, alone, rfl, told, ends⟩ := List.map_eq_cons_iff.1 later
  obtain rfl := List.map_eq_nil_iff.1 ends
  refine ⟨s', first, second, _, ran, turns, runs, told, rfl, rfl, ?_⟩
  obtain ⟨notices, plan, wiring, init, last, s₁, ready, apart, launched, length, stands⟩ :=
    execute_evidence ran
  refine ⟨notices, plan, wiring, init, last, s₁, ready, apart, launched, length, ?_⟩
  refine stands _ [first] second [] turns ?_ _ (told ▸ List.mem_cons_self) rfl rfl
  simp [runs]

def lostLine : Line := ⟨#[{ text := some "lost", background := true }], some 0, some 0⟩

/-- A job whose only process was lost is reported as a success, and nobody has said that it was one. -/
theorem execute_unfounded :
    ¬∀ (line : Line) (s s' : Session ScriptedHost) (calls : List (Call ScriptedHost))
        (index : Nat) (launch : Launch) (pid : Pid),
      s.execute ScriptedHost.host line = (.ok ⟨.background index, []⟩, s') →
      s.since s' = [.spawned launch (.ok pid)] →
      ∀ turn ∈ (serveAll ScriptedHost.host calls s'.jobs).1,
        ∀ job ∈ turn.reported, job.index = index → job.status = 0 →
          ∃ t ∈ (serveAll ScriptedHost.host calls s'.jobs).1,
            .polled pid (.ok (some 0)) ∈ t.dealings := by
  intro all
  have ran : shifty.execute ScriptedHost.host lostLine =
      (.ok ⟨.background 1, []⟩, (shifty.execute ScriptedHost.host lostLine).2) :=
    Prod.ext (by decide +kernel) rfl
  have events : shifty.since (shifty.execute ScriptedHost.host lostLine).2 =
      [.spawned ⟨["lost"], "", ⟨none, none⟩⟩ (.ok 1001)] := by
    decide +kernel
  generalize after : (shifty.execute ScriptedHost.host lostLine).2 = s' at ran events
  have turns : (serveAll ScriptedHost.host [asking s'] s'.jobs).1 =
      [{ reported := [⟨1, [⟨1001, some .lost⟩], "lost &", none⟩]
         dealings := [.polled 1001 (.error (.ending .noChild))] }] := by
    rw [← after]
    decide +kernel
  obtain ⟨turn, member, answered⟩ := all lostLine shifty s' [asking s'] 1 _ 1001 ran events _
    (turns ▸ List.mem_cons_self) _ List.mem_cons_self rfl rfl
  rw [turns, List.mem_singleton] at member
  rw [member] at answered
  simp at answered

end Session
end PipeShell
