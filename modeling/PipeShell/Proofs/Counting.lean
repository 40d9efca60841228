import PipeShell.Proofs.Outcome
import PipeShell.Proofs.Soundness

/-!
# Processes are counted upwards

A host may count its processes as it starts them, so that each has a larger number than all before it.
Then the processes of a session have larger and larger numbers, whatever lines it runs and however
often it asks after its jobs (`Session.Lives.counted`).
-/

namespace PipeShell

/-- What the host does leads to later states, and the least number that it has not given yet goes up
with each process that it starts. -/
structure Host.Counts {σ : Type} (host : Host σ) (later : σ → σ → Prop) (next : σ → Pid) : Prop where
  refl : ∀ state, later state state
  trans : ∀ {state state' state''}, later state state' → later state' state'' → later state state''
  grows : ∀ {state state'}, later state state' → next state ≤ next state'
  spawn : ∀ launch state w, later state (host.spawn launch state w).host
  started : ∀ launch state w pid, (host.spawn launch state w).answer = .ok pid →
    next state ≤ pid ∧ pid < next (host.spawn launch state w).host
  wait : ∀ pid state w, later state (host.wait pid state w).host
  poll : ∀ pid state w, later state (host.poll pid state w).host
  write : ∀ target bytes state w, later state (host.write target bytes (state, w)).2.1

namespace Session
variable {σ : Type} {host : Host σ} {later : σ → σ → Prop} {next : σ → Pid} {s s' s'' : Session σ}

def started (s : Session σ) : List Pid := s.dealings.filterMap Event.started?

structure Counted (later : σ → σ → Prop) (next : σ → Pid) (s s' : Session σ) : Prop where
  host : later s.host s'.host
  started : ∃ pids, s'.started = s.started ++ pids ∧ pids.Pairwise (· < ·) ∧
    ∀ pid ∈ pids, next s.host ≤ pid ∧ pid < next s'.host

theorem counted_of_started (after : later s.host s'.host) (same : s'.started = s.started) :
    Counted later next s s' :=
  ⟨after, [], by rw [same, List.append_nil], .nil, by simp⟩

section
variable (counts : host.Counts later next)
include counts

theorem counted_refl (s : Session σ) : Counted later next s s :=
  counted_of_started (counts.refl s.host) rfl

theorem Counted.trans (first : Counted later next s s') (second : Counted later next s' s'') :
    Counted later next s s'' := by
  obtain ⟨before, started, increasing, bounds⟩ := first.started
  obtain ⟨after, more, increasing', bounds'⟩ := second.started
  refine ⟨counts.trans first.host second.host, before ++ after, ?_, ?_, ?_⟩
  · rw [more, started, List.append_assoc]
  · refine List.pairwise_append.2 ⟨increasing, increasing', fun pid mem pid' mem' => ?_⟩
    exact Int.lt_of_lt_of_le (bounds pid mem).2 (bounds' pid' mem').1
  · intro pid member
    rcases List.mem_append.1 member with mem | mem
    · exact ⟨(bounds pid mem).1, Int.lt_of_lt_of_le (bounds pid mem).2 (counts.grows second.host)⟩
    · exact ⟨Int.le_trans (counts.grows first.host) (bounds' pid mem).1, (bounds' pid mem).2⟩

/-! ## Steps -/

theorem OnlyReports.counted (reports : OnlyReports s s') : Counted later next s s' :=
  counted_of_started (reports.host ▸ counts.refl s.host) (by rw [started, started, reports.dealings])

theorem counted_close? (s : Session σ) (e : Option End) : Counted later next s (s.close? e) := by
  refine counted_of_started ?_ (by rw [started, started, dealings_close?])
  cases e <;> exact counts.refl s.host

theorem counted_spawn {launch : Launch} {answer : Except Fault Pid}
    (asked : s.spawn host launch = (answer, s')) : Counted later next s s' := by
  have more := (spawn_spec asked).2
  obtain ⟨told, rfl⟩ := Prod.mk.inj asked
  have after := counts.spawn launch s.host s.world
  cases answer with
  | ok pid =>
    have fresh := counts.started launch s.host s.world pid told
    refine ⟨after, [pid], ?_, List.pairwise_singleton .., List.forall_mem_singleton.2 fresh⟩
    rw [started, more, List.filterMap_append]
    rfl
  | error cause =>
    refine counted_of_started after ?_
    rw [started, more, List.filterMap_append]
    exact List.append_nil _

theorem counted_wait {pid : Pid} {answer : Except Fault Int}
    (asked : s.wait host pid = (answer, s')) : Counted later next s s' := by
  have more := (wait_spec asked).2
  obtain ⟨-, rfl⟩ := Prod.mk.inj asked
  refine counted_of_started (counts.wait pid s.host s.world) ?_
  rw [started, more, List.filterMap_append]
  exact List.append_nil _

theorem counted_poll {pid : Pid} {answer : Except Fault (Option Int)}
    (asked : s.poll host pid = (answer, s')) : Counted later next s s' := by
  have more := (poll_spec asked).2
  obtain ⟨-, rfl⟩ := Prod.mk.inj asked
  refine counted_of_started (counts.poll pid s.host s.world) ?_
  rw [started, more, List.filterMap_append]
  exact List.append_nil _

theorem later_writeAll (target : Option End) (texts : List String) (state : σ) (w : World) :
    later state (writeAll (host.write target) texts (state, w)).2.1 := by
  induction texts generalizing state w with
  | nil => exact counts.refl state
  | cons text rest ih =>
    have after := counts.write target (Text.bytes text) state w
    rw [writeAll]
    rcases wrote : host.write target (Text.bytes text) (state, w) with ⟨_ | cause, state', w'⟩
    · rw [wrote] at after
      exact counts.trans after (ih state' w')
    · rw [wrote] at after
      exact after

theorem counted_runBuiltin {stage : Stage} {output : Option End} {result : Except Fault Effect}
    (ran : s.runBuiltin host stage output = (result, s')) : Counted later next s s' := by
  have more := (runBuiltin_spec host stage output s).2
  rw [ran] at more
  obtain ⟨-, rfl⟩ := Prod.mk.inj ran
  refine counted_of_started (later_writeAll counts output _ s.host _) ?_
  rw [started, more, List.filterMap_append]
  exact List.append_nil _

/-! ## Runs -/

theorem Starts.counted {echo showChild : Bool} {path : String} {stages : List (Stage × Streams)}
    {begun : List Begun} (starts : Starts host echo showChild path s stages begun s') :
    Counted later next s s' := by
  induction starts with
  | nil s => exact counted_refl counts s
  | command _ _ ih =>
    exact ((onlyReports_trace ..).counted counts).trans counts
      ((counted_close? counts ..).trans counts ih)
  | process _ started _ ih =>
    exact ((onlyReports_trace ..).counted counts).trans counts
      ((counted_spawn counts started).trans counts
        (((onlyReports_announce ..).counted counts).trans counts ih))
  | refused _ refused _ ih =>
    exact ((onlyReports_trace ..).counted counts).trans counts
      ((counted_spawn counts refused).trans counts (((OnlyReports.note ..).counted counts).trans counts ih))

theorem Turns.counted {begun : List Begun} {fates : List Fate} (turns : Turns host s begun fates s') :
    Counted later next s s' := by
  induction turns with
  | nil s => exact counted_refl counts s
  | process _ _ ih | refused _ _ ih => exact ih
  | command ran _ ih =>
    exact (counted_runBuiltin counts ran).trans counts ((counted_close? counts ..).trans counts ih)

theorem Waits.counted {fates : List Fate} {statuses : List (Except Fault Int)}
    (waits : Waits host s fates statuses s') : Counted later next s s' := by
  induction waits with
  | nil s => exact counted_refl counts s
  | ended asked _ ih => exact (counted_wait counts asked).trans counts ih
  | lost asked _ ih =>
    exact (counted_wait counts asked).trans counts (((OnlyReports.note ..).counted counts).trans counts ih)
  | refused _ _ ih | succeeded _ _ ih | failed _ _ ih => exact ih

theorem counted_conclude (plan : Plan) (failures : List Fault) (fates : List Fate) (s : Session σ) :
    Counted later next s (s.conclude host plan failures (Fate.results fates)).2 := by
  unfold conclude
  split
  · exact counted_refl counts s
  · split
    · have added := (addJob_spec plan.describe (Fate.results fates).settled s).2.2
      refine counted_of_started (counts.refl s.host) ?_
      rw [started, (OnlyReports.note _ _).dealings, added, started]
    · obtain ⟨_, waits, -⟩ := waitAll_waits host fates s
      have waited := (waits.counted counts).trans counts
        ((OnlyReports.note _ (.phase .running .waited)).counted counts)
      dsimp only
      split <;> exact waited

theorem runPlan_counted (plan : Plan) (s : Session σ) :
    Counted later next s (s.runPlan host plan).2 := by
  cases wired : (plan.wire s.world).wiring with
  | error fault =>
    simp only [runPlan, wired]
    refine counted_of_started (counts.refl s.host) ?_
    rw [started, dealings_record, filter_reopened, List.append_nil]
    rfl
  | ok wiring =>
    obtain ⟨fates, t, ⟨begun, s₁, starts, turns⟩, ran⟩ := runPlan_launches host wired
    have readied : Counted later next s (s.ready plan wiring) :=
      counted_of_started (counts.refl s.host) (by rw [started, started, dealings_ready])
    rw [ran]
    exact readied.trans counts ((starts.counted counts).trans counts ((turns.counted counts).trans counts
      (((OnlyReports.note ..).counted counts).trans counts (counted_conclude counts ..))))

theorem execute_counted (line : Line) (s : Session σ) :
    Counted later next s (s.execute host line).2 := by
  rcases execute_cases host line s with ⟨result, s', eq, reports, -⟩ | ⟨plan, s', -, reports, eq⟩
  · rw [eq]
    exact reports.counted counts
  · rw [eq]
    exact (reports.counted counts).trans counts (runPlan_counted counts plan s')

theorem reap_counted (s : Session σ) : Counted later next s (s.reap host).2 := by
  have asked : Counted later next s (Job.askAll (watch host) s.jobs.jobs s).2 := by
    refine Job.askAll_preserves (fun pid t counted => ?_) (fun n t counted => ?_) s.jobs.jobs
      (counted_refl counts s)
    · exact counted.trans counts (counted_poll counts rfl)
    · exact counted.trans counts ((OnlyReports.note ..).counted counts)
  exact ⟨asked.host, asked.started⟩

theorem Lives.counted (lives : Lives host s s') : Counted later next s s' := by
  induction lives with
  | refl => exact counted_refl counts _
  | execute _ line ih => exact ih.trans counts (execute_counted counts line _)
  | reap _ ih => exact ih.trans counts (reap_counted counts _)

end

end Session
end PipeShell
