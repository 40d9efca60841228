import PipeShell.Proofs.Asking

/-!
# Runs of calls

An executor lives through many calls: it is given lines to run, and asked after its jobs. All that
stays with it from one call to the next is its table of jobs. The host, the files and the variables
may be others at every call. What a call can do to processes and jobs is said once (`Turn.Moves`,
`serve_moves`); everything about whole runs follows from that.
-/

namespace PipeShell

inductive Request where
  | execute (line : Line)
  | reap

/-- A call, with the state of the host and the surroundings that it finds. -/
structure Call (σ : Type) where
  request : Request
  host : σ
  surroundings : Surroundings

def Call.session {σ : Type} (call : Call σ) (jobs : JobTable) : Session σ where
  host := call.host
  world := call.surroundings.world
  symbols := call.surroundings.symbols
  settings := call.surroundings.settings
  jobs := jobs

structure Turn where
  plan : Option Plan := none
  result : Option (Except Fault Execution) := none
  reported : List Job := []
  dealings : List Event := []
deriving DecidableEq

namespace Turn

def launches (turn : Turn) : List Launch := turn.dealings.filterMap Event.launch?

def started (turn : Turn) : List Pid := turn.dealings.filterMap Event.started?

def waited (turn : Turn) : List Pid := turn.dealings.filterMap Event.waited?

def polled (turn : Turn) : List (Pid × Except Fault (Option Int)) :=
  turn.dealings.filterMap Event.polled?

def exited (turn : Turn) : Bool :=
  match turn.result with
  | some (.ok ⟨.exit _, _⟩) => true
  | _ => false

def background (turn : Turn) : Bool := turn.plan.any Plan.background

end Turn

def Call.serve {σ : Type} (host : Host σ) (call : Call σ) (jobs : JobTable) : Turn × JobTable :=
  let s := call.session jobs
  match call.request with
  | .execute line =>
    let (result, after) := s.execute host line
    ({ plan := line.plan? s.symbols, result, dealings := after.dealings }, after.jobs)
  | .reap =>
    let (reported, after) := s.reap host
    ({ reported, dealings := after.dealings }, after.jobs)

def serveAll {σ : Type} (host : Host σ) : List (Call σ) → JobTable → List Turn × JobTable
  | [], jobs => ([], jobs)
  | call :: rest, jobs =>
    let (turn, jobs) := call.serve host jobs
    let (turns, jobs) := serveAll host rest jobs
    (turn :: turns, jobs)

/-! ## What a call can do -/

inductive Turn.Moves : JobTable → Turn → JobTable → Prop
  | idle {jobs : JobTable} {plan : Option Plan} {result : Except Fault Execution}
      (finishes : Finishes result) : Moves jobs { plan, result := some result } jobs
  | exit {jobs : JobTable} {plan : Plan} {es : List Event} (launched : plan.Launched es)
      (code : Int) (failures : List Fault) :
      Moves jobs { plan, result := some (.ok ⟨.exit code, failures⟩), dealings := es } jobs
  | background {jobs : JobTable} {plan : Plan} {es : List Event} (launched : plan.Launched es)
      (apart : plan.background) (failures : List Fault) (command : String) (known : Option Int) :
      Moves jobs
        { plan
          result := some (.ok ⟨.background jobs.freeIndex, failures⟩)
          dealings := es }
        (jobs.add (es.filterMap Event.started?) command known).2
  | foreground {jobs : JobTable} {plan : Plan} {es ws : List Event} (launched : plan.Launched es)
      (here : plan.background = false) {result : Except Fault Execution}
      (finishes : Finishes result)
      (waited : ws.filterMap Event.waited? = es.filterMap Event.started?)
      (waits : ∀ e ∈ ws, ∃ pid answer, e = .waited pid answer) :
      Moves jobs { plan, result := some result, dealings := es ++ ws } jobs
  | reap {jobs : JobTable} {es : List Event} {asked : List Job}
      (asks : Job.Asked jobs.jobs es asked) :
      Moves jobs { reported := asked.filter Job.isOver, dealings := es }
        ⟨asked.filter fun job => !job.isOver⟩

theorem conclude_moves {σ : Type} (host : Host σ) {plan : Plan} {failures : List Fault}
    {results : Session.BuiltinResults} {s s' : Session σ} {result : Except Fault Execution}
    (launched : plan.Launched s.dealings)
    (pids : results.settled.filterMap Settled.pid? = s.dealings.filterMap Event.started?)
    (ends : s.conclude host plan failures results = (result, s')) :
    Turn.Moves s.jobs { plan, result, dealings := s'.dealings } s'.jobs := by
  unfold Session.conclude at ends
  split at ends
  · rename_i code _
    cases ends
    exact .exit launched code failures
  · by_cases apart : plan.background
    · simp only [apart, if_true] at ends
      obtain ⟨index, jobs, dealings⟩ := Session.addJob_spec plan.describe results.settled s
      have noted := Session.OnlyReports.note (s.addJob plan.describe results.settled).2
        (.phase .running .collected)
      cases ends
      rw [noted.jobs, noted.dealings, index, jobs, dealings, pids]
      exact .background launched apart failures _ _
    · simp only [apart] at ends
      obtain ⟨jobs, ws, dealings, waited, only, -⟩ :=
        Session.waitAll_spec host results.settled s
      have noted := Session.OnlyReports.note (s.waitAll host results.settled).2.2
        (.phase .running .waited)
      rw [pids] at waited
      have here : plan.background = false := by simpa using apart
      cases failure : (s.waitAll host results.settled).2.1 with
      | some cause =>
        simp only [failure] at ends
        cases ends
        rw [noted.jobs, noted.dealings, jobs, dealings]
        exact .foreground launched here (.error _) waited only
      | none =>
        simp only [failure] at ends
        cases ends
        rw [noted.jobs, noted.dealings, jobs, dealings]
        exact .foreground launched here (.finished _ _) waited only

theorem Call.serve_moves {σ : Type} (host : Host σ) (call : Call σ) (jobs : JobTable) :
    (call.serve host jobs).1.Moves jobs (call.serve host jobs).2 := by
  unfold serve
  have fresh : (call.session jobs).dealings = [] := rfl
  split
  · rename_i line _
    dsimp only
    rcases Session.execute_cases host line (call.session jobs) with
      ⟨result, s', eq, noted, finishes⟩ | ⟨plan, s', ready, noted, eq⟩
    · rw [eq, noted.jobs, noted.dealings]
      exact .idle finishes
    · rw [eq, ready]
      rcases Session.runPlan_cases host plan s' with
        ⟨fault, s₁, eq, kept, same⟩ | ⟨wiring, s₁, enough, eq, kept, same⟩
      · rw [show s'.runPlan host plan = _ from eq plan.background, kept, same, noted.jobs,
          noted.dealings]
        exact .idle (.error _)
      · rw [show s'.runPlan host plan = _ from eq plan.background, Session.runWired_eq]
        obtain ⟨jobs', es, dealings, launched, pids⟩ := Session.launch_spec host plan enough s₁
        rw [same, noted.dealings, fresh, List.nil_append] at dealings
        rw [kept, noted.jobs] at jobs'
        rw [← dealings] at launched pids
        rcases ends : (s₁.launch host plan.stages wiring).2.2.conclude host plan
          (s₁.launch host plan.stages wiring).1 (s₁.launch host plan.stages wiring).2.1
          with ⟨result, s₂⟩
        have moves := conclude_moves host launched pids ends
        rwa [jobs'] at moves
  · obtain ⟨es, asked, asks, reported, left, dealings⟩ :=
      Session.reap_spec host (call.session jobs)
    simp only [reported, left, dealings, fresh, List.nil_append]
    exact .reap asks

inductive Runs : JobTable → List Turn → JobTable → Prop
  | nil {jobs : JobTable} : Runs jobs [] jobs
  | cons {jobs next last : JobTable} {turn : Turn} {turns : List Turn}
      (move : turn.Moves jobs next) (rest : Runs next turns last) : Runs jobs (turn :: turns) last

theorem serveAll_runs {σ : Type} (host : Host σ) (calls : List (Call σ)) (jobs : JobTable) :
    Runs jobs (serveAll host calls jobs).1 (serveAll host calls jobs).2 := by
  induction calls generalizing jobs with
  | nil => exact .nil
  | cons call rest ih => exact .cons (call.serve_moves host jobs) (ih _)

end PipeShell
