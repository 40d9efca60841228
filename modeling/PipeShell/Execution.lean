import PipeShell.Line.Expand
import PipeShell.Session

/-!
# Running a line

A line is expanded, made ready and wired before anything starts, so a line that is malformed or whose
files do not open has no effect. Then the programs are started in the order of the stages. A built-in
stage has to wait: its input is closed at once, since it never reads, and its turn comes when all
programs have been started and there is someone to read what it writes. At the end the shell leaves,
or leaves the pipeline to itself as a job, or waits for each process in turn; the status of the last
stage is the status of the line.
-/

namespace PipeShell

inductive Outcome where
  | finished (status : Int)
  | background (job : Nat)
  | exit (code : Int)
deriving DecidableEq, Repr

structure Execution where
  outcome : Outcome
  failures : List Fault
deriving DecidableEq, Repr

inductive Begun where
  | process (pid : Pid)
  | failed (cause : Fault)
  | deferred (stage : Stage) (output : Option End)
deriving DecidableEq, Repr

inductive Settled where
  | process (pid : Pid)
  | ended (status : Int)
deriving DecidableEq, Repr

def Begun.fault? : Begun → Option Fault
  | failed cause => some cause
  | _ => none

def Settled.pid? : Settled → Option Pid
  | process pid => some pid
  | ended _ => none

def Settled.status? : Settled → Option Int
  | process _ => none
  | ended status => some status

def statusNotFound : Int := 127

namespace Session
variable {σ : Type}

/-! ## Starting -/

def begin (host : Host σ) (path : String) (stage : Stage) (streams : Streams) (s : Session σ) :
    Begun × Session σ :=
  let command := " ".intercalate stage.argv
  let s := if s.settings.echo then s.printError ("+ " ++ command ++ "\n") else s
  if stage.kind.isBuiltin then
    (.deferred stage streams.output, s.close? streams.input)
  else
    match s.spawn host ⟨stage.argv, path, streams⟩ with
    | (.ok pid, s) =>
      let row := "[" ++ toString pid ++ "] " ++ stage.argv.headD "" ++ "\n"
      (.process pid, if s.settings.showChild then s.printError row else s)
    | (.error cause, s) => (.failed cause, s.note (.launchFailed cause))

def beginAll (host : Host σ) (path : String) :
    List (Stage × Streams) → Session σ → List Begun × Session σ
  | [], s => ([], s)
  | (stage, streams) :: rest, s =>
    let (first, s) := s.begin host path stage streams
    let (others, s) := beginAll host path rest s
    (first :: others, s)

/-! ## Built-in commands -/

structure BuiltinResults where
  settled : List Settled := []
  failures : List Fault := []
  exit : Option Int := none

def BuiltinResults.cons (stage : Settled) (failure : Option Fault) (exit : Option Int)
    (r : BuiltinResults) : BuiltinResults :=
  ⟨stage :: r.settled, failure.toList ++ r.failures, r.exit <|> exit⟩

/-- Runs the commands that were put off, each with the session that the one before it left. -/
def runDeferred (host : Host σ) : List Begun → Session σ → BuiltinResults × Session σ
  | [], s => ({}, s)
  | .process pid :: rest, s =>
    let (r, s) := runDeferred host rest s
    (r.cons (.process pid) none none, s)
  | .failed _ :: rest, s =>
    let (r, s) := runDeferred host rest s
    (r.cons (.ended statusNotFound) none none, s)
  | .deferred stage output :: rest, s =>
    let (result, s) := s.runBuiltin host stage output
    let (r, s) := runDeferred host rest (s.close? output)
    match result with
    | .ok (.status code) => (r.cons (.ended code) none none, s)
    | .ok (.exit code) => (r.cons (.ended 0) none (some code), s)
    | .error cause => (r.cons (.ended 1) (some cause) none, s)

/-! ## Endings -/

/-- Waits for each process in turn, also after a wait that failed. Gives the statuses of the stages
and the first failure. -/
def waitAll (host : Host σ) : List Settled → Session σ → List Int × Option Fault × Session σ
  | [], s => ([], none, s)
  | .ended status :: rest, s =>
    let (statuses, failure, s) := waitAll host rest s
    (status :: statuses, failure, s)
  | .process pid :: rest, s =>
    match s.wait host pid with
    | (.ok status, s) =>
      let (statuses, failure, s) := waitAll host rest s
      (status :: statuses, failure, s)
    | (.error cause, s) =>
      let (statuses, _, s) := waitAll host rest (s.note (.waitFailed pid cause))
      (statusNotFound :: statuses, some cause, s)

def addJob (command : String) (stages : List Settled) (s : Session σ) : Nat × Session σ :=
  let pids := stages.filterMap Settled.pid?
  let (index, jobs) := s.jobs.add pids command (stages.getLast?.bind Settled.status?)
  (index, { s with jobs }.note (.jobAdded index pids command))

def runWired (host : Host σ) (plan : Plan) (wiring : Wiring) (s : Session σ) :
    Except Fault Execution × Session σ :=
  let s := s.note (.phase .assembled .launching)
  let (begun, s) := s.beginAll host s.searchPath (plan.stages.zip wiring.stages)
  let (results, s) := runDeferred host begun s
  let s := s.note (.phase .launching .running)
  let failures := begun.filterMap Begun.fault? ++ results.failures
  match results.exit with
  | some code => (.ok ⟨.exit code, failures⟩, s)
  | none =>
    if plan.background then
      let (index, s) := s.addJob plan.describe results.settled
      (.ok ⟨.background index, failures⟩, s.note (.phase .running .collected))
    else
      let (statuses, failure, s) := s.waitAll host results.settled
      let s := s.note (.phase .running .waited)
      match failure with
      | some cause => (.error cause, s)
      | none => (.ok ⟨.finished (statuses.getLast?.getD 0), failures⟩, s)

def runPlan (host : Host σ) (plan : Plan) (s : Session σ) : Except Fault Execution × Session σ :=
  let attempt := plan.wire s.world
  let s := { s with world := attempt.world }
  match attempt.wiring with
  | .error fault =>
    (.error fault, s.record (attempt.closed.toList.flatMap fun e => [.opened e, .closed e]))
  | .ok wiring =>
    s.record (wiring.opened.map .opened)
      |>.note (.wired plan.stages.length wiring.pipes)
      |>.runWired host plan wiring

def execute (host : Host σ) (line : Line) (s : Session σ) : Except Fault Execution × Session σ :=
  match line.expand s.symbols with
  | .error cause => (.error (.malformed cause), s)
  | .ok (line, notices) =>
    let s := s.noteAll notices
    let assembly := line.assemble
    let s := s.noteAll assembly.notices
    match assembly.plan with
    | .error cause => (.error (.malformed cause), s)
    | .ok plan =>
      if plan.stages.isEmpty then (.ok ⟨.finished 0, []⟩, s) else s.runPlan host plan

end Session
end PipeShell
