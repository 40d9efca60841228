import PipeShell.Notice

/-!
# Jobs

A job is a pipeline that the shell has left to itself. It is over once every one of its processes
has answered with a status or with an error. Its status is the one that was known when it was added,
and otherwise the answer of its last process, where an error counts as nothing and nothing as zero.

Jobs are numbered from one. A new job takes the least number that is free, and a number is free
again when its job has been handed out as finished.
-/

namespace PipeShell

inductive Ending where
  | status (code : Int)
  | lost
deriving DecidableEq, Repr

def Ending.code? : Ending → Option Int
  | status code => some code
  | lost => none

structure Member where
  pid : Pid
  ending : Option Ending := none
deriving DecidableEq, Repr

structure Job where
  index : Nat
  members : List Member
  command : String
  known : Option Int
deriving DecidableEq, Repr

namespace Job

def pids (job : Job) : List Pid := job.members.map Member.pid

def isOver (job : Job) : Bool := job.members.all (·.ending.isSome)

def status (job : Job) : Int :=
  match job.known with
  | some code => code
  | none => ((job.members.getLast?.bind Member.ending).bind Ending.code?).getD 0

def row (job : Job) (status : Option Int) : String :=
  let state := match status with
    | none => "running"
    | some code => if code = 0 then "done" else "exit " ++ toString code
  "[" ++ toString job.index ++ "] " ++ toString (job.pids.getLast?.getD 0) ++ " " ++ state
    ++ " " ++ job.command

end Job

/-- A way to ask after processes: `ask` answers with nothing while a process runs, and `tell` takes
a notice. -/
structure Watch (σ : Type) where
  ask : Pid → σ → Except Fault (Option Int) × σ
  tell : Notice → σ → σ

def Member.ask {σ : Type} (watch : Watch σ) (m : Member) (s : σ) : Member × σ :=
  match m.ending with
  | some _ => (m, s)
  | none =>
    match watch.ask m.pid s with
    | (.ok (some code), s) => ({ m with ending := some (.status code) }, s)
    | (.ok none, s) => (m, s)
    | (.error cause, s) => ({ m with ending := some .lost }, watch.tell (.reapFailed m.pid cause) s)

def Member.askAll {σ : Type} (watch : Watch σ) : List Member → σ → List Member × σ
  | [], s => ([], s)
  | m :: rest, s =>
    let (m, s) := m.ask watch s
    let (rest, s) := askAll watch rest s
    (m :: rest, s)

def Job.ask {σ : Type} (watch : Watch σ) (job : Job) (s : σ) : Job × σ :=
  let (members, s) := Member.askAll watch job.members s
  ({ job with members }, s)

def Job.askAll {σ : Type} (watch : Watch σ) : List Job → σ → List Job × σ
  | [], s => ([], s)
  | job :: rest, s =>
    let (job, s) := job.ask watch s
    let (rest, s) := askAll watch rest s
    (job :: rest, s)

/-- The jobs that are not known to be over, in the order in which they were added. -/
structure JobTable where
  jobs : List Job := []
deriving DecidableEq, Repr, Inhabited

namespace JobTable

def freeIndex (table : JobTable) : Nat :=
  let most := table.jobs.length + 1
  ((List.range' 1 most).find? fun i => table.jobs.all (·.index ≠ i)).getD most

def add (table : JobTable) (pids : List Pid) (command : String) (known : Option Int) :
    Nat × JobTable :=
  let index := table.freeIndex
  (index, ⟨table.jobs ++ [⟨index, pids.map ({ pid := · }), command, known⟩]⟩)

def reap {σ : Type} (watch : Watch σ) (table : JobTable) (s : σ) : List Job × JobTable × σ :=
  let (jobs, s) := Job.askAll watch table.jobs s
  (jobs.filter Job.isOver, ⟨jobs.filter fun job => !job.isOver⟩, s)

end JobTable
end PipeShell
