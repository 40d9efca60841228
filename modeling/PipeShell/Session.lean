import PipeShell.Builtins
import PipeShell.Host
import PipeShell.Job
import PipeShell.Wiring

/-!
# Sessions

A session is all that a shell has between two lines: its variables and settings, its jobs, the host
with its processes, and the world. It also keeps in order what the shell did: which ends it opened,
gave away and closed, what it asked of the host, and what it noted in its log. What reaches the error
output stands there too, between the notices as it came.
-/

namespace PipeShell

inductive Event where
  | note (notice : Notice)
  | opened (e : End)
  | closed (e : End)
  /-- The host was asked to start a program. The ends went over with it. -/
  | spawned (launch : Launch) (answer : Except Fault Pid)
  | waited (pid : Pid) (answer : Except Fault Int)
  | polled (pid : Pid) (answer : Except Fault (Option Int))
  | builtin (stage : Stage)
  | errorText (bytes : Bytes)

namespace Event

def notice? : Event → Option Notice
  | note n => some n
  | _ => none

end Event

structure Session (σ : Type) where
  host : σ
  world : World := {}
  symbols : Symbols := .empty
  settings : Settings := {}
  jobs : JobTable := {}
  events : List Event := []

namespace Session
variable {σ : Type}

def record (s : Session σ) (events : List Event) : Session σ :=
  { s with events := s.events ++ events }

def note (s : Session σ) (n : Notice) : Session σ := s.record [.note n]

def noteAll (s : Session σ) (ns : List Notice) : Session σ := s.record (ns.map .note)

def notices (s : Session σ) : List Notice := s.events.filterMap Event.notice?

def printError (s : Session σ) (text : String) : Session σ :=
  let bytes := Text.bytes text
  { s with world := s.world.writeError bytes }.record [.errorText bytes]

def print (s : Session σ) (text : String) : Session σ :=
  { s with world := (s.world.write none (Text.bytes text)).2 }

def close? (s : Session σ) (e : Option End) : Session σ :=
  match e with
  | some e => { s with world := s.world.close e }.record [.closed e]
  | none => s

def overheard {α : Type} (s : Session σ) (r : Reply σ α) : List Event :=
  match r.world.errors.drop s.world.errors.length with
  | [] => []
  | bytes => [.errorText bytes]

def receive {α : Type} (s : Session σ) (r : Reply σ α) (event : Except Fault α → Event) :
    Except Fault α × Session σ :=
  (r.answer,
    { s with host := r.host, world := r.world }.record
      (event r.answer :: r.notices.map .note ++ s.overheard r))

def spawn (host : Host σ) (launch : Launch) (s : Session σ) : Except Fault Pid × Session σ :=
  s.receive (host.spawn launch s.host s.world) (.spawned launch)

def wait (host : Host σ) (pid : Pid) (s : Session σ) : Except Fault Int × Session σ :=
  s.receive (host.wait pid s.host s.world) (.waited pid)

def poll (host : Host σ) (pid : Pid) (s : Session σ) : Except Fault (Option Int) × Session σ :=
  s.receive (host.poll pid s.host s.world) (.polled pid)

def directory (s : Session σ) : String × Session σ :=
  match s.world.directory with
  | .ok path => (path, s)
  | .error cause => ("", s.note (.directoryLost cause))

/-- Where programs are searched: the variable counts if it is not empty, then the environment. -/
def searchPath (s : Session σ) : String :=
  let own := s.symbols.lookup "PATH"
  if own = "" then s.world.environment.get "PATH" else own

def surroundings (s : Session σ) : Surroundings := ⟨s.symbols, s.settings, s.world⟩

def withSurroundings (s : Session σ) (a : Surroundings) : Session σ :=
  { s with symbols := a.symbols, settings := a.settings, world := a.world }

def runBuiltin (host : Host σ) (stage : Stage) (output : Option End) (s : Session σ) :
    Except Fault Effect × Session σ :=
  let act := stage.act s.surroundings
  let (refused, state, world) := writeAll (host.write output) act.texts (s.host, act.after.world)
  let heard := match world.errors.drop act.after.world.errors.length with
    | [] => []
    | bytes => [.errorText bytes]
  let s := (s.record [.builtin stage]).noteAll act.notices
  let s := { s.withSurroundings { act.after with world } with host := state }
  (act.conclude stage.kind refused, s.record heard)

def reap (host : Host σ) (s : Session σ) : List Job × Session σ :=
  let (done, jobs, s) := s.jobs.reap ⟨poll host, fun n s => s.note n⟩ s
  (done, { s with jobs })

end Session
end PipeShell
