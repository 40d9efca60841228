import PipeShell.Host
import PipeShell.Job

/-!
# Hosts that follow a script

On this host the programs do what a script says: whether they start, what they write, whether they
read, and how and when they end. A program writes as it starts. What it reads it keeps open until it
is asked for what it got. Two runs under one script are alike, so such a host serves to say what a
shell does over any mix of programs.
-/

namespace PipeShell

structure Script where
  refusal : Option String := none
  writes : String := ""
  reads : Bool := true
  status : Int := 0
  lostToWait : Bool := false
  polls : Nat := 0
  lostToPoll : Bool := false
deriving DecidableEq, Repr, Inhabited

structure ScriptedProcess where
  pid : Pid
  script : Script
  input : Option End
  polled : Nat := 0
deriving DecidableEq, Repr

structure ScriptedHost where
  scripts : List (String × Script) := []
  processes : List ScriptedProcess := []
deriving DecidableEq, Repr, Inhabited

namespace ScriptedHost

def firstPid : Pid := 1001

def script (h : ScriptedHost) (command : String) : Script := (h.scripts.lookup command).getD {}

def process? (h : ScriptedHost) (pid : Pid) : Option ScriptedProcess :=
  h.processes.find? (·.pid == pid)

def spawn (launch : Launch) (h : ScriptedHost) (w : World) : Reply ScriptedHost Pid :=
  let command := launch.argv.headD ""
  let script := h.script command
  match script.refusal with
  | some reason =>
    { answer := .error (.launch command (.refused reason)), host := h
      world := (w.close? launch.streams.input).close? launch.streams.output }
  | none =>
    let written := (w.write launch.streams.output (Text.bytes script.writes)).2
    let pid := firstPid + h.processes.length
    let process := ⟨pid, script, if script.reads then launch.streams.input else none, 0⟩
    let w := if script.reads then written else written.close? launch.streams.input
    { answer := .ok pid, host := { h with processes := h.processes ++ [process] }
      world := w.close? launch.streams.output }

def wait (pid : Pid) (h : ScriptedHost) (w : World) : Reply ScriptedHost Int :=
  let answer := match h.process? pid with
    | some p => if p.script.lostToWait then .error (.ending .noChild) else .ok p.script.status
    | none => .error (.ending .noChild)
  { answer, host := h, world := w }

def poll (pid : Pid) (h : ScriptedHost) (w : World) : Reply ScriptedHost (Option Int) :=
  let answer := match h.process? pid with
    | some p =>
      if p.polled < p.script.polls then .ok none
      else if p.script.lostToPoll then .error (.ending .noChild)
      else .ok (some p.script.status)
    | none => .error (.ending .noChild)
  let processes := h.processes.map fun p => if p.pid = pid then { p with polled := p.polled + 1 } else p
  { answer, host := { h with processes }, world := w }

def write (target : Option End) (bytes : Bytes) (at' : ScriptedHost × World) :
    Option SystemError × ScriptedHost × World :=
  let (refused, w) := at'.2.write target bytes
  (refused, at'.1, w)

def host : Host ScriptedHost := ⟨spawn, wait, poll, write⟩

/-! ## What the processes got -/

def drainAll : List ScriptedProcess → World → List (Pid × Option Bytes) × World
  | [], w => ([], w)
  | p :: rest, w =>
    match p.input with
    | none =>
      let (others, w) := drainAll rest w
      ((p.pid, none) :: others, w)
    | some e =>
      let (got, w) := w.read e (w.available e)
      let (others, w) := drainAll rest (w.close e)
      ((p.pid, some (got.toOption.getD [])) :: others, w)

def receive (start : Nat) (h : ScriptedHost) (w : World) :
    List (Pid × Option Bytes) × ScriptedHost × World :=
  let (got, w) := drainAll (h.processes.drop start) w
  (got, { h with processes := h.processes.map ({ · with input := none }) }, w)

end ScriptedHost

/-! ## Answers alone -/

/-- For each process the answers that it will give, and the processes asked so far. A process without
answers is not there. -/
structure AnswerSheet where
  answers : List (Pid × List (Except Fault (Option Int))) := []
  asked : List Pid := []
  notices : List Notice := []

namespace AnswerSheet

def ask (pid : Pid) (sheet : AnswerSheet) : Except Fault (Option Int) × AnswerSheet :=
  let answers := (sheet.answers.lookup pid).getD []
  (answers.headD (.error (.ending .noChild)),
    { sheet with
      answers := (pid, answers.tail) :: sheet.answers.filter (·.1 ≠ pid)
      asked := sheet.asked ++ [pid] })

def tell (n : Notice) (sheet : AnswerSheet) : AnswerSheet :=
  { sheet with notices := sheet.notices ++ [n] }

def watch : Watch AnswerSheet := ⟨ask, tell⟩

end AnswerSheet
end PipeShell
