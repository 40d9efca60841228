import PipeShell.Machine.Code
import PipeShell.World

/-!
# Processes

The processes of the machine. A process has code, a folder in which it stands, and descriptors, some
of which it may share with others: an end is closed when the last process that holds it lets go of
it. A process that has ended stays until its parent has asked for its fate. One whose parent has
ended is nobody's child and goes at once.
-/

namespace PipeShell

namespace Machine

inductive Channel where
  | own (stream : Nat)
  | held (e : End)
deriving DecidableEq, Repr

structure Process where
  pid : Pid
  parent : Pid
  code : Code
  descriptors : List (Nat × Channel)
  here : Nat
  mask : Nat := FileTree.mask
  limits : List (Char × Limit) := []
  dispositions : List (Nat × Disposition) := []
  pending : List Nat := []
  wake : Nat
  fate : Option Fate := none

namespace Process

def channel? (p : Process) (fd : Nat) : Option Channel := p.descriptors.lookup fd

def setChannel (p : Process) (fd : Nat) (channel : Channel) : Process :=
  { p with descriptors := (fd, channel) :: p.descriptors.filter (·.1 ≠ fd) }

def dropChannel (p : Process) (fd : Nat) : Process :=
  { p with descriptors := p.descriptors.filter (·.1 ≠ fd) }

def freeFrom (p : Process) (least : Nat) : Nat :=
  ((List.range (p.descriptors.length + 1)).map (least + ·)).find?
    (fun fd => (p.channel? fd).isNone) |>.getD least

def disposition (p : Process) (signal : Nat) : Disposition :=
  (p.dispositions.lookup signal).getD .default

def sizeLetter : Char := 'f'

def firmly (n : Nat) : Limit := ⟨some n, some n⟩

def usualLimits : List (Char × Limit) :=
  [('c', { soft := some 0 }), ('s', { soft := some (Nat.pow 2 23) }), ('l', firmly (Nat.pow 2 23)),
    ('p', firmly 128620), ('n', firmly 20000), ('r', firmly 0)]

def limit (p : Process) (resource : Char) : Limit :=
  ((p.limits.lookup resource).or (usualLimits.lookup resource)).getD {}

def withLimit? (p : Process) (resource : Char) (new : Limit) : Except SystemError Process :=
  let exceeds (a b : Option Nat) : Bool := match a, b with
    | _, none => false
    | none, some _ => true
    | some a, some b => b < a
  if exceeds new.soft new.hard then .error .invalid
  else if exceeds new.hard (p.limit resource).hard then .error .notPermitted
  else .ok { p with limits := (resource, new) :: p.limits.filter (·.1 ≠ resource) }

/-- The number from which on descriptors do not pass over to another program. -/
def firstHidden : Nat := 10

/-- What a process keeps of itself when it becomes another program. -/
def renewed (p : Process) (code : Code) (wake : Nat) : Process :=
  { p with
    code, wake
    descriptors := p.descriptors.filter (·.1 < firstHidden)
    dispositions := p.dispositions.filter (·.2 ≠ .caught)
    pending := [] }

end Process
end Machine

structure Machine where
  clock : Nat := 0
  processes : List Machine.Process := []
  nextPid : Pid := 1001

namespace Machine

/-! ## Time -/

def second : Nat := 100000

/-- How long a program takes to start, and how long a child takes to split off. -/
def startup : Nat := second / 1000

def splitting : Nat := startup / 4

/-! ## Looking up and changing processes -/

def process? (m : Machine) (pid : Pid) : Option Process := m.processes.find? (·.pid == pid)

def put (m : Machine) (p : Process) : Machine :=
  { m with processes := m.processes.map fun q => if q.pid = p.pid then p else q }

def forget (pid : Pid) (m : Machine) : Machine :=
  { m with processes := m.processes.filter (·.pid ≠ pid) }

def shellPid : Pid := 0

def nobody : Pid := -1

def isHeld (m : Machine) (e : End) : Bool :=
  m.processes.any fun p => p.descriptors.any (·.2 == .held e)

def release (m : Machine) (channels : List Channel) (w : World) : World :=
  channels.foldl
    (fun w channel =>
      match channel with
      | .held e => if m.isHeld e then w else w.close e
      | .own _ => w)
    w

def replaceProcess (m : Machine) (before after : Process) (w : World) : Machine × World :=
  let m := m.put after
  (m, m.release (before.descriptors.map Prod.snd) w)

def orphan (m : Machine) (pid : Pid) : Machine :=
  { m with
    processes := m.processes.filterMap fun p =>
      if p.parent = pid then if p.fate.isSome then none else some { p with parent := nobody }
      else some p }

def childSignal : Nat := 17

def notify (m : Machine) (pid : Pid) (signal : Nat) : Machine :=
  match m.process? pid with
  | some p =>
    if p.fate.isNone && p.disposition signal = .caught then
      m.put { p with pending := p.pending ++ [signal] }
    else m
  | none => m

def finish (m : Machine) (p : Process) (fate : Fate) (w : World) : Machine × World :=
  let (m, w) := m.replaceProcess p { p with fate := some fate, descriptors := [], pending := [] } w
  let m := (m.orphan p.pid).notify p.parent childSignal
  (if p.parent = nobody then m.forget p.pid else m, w)

def start (m : Machine) (p : Process) : Machine :=
  { m with processes := m.processes ++ [p], nextPid := m.nextPid + 1 }

/-! ## Signals -/

def killSignal : Nat := 9

def brokenPipeSignal : Nat := 13

def fileSizeSignal : Nat := 25

def isHarmless (signal : Nat) : Bool :=
  signal ∈ [0, childSignal, 18, 19, 20, 21, 22, 23, 28]

def deliver (m : Machine) (p : Process) (signal : Nat) (w : World) : Machine × World :=
  if p.fate.isSome || signal = 0 then (m, w)
  else if signal = killSignal then m.finish p (.killed signal) w
  else
    match p.disposition signal with
    | .ignored => (m, w)
    | .caught =>
      (m.put { p with pending := p.pending ++ [signal], wake := min p.wake m.clock }, w)
    | .default => if isHarmless signal then (m, w) else m.finish p (.killed signal) w

end Machine
end PipeShell
