import PipeShell.Machine.Answer

/-!
# Scheduling

The clock of the machine. At each moment every process takes one step, in the order in which they
were started. When none of them can get on, the clock goes to the next moment at which one wakes.
-/

namespace PipeShell.Machine

/-! ## One step -/

/-- A process after it has written, or found out that it cannot write. What does not fit is written
later. Nothing comes of it as long as it has to wait. -/
def stepWrite (m : Machine) (w : World) (p : Process) (fd : Nat) (bytes : Bytes)
    (k : Option SystemError → Code) : Option (Machine × World) :=
  match p.channel? fd with
  | none => some (m.put { p with code := k (some .badDescriptor) }, w)
  | some channel =>
    let allowed := min bytes.length ((allowance? p w channel).getD bytes.length)
    let room := roomIn w channel allowed
    if allowed = 0 && !bytes.isEmpty then
      let p := { p with code := k (some .tooLarge) }
      some ((m.put p).deliver p fileSizeSignal w)
    else if room = 0 && !bytes.isEmpty then none
    else
      match writeChannel channel (bytes.take room) w with
      | (none, w) =>
        let code := if room < bytes.length then .ask (.write fd (bytes.drop room)) k else k none
        some (m.put { p with code }, w)
      | (some .brokenPipe, w) =>
        let p := { p with code := k (some .brokenPipe) }
        some ((m.put p).deliver p brokenPipeSignal w)
      | (some cause, w) => some (m.put { p with code := k (some cause) }, w)

/-- A step of a process that works. Nothing comes of it as long as it has to wait. -/
def stepProcess (programs : Catalogue) (m : Machine) (w : World) (p : Process) :
    Option (Machine × World) :=
  match p.code with
  | .exit status => some (m.finish p (.exited status) w)
  | .fork child k =>
    let pid := m.nextPid
    let m := m.put { p with code := k pid }
    some (m.start { p with pid, parent := p.pid, code := child, pending := [],
                           wake := m.clock + splitting }, w)
  | .ask (.write fd bytes) k => stepWrite m w p fd bytes k
  | .ask (.sleep moments) k => some (m.put { p with code := k (), wake := m.clock + moments }, w)
  | .ask (.exec path argv environment) k =>
    match executable w.files p.here path argv with
    | .error cause => some (m.put { p with code := k cause }, w)
    | .ok (name, argv) =>
      match programs name with
      | none => some (m.put { p with code := k .badFormat }, w)
      | some program =>
        let code := (program argv environment).code
        some (m.replaceProcess p (p.renewed code (m.clock + startup)) w)
  | .ask r k =>
    match m.answer w p r with
    | none => none
    | some (answer, m, w) =>
      -- The process may have ended by its own request.
      match m.process? p.pid with
      | some q => if q.fate.isSome then some (m, w) else some (m.put { q with code := k answer }, w)
      | none => some (m, w)

/-- Lets processes take one step each. The flag tells whether one of them has got on. -/
def stepAll (programs : Catalogue) : List Pid → Machine → World → Bool × Machine × World
  | [], m, w => (false, m, w)
  | pid :: rest, m, w =>
    let stepped := match m.process? pid with
      | some p => if p.fate.isSome || m.clock < p.wake then none else stepProcess programs m w p
      | none => none
    match stepped with
    | none => stepAll programs rest m w
    | some (m, w) =>
      let (_, m, w) := stepAll programs rest m w
      (true, m, w)

/-! ## Time -/

def nextWake (m : Machine) : Option Nat :=
  (m.processes.filterMap fun p =>
    if p.fate.isNone && m.clock < p.wake then some p.wake else none).min?

def fileMoment : Nat := second / 250

/-- Goes on to a later moment, at most to the last one that is given. -/
def tick (programs : Catalogue) (last : Nat) (m : Machine) (w : World) : Machine × World :=
  let w := { w with files := { w.files with now := m.clock / fileMoment + 1 } }
  let (moved, m, w) := stepAll programs (m.processes.map Process.pid) m w
  let next := if moved then m.clock + 1 else max (m.clock + 1) (m.nextWake.getD last)
  ({ m with clock := min next last }, w)

def passWithin (programs : Catalogue) (last : Nat) : Nat → Machine → World → Machine × World
  | 0, m, w => (m, w)
  | ticks + 1, m, w =>
    if last ≤ m.clock then (m, w)
    else
      let (m, w) := m.tick programs last w
      passWithin programs last ticks m w

def pass (programs : Catalogue) (moments : Nat) (m : Machine) (w : World) : Machine × World :=
  m.passWithin programs (m.clock + moments) moments w

def fateOf? (m : Machine) (pid : Pid) : Option Fate := (m.process? pid).bind Process.fate

def awaitWithin (programs : Catalogue) (last : Nat) (pid : Pid) :
    Nat → Machine → World → Option Fate × Machine × World
  | 0, m, w => (m.fateOf? pid, m, w)
  | ticks + 1, m, w =>
    match m.fateOf? pid with
    | some fate => (some fate, m, w)
    | none =>
      if last ≤ m.clock then (none, m, w)
      else
        let (m, w) := m.tick programs last w
        awaitWithin programs last pid ticks m w

def patience : Nat := 3600 * second

def await (programs : Catalogue) (pid : Pid) (m : Machine) (w : World) :
    Option Fate × Machine × World :=
  m.awaitWithin programs (m.clock + patience) pid patience w

end PipeShell.Machine
