import PipeShell.Machine.Script.Expansion

/-!
# Jobs and descriptors

What a shell does with processes and descriptors: it splits off children, waits for them, becomes
another program, and sends descriptors elsewhere and back again.
-/

namespace PipeShell.Machine.Script
open Act

/-! ## Signals -/

def signalTable : List (String × String) :=
  [("EXIT", ""), ("HUP", "Hangup"), ("INT", "Interrupt"), ("QUIT", "Quit"),
    ("ILL", "Illegal instruction"), ("TRAP", "Trace/breakpoint trap"), ("ABRT", "Aborted"),
    ("BUS", "Bus error"), ("FPE", "Floating point exception"), ("KILL", "Killed"),
    ("USR1", "User defined signal 1"), ("SEGV", "Segmentation fault"),
    ("USR2", "User defined signal 2"), ("PIPE", "Broken pipe"), ("ALRM", "Alarm clock"),
    ("TERM", "Terminated"), ("16", "Stack fault"), ("CHLD", "Child exited"),
    ("CONT", "Continued"), ("STOP", "Stopped (signal)"), ("TSTP", "Stopped"),
    ("TTIN", "Stopped (tty input)"), ("TTOU", "Stopped (tty output)"),
    ("URG", "Urgent I/O condition"), ("XCPU", "CPU time limit exceeded"),
    ("XFSZ", "File size limit exceeded"), ("VTALRM", "Virtual timer expired"),
    ("PROF", "Profiling timer expired"), ("WINCH", "Window changed"), ("IO", "I/O possible"),
    ("PWR", "Power failure"), ("SYS", "Bad system call")]

def firstRealTime : Nat := 34

def signalCount : Nat := 65

def signalName (n : Nat) : Octets :=
  match signalTable[n]? with
  | some (name, _) => name
  | none =>
    if n = firstRealTime then "RTMIN"
    else if n < firstRealTime then toString n
    else if n = signalCount - 1 then "RTMAX"
    else if n < 50 then "RTMIN+" ++ toString (n - firstRealTime)
    else "RTMAX-" ++ toString (signalCount - 1 - n)

def signalNumber? (least : Nat) (text : Octets) : Option Nat :=
  match Octets.decimal? text with
  | some n => if n < signalCount then some n else none
  | none => (List.range' least (signalCount - least)).find? fun n => signalName n == text.toUpper

def signalText (n : Nat) : Octets :=
  match signalTable[n]? with
  | some (_, text) => text
  | none =>
    if n < firstRealTime then "Unknown signal " ++ toString n
    else "Real-time signal " ++ toString (n - firstRealTime)

def hasTraps (m : Memory) : Bool := m.traps.any (·.2 ≠ "")

def noticeSignals : Act Unit := do
  if (← get).traps.any (fun (n, text) => n ≠ 0 && text ≠ "") then
    let signals ← ask .caught
    modify fun m => { m with signals := m.signals ++ signals }

/-! ## Children -/

def statusOfFate : Fate → Nat
  | .exited status => status
  | .killed signal => 128 + signal

def quietSignals : List Nat := [2, 13]

def recordFate (pid : Pid) (fate : Fate) : Act Unit :=
  modify fun m =>
    { m with
      jobs := m.jobs.map fun job =>
        { job with
          processes := job.processes.map fun p =>
            if p.pid = pid then { p with fate := some fate } else p } }

def isOver (job : ScriptJob) : Bool := job.processes.all (·.fate.isSome)

def statusOfJob (job : ScriptJob) : Nat :=
  ((job.processes.getLast?.bind JobProcess.fate).map statusOfFate).getD 0

def job? (number : Nat) : Act (Option ScriptJob) :=
  return (← get).jobs.find? (·.number = number)

/-- Waits until a child has ended. Gives whether there was one; a signal for which there is an action
ends the waiting too if that is asked for. -/
def awaitOne (shown : Nat → Bool) (mayStop : Bool) : Act Bool := do
  match ← ask (.awaitChild .wait) with
  | .ended pid fate =>
    let m ← get
    let number := (m.jobs.find? (·.processes.any (·.pid = pid))).map ScriptJob.number
    recordFate pid fate
    match fate with
    | .killed signal =>
      if number.any shown && !quietSignals.contains signal then
        complain (signalText signal ++ "\n")
    | .exited _ => pure ()
    return true
  | .interrupted =>
    noticeSignals
    return !(mayStop && !(← get).signals.isEmpty)
  | _ => return false

def forgetJob (number : Nat) : Act Unit :=
  modify fun m => { m with jobs := m.jobs.filter (·.number ≠ number) }

def addJob (pids : List Pid) : Act Nat := do
  let jobs := (← get).jobs
  let isTaken (number : Nat) : Bool := jobs.any fun job =>
    job.number = number && !(isOver job && job.waited)
  let number := (List.range' 1 (jobs.length + 1)).find? (!isTaken ·) |>.getD 1
  forgetJob number
  let job : ScriptJob := { number, processes := pids.map fun pid => { pid } }
  modify fun m => { m with jobs := m.jobs ++ [job] }
  return number

def markWaited (holds : ScriptJob → Bool) : Act Unit :=
  modify fun m =>
    { m with jobs := m.jobs.map fun job => if holds job then { job with waited := true } else job }

def awaitJob (number : Nat) : Act Nat := do
  iterate (fun (_ : Unit) => do
    match ← job? number with
    | none => return .inr 0
    | some job =>
      if isOver job then
        forgetJob number
        return .inr (statusOfJob job)
      else if ← awaitOne (· = number) false then return .inl ()
      else
        forgetJob number
        return .inr (statusOfJob job)) ()

inductive Kinship where
  | foreground
  | background (emptyInput : Bool)
deriving DecidableEq

def becomeChild (k : Kinship) : Act Unit := do
  let m ← get
  for (signal, text) in m.traps do
    if signal ≠ 0 && text ≠ "" then
      let _ ← ask (.handle signal .default)
  set { m with traps := m.traps.filter (·.2 = ""), jobs := [], isChild := true, signals := [],
               lineRead := m.baseLine, waiting := {} }
  match k with
  | .foreground => pure ()
  | .background emptyInput =>
    for signal in [2, 3] do
      let _ ← ask (.handle signal .ignored)
      modify fun m => { m with fixedSignals := signal :: m.fixedSignals }
    if emptyInput then
      ask (.close Prog.input)
      let _ ← ask (.open "/dev/null" .read)

/-! ## Other programs -/

def searchFolders (path : Octets) : List Octets := (path.splitOn ":")

def inFolder (folder name : Octets) : Octets := if folder = "" then name else folder ++ "/" ++ name

def searchPath : Act Octets := return (← value? "PATH").getD ""

def executionText (cause : SystemError) : Octets :=
  match cause with
  | .noEntry | .notDirectory => "not found"
  | other => other.text

/-- The program on the search path that a name means. A folder with this name is no program. -/
def findProgram (name path : Octets) : Act (Except SystemError Octets) := do
  let rec search (cause : SystemError) : List Octets → Act (Except SystemError Octets)
    | [] => return .error cause
    | folder :: rest => do
      let full := inFolder folder name
      match ← ask (.status full true) with
      | .ok status => if status.kind = .regular then return .ok full else search .denied rest
      | .error .noEntry | .error .notDirectory => search cause rest
      | .error other => search other rest
  search .noEntry (searchFolders path)

def ownInterpreter : Octets := "/bin/sh"

def tryProgram (path : Octets) (argv : List Octets) : Act SystemError := do
  let environment ← environment
  match ← ask (.exec path argv environment) with
  | .badFormat => ask (.exec ownInterpreter (ownInterpreter :: path :: argv.tail) environment)
  | cause => return cause

def failedStatus (cause : SystemError) : Nat :=
  match cause with
  | .noEntry | .notDirectory | .linkLoop | .nameTooLong => 127
  | _ => 126

def becomeProgram {α : Type} (argv : List Octets) (path : Octets) : Act α := do
  let name := argv.headD ""
  let rec search (cause : SystemError) : List Octets → Act SystemError
    | [] => return cause
    | folder :: rest => do
      match ← tryProgram (inFolder folder name) argv with
      | .noEntry | .notDirectory => search cause rest
      | other => search other rest
  let cause ← if name.contains '/' then tryProgram name argv else search .noEntry (searchFolders path)
  warn (name ++ ": " ++ executionText cause)
  setStatus (failedStatus cause)
  throw .done

/-! ## Redirections -/

structure Saved where
  fd : Nat
  copy : Option Nat

def firstOwn : Nat := 10

def restore (saved : List Saved) : Act Unit := do
  for s in saved do
    match s.copy with
    | some copy =>
      let _ ← ask (.replace copy s.fd)
      ask (.close copy)
    | none => ask (.close s.fd)

def forgetSaved (saved : List Saved) : Act Unit := do
  for s in saved do
    if let some copy := s.copy then ask (.close copy)

def openingText (cause : SystemError) (creates : Bool) : Octets :=
  match cause with
  | .noEntry | .notDirectory => if creates then "Directory nonexistent" else "No such file"
  | other => other.text

def openFile (use : FileUse) (path : Octets) : Act Nat := do
  let attempt (mode : OpenMode) (creates : Bool) : Act Nat := do
    match ← ask (.open path mode) with
    | .ok fd => return fd
    | .error cause =>
      let kind := if creates then "create " else "open "
      fail ("cannot " ++ kind ++ path ++ ": " ++ openingText cause creates)
  match use with
  | .read => attempt .read false
  | .readWrite => attempt .readWrite true
  | .append => attempt .append true
  | .clobber => attempt .write true
  | .write =>
    if ← option 'C' then
      match ← ask (.status path true) with
      | .ok status =>
        if status.kind = .regular then
          fail ("cannot create " ++ path ++ ": " ++ SystemError.text .exists)
      | .error _ => pure ()
    attempt .write true

/-- A document longer than this is written by a process of its own. -/
def documentRoom : Nat := 4096

def openDocument (text : Octets) : Act Nat := do
  let (reading, writing) ← ask .pipe
  let bytes := Octets.bytes text
  if bytes.length ≤ documentRoom then
    let _ ← ask (.write writing bytes)
  else
    let _ ← prog (Prog.fork (do
      Prog.ask (.close reading)
      for signal in [1, 2, 3, 20] do
        let _ ← Prog.ask (.handle signal .ignored)
      let _ ← Prog.ask (.handle 13 .default)
      let _ ← Prog.ask (.write writing bytes)
      return 0))
  ask (.close writing)
  return reading

inductive Target where
  | file (use : FileUse) (path : Octets)
  | copy (source : Option Nat)
  | text (document : Octets)

def expandRedirection (substitute : Option Tree → Act Octets) (r : Redirection) :
    Act (Nat × Target) := do
  let manner : Manner := { tilde := true }
  match r with
  | .file fd use name => return (fd, .file use (← expandText substitute manner name))
  | .copy fd source => return (fd, .copy source)
  | .copyOf fd source =>
    let text ← expandText substitute manner source
    if text = "-" then return (fd, .copy none)
    else
      match if text.length = 1 then Octets.decimal? text else none with
      | some n => return (fd, .copy (some n))
      | none =>
        modify fun m => { m with line := m.lineRead }
        fail "Syntax error: Bad fd number"
  | .document fd number expanded =>
    let word := (← get).documents.getD number []
    let text ← if expanded then expandText substitute { quoted := true } word
      else pure (literalText word)
    return (fd, .text text)

def keep (fd : Nat) (saved : List Saved) : Act (List Saved) := do
  if saved.any (·.fd = fd) then return saved
  return { fd, copy := ← ask (.duplicate fd firstOwn) } :: saved

/-- Sends a descriptor elsewhere. With `saved` it is kept as it was. -/
def redirectOne (fd : Nat) (target : Target) (saved : Option (List Saved)) :
    Act (Option (List Saved)) := do
  -- The descriptor must be kept after the file has been opened, but before it takes its place.
  let place (opened : Nat) : Act (Option (List Saved)) := do
    if opened = fd then
      return saved.map fun saved =>
        if saved.any (·.fd = fd) then saved else { fd, copy := none } :: saved
    else
      let saved ← saved.mapM (keep fd)
      let _ ← ask (.replace opened fd)
      ask (.close opened)
      return saved
  match target with
  | .file use path => place (← openFile use path)
  | .text document => place (← openDocument document)
  | .copy none =>
    let saved ← saved.mapM (keep fd)
    ask (.close fd)
    return saved
  | .copy (some source) =>
    if source = fd then return saved
    if (← ask (.statusOf source)).isNone then
      fail (toString source ++ ": " ++ SystemError.text .badDescriptor)
    let saved ← saved.mapM (keep fd)
    let _ ← ask (.replace source fd)
    return saved

def redirectAll (targets : List (Nat × Target)) (saved : Option (List Saved)) :
    Act (Option (List Saved)) := do
  match targets with
  | [] => return saved
  | (fd, target) :: rest =>
    match ← attempt (redirectOne fd target saved) with
    | .ok saved => redirectAll rest saved
    | .error leave =>
      restore (saved.getD [])
      throw leave

end PipeShell.Machine.Script
