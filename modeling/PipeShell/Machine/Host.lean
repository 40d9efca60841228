import PipeShell.Host
import PipeShell.Machine.Catalogue
import PipeShell.Machine.Scheduler
import PipeShell.Search
import PipeShell.Session

/-!
# The machine as a host

The machine starts the programs that a search path leads to and runs them when the shell waits. A
command with a slash is taken as a path and is always started; what then turns out to be no program
says so itself and ends with a status of its own. Whatever the programs are, the machine keeps the laws
of a host (`Machine.host_stays`, `Machine.host_ignoresErrors`, `Machine.host_counts`).
-/

namespace PipeShell.Machine

/-! ## The files of a machine -/

def place (t : FileTree) (path : String) (n : FileNode) : FileTree :=
  match t.locate FileTree.root path false with
  | .ok (.free folder name) =>
    match t.add folder name n with
    | .ok (_, t) => t
    | .error _ => t
  | _ => t

def programFolder : String := "/usr/bin"

def descriptorFolder : String := "/proc/self/fd"

def folders : List (String × Nat) :=
  ["/boot", "/dev", "/etc", "/home", "/media", "/mnt", "/opt", "/root", "/run", "/srv", programFolder,
    "/usr/games", "/usr/lib", "/usr/lib64", "/usr/local/bin", "/usr/local/sbin", "/usr/sbin",
    "/usr/share", "/var/backups", "/var/cache", "/var/lib", "/var/log", "/var/mail",
    "/var/spool"].map (·, 0o755)
  ++ ["/tmp", "/var/tmp"].map (·, 0o1777)
  ++ ["/proc", "/proc/self", descriptorFolder, "/sys"].map (·, 0o555)

def devices : List (String × Device) :=
  [("/dev/null", .null), ("/dev/zero", .zero), ("/dev/full", .full), ("/dev/random", .random),
    ("/dev/urandom", .random), ("/dev/tty", .terminal)]

def links : List (String × String) :=
  [("/bin", "usr/bin"), ("/lib", "usr/lib"), ("/lib64", "usr/lib64"), ("/sbin", "usr/sbin"),
    ("/dev/fd", descriptorFolder), ("/dev/stdin", descriptorFolder ++ "/0"),
    ("/dev/stdout", descriptorFolder ++ "/1"), ("/dev/stderr", descriptorFolder ++ "/2")]

def otherPrograms : List String :=
  ["[", "awk", "base64", "basename", "bash", "cmp", "chmod", "chown", "comm", "cp", "cut", "dash",
    "date", "dd", "df", "diff", "dirname", "du", "echo", "egrep", "env", "expand", "expr", "fgrep",
    "find", "fold", "grep", "gzip", "hostname", "id", "join", "kill", "ln", "ls", "md5sum", "mkdir",
    "mktemp", "mv", "nice", "nl", "nproc", "od", "paste", "perl", "pr", "pwd", "readlink", "realpath",
    "rm", "sed", "seq", "sha256sum", "shuf", "split", "stat", "stty", "tac", "tail", "tar", "tee",
    "test", "timeout", "touch", "tty", "uname", "uniq", "which", "who", "whoami", "xargs"]

def placeFolder (t : FileTree) (path : String) (mode : Nat) : FileTree :=
  let (t, _) := t.makeFolders FileTree.root path
  match t.resolve FileTree.root path with
  | .ok id =>
    match t.node id with
    | .folder _ parent entries => t.setNode id (.folder mode parent entries)
    | _ => t
  | .error _ => t

def files : FileTree :=
  let t : FileTree := {}
  let t := folders.foldl (fun t (path, _) => (t.makeFolders FileTree.root path).1) t
  let t := devices.foldl (fun t (path, d) => place t path (.device d)) t
  let t := links.foldl (fun t (path, target) => place t path (.link target)) t
  let t := (List.range 32).foldl
    (fun t fd => place t (Path.join descriptorFolder (toString fd)) (.device (.descriptor fd))) t
  let t := (programNames ++ otherPrograms).foldl
    (fun t name => place t (Path.join programFolder name) (.program name)) t
  let t := folders.foldl (fun t (path, mode) => placeFolder t path mode) t
  { t with changes := [] }

/-! ## The users of a machine -/

def accountHome : String := "/root"

def homeOf (environment : Environment) : String :=
  ((environment.get? "HOME").filter (· ≠ "")).getD accountHome

/-- A tilde that stands alone before the first slash is the home folder. -/
def expandTilde (environment : Environment) (path : String) : String :=
  match path.toList with
  | ['~'] => homeOf environment
  | '~' :: '/' :: rest => homeOf environment ++ "/" ++ String.ofList rest
  | _ => path

/-! ## Starting -/

def cannotExecute (command : String) : String := "psh: " ++ command ++ ": cannot execute\n"

def statusCannotExecute : Nat := 126

def childCode (path : String) (argv : List String) (environment : Environment) : Code :=
  Prog.code do
    let bindings := environment.bindings.map fun (name, value) =>
      (Octets.ofText name, Octets.ofText value)
    let _ ← Prog.ask (.exec (Octets.ofText path) (argv.map Octets.ofText) bindings)
    Prog.complain (Octets.ofText (cannotExecute (argv.headD "")))
    return statusCannotExecute

/-- The path of the program that a command asks for, and what the search has to say. -/
def resolve (w : World) (command searchPath : String) : Option String × List Notice :=
  if command.contains '/' then (some command, [])
  else Search.find w.files w.here command searchPath true

def holdsNul (text : String) : Bool := text.contains '\x00'

def descriptorsOf (streams : Streams) (w : World) : List (Nat × Channel) :=
  [(Prog.input, .held (streams.input.getD w.input)),
    (Prog.output, (streams.output.map Channel.held).getD (.own Prog.output)),
    (Prog.errors, .own Prog.errors)]

def spawn (launch : Launch) (m : Machine) (w : World) : Reply Machine Pid :=
  let command := launch.argv.headD ""
  let (found, notices) := resolve w command launch.searchPath
  let refuse (cause : LaunchFault) : Reply Machine Pid :=
    { answer := .error (.launch command cause), host := m, notices
      world := (w.close? launch.streams.input).close? launch.streams.output }
  match found with
  | none => refuse .notFound
  | some path =>
    if holdsNul path || launch.argv.any holdsNul then refuse .nulArgument
    else
      let pid := m.nextPid
      let process : Process :=
        { pid, parent := shellPid, code := childCode path launch.argv w.environment
          descriptors := descriptorsOf launch.streams w, here := w.here, wake := m.clock + splitting }
      { answer := .ok pid, world := w, notices := notices ++ [.processStarted pid path]
        host := m.start process }

/-! ## Endings -/

def lastNamedSignal : Nat := 31

def statusOf : Fate → Except Fault Int
  | .exited status => .ok status
  | .killed signal =>
    if signal ≤ lastNamedSignal then .ok (128 + signal) else .error (.ending .unnamedSignal)

def isChild (m : Machine) (pid : Pid) : Bool :=
  m.processes.any fun p => p.pid == pid && p.parent == shellPid

def wait (programs : Catalogue) (pid : Pid) (m : Machine) (w : World) : Reply Machine Int :=
  if m.isChild pid then
    match m.await programs pid w with
    | (some fate, m, w) => { answer := statusOf fate, host := m.forget pid, world := w }
    | (none, m, w) => { answer := .error (.ending .noChild), host := m, world := w }
  else { answer := .error (.ending .noChild), host := m, world := w }

def poll (pid : Pid) (m : Machine) (w : World) : Reply Machine (Option Int) :=
  if m.isChild pid then
    match m.fateOf? pid with
    | some fate => { answer := (statusOf fate).map some, host := m.forget pid, world := w }
    | none => { answer := .ok none, host := m, world := w }
  else { answer := .error (.ending .noChild), host := m, world := w }

/-! ## Writing for the shell -/

/-- Writes as much as there is room for, and lets the time pass until there is more, in at most so many
ticks. -/
def writeWithin (programs : Catalogue) (target : Option End) :
    Nat → Bytes → Machine × World → Option SystemError × Machine × World
  | 0, _, (m, w) => (none, m, w)
  | ticks + 1, bytes, (m, w) =>
    let room := (target.map fun e => roomIn w (.held e) bytes.length).getD bytes.length
    match w.write target (bytes.take room) with
    | (some cause, w) => (some cause, m, w)
    | (none, w) =>
      if room < bytes.length then
        writeWithin programs target ticks (bytes.drop room)
          (m.tick programs (m.clock + patience) w)
      else (none, m, w)

def write (programs : Catalogue) (target : Option End) (bytes : Bytes) (at' : Machine × World) :
    Option SystemError × Machine × World :=
  writeWithin programs target patience bytes at'

def host (programs : Catalogue := catalogue noManuals) : Host Machine :=
  ⟨spawn, wait programs, poll, write programs⟩

/-! ## Letting jobs end -/

def drainWithin (programs : Catalogue) (pause : Nat) :
    Nat → Session Machine → List Job × Session Machine
  | 0, s => ([], s)
  | times + 1, s =>
    let (done, s) := s.reap (host programs)
    if s.jobs.jobs.isEmpty then (done, s)
    else
      let (m, w) := s.host.pass programs pause s.world
      let (more, s) := drainWithin programs pause times { s with host := m, world := w }
      (done ++ more, s)

/-- Waits up to five seconds for all jobs, and hands out those that are over by their numbers. -/
def drain (s : Session Machine) (programs : Catalogue := catalogue noManuals) :
    List Job × Session Machine :=
  let (done, s) := drainWithin programs (second / 100) 500 s
  (done.mergeSort fun a b => a.index ≤ b.index, s)

end PipeShell.Machine
