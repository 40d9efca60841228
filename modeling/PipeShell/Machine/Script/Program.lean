import PipeShell.Machine.Script.Interpreter

/-!
# The shell as a program

The shell of the machine runs a script from its arguments, from a file, or from its input.
-/

namespace PipeShell.Machine.Script
open Act

def depthLimit : Nat := 100000

def firstVariables (parent : Pid) : List (Octets × Variable) :=
  let shown (value : Octets) : Variable := { value := some value }
  [("IFS", shown " \t\n"), ("OPTIND", shown "1"), ("PPID", shown (toString parent)),
    ("PATH", shown usualPath), ("PS1", shown "# "), ("PS2", shown "> "), ("PS4", shown "+ ")]

/-- Finds out in which folder the shell stands. A path that has been handed down is believed if it leads
there. -/
def learnFolder : Act Unit := do
  let handed := (← value? "PWD").getD ""
  let here ← ask (.status "." true)
  let there ← ask (.status handed true)
  let agrees : Bool := match here, there with
    | .ok s, .ok t => s.number = t.number
    | _, _ => false
  let path ←
    if handed.startsWith "/" && agrees then pure (some handed)
    else do pure (← ask .folder).toOption
  modify fun m => { m with folder := path }
  setVariable "PWD" (some (path.getD "")) true

def prepare (environment : List (Octets × Octets)) : Act Unit := do
  let (pid, parent) ← ask .identity
  modify fun m => { m with rootPid := pid, bindings := firstVariables parent }
  for (name, value) in environment do
    if isName name && !(["OPTIND", "PPID", "IFS"].contains name) then
      putVariable name { value := some value, exported := true }
  learnFolder

def runArguments (args : List Octets) : Act Unit := do
  modify fun m => { m with switched := some [] }
  let (hasScript, args, _) ← switchOptions true (args.length + 1) false args
  modify fun m => { m with switched := none }
  if ← option 'i' then switch 'm' true
  dropJobControl
  match hasScript, args with
  | true, [] => fail "-c requires an argument"
  | true, script :: rest =>
    if let name :: parameters := rest then
      modify fun m => { m with name, parameters }
    let fromInput ← option 's'
    let _ ← runText depthLimit { last := !fromInput } script
    if fromInput then
      if (← get).skip = .none then
        let _ ← runFeed depthLimit {} (Feed.ofDescriptor Prog.input true)
  | false, rest =>
    let fromInput := rest.isEmpty || (← option 's')
    if fromInput then
      switch 's' true
      modify fun m => { m with parameters := rest }
      let _ ← runFeed depthLimit {} (Feed.ofDescriptor Prog.input true)
    else
      let path := rest.headD ""
      let fd ← openScript path
      modify fun m => { m with name := path, parameters := rest.tail }
      let _ ← runFeed depthLimit {} (Feed.ofDescriptor fd true)

def run (argv : List Octets) (environment : List (Octets × Octets)) : Prog Nat :=
  conclude depthLimit
    (do
      prepare environment
      runArguments argv.tail)
    { name := argv.headD "sh" }

end PipeShell.Machine.Script
