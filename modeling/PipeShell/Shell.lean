import PipeShell.Execution
import PipeShell.History
import PipeShell.Input
import PipeShell.Line.Listing
import PipeShell.Theme

/-!
# The shell

The shell reads lines and runs them until one of them asks it to leave or there are no more. Before
each line it tells which jobs are over, and on a terminal that cannot edit lines it prompts. Whatever
goes wrong with a line is reported, and the shell goes on; only an input that is no text ends it early.
Two things are taken for granted: what the shell has written can be flushed before it reads, and no
interrupt comes while it reads, which is so wherever the input is no terminal.
-/

namespace PipeShell
open Text (isBlank)

structure Shell (σ : Type) where
  session : Session σ
  theme : Theme := {}
  history : History := {}
  historyFile : String
  prompts : Bool := false

namespace Shell
variable {σ : Type}

def note (sh : Shell σ) (n : Notice) : Shell σ := { sh with session := sh.session.note n }

def print (sh : Shell σ) (text : String) : Shell σ := { sh with session := sh.session.print text }

def printError (sh : Shell σ) (text : String) : Shell σ :=
  { sh with session := sh.session.printError text }

/-! ## One line -/

def report (sh : Shell σ) (fault : Fault) : Shell σ :=
  (sh.note (.lineFailed fault)).printError (sh.theme.errorLine ("psh: " ++ fault.message))

def jobLine (jobs : JobTable) (index : Nat) : String :=
  let pids := (jobs.jobs.filter (·.index == index)).flatMap Job.pids
  "[" ++ toString index ++ "] " ++ " ".intercalate (pids.map toString) ++ "\n"

def conclude (sh : Shell σ) : Outcome → Option Int × Shell σ
  | .exit code => (some code, sh)
  | .background job => (none, sh.print (jobLine sh.session.jobs job))
  | .finished status =>
    (none, if status = 0 then sh else sh.printError (sh.theme.errorLine ("exit " ++ toString status)))

def runLine (host : Host σ) (line : Line) (sh : Shell σ) : Option Int × Shell σ :=
  let sh :=
    if sh.session.settings.parse then sh.printError (sh.theme.paint sh.theme.listingInk line.listing)
    else sh
  match sh.session.execute host line with
  | (.error fault, session) => (none, { sh with session }.report fault)
  | (.ok execution, session) =>
    (execution.failures.foldl report { sh with session }).conclude execution.outcome

def handle (host : Host σ) (text : String) (sh : Shell σ) : Option Int × Shell σ :=
  if text.toList.all isBlank then (none, sh)
  else
    let sh := { sh with history := sh.history.add text }
    match Line.parse text with
    | .error fault => (none, sh.report fault)
    | .ok line => sh.runLine host line

/-! ## All lines -/

def reportDone (host : Host σ) (sh : Shell σ) : Shell σ :=
  let (done, session) := sh.session.reap host
  done.foldl (fun sh job => sh.print (sh.theme.successLine (job.row (some job.status))))
    { sh with session }

def showPrompt (sh : Shell σ) : Shell σ :=
  if sh.prompts then sh.print (sh.theme.paint sh.theme.promptInk sh.session.settings.prompt) else sh

def nextLine {τ : Type} (host : Host σ) (source : LineSource τ) (left : τ) (sh : Shell σ) :
    Typed × τ × Shell σ :=
  let sh := (sh.reportDone host).showPrompt
  let (typed, left, world) := source.next left sh.session.world
  (typed, left, { sh with session := { sh.session with world } })

/-- Handles lines up to the first that asks to leave, and at most so many. -/
def loop {τ : Type} (host : Host σ) (source : LineSource τ) :
    Nat → τ → Shell σ → Except SystemError Int × Shell σ
  | 0, _, sh => (.ok 0, sh)
  | most + 1, left, sh =>
    match sh.nextLine host source left with
    | (.ended, _, sh) => (.ok 0, sh.note .endOfInput)
    | (.garbled, _, sh) => (.error .notText, sh.note (.inputFailed .notText))
    | (.line text, left, sh) =>
      match sh.handle host text with
      | (some code, sh) => (.ok code, sh)
      | (none, sh) => sh.loop host source most left

def readHistory (sh : Shell σ) : Shell σ :=
  let loaded := sh.history.load sh.historyFile sh.session.world
  let outcome := match loaded.fault with
    | none => Notice.historyLoaded
    | some cause => .historyMissing sh.historyFile cause
  { sh with
    history := loaded.history
    session := (sh.session.noteAll loaded.notices).note outcome }

def writeHistory (sh : Shell σ) : Shell σ :=
  match sh.history.save sh.historyFile sh.session.world with
  | .ok world =>
    { sh with
      history := { sh.history with unsaved := false }
      session := { sh.session with world }.note .historySaved }
  | .error cause => sh.note (.historyUnsaved cause)

/-- Greets, handles all lines and says goodbye. A broken input leaves no goodbye and no history. -/
def run (host : Host σ) (sh : Shell σ) : Except SystemError Int × Shell σ :=
  let sh := (sh.note .shellStarts).readHistory
  let sh := (sh.print (sh.theme.welcome ++ "\n")).note .shellReady
  -- No line is without a byte, so there are at most as many lines as bytes.
  match sh.loop host .ownInput (sh.session.world.available sh.session.world.input + 1) [] with
  | (.error cause, sh) => (.error cause, sh)
  | (.ok code, sh) =>
    let sh := sh.writeHistory
    let sh := { sh with session := { sh.session with symbols := sh.session.symbols.clear } }
    (.ok code, (sh.print (sh.theme.farewell ++ "\n")).note .shellEnds)

end Shell
end PipeShell
