import PipeShell.Config
import PipeShell.LogFilter
import PipeShell.Shell

/-!
# The program

The program reads its configuration, opens its log and runs the shell on its input. The log goes to
a file and to the error output at once; on the error output its lines stand among those of the shell
as they came. Without a log the program does not start.
-/

namespace PipeShell

/-! ## The log -/

structure Log where
  filter : LogFilter
  file : Nat

structure Start where
  process : Pid := 1000
  day : String := "2000-01-01"
  time : String := day ++ " 00:00:00"

namespace Log

def fileName (config : Config) (start : Start) : String :=
  config.name ++ "_" ++ start.day ++ ".log"

def start (config : Config) (start : Start) (w : World) : Except SystemError Log × World :=
  let filter := ⟨LogFilter.levelOf config.logLevel, start.process, start.time⟩
  match w.makeFolders config.logDirectory with
  | (some cause, w) => (.error cause, w)
  | (none, w) =>
    let path := Path.join config.logDirectory (fileName config start)
    match w.files.resolve w.here path with
    | .ok file => if w.files.isFolder file then (.error .isDirectory, w) else (.ok ⟨filter, file⟩, w)
    | .error _ =>
      match w.files.create w.here path with
      | .ok (file, files) => (.ok ⟨filter, file⟩, { w with files })
      | .error cause => (.error cause, w)

def append (log : Log) (text : String) (w : World) : World :=
  let size := (w.files.content log.file).toOption.getD [] |>.length
  { w with files := w.files.writeAt log.file size (Text.bytes text) }

def ofEvent (log : Log) : Event → String
  | .note n => log.filter.lines n
  | _ => ""

def errorsOfEvent (log : Log) : Event → Bytes
  | .note n => Text.bytes (log.filter.lines n)
  | .errorText bytes => bytes
  | _ => []

end Log

/-! ## The run -/

namespace App

def lastWords (dump : String) : Bytes := Text.bytes ("Error: " ++ dump ++ "\n")

def exitCode (code : Int) : Int := code % 256

def prepare {σ : Type} (host : σ) (config : Config) (w : World) : Shell σ :=
  let settings : Settings := match config.prompt with
    | some prompt => { prompt }
    | none => {}
  { session := { host, world := w, settings }
    theme := .named config.theme (Config.coloured w.environment)
    historyFile := config.historyFile
    prompts := !Config.canEdit w.environment }

/-- Runs the program on its input, and gives its exit code and the world after it. -/
def run {σ : Type} (machine : Host σ) (host : σ) (start : Start) (w : World) : Int × World :=
  let (config, w) := Config.load w
  match Log.start config start w with
  | (.error cause, w) => (1, w.writeError (lastWords cause.dump))
  | (.ok log, w) =>
    let sh := ((prepare host config w).note (.levelChosen (LogFilter.label log.filter.level))).note
      (.configured config.directory)
    let (result, sh) := sh.run machine
    let events := sh.session.events
    let world := log.append (String.join (events.map log.ofEvent)) sh.session.world
    let said := w.errors ++ events.flatMap log.errorsOfEvent
    match result with
    | .ok code => (exitCode code, { world with errors := said })
    | .error cause => (1, { world with errors := said ++ lastWords ("Io(" ++ cause.dump ++ ")") })

end App
end PipeShell
