import PipeShell.EnvFile
import PipeShell.Text.Lines
import PipeShell.World

/-!
# Configuration

What the shell is told before it starts. The environment gives the settings; a file of settings in
the current folder, or else in the nearest folder above it that has one, fills in what the
environment lacks. The folder of the history is made ready; if that fails, the shell says so and goes
on.
-/

namespace PipeShell

inductive EditMode where
  | emacs | vi
deriving DecidableEq, Repr

structure Config where
  name : String := "psh"
  directory : String
  theme : String := "default"
  historyFile : String
  editor : String := "emacs"
  logLevel : String := "info"
  logDirectory : String
  prompt : Option String := none
deriving DecidableEq, Repr

namespace Config

def settingsFile : String := ".env.development"

def findAbove (t : FileTree) (name : String) : Nat → Nat → Option Nat
  | 0, _ => none
  | depth + 1, folder =>
    let above : Option Nat := match t.node folder with
      | .folder _ parent _ => if folder = FileTree.root then none else findAbove t name depth parent
      | _ => none
    match t.resolve folder name with
    | .ok id => if t.isRegular id then some id else above
    | .error .noEntry => above
    | .error _ => none

def environment (w : World) : Environment :=
  match findAbove w.files settingsFile (w.files.nodes.size + 1) w.here with
  | some id =>
    if w.files.allows id FileTree.readBit then
      EnvFile.load (Text.lines ((w.files.content id).toOption.getD [])) w.environment
    else w.environment
  | none => w.environment

def directoryOf (env : Environment) : String :=
  match env.get? "HOME" with
  | some home => Path.join home ".config/psh"
  | none => "tmp"

def ofEnvironment (env : Environment) : Config :=
  let directory := directoryOf env
  { directory
    theme := (env.get? "PSH_THEME").getD "default"
    historyFile := (env.get? "PSH_HISTORY").getD (Path.join directory ".psh_history")
    editor := (env.get? "PSH_EDITOR").getD "emacs"
    logLevel := (env.get? "PSH_LOG_LEVEL").getD "info"
    logDirectory := (env.get? "PSH_LOG_DIR").getD (Path.join directory "logs")
    prompt := env.get? "PSH_PROMPT" }

def unmade (folder : String) (cause : SystemError) : String :=
  "psh: 无法创建历史记录目录 " ++ folder ++ ": " ++ cause.message ++ "\n"

def load (w : World) : Config × World :=
  let w := { w with environment := environment w }
  let config := ofEnvironment w.environment
  match Path.parent? config.historyFile with
  | none => (config, w)
  | some folder =>
    match w.makeFolders folder with
    | (none, w) => (config, w)
    | (some cause, w) => (config, w.writeError (Text.bytes (unmade folder cause)))

def editMode (c : Config) : EditMode := if c.editor.toLower = "vi" then .vi else .emacs

def plainTerminals : List String := ["dumb", "cons25", "emacs"]

def canEdit (env : Environment) : Bool :=
  match env.get? "TERM" with
  | some name => !plainTerminals.contains name.toLower
  | none => true

def coloured (env : Environment) : Bool :=
  match env.get? "CLICOLOR_FORCE" with
  | some value => value ≠ "0"
  | none => false

end Config
end PipeShell
