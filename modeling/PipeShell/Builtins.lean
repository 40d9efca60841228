import PipeShell.Notice
import PipeShell.Plan
import PipeShell.Settings
import PipeShell.Symbols
import PipeShell.Text.Decimal
import PipeShell.World

/-!
# Built-in commands

A built-in command acts in two steps. First it changes what it has to change: a variable, a switch,
the prompt or the folder. Then it writes what it has to say. The change does not wait for the
writing and is not undone when the writing fails; a command whose arguments are wrong changes nothing
and writes nothing.
-/

namespace PipeShell

structure Surroundings where
  symbols : Symbols := .empty
  settings : Settings := {}
  world : World := {}
deriving Inhabited

inductive Effect where
  | status (code : Int)
  | exit (code : Int)
deriving DecidableEq, Repr

/-- What a command has changed, what it is about to write, and what comes of it if it can. -/
structure Act where
  after : Surroundings
  texts : List String := []
  result : Except Fault Effect := .ok (.status 0)
  notices : List Notice := []

namespace Act

def refuse (s : Surroundings) (command : Builtin) (cause : BuiltinFault) : Act :=
  { after := s, result := .error (.builtin command cause) }

end Act

namespace Builtin

def listing (table : Symbols) : List String :=
  table.sorted.map fun (name, value) => name ++ " " ++ value ++ "\n"

def actSet (args : List String) (s : Surroundings) : Act :=
  match args with
  | [] => { after := s, texts := listing s.symbols }
  | [name, value] => { after := { s with symbols := s.symbols.update name value } }
  | _ => .refuse s .set (.usage "set <name> <value>")

def actCd (args : List String) (s : Surroundings) : Act :=
  let go (path : String) : Act :=
    let path := s.world.expandTilde path
    match s.world.enter path with
    | .ok world =>
      let notice := match world.directory with
        | .ok path => Notice.directoryEntered path none
        | .error cause => .directoryEntered "" (some cause)
      { after := { s with world }, notices := [notice] }
    | .error cause => .refuse s .cd (.cannotEnter path cause)
  match args with
  | [] => go "~"
  | [path] => go path
  | _ => .refuse s .cd .tooManyArguments

def actExit (args : List String) (s : Surroundings) : Act :=
  match args with
  | [] => { after := s, result := .ok (.exit 0) }
  | [argument] =>
    match Text.signed32? argument with
    | some code => { after := s, result := .ok (.exit code) }
    | none => .refuse s .exit (.notNumeric argument)
  | _ => .refuse s .exit .tooManyArguments

def actSetprompt (args : List String) (s : Surroundings) : Act :=
  match args with
  | [prompt] => { after := { s with settings := { s.settings with prompt } } }
  | _ => .refuse s .setprompt (.usage "setprompt <prompt>")

def switchText (command : Builtin) (on : Bool) : String :=
  command.keyword ++ ": " ++ (if on then "on" else "off") ++ "\n"

def turn (command : Builtin) (settings : Settings) (on : Bool) (s : Surroundings) : Act :=
  { after := { s with settings }, texts := [switchText command on] }

def act (command : Builtin) (args : List String) (s : Surroundings) : Act :=
  match command with
  | set => actSet args s
  | echo => { after := s, texts := [" ".intercalate args ++ "\n"] }
  | cd => actCd args s
  | parsecmd =>
    turn parsecmd { s.settings with parse := !s.settings.parse } (!s.settings.parse) s
  | echocmd => turn echocmd { s.settings with echo := !s.settings.echo } (!s.settings.echo) s
  | showchild =>
    turn showchild { s.settings with showChild := !s.settings.showChild } (!s.settings.showChild) s
  | exit => actExit args s
  | setprompt => actSetprompt args s

end Builtin

namespace Stage

def act (stage : Stage) (s : Surroundings) : Act :=
  let args := stage.argv.drop 1
  let acted : Act := match stage.kind with
    | .program =>
      { after := s, result := .error (.malformed (.notBuiltin (stage.argv.headD ""))) }
    | .builtin command => command.act args s
  { acted with notices := .builtinRuns stage.kind args :: acted.notices }

end Stage

/-! ## Writing -/

/-- Writes texts one after another, up to the first that is refused. -/
def writeAll {ω : Type} (write : Bytes → ω → Option SystemError × ω) :
    List String → ω → Option SystemError × ω
  | [], sink => (none, sink)
  | text :: rest, sink =>
    match write (Text.bytes text) sink with
    | (none, sink) => writeAll write rest sink
    | (some e, sink) => (some e, sink)

def Act.conclude (a : Act) (kind : Kind) (refused : Option SystemError) : Except Fault Effect :=
  match kind, refused with
  | .builtin command, some cause => .error (.builtin command (.cannotWrite cause))
  | _, _ => a.result

structure Budget where
  taken : Bytes := []
  left : Option Nat := none
deriving DecidableEq, Repr, Inhabited

def Budget.write (bytes : Bytes) (b : Budget) : Option SystemError × Budget :=
  match b.left with
  | none => (none, { b with taken := b.taken ++ bytes })
  | some left =>
    (if left < bytes.length then some .noSpace else none,
      { taken := b.taken ++ bytes.take left, left := some (left - bytes.length) })

end PipeShell
