import PipeShell.Notice

/-!
# The log

Which records the log takes and how it writes them. The level that was chosen counts for the shell's
own records; those of others are taken from warnings on, whatever was chosen.
-/

namespace PipeShell

structure LogFilter where
  level : Option Level
  process : Pid
  time : String
deriving DecidableEq, Repr

namespace LogFilter

/-- The level that a word asks for, in letters of either case. A word that names none asks for the
middle one. -/
def levelOf (word : String) : Option Level :=
  match word.toLower with
  | "off" => none
  | "error" => some .error
  | "warn" => some .warn
  | "debug" => some .debug
  | "trace" => some .trace
  | _ => some .info

def label (level : Option Level) : String :=
  match level with
  | some level => level.label
  | none => "OFF"

def ownSource : String := "psh"

def takes (f : LogFilter) (source : String) (level : Level) : Bool :=
  if source.startsWith ownSource then
    match f.level with
    | some most => level.rank ≤ most.rank
    | none => false
  else level.rank ≤ Level.warn.rank

def line (f : LogFilter) (level : Level) (message : String) : String :=
  "[PID:" ++ toString f.process ++ "][" ++ level.label ++ "] " ++ f.time ++ " - " ++ message ++ "\n"

def record (f : LogFilter) (source : String) (level : Level) (message : String) : String :=
  if f.takes source level then f.line level message else ""

def lines (f : LogFilter) (n : Notice) : String :=
  String.join (n.spelledOut.map fun n => f.record n.source n.level n.message)

end LogFilter
end PipeShell
