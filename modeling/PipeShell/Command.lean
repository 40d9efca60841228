/-!
# Commands

What a stage of a pipeline can run: one of the shell's own commands, known by a keyword, or a
program. Every other word than the eight keywords names a program.
-/

namespace PipeShell

inductive Builtin where
  | set | echo | cd | parsecmd | echocmd | showchild | exit | setprompt
deriving DecidableEq, Repr, Inhabited

namespace Builtin

def keyword : Builtin → String
  | set => "set"
  | echo => "echo"
  | cd => "cd"
  | parsecmd => "parsecmd"
  | echocmd => "echocmd"
  | showchild => "showchild"
  | exit => "exit"
  | setprompt => "setprompt"

def all : List Builtin := [set, echo, cd, parsecmd, echocmd, showchild, exit, setprompt]

def ofKeyword? (word : String) : Option Builtin :=
  all.find? fun b => b.keyword == word

theorem ofKeyword?_keyword (b : Builtin) : ofKeyword? b.keyword = some b := by
  cases b <;> decide

theorem keyword_of_ofKeyword? {word : String} {b : Builtin} (h : ofKeyword? word = some b) :
    b.keyword = word := by
  simpa using List.find?_some h

end Builtin

inductive Kind where
  | program
  | builtin (command : Builtin)
deriving DecidableEq, Repr, Inhabited

namespace Kind

def ofWord (word : String) : Kind :=
  match Builtin.ofKeyword? word with
  | some b => builtin b
  | none => program

def isBuiltin : Kind → Bool
  | program => false
  | builtin _ => true

def keyword : Kind → String
  | program => "word"
  | builtin b => b.keyword

def label : Kind → String
  | program => "Word"
  | builtin .set => "SetVar"
  | builtin .echo => "Echo"
  | builtin .cd => "Cd"
  | builtin .parsecmd => "ToggleParse"
  | builtin .echocmd => "ToggleEcho"
  | builtin .showchild => "ToggleShowChild"
  | builtin .exit => "Exit"
  | builtin .setprompt => "SetPrompt"

theorem ofWord_keyword (b : Builtin) : ofWord b.keyword = builtin b := by
  simp [ofWord, Builtin.ofKeyword?_keyword]

end Kind
end PipeShell
