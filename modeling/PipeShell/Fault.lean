import PipeShell.Command
import PipeShell.Text.Quoted

/-!
# Faults

What can go wrong, by cause. A line may be unreadable, or its words may be linked in a way that is
no pipeline; a file may refuse to open, a program to start, a built-in command its arguments; and a
process to wait for may not exist. The wording stands here and nowhere else.
-/

namespace PipeShell
open Text (quoted)

inductive SystemError where
  | noEntry | exists | notDirectory | isDirectory | noSpace | brokenPipe | nameTooLong
  | notEmpty | linkLoop | denied | badDescriptor | badFormat | busy | invalid | notPermitted | noDevice
  | tooLarge
  | nulInName
  | notText
deriving DecidableEq, Repr, Inhabited

namespace SystemError

def description : SystemError → Option Nat × String × String
  | notPermitted => (some 1, "PermissionDenied", "Operation not permitted")
  | noEntry => (some 2, "NotFound", "No such file or directory")
  | noDevice => (some 6, "Uncategorized", "No such device or address")
  | badFormat => (some 8, "Uncategorized", "Exec format error")
  | badDescriptor => (some 9, "Uncategorized", "Bad file descriptor")
  | denied => (some 13, "PermissionDenied", "Permission denied")
  | busy => (some 16, "ResourceBusy", "Device or resource busy")
  | .exists => (some 17, "AlreadyExists", "File exists")
  | notDirectory => (some 20, "NotADirectory", "Not a directory")
  | isDirectory => (some 21, "IsADirectory", "Is a directory")
  | invalid => (some 22, "InvalidInput", "Invalid argument")
  | tooLarge => (some 27, "FileTooLarge", "File too large")
  | noSpace => (some 28, "StorageFull", "No space left on device")
  | brokenPipe => (some 32, "BrokenPipe", "Broken pipe")
  | nameTooLong => (some 36, "InvalidFilename", "File name too long")
  | notEmpty => (some 39, "DirectoryNotEmpty", "Directory not empty")
  | linkLoop => (some 40, "FilesystemLoop", "Too many levels of symbolic links")
  | nulInName => (none, "InvalidInput", "file name contained an unexpected NUL byte")
  | notText => (none, "InvalidData", "stream did not contain valid UTF-8")

def text (e : SystemError) : String :=
  e.description.2.2

def message (e : SystemError) : String :=
  match e.description.1 with
  | some code => e.text ++ " (os error " ++ toString code ++ ")"
  | none => e.text

def dump (e : SystemError) : String :=
  let (code, kind, text) := e.description
  match code with
  | some code =>
    "Os \x7b code: " ++ toString code ++ ", kind: " ++ kind ++ ", message: " ++ quoted text ++ " \x7d"
  | none => "Error \x7b kind: " ++ kind ++ ", message: " ++ quoted text ++ " \x7d"

end SystemError

inductive ReadFault where
  | unterminatedQuote (quote : Char)
  | missingCommand
  | missingTarget
  | textAfterBackground
deriving DecidableEq, Repr

def ReadFault.message : ReadFault → String
  | unterminatedQuote quote => "unterminated " ++ quote.toString ++ " quote"
  | missingCommand => "expected a command"
  | missingTarget => "expected filename after redirection operator"
  | textAfterBackground => "'&' must end the command line"

inductive ShapeFault where
  | dangling (node : Nat)
  | linkedTwice (node : Nat)
  | nulArgument (stage : Nat)
  | noCommand (stage : Nat)
  | notBuiltin (word : String)
deriving DecidableEq, Repr

def ShapeFault.message : ShapeFault → String
  | dangling node => "dangling node reference " ++ toString node
  | linkedTwice node => "node " ++ toString node ++ " is linked more than once"
  | nulArgument stage =>
    "stage " ++ toString stage ++ " has an argument containing a nul byte"
  | noCommand stage => "stage " ++ toString stage ++ " has no command to run"
  | notBuiltin word => word ++ " is not a built-in"

inductive LaunchFault where
  | notFound
  | nulArgument
  | refused (reason : String)
deriving DecidableEq, Repr

def LaunchFault.message : LaunchFault → String
  | notFound => "command not found"
  | nulArgument => "argument contains a nul byte"
  | refused reason => reason

inductive BuiltinFault where
  | usage (form : String)
  | tooManyArguments
  | notNumeric (argument : String)
  | cannotEnter (path : String) (cause : SystemError)
  | cannotWrite (cause : SystemError)
deriving DecidableEq, Repr

def BuiltinFault.message : BuiltinFault → String
  | usage form => "usage: " ++ form
  | tooManyArguments => "too many arguments"
  | notNumeric argument => argument ++ ": numeric argument required"
  | cannotEnter path cause => path ++ ": " ++ cause.message
  | cannotWrite cause => cause.message

inductive EndingFault where
  | noChild
  | unnamedSignal
deriving DecidableEq, Repr

namespace EndingFault

def description : EndingFault → String × String
  | noChild => ("ECHILD", "No child processes")
  | unnamedSignal => ("EINVAL", "Invalid argument")

def message (e : EndingFault) : String :=
  "system error: " ++ e.description.1 ++ ": " ++ e.description.2

end EndingFault

inductive Fault where
  | unreadable (cause : ReadFault)
  | malformed (cause : ShapeFault)
  | redirection (path : String) (cause : SystemError)
  | launch (command : String) (cause : LaunchFault)
  | builtin (command : Builtin) (cause : BuiltinFault)
  | ending (cause : EndingFault)
deriving DecidableEq, Repr

namespace Fault

def message : Fault → String
  | unreadable cause => "syntax error: " ++ cause.message
  | malformed cause => "malformed command: " ++ cause.message
  | redirection path cause => path ++ ": " ++ cause.message
  | launch command cause => command ++ ": " ++ cause.message
  | builtin command cause => command.keyword ++ ": " ++ cause.message
  | ending cause => cause.message

def dump : Fault → String
  | unreadable cause => "Syntax(" ++ quoted cause.message ++ ")"
  | malformed cause => "Structure(" ++ quoted cause.message ++ ")"
  | redirection path cause =>
    "Redirection \x7b path: " ++ quoted path ++ ", source: " ++ cause.dump ++ " \x7d"
  | launch command cause =>
    "Spawn \x7b command: " ++ quoted command ++ ", reason: " ++ quoted cause.message ++ " \x7d"
  | builtin command cause =>
    "Builtin \x7b name: " ++ quoted command.keyword ++ ", reason: " ++ quoted cause.message ++ " \x7d"
  | ending cause => "Os(" ++ cause.description.1 ++ ")"

end Fault
end PipeShell
