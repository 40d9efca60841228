import PipeShell.App
import PipeShell.Machine.Host

/-!
# The command line

The program runs on a machine of its own: it takes its input and its environment from outside, and
gives back what it has written and its exit code.
-/

namespace PipeShell.Main

def settingNames : List String :=
  ["HOME", "PATH", "PSH_THEME", "PSH_EDITOR", "PSH_HISTORY", "PSH_LOG_LEVEL", "PSH_LOG_DIR",
    "PSH_PROMPT", "CLICOLOR_FORCE", "TERM", "LANG", "LC_ALL", "LC_CTYPE", "POSIXLY_CORRECT"]

def worldOf (environment : Environment) (input : Bytes) : World :=
  let home := Machine.homeOf environment
  let files := (Machine.files.makeFolders FileTree.root home).1
  let here := (files.resolveFolder FileTree.root home).toOption.getD FileTree.root
  ({ files, environment, here, tilde := Machine.expandTilde } : World).withInputPipe input

partial def readAll (stream : IO.FS.Stream) (sofar : ByteArray) : IO ByteArray := do
  let piece ← stream.read 65536
  if piece.isEmpty then return sofar else readAll stream (sofar ++ piece)

end PipeShell.Main

open PipeShell in
def main : IO UInt32 := do
  let found ← Main.settingNames.filterMapM fun name => do
    return (← IO.getEnv name).map fun value => (name, value)
  let input ← Main.readAll (← IO.getStdin) .empty
  let (code, world) := App.run Machine.host {} {} (Main.worldOf ⟨found⟩ input.toList)
  (← IO.getStdout).write ⟨world.output.toArray⟩
  (← IO.getStderr).write ⟨world.errors.toArray⟩
  return UInt32.ofNat code.toNat
