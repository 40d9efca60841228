/-!
# Settings

The switches that built-in commands turn, and the prompt.
-/

namespace PipeShell

structure Settings where
  parse : Bool := false
  echo : Bool := false
  showChild : Bool := false
  prompt : String := "psh> "
deriving DecidableEq, Repr, Inhabited

end PipeShell
