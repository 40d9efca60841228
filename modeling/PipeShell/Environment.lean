/-!
# Environments

The environment of a process: names with values, each name at most once as far as looking up goes.
-/

namespace PipeShell

structure Environment where
  bindings : List (String × String) := []
deriving Inhabited

namespace Environment

def get? (env : Environment) (name : String) : Option String := env.bindings.lookup name

def get (env : Environment) (name : String) : String := (env.get? name).getD ""

def valueIn? (name : String) (entry : String × String) : Option String :=
  (entry.1 ++ "=" ++ entry.2).dropPrefix? (name ++ "=") |>.map fun rest => rest.toString

/-- The value of a name that may itself hold an equals sign. The entries are then taken as they are
written, and the first one counts that begins with the name and an equals sign. -/
def search (env : Environment) (name : String) : String :=
  if name = "" then "" else (env.bindings.findSome? (valueIn? name)).getD ""

def erase (env : Environment) (name : String) : Environment :=
  ⟨env.bindings.filter (·.1 ≠ name)⟩

def set (env : Environment) (name value : String) : Environment :=
  ⟨(env.erase name).bindings ++ [(name, value)]⟩

end Environment
end PipeShell
