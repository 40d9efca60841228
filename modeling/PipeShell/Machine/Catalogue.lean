import PipeShell.Machine.Answer
import PipeShell.Machine.Script.Program
import PipeShell.Machine.Tool.Cat
import PipeShell.Machine.Tool.Head
import PipeShell.Machine.Tool.Printf
import PipeShell.Machine.Tool.Rmdir
import PipeShell.Machine.Tool.Sleep
import PipeShell.Machine.Tool.Sort
import PipeShell.Machine.Tool.Tr
import PipeShell.Machine.Tool.Wc
import PipeShell.Machine.Tool.Yes

/-!
# The programs of the machine

The texts of their manuals come with the programs from outside: they are given by the name of the tool.
-/

namespace PipeShell.Machine

def idle (status : Nat) (c : Call) : Prog Nat := do
  c.readLone status
  return status

def noManuals : String → Manual := fun _ => {}

section
variable (manuals : String → Manual)

def tool (name : String) (run : Call → Prog Nat) :
    String × (List Octets → List (Octets × Octets) → Prog Nat) :=
  (name, fun argv environment =>
    run { name := argv.headD name, args := argv.tail, manual := manuals name
          conventions := .ofEnvironment environment })

def programs : List (String × (List Octets → List (Octets × Octets) → Prog Nat)) :=
  [tool manuals "cat" Cat.run, tool manuals "false" (idle 1), tool manuals "head" Head.run,
    tool manuals "printf" Printf.run, tool manuals "rmdir" Rmdir.run, ("sh", Script.run),
    tool manuals "sleep" Sleep.run, tool manuals "sort" Sort.run, tool manuals "true" (idle 0),
    tool manuals "tr" Tr.run, tool manuals "wc" Wc.run, tool manuals "yes" Yes.run]

def catalogue : Catalogue := fun name => (programs manuals).lookup name

end

def programNames : List String := (programs noManuals).map Prod.fst

end PipeShell.Machine
