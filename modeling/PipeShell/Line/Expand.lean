import PipeShell.Line.Layout
import PipeShell.Notice
import PipeShell.Symbols

/-!
# Expansion

Expansion puts the value of its variable into each node that asks for one. A value is put in as it
is: no dollar sign, quote or operator inside it is read again.
-/

namespace PipeShell

def Node.expand (table : Symbols) (n : Node) : Node :=
  match n.origin with
  | .parameter =>
    let value := table.lookup (n.name.getD "")
    { n with text := some value, value := some value }
  | _ => n

def Node.expansionNotice? (table : Symbols) (n : Node) : Option Notice :=
  match n.origin with
  | .parameter =>
    let name := n.name.getD ""
    some (.expanded name (table.lookup name))
  | _ => none

namespace Line

def expandNodes (table : Symbols) (ids : List Nat) (line : Line) : Line :=
  ids.foldl (fun line id => line.modify id (Node.expand table)) line

def expand (table : Symbols) (line : Line) : Except ShapeFault (Line × List Notice) := do
  let stages ← line.layout
  .ok (expandNodes table stages.flatten line,
    stages.flatten.filterMap fun id => (line.node id).expansionNotice? table)

end Line
end PipeShell
