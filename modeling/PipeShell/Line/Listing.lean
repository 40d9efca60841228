import PipeShell.Line.Layout

/-!
# Listings

The listing of a line, which shows how it was read: a row for each stage with its kind and its
redirections, and under it a row for each of its words. A line that has no layout shows the fault.
-/

namespace PipeShell
open Text (quoted)

def Node.row (n : Node) : String :=
  match n.origin with
  | .parameter => "  " ++ n.origin.label ++ " $" ++ n.name.getD "" ++ "\n"
  | origin => "  " ++ origin.label ++ " " ++ quoted n.content ++ "\n"

def Node.stageRow (index : Nat) (head : Node) : String :=
  "stage " ++ toString index ++ " [" ++ head.kind.label ++ "]"
    ++ (match head.input with | some path => " <" ++ path | none => "")
    ++ (match head.output with | some path => " >" ++ path | none => "")
    ++ (if head.background then " &" else "") ++ "\n"

namespace Line

def stageListing (index : Nat) (words : List Node) : String :=
  (words.headD {}).stageRow index ++ String.join (words.map Node.row)

def listing (line : Line) : String :=
  match line.stages with
  | .ok stages => String.join (stages.mapIdx stageListing)
  | .error cause => "<" ++ (Fault.malformed cause).message ++ ">"

end Line
end PipeShell
