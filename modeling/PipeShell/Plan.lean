import PipeShell.Line.Layout
import PipeShell.Notice

/-!
# Plans

A plan says what a line will run: for each stage its kind and its arguments, and for the whole
pipeline where its input comes from, where its output goes, and whether the shell waits for it.
Assembling checks each stage in turn and stops at the first that cannot run. Redirections count at
the two ends of a pipeline only; the others are reported and dropped.
-/

namespace PipeShell

structure Stage where
  kind : Kind
  argv : List String
deriving DecidableEq, Repr, Inhabited

structure Plan where
  stages : List Stage := []
  input : Option String := none
  output : Option String := none
  background : Bool := false
deriving DecidableEq, Repr, Inhabited

namespace Plan

def describe (p : Plan) : String :=
  " | ".intercalate (p.stages.map fun s => " ".intercalate s.argv)
    ++ (match p.input with | some path => " < " ++ path | none => "")
    ++ (match p.output with | some path => " > " ++ path | none => "")
    ++ (if p.background then " &" else "")

end Plan

def Node.arguments (words : List Node) : List String :=
  (words.filter fun n => n.origin ≠ .operator).map Node.content

def Stage.ofNodes (index : Nat) (words : List Node) : Except ShapeFault Stage :=
  let argv := Node.arguments words
  let kind := (words.headD {}).kind
  if argv.any (·.toList.contains '\x00') then .error (.nulArgument index)
  else if !kind.isBuiltin && argv.headD "" == "" then .error (.noCommand index)
  else .ok ⟨kind, argv⟩

def Node.ignoredRedirections (first last : Bool) (head : Node) : List Notice :=
  (if first then [] else (head.input.map Notice.inputIgnored).toList)
    ++ (if last then [] else (head.output.map Notice.outputIgnored).toList)

/-- What assembling a line gives: the plan or a fault, the line with the arguments noted on the
heads of the stages that were made ready, and the warnings. -/
structure Assembly where
  plan : Except ShapeFault Plan
  line : Line
  notices : List Notice

namespace Assembly

def ofStages (count : Nat) (plan : Plan) (line : Line) (notices : List Notice) :
    List (List Nat) → Assembly
  | [] => ⟨.ok plan, line, notices⟩
  | words :: rest =>
    let index := plan.stages.length
    match Stage.ofNodes index (words.map line.node) with
    | .error cause => ⟨.error cause, line, notices⟩
    | .ok stage =>
      let id := words.headD 0
      let head := line.node id
      let first := index == 0
      let last := index + 1 == count
      let plan :=
        { stages := plan.stages ++ [stage]
          input := if first then head.input else plan.input
          output := if last then head.output else plan.output
          background := if last then head.background else plan.background }
      ofStages count plan (line.modify id ({ · with argv := stage.argv }))
        (notices ++ head.ignoredRedirections first last) rest

end Assembly

def Line.assemble (line : Line) : Assembly :=
  match line.layout with
  | .error cause => ⟨.error cause, line, []⟩
  | .ok stages => .ofStages stages.length {} line [] stages

end PipeShell
