import PipeShell.Plan
import PipeShell.World

/-!
# Wiring

Before a pipeline runs, its two files are opened, the input before the output, and a pipe is made
between each stage and the next. If the input cannot be opened, the output is not touched. A pipe
end never takes the place of a file: the files belong to the two outer streams, the pipes to all
others. That the system can make the pipes is taken for granted.
-/

namespace PipeShell

structure Wiring where
  stages : List Streams
  opened : List End
  pipes : Nat
deriving DecidableEq, Repr

namespace Wiring

/-- The streams of the stage at a place, when the pipes have the numbers from `base` on. -/
def streamsAt (base count : Nat) (input output : Option End) (index : Nat) : Streams :=
  { input := if index = 0 then input else some (.reader (base + (index - 1)))
    output := if index + 1 = count then output else some (.writer (base + index)) }

def pipeEnds (base count : Nat) : List End :=
  (List.range count).flatMap fun i => [.reader (base + i), .writer (base + i)]

end Wiring

/-- What trying to wire a plan gives: the wiring or a fault, and the world after it. When the output
cannot be opened, the input that was opened has been closed again, and the world is as it was. -/
structure WiringAttempt where
  wiring : Except Fault Wiring
  closed : Option End
  world : World

namespace Plan

def openEnd (how : String → Except SystemError (End × World)) (w : World) :
    Option String → Except Fault (Option End × World)
  | none => .ok (none, w)
  | some path =>
    match how path with
    | .ok (e, w) => .ok (some e, w)
    | .error cause => .error (.redirection path cause)

def wire (p : Plan) (w : World) : WiringAttempt :=
  if p.stages.isEmpty then ⟨.ok ⟨[], [], 0⟩, none, w⟩
  else
    match openEnd w.openFile w p.input with
    | .error fault => ⟨.error fault, none, w⟩
    | .ok (input, opened) =>
      match openEnd opened.createFile opened p.output with
      | .error fault => ⟨.error fault, input, w⟩
      | .ok (output, created) =>
        let count := p.stages.length
        let base := created.pipes.size
        let wiring :=
          { stages := (List.range count).map (Wiring.streamsAt base count input output)
            opened := input.toList ++ output.toList ++ Wiring.pipeEnds base (count - 1)
            pipes := count - 1 }
        ⟨.ok wiring, none, created.openPipes (count - 1)⟩

end Plan
end PipeShell
