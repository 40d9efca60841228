import PipeShell.Pipeline

/-!
# Linked lines

A line as linked nodes. The nodes stand in one array and are named by their places in it. One chain
of links goes through the heads of the stages, and from each head another goes through the words of
its stage. Links may be overwritten by hand, so a line may also hold cycles, nodes that two chains
share, and links to no node at all; `Line.Layout` tells which lines are well formed.
-/

namespace PipeShell

inductive Origin where
  | parameter
  | word
  | quoted
  | operator
deriving DecidableEq, Repr, Inhabited

def Origin.label : Origin → String
  | parameter => "Variable"
  | word => "Word"
  | quoted => "QuotedString"
  | operator => "Metacharacter"

structure Node where
  kind : Kind := .program
  origin : Origin := .word
  text : Option String := none
  name : Option String := none
  value : Option String := none
  background : Bool := false
  input : Option String := none
  output : Option String := none
  /-- The arguments of the stage, noted on its head when it is made ready to run. -/
  argv : List String := []
  next : Option Nat := none
  nextStage : Option Nat := none
deriving DecidableEq, Repr, Inhabited

namespace Node

def ofText (text : String) (origin : Origin) : Node := { origin, text := some text }

def ofParameter (name : String) : Node := { origin := .parameter, name := some name }

def ofCommand (kind : Kind) (text : String) : Node := { kind, text := some text }

def ofArg : Arg → Node
  | .word text => ofText text .word
  | .quoted text => ofText text .quoted
  | .parameter name => ofParameter name

def ofHead : Arg → Node
  | .word text => ofCommand (.ofWord text) text
  | a => ofArg a

def content (n : Node) : String := n.text.getD ""

end Node

structure Line where
  nodes : Array Node := #[]
  head : Option Nat := none
  lastStage : Option Nat := none
deriving DecidableEq, Repr, Inhabited

namespace Line

def empty : Line := {}

def isEmpty (line : Line) : Bool := line.head.isNone

def node (line : Line) (id : Nat) : Node := line.nodes.getD id {}

def modify (line : Line) (id : Nat) (f : Node → Node) : Line :=
  { line with nodes := line.nodes.modify id f }

def pushStage (line : Line) (n : Node) : Line :=
  let id := line.nodes.size
  let linked : Line :=
    match line.lastStage with
    | some last => line.modify last ({ · with nextStage := some id })
    | none => { line with head := some id }
  { linked with nodes := linked.nodes.push n, lastStage := some id }

def lastWord (line : Line) : Nat → Nat → Nat
  | 0, id => id
  | steps + 1, id =>
    match (line.node id).next with
    | some next => line.lastWord steps next
    | none => id

def pushWord (line : Line) (id : Nat) (n : Node) : Line :=
  let last := line.lastWord line.nodes.size id
  let linked := line.modify last ({ · with next := some line.nodes.size })
  { linked with nodes := linked.nodes.push n }

def pushSegment (line : Line) (s : Segment) : Line :=
  let id := line.nodes.size
  s.args.foldl (fun line a => line.pushWord id (.ofArg a))
    (line.pushStage { Node.ofHead s.head with input := s.input, output := s.output })

def ofPipeline (p : Pipeline) : Line :=
  let line := p.stages.foldl pushSegment empty
  match line.lastStage with
  | some last => line.modify last ({ · with background := p.background })
  | none => line

def parse (text : String) : Except Fault Line :=
  match Pipeline.parse text with
  | .ok p => .ok (ofPipeline p)
  | .error cause => .error (.unreadable cause)

end Line
end PipeShell
