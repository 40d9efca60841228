import PipeShell.Line

/-!
# Layout

The layout of a line: for each stage the numbers of its nodes, head first. The walk takes each node
that it visits off the list of those left, so it ends on every line; a link to a node that is no
longer left, or to none, stops it. Links between stages count on heads alone.
-/

namespace PipeShell.Line

def misplaced (line : Line) (id : Nat) : ShapeFault :=
  if id < line.nodes.size then .linkedTwice id else .dangling id

def chain (line : Line) (left : List Nat) :
    Option Nat → Except ShapeFault (List Nat × { l : List Nat // l.length ≤ left.length })
  | none => .ok ([], ⟨left, Nat.le_refl _⟩)
  | some id =>
    if _h : id ∈ left then
      match chain line (left.erase id) (line.node id).next with
      | .ok (ids, rest) =>
        .ok (id :: ids, ⟨rest.1, Nat.le_trans rest.2 List.length_erase_le⟩)
      | .error e => .error e
    else .error (line.misplaced id)
termination_by left.length
decreasing_by
  rw [List.length_erase_of_mem _h]
  exact Nat.sub_lt (List.length_pos_of_mem _h) Nat.one_pos

def stagesFrom (line : Line) (left : List Nat) : Option Nat → Except ShapeFault (List (List Nat))
  | none => .ok []
  | some id =>
    if _h : id ∈ left then
      match chain line (left.erase id) (line.node id).next with
      | .ok (ids, rest) => (stagesFrom line rest.1 (line.node id).nextStage).map ((id :: ids) :: ·)
      | .error e => .error e
    else .error (line.misplaced id)
termination_by left.length
decreasing_by
  refine Nat.lt_of_le_of_lt rest.2 ?_
  rw [List.length_erase_of_mem _h]
  exact Nat.sub_lt (List.length_pos_of_mem _h) Nat.one_pos

def layout (line : Line) : Except ShapeFault (List (List Nat)) :=
  line.stagesFrom (List.range line.nodes.size) line.head

def stages (line : Line) : Except ShapeFault (List (List Node)) :=
  line.layout.map (·.map (·.map line.node))

end PipeShell.Line
