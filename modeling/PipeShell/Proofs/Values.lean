import PipeShell.Proofs.Assembling

/-!
# Lines with values

What putting in values does to a line: every parameter in the layout gets the value that the table has
for its name, and all else stays. So the layout stays too, and of several tables, one after another,
it is the last alone that counts (`Line.expand_law`).
-/

namespace PipeShell.Line

/-- A node without a name asks for the empty name, and a name that the table does not have is empty. -/
def valueOf (table : Symbols) (n : Node) : String :=
  (table.bindings.lookup (n.name.getD "")).getD ""

structure Valued (table : Symbols) (ids : List Nat) (line line' : Line) : Prop where
  head : line'.head = line.head
  lastStage : line'.lastStage = line.lastStage
  size : line'.nodes.size = line.nodes.size
  parameter : ∀ id ∈ ids, (line.node id).origin = .parameter →
    line'.node id = { line.node id with
      text := some (valueOf table (line.node id))
      value := some (valueOf table (line.node id)) }
  other : ∀ id, id ∉ ids ∨ (line.node id).origin ≠ .parameter → line'.node id = line.node id

variable {line : Line} {stages : List (List Nat)} {table other : Symbols}

theorem expand_of_parameter {n : Node} (parameter : n.origin = .parameter) :
    n.expand table = { n with text := some (valueOf table n), value := some (valueOf table n) } := by
  simp only [Node.expand, parameter]
  rfl

theorem expand_of_literal {n : Node} (literal : n.origin ≠ .parameter) : n.expand table = n := by
  unfold Node.expand
  split
  · contradiction
  · rfl

theorem expand_expand (n : Node) :
    (n.expand table).expand other = n.expand other ∧
      (n.expand table).expansionNotice? other = n.expansionNotice? other := by
  by_cases parameter : n.origin = .parameter
  · have first : n.expand table = _ := expand_of_parameter parameter
    have kept : (n.expand table).origin = .parameter := by rw [first, parameter]
    refine ⟨?_, ?_⟩
    · rw [expand_of_parameter kept, first, expand_of_parameter parameter]
      rfl
    · simp only [Node.expansionNotice?, kept, parameter]
      rw [first]
  · have kept : n.expand table = n := expand_of_literal parameter
    rw [kept]
    exact ⟨rfl, rfl⟩

theorem expand_eq (laid : line.layout = .ok stages) (table : Symbols) :
    line.expand table = .ok (expandNodes table stages.flatten line,
      stages.flatten.filterMap fun id => (line.node id).expansionNotice? table) := by
  rw [expand, laid]
  rfl

theorem valued_expandNodes {ids : List Nat} (nodup : ids.Nodup)
    (inside : ∀ id ∈ ids, id < line.nodes.size) :
    Valued table ids line (expandNodes table ids line) where
  head := head_expandNodes ids line
  lastStage := lastStage_expandNodes ids line
  size := size_expandNodes ids line
  parameter id member parameter := by
    rw [node_expandNodes nodup inside, if_pos member, expand_of_parameter parameter]
  other id spared := by
    rw [node_expandNodes nodup inside]
    split
    · next member => exact expand_of_literal (spared.resolve_left fun out => out member)
    · rfl

theorem expandNodes_expandNodes {ids : List Nat} (nodup : ids.Nodup)
    (inside : ∀ id ∈ ids, id < line.nodes.size) :
    expandNodes other ids (expandNodes table ids line) = expandNodes other ids line := by
  have inside' : ∀ id ∈ ids, id < (expandNodes table ids line).nodes.size := fun id member =>
    (size_expandNodes ids line).symm ▸ inside id member
  refine eq_of_node (by simp) (by simp) (by simp) fun i => ?_
  rw [node_expandNodes nodup inside', node_expandNodes nodup inside, node_expandNodes nodup inside]
  split
  · exact (expand_expand _).1
  · rfl

theorem expand_again (laid : line.layout = .ok stages) (table other : Symbols) :
    (expandNodes table stages.flatten line).expand other = line.expand other := by
  obtain ⟨-, nodup, inside⟩ := layout_eq_ok.1 laid
  have notices : ∀ id ∈ stages.flatten,
      ((expandNodes table stages.flatten line).node id).expansionNotice? other =
        (line.node id).expansionNotice? other := by
    intro id member
    rw [node_expandNodes nodup inside, if_pos member]
    exact (expand_expand _).2
  rw [expand_eq (layout_expandNodes laid), expand_eq laid, expandNodes_expandNodes nodup inside,
    List.filterMap_congr notices]

/-- Without a layout there is its fault. With one, values are put into the parameters that it holds and
nothing else is touched. So the layout stays, and putting in values again, from this table or another,
gives what it would have given at once. -/
theorem expand_law (line : Line) :
    (∀ fault table, line.layout = .error fault → line.expand table = .error fault) ∧
    ∀ stages table, line.layout = .ok stages → ∃ line' notices,
      line.expand table = .ok (line', notices) ∧ Valued table stages.flatten line line' ∧
      line'.layout = .ok stages ∧ ∀ other, line'.expand other = line.expand other := by
  refine ⟨fun fault table refused => ?_, fun stages table laid => ?_⟩
  · rw [expand, refused]
    rfl
  · obtain ⟨-, nodup, inside⟩ := layout_eq_ok.1 laid
    exact ⟨_, _, expand_eq laid table, valued_expandNodes nodup inside, layout_expandNodes laid,
      expand_again laid table⟩

def nameless : Line := ⟨#[{ origin := .parameter, text := some "x" }], some 0, some 0⟩

theorem expand_nameless :
    (nameless.node 0).origin = .parameter ∧ (nameless.node 0).name = none ∧
      nameless.layout = .ok [[0]] ∧ ∃ line' notices,
        nameless.expand (.ofList [("", "foo")]) = .ok (line', notices) ∧
          (line'.node 0).text = some "foo" ∧ (line'.node 0).value = some "foo" := by
  have laid : nameless.layout = .ok [[0]] := by decide +kernel
  exact ⟨rfl, rfl, laid, _, _, expand_eq laid _, rfl, rfl⟩

end PipeShell.Line
