import PipeShell.Line.Expand
import PipeShell.Plan
import PipeShell.Proofs.Construction

/-!
# From nodes to a plan

What becomes of a line that has a layout: its nodes get their values where they stand, and the plan is
that of the stages of these nodes (`Line.prepare_eq`). Neither putting in values nor noting arguments
on the heads touches a link, and no stage hears of another.
-/

namespace PipeShell

def Line.prepare (table : Symbols) (line : Line) : Except ShapeFault Plan :=
  (line.expand table).bind fun (line, _) => line.assemble.plan

/-! ## Plans of nodes -/

def Stage.ofAll : Nat → List (List Node) → Except ShapeFault (List Stage)
  | _, [] => .ok []
  | index, words :: rest =>
    match Stage.ofNodes index words with
    | .error cause => .error cause
    | .ok stage => (ofAll (index + 1) rest).map (stage :: ·)

namespace Stage

def ofWords (words : List Node) : Stage := ⟨(words.headD {}).kind, Node.arguments words⟩

/-- An argument holds the character that ends every argument, or there is no name of a program. -/
def Unfit (s : Stage) : Prop :=
  (∃ arg ∈ s.argv, '\x00' ∈ arg.toList) ∨ ¬s.kind.isBuiltin ∧ s.argv.headD "" = ""

theorem ofNodes_cases (index : Nat) (words : List Node) :
    (ofNodes index words = .ok (ofWords words) ∧ ¬(ofWords words).Unfit) ∨
    (∃ fault, ofNodes index words = .error fault ∧
      (fault = .nulArgument index ∨ fault = .noCommand index)) ∧ (ofWords words).Unfit := by
  unfold ofNodes ofWords Unfit
  dsimp only
  have nul : (Node.arguments words).any (·.toList.contains '\x00') ↔
      ∃ arg ∈ Node.arguments words, '\x00' ∈ arg.toList := by
    simp
  split
  · rename_i held
    exact .inr ⟨⟨_, rfl, .inl rfl⟩, .inl (nul.1 held)⟩
  · rename_i free
    split
    · rename_i nameless
      refine .inr ⟨⟨_, rfl, .inr rfl⟩, .inr ?_⟩
      simpa using nameless
    · rename_i named
      refine .inl ⟨rfl, ?_⟩
      rintro (held | nameless)
      · exact free (nul.2 held)
      · exact named (by simpa using nameless)

theorem ofAll_cases (index : Nat) (nodes : List (List Node)) :
    (ofAll index nodes = .ok (nodes.map ofWords) ∧ ∀ stage ∈ nodes.map ofWords, ¬stage.Unfit) ∨
    (∃ fault, ofAll index nodes = .error fault ∧
      ∃ i, fault = .nulArgument i ∨ fault = .noCommand i) ∧
      ∃ stage ∈ nodes.map ofWords, stage.Unfit := by
  induction nodes generalizing index with
  | nil => exact .inl ⟨rfl, by simp⟩
  | cons words rest ih =>
    rw [ofAll, List.map_cons]
    rcases ofNodes_cases index words with ⟨made, fit⟩ | ⟨⟨fault, refused, cause⟩, unfit⟩
    · rw [made]
      dsimp only
      rcases ih (index + 1) with ⟨later, all⟩ | ⟨⟨fault, later, cause⟩, other, member, unfit⟩
      · rw [later]
        exact .inl ⟨rfl, List.forall_mem_cons.2 ⟨fit, all⟩⟩
      · rw [later]
        exact .inr ⟨⟨fault, rfl, cause⟩, other, List.mem_cons_of_mem _ member, unfit⟩
    · rw [refused]
      exact .inr ⟨⟨fault, rfl, index, cause⟩, _, List.mem_cons_self, unfit⟩

end Stage

namespace Plan

def spanning (nodes : List (List Node)) (stages : List Stage) : Plan where
  stages := stages
  input := nodes.head?.bind fun words => (words.headD {}).input
  output := nodes.getLast?.bind fun words => (words.headD {}).output
  background := nodes.getLast?.any fun words => (words.headD {}).background

def ofNodes (nodes : List (List Node)) : Except ShapeFault Plan :=
  (Stage.ofAll 0 nodes).map (spanning nodes)

theorem ofNodes_cases (nodes : List (List Node)) :
    (ofNodes nodes = .ok (spanning nodes (nodes.map Stage.ofWords)) ∧
      ∀ stage ∈ nodes.map Stage.ofWords, ¬stage.Unfit) ∨
    (∃ fault, ofNodes nodes = .error fault ∧
      ∃ i, fault = .nulArgument i ∨ fault = .noCommand i) ∧
      ∃ stage ∈ nodes.map Stage.ofWords, stage.Unfit := by
  unfold ofNodes
  refine (Stage.ofAll_cases 0 nodes).imp (fun ⟨made, fit⟩ => ⟨?_, fit⟩)
    fun ⟨⟨fault, refused, cause⟩, unfit⟩ => ⟨⟨fault, ?_, cause⟩, unfit⟩
  · rw [made]
    rfl
  · rw [refused]
    rfl

theorem spanning_concat (before : List (List Node)) (head : Node) (words : List Node)
    (stages : List Stage) :
    spanning (before ++ [head :: words]) stages =
      { stages
        input := if before = [] then head.input else (spanning before []).input
        output := head.output
        background := head.background } := by
  have last : (before ++ [head :: words]).getLast? = some (head :: words) := List.getLast?_concat
  simp only [spanning, last]
  cases before <;> rfl

end Plan

namespace Line
variable {line line' : Line} {stages : List (List Nat)} {table : Symbols}

/-! ## Layouts that stay -/

theorem layout_congr (laid : line.layout = .ok stages) (head : line'.head = line.head)
    (size : line'.nodes.size = line.nodes.size)
    (next : ∀ i, (line'.node i).next = (line.node i).next)
    (nextStage : ∀ i, (line'.node i).nextStage = (line.node i).nextStage) :
    line'.layout = .ok stages := by
  obtain ⟨tour, nodup, bound⟩ := layout_eq_ok.1 laid
  refine layout_eq_ok.2 ⟨?_, nodup, fun id member => size ▸ bound id member⟩
  rw [head]
  exact tour.congr (fun i _ => next i) fun i _ => nextStage i

theorem Tour.ne_nil {start : Option Nat} (tour : Tour line start stages) :
    ∀ stage ∈ stages, stage ≠ [] := by
  intro stage member
  obtain ⟨id, first, -⟩ := tour.walk member
  rintro rfl
  cases first

/-! ## Values -/

@[simp] theorem head_expandNodes (ids : List Nat) (line : Line) :
    (expandNodes table ids line).head = line.head := by
  induction ids generalizing line with
  | nil => rfl
  | cons id ids ih => exact ih _

@[simp] theorem lastStage_expandNodes (ids : List Nat) (line : Line) :
    (expandNodes table ids line).lastStage = line.lastStage := by
  induction ids generalizing line with
  | nil => rfl
  | cons id ids ih => exact ih _

@[simp] theorem size_expandNodes (ids : List Nat) (line : Line) :
    (expandNodes table ids line).nodes.size = line.nodes.size := by
  induction ids generalizing line with
  | nil => rfl
  | cons id ids ih => exact (ih _).trans (size_modify line id _)

theorem node_expandNodes {ids : List Nat} (nodup : ids.Nodup)
    (bound : ∀ id ∈ ids, id < line.nodes.size) (i : Nat) :
    (expandNodes table ids line).node i =
      if i ∈ ids then (line.node i).expand table else line.node i := by
  induction ids generalizing line with
  | nil => rfl
  | cons id ids ih =>
    obtain ⟨fresh, nodup⟩ := List.nodup_cons.1 nodup
    have inside : id < line.nodes.size := bound id List.mem_cons_self
    have later : ∀ j ∈ ids, j < (line.modify id (Node.expand table)).nodes.size := fun j member =>
      (size_modify line id _).symm ▸ bound j (List.mem_cons_of_mem id member)
    change (expandNodes table ids (line.modify id (Node.expand table))).node i = _
    rw [ih nodup later, node_modify]
    by_cases here : i = id
    · subst here
      simp [fresh, inside]
    · simp [here]

@[simp] theorem expand_next (n : Node) : (n.expand table).next = n.next := by
  unfold Node.expand
  split <;> rfl

@[simp] theorem expand_nextStage (n : Node) : (n.expand table).nextStage = n.nextStage := by
  unfold Node.expand
  split <;> rfl

theorem layout_expandNodes (laid : line.layout = .ok stages) :
    (expandNodes table stages.flatten line).layout = .ok stages := by
  obtain ⟨-, nodup, bound⟩ := layout_eq_ok.1 laid
  have nodes (i : Nat) : (expandNodes table stages.flatten line).node i =
      if i ∈ stages.flatten then (line.node i).expand table else line.node i :=
    node_expandNodes nodup bound i
  refine layout_congr laid (head_expandNodes _ _) (size_expandNodes _ _) (fun i => ?_) fun i => ?_
  · rw [nodes]
    split <;> simp
  · rw [nodes]
    split <;> simp

/-! ## Stages -/

theorem map_node_modify {id : Nat} {f : Node → Node} (other : id ∉ stages.flatten) :
    (stages.map fun ids => ids.map (line.modify id f).node) =
      stages.map fun ids => ids.map line.node := by
  refine List.map_congr_left fun ids stage => List.map_congr_left fun i member => ?_
  rw [node_modify, if_neg]
  rintro ⟨rfl, -⟩
  exact other (List.mem_flatten.2 ⟨ids, stage, member⟩)

theorem plan_ofStages (before : List (List Node)) (plan : Plan) (line : Line)
    (notices : List Notice) (count : Nat) (stages : List (List Nat)) (nodup : stages.flatten.Nodup)
    (begun : ∀ stage ∈ stages, stage ≠ []) (done : plan.stages.length = before.length)
    (all : count = before.length + stages.length)
    (input : before ≠ [] → plan.input = (Plan.spanning before []).input)
    (ended : stages = [] → plan = Plan.spanning before plan.stages) :
    (Assembly.ofStages count plan line notices stages).plan =
      (Stage.ofAll plan.stages.length (stages.map (·.map line.node))).map fun more =>
        Plan.spanning (before ++ stages.map (·.map line.node)) (plan.stages ++ more) := by
  induction stages generalizing before plan line notices with
  | nil =>
    rw [Assembly.ofStages, List.map_nil, Stage.ofAll, Except.map, List.append_nil, List.append_nil,
      ← ended rfl]
  | cons words rest ih =>
    rw [Assembly.ofStages, List.map_cons, Stage.ofAll]
    dsimp only
    cases made : Stage.ofNodes plan.stages.length (words.map line.node) with
    | error cause => rfl
    | ok stage =>
      obtain ⟨id, ids, rfl⟩ := List.exists_cons_of_ne_nil (begun words List.mem_cons_self)
      have apart : id ∉ rest.flatten := by
        rw [List.flatten_cons, List.cons_append, List.nodup_cons] at nodup
        exact fun member => nodup.1 (List.mem_append_right ids member)
      have next := ih (before ++ [(id :: ids).map line.node])
        { stages := plan.stages ++ [stage]
          input := if plan.stages.length == 0 then (line.node id).input else plan.input
          output := if plan.stages.length + 1 == count then (line.node id).output else plan.output
          background :=
            if plan.stages.length + 1 == count then (line.node id).background
            else plan.background }
        (line.modify id ({ · with argv := stage.argv }))
        (notices ++ (line.node id).ignoredRedirections (plan.stages.length == 0)
          (plan.stages.length + 1 == count))
        (by rw [List.flatten_cons, List.nodup_append] at nodup; exact nodup.2.1)
        (fun stage member => begun stage (List.mem_cons_of_mem _ member))
        (by simp [done]) (by simp [all]; omega) ?_ ?_
      · have later : rest.map (·.map (line.modify id ({ · with argv := stage.argv })).node) =
            rest.map (·.map line.node) := map_node_modify apart
        rw [later] at next
        refine next.trans ?_
        rw [List.length_append, List.length_singleton]
        cases Stage.ofAll (plan.stages.length + 1) (rest.map (·.map line.node)) with
        | error cause => rfl
        | ok more => simp [Except.map]
      · intro _
        rw [List.map_cons, Plan.spanning_concat]
        by_cases first : before = []
        · simp [first, show plan.stages.length = 0 by simp [done, first]]
        · have later : plan.stages.length ≠ 0 := by simpa [done] using first
          simpa [first, later] using input first
      · rintro rfl
        have last : plan.stages.length + 1 = count := by simp [done, all]
        rw [List.map_cons, Plan.spanning_concat]
        by_cases first : before = []
        · have empty : plan.stages.length = 0 := by simp [done, first]
          rw [empty] at last
          simp [first, empty, ← last]
        · have later : plan.stages.length ≠ 0 := by simpa [done] using first
          simpa [first, last, later] using input first

theorem assemble_eq (laid : line.layout = .ok stages) :
    line.assemble.plan = Plan.ofNodes (stages.map (·.map line.node)) := by
  obtain ⟨tour, nodup, -⟩ := layout_eq_ok.1 laid
  rw [assemble, laid]
  have found := plan_ofStages [] {} line [] stages.length stages nodup tour.ne_nil rfl (by simp)
    (fun filled => absurd rfl filled) (by rintro rfl; rfl)
  exact found

theorem prepare_eq (laid : line.layout = .ok stages) : line.prepare table =
    Plan.ofNodes (stages.map (·.map fun id => (line.node id).expand table)) := by
  obtain ⟨-, nodup, bound⟩ := layout_eq_ok.1 laid
  have expands : line.expand table = .ok (expandNodes table stages.flatten line,
      stages.flatten.filterMap fun id => (line.node id).expansionNotice? table) := by
    rw [expand, laid]
    rfl
  have values : stages.map (·.map (expandNodes table stages.flatten line).node) =
      stages.map (·.map fun id => (line.node id).expand table) := by
    refine List.map_congr_left fun ids stage => List.map_congr_left fun i member => ?_
    rw [node_expandNodes nodup bound, if_pos (List.mem_flatten.2 ⟨ids, stage, member⟩)]
  rw [prepare, expands]
  exact (assemble_eq (layout_expandNodes laid)).trans (by rw [values])

end Line
end PipeShell
