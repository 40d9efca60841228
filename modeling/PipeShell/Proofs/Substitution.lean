import PipeShell.Proofs.Assembling
import PipeShell.Proofs.Reading

/-!
# Values stay values

What the value of a variable can do to a line that was read: it stands in the place of the variable as
one argument, whatever is written in it, and the rest of the plan comes from the text alone
(`Line.prepare_noninterference`). The only lines that cannot be made ready are those with an argument that no
program can be given, or without the name of a program.
-/

namespace PipeShell

namespace Token

def isWord : Token → Bool
  | word _ | quoted _ | parameter _ => true
  | _ => false

def words : List Token → List Token
  | .input :: _ :: ts => words ts
  | .output :: _ :: ts => words ts
  | t :: ts => if t.isWord then t :: words ts else words ts
  | [] => []

def parts : List Token → List (List Token)
  | [] => []
  | ts => (unmarked ts).splitOn .pipe

def word? (ts : List Token) (stage place : Nat) : Option Token :=
  ((parts ts)[stage]?.map words).bind (·[place]?)

def value (table : Symbols) : Token → String
  | word text | quoted text => text
  | parameter name => table.lookup name
  | _ => ""

def stage (table : Symbols) (part : List Token) : Stage :=
  ⟨headKind part, (words part).map (value table)⟩

end Token

def Plan.argument? (p : Plan) (stage place : Nat) : Option String :=
  (p.stages[stage]?.map Stage.argv).bind (·[place]?)

/-! ## Nodes -/

namespace Node
variable {table : Symbols}

theorem unlinked_expand (n : Node) : (n.expand table).unlinked = n.unlinked.expand table := by
  obtain ⟨kind, origin, text, name, value, background, input, output, argv, next, nextStage⟩ := n
  cases origin <;> rfl

theorem arguments_unlinked (words : List Node) :
    arguments (words.map unlinked) = arguments words := by
  simp only [arguments, List.filter_map, List.map_map]
  rfl

theorem arguments_append (words more : List Node) :
    arguments (words ++ more) = arguments words ++ arguments more := by
  simp [arguments]

@[simp] theorem kind_expand (n : Node) : (n.expand table).kind = n.kind := by
  unfold expand
  split <;> rfl

@[simp] theorem input_expand (n : Node) : (n.expand table).input = n.input := by
  unfold expand
  split <;> rfl

@[simp] theorem output_expand (n : Node) : (n.expand table).output = n.output := by
  unfold expand
  split <;> rfl

@[simp] theorem background_expand (n : Node) :
    (n.expand table).background = n.background := by
  unfold expand
  split <;> rfl

end Node

theorem headD_map {α : Type} {read : Node → α} {f : Node → Node}
    (keeps : ∀ n, read (f n) = read n) (words : List Node) :
    read ((words.map f).headD {}) = read (words.headD {}) := by
  cases words with
  | nil => rfl
  | cons head rest => exact keeps head

theorem Plan.spanning_map {f : Node → Node} (input : ∀ n, (f n).input = n.input)
    (output : ∀ n, (f n).output = n.output) (background : ∀ n, (f n).background = n.background)
    (nodes : List (List Node)) :
    Plan.spanning (nodes.map (·.map f)) = Plan.spanning nodes := by
  funext stages
  simp only [Plan.spanning, List.head?_map, List.getLast?_map, Option.bind_map, Option.any_map,
    Function.comp_def, headD_map input, headD_map output, headD_map background]

theorem Plan.ofNodes_unlinked (nodes : List (List Node)) :
    Plan.ofNodes (nodes.map (·.map Node.unlinked)) = Plan.ofNodes nodes := by
  have stage (index : Nat) (words : List Node) :
      Stage.ofNodes index (words.map Node.unlinked) = Stage.ofNodes index words := by
    have kind : ((words.map Node.unlinked).headD {}).kind = (words.headD {}).kind :=
      headD_map (f := Node.unlinked) (fun _ => rfl) words
    simp only [Stage.ofNodes, Node.arguments_unlinked, kind]
  have stages (index : Nat) :
      Stage.ofAll index (nodes.map (·.map Node.unlinked)) = Stage.ofAll index nodes := by
    induction nodes generalizing index with
    | nil => rfl
    | cons words rest ih =>
      rw [List.map_cons, Stage.ofAll, Stage.ofAll, stage, ih]
  have ends : Plan.spanning (nodes.map (·.map Node.unlinked)) = Plan.spanning nodes :=
    Plan.spanning_map (f := Node.unlinked) (fun _ => rfl) (fun _ => rfl) (fun _ => rfl) nodes
  rw [Plan.ofNodes, Plan.ofNodes, stages, ends]

/-! ## Tokens -/

namespace Token
variable {table : Symbols}

theorem arguments_wordNodes (part : List Token) :
    Node.arguments ((wordNodes part).map (Node.expand table)) = (words part).map (value table) := by
  fun_induction words part with
  | case1 t ts ih => exact ih
  | case2 t ts ih => exact ih
  | case3 t ts input output word ih =>
    have step : wordNodes (t :: ts) = t.node?.toList ++ wordNodes ts := by
      rw [wordNodes]
      · exact input
      · exact output
    rw [step, List.map_append, Node.arguments_append, List.map_cons, ih]
    cases t <;> first | rfl | cases word
  | case4 t ts input output word ih =>
    have step : wordNodes (t :: ts) = t.node?.toList ++ wordNodes ts := by
      rw [wordNodes]
      · exact input
      · exact output
    rw [step, List.map_append, Node.arguments_append, ih]
    cases t <;> first | rfl | exact absurd rfl word
  | case5 => rfl

theorem wordNodes_word (text : String) (ts : List Token) :
    wordNodes (.word text :: ts) ≠ [] := by
  cases ts <;> simp [wordNodes, node?]

theorem ofWords_stageNodes (background : Bool) (part : List Token) :
    Stage.ofWords ((stageNodes background part).map (Node.expand table)) = stage table part := by
  rw [stage, ← arguments_wordNodes]
  cases nodes : wordNodes part with
  | nil =>
    have kind : headKind part = .program := by
      unfold headKind
      split
      · exact absurd nodes (wordNodes_word _ _)
      · rfl
    rw [stageNodes, nodes, kind]
    rfl
  | cons head args =>
    rw [stageNodes, nodes]
    simp only [Stage.ofWords, List.map_cons, List.headD_cons, Node.kind_expand, Stage.mk.injEq,
      true_and]
    obtain ⟨kind, origin, text, name, value, mark, input, output, argv, next, nextStage⟩ := head
    cases origin <;> rfl

theorem map_stagesNodes (background : Bool) (parts : List (List Token)) :
    ((stagesNodes background parts).map (·.map (Node.expand table))).map Stage.ofWords =
      parts.map (stage table) := by
  induction parts with
  | nil => rfl
  | cons part rest ih =>
    cases rest with
    | nil => simp [stagesNodes, ofWords_stageNodes]
    | cons next rest =>
      rw [stagesNodes, List.map_cons, List.map_cons, ih, ofWords_stageNodes]
      · rfl
      · exact List.cons_ne_nil next rest

theorem map_lineNodes (ts : List Token) :
    ((lineNodes ts).map (·.map (Node.expand table))).map Stage.ofWords =
      (parts ts).map (stage table) := by
  cases ts with
  | nil => rfl
  | cons t ts => exact map_stagesNodes _ _

theorem wordNodes_nil {part : List Token} (wordless : words part = []) : wordNodes part = [] := by
  fun_induction words part with
  | case1 t ts ih => exact ih wordless
  | case2 t ts ih => exact ih wordless
  | case3 => cases wordless
  | case4 t ts input output word ih =>
    rw [wordNodes, ih wordless]
    · cases t <;> first | rfl | exact absurd rfl word
    · exact input
    · exact output
  | case5 => rfl

theorem exists_stageNodes {background : Bool} {part : List Token} {parts : List (List Token)}
    (member : part ∈ parts) : ∃ mark, stageNodes mark part ∈ stagesNodes background parts := by
  fun_induction stagesNodes background parts with
  | case1 => cases member
  | case2 ts =>
    obtain rfl := List.mem_singleton.1 member
    exact ⟨background, List.mem_singleton_self _⟩
  | case3 ts rest _ ih =>
    rcases List.mem_cons.1 member with rfl | later
    · exact ⟨false, List.mem_cons_self⟩
    · obtain ⟨mark, found⟩ := ih later
      exact ⟨mark, List.mem_cons_of_mem _ found⟩

theorem words_ne_nil {ts part : List Token} (worded : ∀ nodes ∈ lineNodes ts, nodes ≠ [])
    (member : part ∈ parts ts) : words part ≠ [] := by
  intro wordless
  cases ts with
  | nil => cases member
  | cons t ts =>
    obtain ⟨mark, found⟩ : ∃ mark, stageNodes mark part ∈ lineNodes (t :: ts) :=
      exists_stageNodes member
    refine worded _ found ?_
    rw [stageNodes, wordNodes_nil wordless]

theorem argument?_stages {p : Plan} {ts : List Token}
    (stages : p.stages = (parts ts).map (stage table)) (i j : Nat) :
    p.argument? i j = (word? ts i j).map (value table) := by
  rw [Plan.argument?, word?, stages, List.getElem?_map]
  cases (parts ts)[i]? with
  | none => rfl
  | some part => simp [stage]

end Token

/-! ## Lines that were read -/

namespace Line
variable {text : String} {line : Line} {ts : List Token}

theorem prepare_of_parse (found : parse text = .ok line)
    (lexed : Token.lex text.toList = ⟨ts, none⟩) (table : Symbols) :
    line.prepare table =
      Plan.ofNodes ((Token.lineNodes ts).map (·.map (Node.expand table))) := by
  obtain ⟨stages, threaded, words⟩ := holds_of_parse found lexed
  have nodes : (stages.map (·.map fun id => (line.node id).expand table)).map (·.map Node.unlinked) =
      (Token.lineNodes ts).map (·.map (Node.expand table)) := by
    rw [← words]
    simp only [List.map_map, Function.comp_def, Line.words, Node.unlinked_expand]
  rw [prepare_eq threaded.layout_eq, ← Plan.ofNodes_unlinked, nodes]

theorem prepare_cases (found : parse text = .ok line)
    (lexed : Token.lex text.toList = ⟨ts, none⟩) (table : Symbols) :
    (line.prepare table =
        .ok (Plan.spanning (Token.lineNodes ts) ((Token.parts ts).map (Token.stage table))) ∧
      ∀ stage ∈ (Token.parts ts).map (Token.stage table), ¬stage.Unfit) ∨
    (∃ fault, line.prepare table = .error fault ∧
      ∃ i, fault = .nulArgument i ∨ fault = .noCommand i) ∧
      ∃ stage ∈ (Token.parts ts).map (Token.stage table), stage.Unfit := by
  have ends : Plan.spanning ((Token.lineNodes ts).map (·.map (Node.expand table))) =
      Plan.spanning (Token.lineNodes ts) :=
    Plan.spanning_map Node.input_expand Node.output_expand Node.background_expand _
  have cases := Plan.ofNodes_cases ((Token.lineNodes ts).map (·.map (Node.expand table)))
  rwa [Token.map_lineNodes, ends, ← prepare_of_parse found lexed] at cases

theorem words_of_parse (found : parse text = .ok line)
    (lexed : Token.lex text.toList = ⟨ts, none⟩) : ∀ part ∈ Token.parts ts, Token.words part ≠ [] := by
  obtain ⟨stages, threaded, words⟩ := holds_of_parse found lexed
  intro part member
  refine Token.words_ne_nil ?_ member
  rw [← words]
  intro nodes held
  obtain ⟨stage, there, rfl⟩ := List.mem_map.1 held
  simpa [Line.words] using threaded.tour.ne_nil stage there

/-- Between two tables the plans of a line that was read differ in the values of its variables alone,
each of which is one whole argument. The line has no plan just when an argument holds the character
that ends arguments or a program has the empty name. -/
theorem prepare_noninterference (text : String) (line : Line) (found : parse text = .ok line) :
    ∃ ts, Token.lex text.toList = ⟨ts, none⟩ ∧
      (∀ first second p q, line.prepare first = .ok p → line.prepare second = .ok q →
        p.stages.length = q.stages.length ∧
        p.stages.map Stage.kind = q.stages.map Stage.kind ∧
        p.stages.map (·.argv.length) = q.stages.map (·.argv.length) ∧
        p.input = q.input ∧ p.output = q.output ∧ p.background = q.background ∧
        ∀ i j, p.argument? i j ≠ q.argument? i j →
          ∃ name, Token.word? ts i j = some (.parameter name)) ∧
      (∀ table p, line.prepare table = .ok p → ∀ i j name,
        Token.word? ts i j = some (.parameter name) →
          p.argument? i j = some ((table.bindings.lookup name).getD "")) ∧
      ∀ table,
        (∀ fault, line.prepare table = .error fault →
          ∃ i, fault = .nulArgument i ∨ fault = .noCommand i) ∧
        ((∃ fault, line.prepare table = .error fault) ↔
          ∃ stage ∈ (Token.parts ts).map (Token.stage table),
            (∃ arg ∈ stage.argv, '\x00' ∈ arg.toList) ∨
              ¬stage.kind.isBuiltin ∧ stage.argv.head? = some "") := by
  obtain ⟨ts, stages, lexed, -⟩ := layout_of_parse found
  have made : ∀ {table p}, line.prepare table = .ok p →
      p = Plan.spanning (Token.lineNodes ts) ((Token.parts ts).map (Token.stage table)) := by
    intro table p ready
    rcases prepare_cases found lexed table with ⟨same, -⟩ | ⟨⟨fault, refused, -⟩, -⟩
    · exact (Except.ok.inj (same.symm.trans ready)).symm
    · rw [refused] at ready
      cases ready
  refine ⟨ts, lexed, fun first second p q ready ready' => ?_, fun table p ready i j name here => ?_,
    fun table => ⟨fun fault refused => ?_, ?_⟩⟩
  · obtain rfl := made ready
    obtain rfl := made ready'
    refine ⟨?_, ?_, ?_, rfl, rfl, rfl, fun i j differ => ?_⟩
    · simp [Plan.spanning]
    · simp [Plan.spanning, Token.stage]
    · simp [Plan.spanning, Token.stage]
    · rw [Token.argument?_stages rfl, Token.argument?_stages rfl] at differ
      cases here : Token.word? ts i j with
      | none => simp [here] at differ
      | some t =>
        rw [here] at differ
        cases t <;> first | exact ⟨_, rfl⟩ | exact absurd rfl differ
  · obtain rfl := made ready
    rw [Token.argument?_stages rfl, here]
    rfl
  · rcases prepare_cases found lexed table with ⟨same, -⟩ | ⟨⟨cause, other, known⟩, -⟩
    · rw [refused] at same
      cases same
    · rw [refused] at other
      obtain rfl := Except.error.inj other
      exact known
  · have unfit : ∀ stage ∈ (Token.parts ts).map (Token.stage table),
        (stage.Unfit ↔ (∃ arg ∈ stage.argv, '\x00' ∈ arg.toList) ∨
          ¬stage.kind.isBuiltin ∧ stage.argv.head? = some "") := by
      intro stage member
      obtain ⟨part, within, rfl⟩ := List.mem_map.1 member
      obtain ⟨head, args, eq⟩ := List.exists_cons_of_ne_nil (words_of_parse found lexed part within)
      simp [Stage.Unfit, Token.stage, eq]
    rcases prepare_cases found lexed table with ⟨same, fit⟩ | ⟨⟨cause, other, -⟩, stage, member, wrong⟩
    · constructor
      · rintro ⟨fault, refused⟩
        rw [same] at refused
        cases refused
      · rintro ⟨stage, member, wrong⟩
        exact absurd ((unfit stage member).2 wrong) (fit stage member)
    · exact ⟨fun _ => ⟨stage, member, (unfit stage member).1 wrong⟩, fun _ => ⟨cause, other⟩⟩

def catValue : Line := ofPipeline ⟨[⟨.word "cat", [.arg (.parameter "x")]⟩], false⟩

theorem prepare_noninterference_catValue :
    parse "cat $x" = .ok catValue ∧
      catValue.prepare (.ofList [("x", "a | b > c")]) =
        .ok { stages := [⟨.program, ["cat", "a | b > c"]⟩] } ∧
      ∀ table p, catValue.prepare table = .ok p → p.stages.length = 1 ∧ p.output = none := by
  have found : parse "cat $x" = .ok catValue := by decide +kernel
  have ready : catValue.prepare (.ofList [("x", "a | b > c")]) =
      .ok { stages := [⟨.program, ["cat", "a | b > c"]⟩] } := by
    decide +kernel
  obtain ⟨ts, -, same, -⟩ := prepare_noninterference "cat $x" catValue found
  refine ⟨found, ready, fun table p ready' => ?_⟩
  obtain ⟨count, -, -, -, output, -⟩ := same table _ p _ ready' ready
  exact ⟨count, output⟩

end Line
end PipeShell
