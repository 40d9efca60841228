import PipeShell.Proofs.Assembling

/-!
# Lines made ready

What assembling does to a line that has a layout, and what it makes of it. The stages are made ready one
after another up to the first that cannot run (`Line.Assembles`): each has its arguments noted on its
head, and nothing else is touched. So a line can be assembled again, with the same plan or the same
fault, the same warnings and the same line (`Line.assemble_law`).
-/

namespace PipeShell

attribute [ext] Assembly

namespace Line

/-! ## Stages -/

def headOf (line : Line) (ids : List Nat) : Node := line.node (ids.headD 0)

def arguments (line : Line) (ids : List Nat) : List String :=
  ids.filterMap fun id =>
    if (line.node id).origin = .operator then none else some ((line.node id).text.getD "")

structure Runnable (line : Line) (ids : List Nat) : Prop where
  clean : ∀ arg ∈ line.arguments ids, '\x00' ∉ arg.toList
  named : (line.headOf ids).kind = .program → ∃ name args, line.arguments ids = name :: args ∧ name ≠ ""

/-- Why a stage, the one with this number, cannot run. -/
inductive Offends (line : Line) (index : Nat) (ids : List Nat) : ShapeFault → Prop
  | nul {arg : String} (member : arg ∈ line.arguments ids) (held : '\x00' ∈ arg.toList) :
      Offends line index ids (.nulArgument index)
  | nameless (clean : ∀ arg ∈ line.arguments ids, '\x00' ∉ arg.toList)
      (program : (line.headOf ids).kind = .program) (unnamed : (line.arguments ids).headD "" = "") :
      Offends line index ids (.noCommand index)

def ignored (line : Line) (count : Nat) : Nat → List (List Nat) → List Notice
  | _, [] => []
  | index, ids :: rest =>
    (if index = 0 then [] else ((line.headOf ids).input.map Notice.inputIgnored).toList) ++
      (if index + 1 = count then [] else ((line.headOf ids).output.map Notice.outputIgnored).toList) ++
        line.ignored count (index + 1) rest

def planOf (line : Line) (stages : List (List Nat)) : Plan where
  stages := stages.map fun ids => ⟨(line.headOf ids).kind, line.arguments ids⟩
  input := stages.head?.bind fun ids => (line.headOf ids).input
  output := stages.getLast?.bind fun ids => (line.headOf ids).output
  background := stages.getLast?.any fun ids => (line.headOf ids).background

structure Noted (line : Line) (stages : List (List Nat)) (line' : Line) : Prop where
  head : line'.head = line.head
  lastStage : line'.lastStage = line.lastStage
  size : line'.nodes.size = line.nodes.size
  noted : ∀ ids ∈ stages, ∀ id, ids.head? = some id →
    line'.node id = { line.node id with argv := line.arguments ids }
  other : ∀ id, (∀ ids ∈ stages, ids.head? ≠ some id) → line'.node id = line.node id

inductive Assembles (line : Line) (stages : List (List Nat)) : Assembly → Prop
  | whole {line' : Line} (runnable : ∀ ids ∈ stages, line.Runnable ids)
      (noted : line.Noted stages line') :
      Assembles line stages
        ⟨.ok (line.planOf stages), line', line.ignored stages.length 0 stages⟩
  | broken {done rest : List (List Nat)} {ids : List Nat} {cause : ShapeFault} {line' : Line}
      (split : stages = done ++ ids :: rest) (runnable : ∀ ids ∈ done, line.Runnable ids)
      (offends : line.Offends done.length ids cause) (noted : line.Noted done line') :
      Assembles line stages ⟨.error cause, line', line.ignored stages.length 0 done⟩

theorem Offends.not_runnable {line : Line} {index : Nat} {ids : List Nat} {cause : ShapeFault}
    (offends : line.Offends index ids cause) : ¬line.Runnable ids := by
  intro runnable
  cases offends with
  | nul member held => exact runnable.clean _ member held
  | nameless clean program unnamed =>
    obtain ⟨name, args, same, named⟩ := runnable.named program
    rw [same] at unnamed
    exact named unnamed

/-! ## Lines that differ in what is not read -/

structure Agrees (line line' : Line) : Prop where
  kind : ∀ i, (line'.node i).kind = (line.node i).kind
  origin : ∀ i, (line'.node i).origin = (line.node i).origin
  text : ∀ i, (line'.node i).text = (line.node i).text

section
variable {line line' : Line}

theorem Agrees.symm (agrees : Agrees line line') : Agrees line' line :=
  ⟨fun i => (agrees.kind i).symm, fun i => (agrees.origin i).symm, fun i => (agrees.text i).symm⟩

theorem Agrees.arguments (agrees : Agrees line line') (ids : List Nat) :
    line'.arguments ids = line.arguments ids := by
  unfold Line.arguments
  simp only [agrees.origin, agrees.text]

theorem Agrees.runnable (agrees : Agrees line line') {ids : List Nat} (runnable : line.Runnable ids) :
    line'.Runnable ids := by
  have kind : (line'.headOf ids).kind = (line.headOf ids).kind := agrees.kind _
  refine ⟨?_, ?_⟩
  · rw [agrees.arguments]
    exact runnable.clean
  · rw [agrees.arguments, kind]
    exact runnable.named

theorem Agrees.offends (agrees : Agrees line line') {index : Nat} {ids : List Nat}
    {cause : ShapeFault} (offends : line.Offends index ids cause) : line'.Offends index ids cause := by
  have kind : (line'.headOf ids).kind = (line.headOf ids).kind := agrees.kind _
  cases offends with
  | nul member held => exact .nul (by rwa [agrees.arguments]) held
  | nameless clean program unnamed =>
    exact .nameless (by rwa [agrees.arguments]) (by rwa [kind]) (by rwa [agrees.arguments])

end

/-! ## One stage after another -/

def note (line : Line) (ids : List Nat) : Line :=
  line.modify (ids.headD 0) ({ · with argv := line.arguments ids })

section
variable {line line' : Line}

theorem read_note {α : Type} {read : Node → α} (keeps : ∀ n argv, read { n with argv } = read n)
    (line : Line) (ids : List Nat) (i : Nat) : read ((line.note ids).node i) = read (line.node i) :=
  read_modify (fun n => keeps n _) line _ i

theorem agrees_note (line : Line) (ids : List Nat) : Agrees line (line.note ids) where
  kind := read_note (fun _ _ => rfl) line ids
  origin := read_note (fun _ _ => rfl) line ids
  text := read_note (fun _ _ => rfl) line ids

theorem ignored_congr (input : ∀ i, (line'.node i).input = (line.node i).input)
    (output : ∀ i, (line'.node i).output = (line.node i).output) (count index : Nat)
    (stages : List (List Nat)) : line'.ignored count index stages = line.ignored count index stages := by
  induction stages generalizing index with
  | nil => rfl
  | cons ids rest ih => rw [ignored, ignored, headOf, headOf, input, output, ih]

theorem ignored_note (line : Line) (ids : List Nat) :
    (line.note ids).ignored = line.ignored := by
  funext count index stages
  exact ignored_congr (read_note (fun _ _ => rfl) line ids) (read_note (fun _ _ => rfl) line ids) ..

theorem noted_nil (line : Line) : line.Noted [] line :=
  ⟨rfl, rfl, rfl, by simp, fun _ _ => rfl⟩

theorem Noted.cons {id : Nat} {ids : List Nat} {done : List (List Nat)}
    (noted : (line.note (id :: ids)).Noted done line') (inside : id < line.nodes.size)
    (fresh : ∀ ids ∈ done, ids.head? ≠ some id) : line.Noted ((id :: ids) :: done) line' := by
  have first (i : Nat) : (line.note (id :: ids)).node i =
      if i = id then { line.node i with argv := line.arguments (id :: ids) } else line.node i := by
    rw [note, node_modify]
    grind
  refine ⟨noted.head, noted.lastStage, noted.size.trans (size_modify ..), ?_, fun i others => ?_⟩
  · intro stage member i head
    rcases List.mem_cons.1 member with rfl | later
    · obtain rfl : id = i := by simpa using head
      rw [noted.other id fresh, first, if_pos rfl]
    · rw [noted.noted stage later i head, first, (agrees_note line _).arguments]
      split <;> rfl
  · obtain ⟨other, others⟩ := List.forall_mem_cons.1 others
    rw [noted.other i others, first, if_neg (by simpa [eq_comm] using other)]

theorem arguments_eq (line : Line) (ids : List Nat) :
    Node.arguments (ids.map line.node) = line.arguments ids := by
  induction ids with
  | nil => rfl
  | cons id ids ih =>
    unfold Node.arguments arguments at *
    by_cases operator : (line.node id).origin = .operator
    · simpa [operator] using ih
    · simpa [operator, Node.content] using ih

theorem headD_words (line : Line) {ids : List Nat} (begun : ids ≠ []) :
    (ids.map line.node).headD {} = line.headOf ids := by
  cases ids with
  | nil => exact absurd rfl begun
  | cons => rfl

theorem ofNodes_line (line : Line) (index : Nat) {ids : List Nat} (begun : ids ≠ []) :
    (Stage.ofNodes index (ids.map line.node) = .ok ⟨(line.headOf ids).kind, line.arguments ids⟩ ∧
      line.Runnable ids) ∨
    ∃ cause, Stage.ofNodes index (ids.map line.node) = .error cause ∧
      line.Offends index ids cause := by
  unfold Stage.ofNodes
  dsimp only
  rw [arguments_eq, headD_words line begun]
  split
  · rename_i held
    obtain ⟨arg, member, held⟩ : ∃ arg ∈ line.arguments ids, '\x00' ∈ arg.toList := by
      simpa using held
    exact .inr ⟨_, rfl, .nul member held⟩
  · rename_i free
    have clean : ∀ arg ∈ line.arguments ids, '\x00' ∉ arg.toList := by
      simpa using free
    split
    · rename_i nameless
      have program : (line.headOf ids).kind = .program := by
        cases kind : (line.headOf ids).kind <;> simp_all [Kind.isBuiltin]
      exact .inr ⟨_, rfl, .nameless clean program (by simp_all)⟩
    · rename_i named
      refine .inl ⟨rfl, clean, fun program => ?_⟩
      cases all : line.arguments ids with
      | nil => simp [program, all, Kind.isBuiltin] at named
      | cons name args => exact ⟨name, args, rfl, by simpa [program, all, Kind.isBuiltin] using named⟩

structure Readied (line : Line) (count index : Nat) (done rest : List (List Nat))
    (before : List Notice) (a : Assembly) : Prop where
  runnable : ∀ ids ∈ done, line.Runnable ids
  noted : line.Noted done a.line
  notices : a.notices = before ++ line.ignored count index done
  ending : match rest with
    | [] => ∃ plan, a.plan = .ok plan
    | ids :: _ => ∃ cause, a.plan = .error cause ∧ line.Offends (index + done.length) ids cause

theorem Readied.cons {count index next id : Nat} {ids : List Nat} {done rest : List (List Nat)}
    {before : List Notice} {a : Assembly}
    (readied : (line.note (id :: ids)).Readied count next done rest
      (before ++ (line.node id).ignoredRedirections (index == 0) (index + 1 == count)) a)
    (runnable : line.Runnable (id :: ids)) (inside : id < line.nodes.size)
    (fresh : ∀ ids ∈ done, ids.head? ≠ some id) (place : next = index + 1) :
    line.Readied count index ((id :: ids) :: done) rest before a where
  runnable := List.forall_mem_cons.2
    ⟨runnable, fun later member => (agrees_note line _).symm.runnable (readied.runnable later member)⟩
  noted := readied.noted.cons inside fresh
  notices := by
    rw [readied.notices, ignored_note, ignored, place, List.append_assoc]
    simp [Node.ignoredRedirections, headOf]
  ending := by
    have ending := readied.ending
    cases rest with
    | nil => exact ending
    | cons first more =>
      obtain ⟨cause, refused, offends⟩ := ending
      have later : next + done.length = index + ((id :: ids) :: done).length := by
        simp only [List.length_cons]
        omega
      rw [later] at offends
      exact ⟨cause, refused, (agrees_note line _).symm.offends offends⟩

theorem ofStages_readied (count : Nat) (plan : Plan) (line : Line) (notices : List Notice)
    (stages : List (List Nat)) (nodup : stages.flatten.Nodup)
    (inside : ∀ id ∈ stages.flatten, id < line.nodes.size) (begun : ∀ ids ∈ stages, ids ≠ []) :
    ∃ done rest, stages = done ++ rest ∧ line.Readied count plan.stages.length done rest notices
      (Assembly.ofStages count plan line notices stages) := by
  -- each stage is looked at in the line that the one before has left, and that differs from the first
  -- line on heads that do not come again
  induction stages generalizing plan line notices with
  | nil =>
    refine ⟨[], [], rfl, by simp, noted_nil line, ?_, plan, rfl⟩
    simp [Assembly.ofStages, ignored]
  | cons ids stages ih =>
    obtain ⟨id, ids, rfl⟩ := List.exists_cons_of_ne_nil (begun ids List.mem_cons_self)
    rw [Assembly.ofStages]
    dsimp only
    rcases ofNodes_line line plan.stages.length (begun _ List.mem_cons_self) with
      ⟨made, runnable⟩ | ⟨cause, refused, offends⟩
    · rw [made]
      have apart : id ∉ stages.flatten := by
        rw [List.flatten_cons, List.cons_append, List.nodup_cons] at nodup
        exact fun member => nodup.1 (List.mem_append_right ids member)
      have kept : ∀ i ∈ stages.flatten, i < (line.note (id :: ids)).nodes.size := fun i member =>
        (size_modify line _ _).symm ▸ inside i (List.mem_append_right _ member)
      obtain ⟨done, rest, split, readied⟩ :=
        ih _ (line.note (id :: ids)) _ (List.Nodup.of_append_right nodup) kept
          fun later member => begun later (List.mem_cons_of_mem _ member)
      have fresh : ∀ later ∈ done, later.head? ≠ some id := fun later member head =>
        have held : later ∈ stages := split ▸ List.mem_append_left rest member
        apart (List.mem_flatten.2 ⟨later, held, List.mem_of_head? head⟩)
      exact ⟨(id :: ids) :: done, rest, congrArg _ split,
        readied.cons runnable (inside id (by simp)) fresh (by simp)⟩
    · rw [refused]
      refine ⟨[], (id :: ids) :: stages, rfl, by simp, noted_nil line, ?_, cause, rfl, offends⟩
      simp [ignored]

theorem spanning_eq (line : Line) {stages : List (List Nat)} (begun : ∀ ids ∈ stages, ids ≠ []) :
    Plan.spanning (stages.map (·.map line.node)) ((stages.map (·.map line.node)).map Stage.ofWords) =
      line.planOf stages := by
  have head : ∀ ids ∈ stages, (ids.map line.node).headD {} = line.headOf ids := fun ids member =>
    headD_words line (begun ids member)
  have words : (stages.map (·.map line.node)).map Stage.ofWords =
      stages.map fun ids => ⟨(line.headOf ids).kind, line.arguments ids⟩ := by
    rw [List.map_map]
    refine List.map_congr_left fun ids member => ?_
    simp only [Function.comp_apply, Stage.ofWords, head ids member, arguments_eq]
  rw [words, Plan.spanning, planOf, List.head?_map, List.getLast?_map]
  congr 1
  · cases first : stages.head? with
    | none => rfl
    | some ids => exact congrArg Node.input (head ids (List.mem_of_head? first))
  · cases last : stages.getLast? with
    | none => rfl
    | some ids => exact congrArg Node.output (head ids (List.mem_of_getLast? last))
  · cases last : stages.getLast? with
    | none => rfl
    | some ids => exact congrArg Node.background (head ids (List.mem_of_getLast? last))

variable {stages : List (List Nat)}

theorem assembles (laid : line.layout = .ok stages) : line.Assembles stages line.assemble := by
  obtain ⟨tour, nodup, inside⟩ := layout_eq_ok.1 laid
  have planned := assemble_eq laid
  have unfolded : line.assemble = .ofStages stages.length {} line [] stages := by rw [assemble, laid]
  obtain ⟨done, rest, split, readied⟩ :=
    ofStages_readied stages.length {} line [] stages nodup inside tour.ne_nil
  rw [← unfolded] at readied
  generalize line.assemble = a at *
  obtain ⟨plan, line', notices⟩ := a
  obtain ⟨runnable, noted, warned, ending⟩ := readied
  dsimp only at planned noted warned ending
  subst warned
  rw [List.nil_append]
  cases rest with
  | nil =>
    obtain ⟨made, ok⟩ := ending
    rw [List.append_nil] at split
    subst split
    rcases Plan.ofNodes_cases (stages.map (·.map line.node)) with ⟨same, -⟩ | ⟨⟨cause, refused, -⟩, -⟩
    · rw [planned, same, spanning_eq line tour.ne_nil]
      exact .whole runnable noted
    · rw [planned, refused] at ok
      cases ok
  | cons ids more =>
    obtain ⟨cause, refused, offends⟩ := ending
    subst refused
    exact .broken split runnable (by simpa using offends) noted

end

/-! ## Assembling again -/

section
variable {line line' : Line} {stages done : List (List Nat)}

theorem Offends.unique {index : Nat} {ids : List Nat} {cause cause' : ShapeFault}
    (offends : line.Offends index ids cause) (offends' : line.Offends index ids cause') :
    cause = cause' := by
  cases offends with
  | nul member held =>
    cases offends' with
    | nul => rfl
    | nameless clean => exact absurd held (clean _ member)
  | nameless clean =>
    cases offends' with
    | nul member held => exact absurd held (clean _ member)
    | nameless => rfl

theorem broken_unique {done' rest rest' : List (List Nat)} {ids ids' : List Nat}
    (same : done ++ ids :: rest = done' ++ ids' :: rest') (runnable : ∀ ids ∈ done, line.Runnable ids)
    (runnable' : ∀ ids ∈ done', line.Runnable ids) (unfit : ¬line.Runnable ids)
    (unfit' : ¬line.Runnable ids') : done = done' ∧ ids = ids' := by
  induction done generalizing done' with
  | nil =>
    cases done' with
    | nil => exact ⟨rfl, (List.cons.inj same).1⟩
    | cons first done' =>
      obtain ⟨rfl, -⟩ := List.cons.inj same
      exact absurd (runnable' _ List.mem_cons_self) unfit
  | cons first done ih =>
    cases done' with
    | nil =>
      obtain ⟨rfl, -⟩ := List.cons.inj same
      exact absurd (runnable _ List.mem_cons_self) unfit'
    | cons first' done' =>
      obtain ⟨rfl, later⟩ := List.cons.inj same
      obtain ⟨rfl, rfl⟩ := ih later (fun ids member => runnable ids (List.mem_cons_of_mem _ member))
        fun ids member => runnable' ids (List.mem_cons_of_mem _ member)
      exact ⟨rfl, rfl⟩

theorem planOf_congr (agrees : Agrees line line')
    (input : ∀ ids ∈ stages.head?, (line'.headOf ids).input = (line.headOf ids).input)
    (output : ∀ ids ∈ stages.getLast?, (line'.headOf ids).output = (line.headOf ids).output)
    (background : ∀ ids ∈ stages.getLast?,
      (line'.headOf ids).background = (line.headOf ids).background) :
    line'.planOf stages = line.planOf stages := by
  have kind (ids : List Nat) : (line'.headOf ids).kind = (line.headOf ids).kind := agrees.kind _
  simp only [planOf, agrees.arguments, kind]
  congr 1
  · cases first : stages.head? with
    | none => rfl
    | some ids => exact input ids first
  · cases last : stages.getLast? with
    | none => rfl
    | some ids => exact output ids last
  · cases last : stages.getLast? with
    | none => rfl
    | some ids => exact background ids last

theorem Assembles.congr {a a' : Assembly} (assembles : line.Assembles stages a)
    (assembles' : line'.Assembles stages a') (agrees : Agrees line line')
    (ends : line'.planOf stages = line.planOf stages) :
    a'.plan = a.plan ∧ ∃ done, line.Noted done a.line ∧ line'.Noted done a'.line ∧
      a.notices = line.ignored stages.length 0 done ∧
      a'.notices = line'.ignored stages.length 0 done := by
  cases assembles with
  | whole runnable noted =>
    cases assembles' with
    | whole _ noted' => exact ⟨congrArg Except.ok ends, stages, noted, noted', rfl, rfl⟩
    | broken split _ offends =>
      have member : _ ∈ stages := split ▸ List.mem_append_right _ List.mem_cons_self
      exact absurd (agrees.runnable (runnable _ member)) offends.not_runnable
  | broken split runnable offends noted =>
    cases assembles' with
    | whole runnable' =>
      have member : _ ∈ stages := split ▸ List.mem_append_right _ List.mem_cons_self
      exact absurd (agrees.symm.runnable (runnable' _ member)) offends.not_runnable
    | broken split' runnable' offends' noted' =>
      have back := agrees.symm.offends offends'
      obtain ⟨rfl, rfl⟩ := broken_unique (split.symm.trans split') runnable
        (fun ids member => agrees.symm.runnable (runnable' ids member)) offends.not_runnable
        back.not_runnable
      exact ⟨congrArg Except.error (back.unique offends), _, noted, noted', rfl, rfl⟩

theorem Noted.read {α : Type} {read : Node → α} (noted : line.Noted done line')
    (keeps : ∀ n argv, read { n with argv } = read n) (i : Nat) :
    read (line'.node i) = read (line.node i) := by
  by_cases head : ∃ ids ∈ done, ids.head? = some i
  · obtain ⟨ids, member, head⟩ := head
    rw [noted.noted ids member i head, keeps]
  · rw [noted.other i fun ids member same => head ⟨ids, member, same⟩]

theorem Noted.agrees (noted : line.Noted done line') : Agrees line line' where
  kind := noted.read fun _ _ => rfl
  origin := noted.read fun _ _ => rfl
  text := noted.read fun _ _ => rfl

theorem Noted.layout (noted : line.Noted done line') (laid : line.layout = .ok stages) :
    line'.layout = .ok stages :=
  layout_congr laid noted.head noted.size (noted.read fun _ _ => rfl) (noted.read fun _ _ => rfl)

theorem Noted.again {line'' : Line} (noted : line.Noted done line') (again : line'.Noted done line'') :
    line'' = line' := by
  refine eq_of_node again.head again.lastStage again.size fun i => ?_
  by_cases head : ∃ ids ∈ done, ids.head? = some i
  · obtain ⟨ids, member, head⟩ := head
    rw [again.noted ids member i head, noted.noted ids member i head, noted.agrees.arguments]
  · exact again.other i fun ids member same => head ⟨ids, member, same⟩

theorem Assembles.exists_noted {a : Assembly} (assembles : line.Assembles stages a) :
    ∃ done, line.Noted done a.line := by
  cases assembles with
  | whole _ noted => exact ⟨_, noted⟩
  | broken _ _ _ noted => exact ⟨_, noted⟩

theorem assemble_again (laid : line.layout = .ok stages) :
    line.assemble.line.assemble = line.assemble := by
  have first := assembles laid
  obtain ⟨done, noted⟩ := first.exists_noted
  have second := assembles (noted.layout laid)
  have ends : line.assemble.line.planOf stages = line.planOf stages :=
    planOf_congr noted.agrees (fun _ _ => noted.read (fun _ _ => rfl) _)
      (fun _ _ => noted.read (fun _ _ => rfl) _) fun _ _ => noted.read (fun _ _ => rfl) _
  obtain ⟨plan, done, noted, again, warned, warned'⟩ := first.congr second noted.agrees ends
  refine Assembly.ext plan (noted.again again) ?_
  rw [warned, warned', ignored_congr (noted.read fun _ _ => rfl) (noted.read fun _ _ => rfl)]

theorem level_of_ignored (line : Line) (count index : Nat) (stages : List (List Nat)) :
    ∀ n ∈ line.ignored count index stages, n.level = .warn := by
  induction stages generalizing index with
  | nil => simp [ignored]
  | cons ids rest ih =>
    intro n member
    simp only [ignored, List.mem_append] at member
    rcases member with (input | output) | later
    · split at input <;> simp at input
      obtain ⟨path, -, rfl⟩ := input
      rfl
    · split at output <;> simp at output
      obtain ⟨path, -, rfl⟩ := output
      rfl
    · exact ih _ n later

end

/-- Assembling goes through the stages up to the first that is not runnable. There is a plan if there is
no such stage; it depends on redirections and marks only where the line begins and where it ends. What
is left is a line that can be assembled again, with the same result. -/
theorem assemble_law (line : Line) (stages : List (List Nat)) (laid : line.layout = .ok stages) :
    line.Assembles stages line.assemble ∧
    ((∃ plan, line.assemble.plan = .ok plan) ↔ ∀ ids ∈ stages, line.Runnable ids) ∧
    (∀ n ∈ line.assemble.notices, n.level = .warn) ∧
    (∀ line', line'.layout = .ok stages → Agrees line line' →
      (∀ ids ∈ stages.head?, (line'.headOf ids).input = (line.headOf ids).input) →
      (∀ ids ∈ stages.getLast?, (line'.headOf ids).output = (line.headOf ids).output) →
      (∀ ids ∈ stages.getLast?, (line'.headOf ids).background = (line.headOf ids).background) →
        line'.assemble.plan = line.assemble.plan) ∧
    line.assemble.line.assemble = line.assemble := by
  have made := assembles laid
  refine ⟨made, ?_, ?_, fun line' laid' agrees input output background => ?_, assemble_again laid⟩
  · generalize line.assemble = a at made
    cases made with
    | whole runnable => exact ⟨fun _ => runnable, fun _ => ⟨_, rfl⟩⟩
    | broken split _ offends =>
      have member : _ ∈ stages := split ▸ List.mem_append_right _ List.mem_cons_self
      refine ⟨?_, fun all => absurd (all _ member) offends.not_runnable⟩
      rintro ⟨plan, ⟨⟩⟩
  · generalize line.assemble = a at made
    cases made <;> exact level_of_ignored line _ _ _
  · exact (made.congr (assembles laid') agrees (planOf_congr agrees input output background)).1

def halfReady : Line :=
  ⟨#[{ kind := .builtin .echo, text := some "echo", output := some "lost", next := some 1,
       nextStage := some 3 },
     { origin := .operator, text := some "|", next := some 2 },
     { text := some "a" },
     { origin := .parameter, text := some "", input := some "in" }], some 0, some 3⟩

theorem assemble_law_halfReady :
    halfReady.layout = .ok [[0, 1, 2], [3]] ∧ halfReady.Assembles [[0, 1, 2], [3]] halfReady.assemble ∧
      halfReady.assemble.plan = .error (.noCommand 1) ∧
      (halfReady.assemble.line.node 0).argv = ["echo", "a"] ∧
      halfReady.assemble.notices = [.outputIgnored "lost"] ∧
      halfReady.assemble.line.assemble = halfReady.assemble := by
  have laid : halfReady.layout = .ok [[0, 1, 2], [3]] := by decide +kernel
  obtain ⟨assembles, -, -, -, again⟩ := assemble_law halfReady _ laid
  exact ⟨laid, assembles, by decide +kernel, by decide +kernel, by decide +kernel, again⟩

end Line
end PipeShell
