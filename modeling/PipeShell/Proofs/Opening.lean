import PipeShell.Proofs.Dealings
import PipeShell.Proofs.Renewal
import PipeShell.Proofs.Wires

/-!
# The streams of a plan

A plan that is wired has a pipe between each stage and the next, its input file at the one end and its
output file at the other; of the files only the output has changed, which is empty. A plan whose files
do not open is refused for the first of them, and has changed nothing (`Plan.wire_decides`).
-/

namespace PipeShell

/-! ## Opening -/

inductive Device.Shut : Device → SystemError → Prop
  | terminal : Shut .terminal .noDevice
  | descriptor {fd : Nat} (missing : 2 < fd) : Shut (.descriptor fd) .noEntry

namespace World
variable {w w' : World} {e : End} {n : FileNode} {node file : Nat} {access : Access}
  {cause : SystemError} {path : String} {files : FileTree}

/-- An end that was opened for the node `n` which stands under a path. It is that file from its beginning,
unless the node stands for what the shell itself reads. -/
structure IsOpen (w : World) (n : FileNode) (node file : Nat) (access : Access) (e : End) : Prop where
  opened : ∀ id, e = .file id → w.opened[id]? = some { node := file, access }
  named : n ≠ .device (.descriptor 0) → node = file ∧ ∃ id, e = .file id

theorem IsOpen.later (isOpen : w.IsOpen n node file access e) {more : Array Opened}
    (same : w'.opened = w.opened ++ more) : w'.IsOpen n node file access e where
  opened := by
    intro id there
    have found := isOpen.opened id there
    rw [same, Array.getElem?_append_left (Array.getElem?_eq_some_iff.1 found).1, found]
  named := isOpen.named

theorem fileBehind_eq (named : w.files.node node ≠ .device (.descriptor 0)) :
    w.fileBehind node = node := by
  unfold fileBehind
  split
  · exact absurd ‹_› named
  · rfl

theorem openNode_cases (opens : w.openNode node access = .ok (e, w')) :
    (e = .file w.opened.size ∧
        w' = { w with opened := w.opened.push { node := w.fileBehind node, access } }) ∨
      (w.files.node node = .device (.descriptor 0) ∧ w' = w ∧ ∀ id, e ≠ .file id) := by
  unfold openNode at opens
  split at opens
  · cases opens
  · rename_i own
    have same := Except.ok.inj opens
    unfold reopen at same
    split at same
    · rename_i id input
      obtain ⟨rfl, rfl⟩ := Prod.mk.inj same
      exact .inl ⟨rfl, by simp [fileBehind, own, input]⟩
    all_goals
      obtain ⟨rfl, rfl⟩ := Prod.mk.inj same
      refine .inr ⟨own, rfl, fun id => ?_⟩
      split <;> exact End.noConfusion
  · rename_i fd other n
    split at opens
    · obtain ⟨rfl, rfl⟩ := Prod.mk.inj (Except.ok.inj opens)
      exact .inl ⟨rfl, by rw [fileBehind_eq (by simpa [n] using other)]⟩
    · cases opens
  · rename_i other
    obtain ⟨rfl, rfl⟩ := Prod.mk.inj (Except.ok.inj opens)
    exact .inl ⟨rfl, by rw [fileBehind_eq (other 0)]⟩

theorem openNode_isOpen (opens : w.openNode node access = .ok (e, w')) :
    (∃ more, w' = { w with opened := w.opened ++ more }) ∧
      w'.IsOpen (w.files.node node) node (w.fileBehind node) access e := by
  rcases openNode_cases opens with ⟨rfl, rfl⟩ | ⟨own, rfl, unopened⟩
  · refine ⟨⟨#[{ node := w.fileBehind node, access }], by simp⟩, ?_, fun named => ?_⟩
    · rintro id same
      cases same
      simp
    · exact ⟨(fileBehind_eq named).symm, _, rfl⟩
  · exact ⟨⟨#[], by simp⟩, fun id same => absurd same (unopened id), fun named => absurd own named⟩

theorem openNode_error :
    w.openNode node access = .error cause ↔ ∃ d, w.files.node node = .device d ∧ d.Shut cause := by
  unfold openNode
  constructor
  · intro refused
    split at refused
    · cases refused
      exact ⟨_, ‹_›, .terminal⟩
    · cases refused
    · split at refused
      · cases refused
      · cases refused
        exact ⟨_, ‹_›, .descriptor (Nat.not_le.1 ‹_›)⟩
    · cases refused
  · rintro ⟨d, n, shut⟩
    rw [n]
    cases shut with
    | terminal => rfl
    | descriptor missing =>
      rename_i fd
      obtain ⟨k, rfl⟩ : ∃ k, fd = k + 1 := ⟨fd - 1, by omega⟩
      exact if_neg (Nat.not_le.2 missing)

def renewed (w : World) (node : Nat) (files : FileTree) : FileTree :=
  files.truncate (World.fileBehind { w with files } node)

theorem node_renewed_device {id : Nat} {d : Device} :
    (w.renewed node files).node id = .device d ↔ files.node id = .device d := by
  rw [renewed, FileTree.node_truncate]
  split
  · rename_i same
    rw [same, FileNode.emptied_eq_device]
  · rfl

theorem createFile_eq (w : World) (path : String) : w.createFile path =
    (w.files.make w.here path).bind fun (node, files) =>
      World.openNode { w with files := w.renewed node files } node .writing := rfl

theorem createFile_error : w.createFile path = .error cause ↔
    w.files.make w.here path = .error cause ∨
      ∃ node files d, w.files.make w.here path = .ok (node, files) ∧
        files.node node = .device d ∧ d.Shut cause := by
  rw [createFile_eq]
  cases making : w.files.make w.here path with
  | error other => simp [Except.bind]
  | ok made =>
    obtain ⟨node, files⟩ := made
    simp only [Except.bind, openNode_error, node_renewed_device, reduceCtorEq, false_or,
      Except.ok.injEq, Prod.mk.injEq]
    constructor
    · rintro ⟨d, shut⟩
      exact ⟨node, files, d, ⟨rfl, rfl⟩, shut⟩
    · rintro ⟨_, _, d, ⟨rfl, rfl⟩, shut⟩
      exact ⟨d, shut⟩

theorem createFile_error_opened (opened : Array Opened) :
    World.createFile { w with opened } path = .error cause ↔ w.createFile path = .error cause := by
  rw [createFile_error, createFile_error]

theorem renewed_of_refused (making : w.files.make w.here path = .ok (node, files))
    (refused : w.createFile path = .error cause) : w.renewed node files = w.files := by
  obtain other | ⟨_, _, d, again, n, shut⟩ := createFile_error.1 refused
  · rw [making] at other
    cases other
  rw [making] at again
  cases again
  cases FileTree.makes_of_make making with
  | found located file =>
    have named : w.files.node node ≠ .device (.descriptor 0) := by
      rw [n]
      rintro same
      cases same
      cases shut
      omega
    rw [renewed, fileBehind_eq named, FileTree.truncate, n]
  | made located above nodes =>
    rw [nodes, if_pos rfl] at n
    cases n

theorem fileBehind_renewed (w : World) (node : Nat) (files : FileTree) :
    World.fileBehind { w with files := w.renewed node files } node =
      World.fileBehind { w with files } node := by
  by_cases own : files.node node = .device (.descriptor 0)
  · have own' : (w.renewed node files).node node = .device (.descriptor 0) :=
      node_renewed_device.2 own
    rw [fileBehind, fileBehind, own, own']
    rfl
  · rw [fileBehind_eq (w := { w with files }) own, fileBehind_eq]
    exact fun same => own (node_renewed_device.1 same)

theorem renews_of_make (making : w.files.make w.here path = .ok (node, files)) :
    w.files.Renews (World.fileBehind { w with files } node) (w.renewed node files) := by
  have makes := FileTree.makes_of_make making
  by_cases own : files.node node = .device (.descriptor 0)
  · cases makes with
    | found _ _ => exact FileTree.renews_truncate _ _
    | made _ _ nodes =>
      rw [nodes, if_pos rfl] at own
      cases own
  · rw [renewed, fileBehind_eq (w := { w with files }) own]
    exact makes.renews

def Reads (w : World) (path : String) (w' : World) (e : End) : Prop :=
  ∃ node file, w.files.resolve w.here path = .ok node ∧
    w'.IsOpen (w.files.node node) node file .reading e

def Rewrites (w : World) (path : String) (w' : World) (e : End) : Prop :=
  ∃ node file, w'.files.resolve w.here path = .ok node ∧
    w'.IsOpen (w'.files.node node) node file .writing e ∧
    (w'.files.isRegular node ∧ w'.files.content node = .ok [] ∨ ∃ d, w'.files.node node = .device d) ∧
    w.files.Renews file w'.files

theorem Reads.later {w'' : World} (reads : w.Reads path w' e) {more : Array Opened}
    (same : w''.opened = w'.opened ++ more) : w.Reads path w'' e := by
  obtain ⟨node, file, resolved, isOpen⟩ := reads
  exact ⟨node, file, resolved, isOpen.later same⟩

theorem Rewrites.of_eq {v v' : World} (rewrites : w.Rewrites path w' e) (files : v.files = w.files)
    (here : v.here = w.here) (files' : v'.files = w'.files) (opened : v'.opened = w'.opened) :
    v.Rewrites path v' e := by
  obtain ⟨node, file, resolved, isOpen, kind, renews⟩ := rewrites
  rw [← files', ← here] at resolved
  rw [← files'] at isOpen kind
  rw [← files, ← files'] at renews
  exact ⟨node, file, resolved, ⟨opened ▸ isOpen.opened, isOpen.named⟩, kind, renews⟩

theorem openFile_reads (opens : w.openFile path = .ok (e, w')) :
    (∃ more, w' = { w with opened := w.opened ++ more }) ∧ w.Reads path w' e := by
  obtain ⟨node, resolved, opens⟩ := openFile_opens opens
  obtain ⟨more, isOpen⟩ := openNode_isOpen opens
  exact ⟨more, node, _, resolved, isOpen⟩

theorem createFile_rewrites (opens : w.createFile path = .ok (e, w')) :
    (∃ more, w' = { w with files := w'.files, opened := w.opened ++ more }) ∧ w.Rewrites path w' e := by
  rw [createFile_eq] at opens
  cases making : w.files.make w.here path with
  | error other =>
    rw [making] at opens
    cases opens
  | ok made =>
  obtain ⟨node, files⟩ := made
  simp only [making, Except.bind] at opens
  obtain ⟨⟨more, rfl⟩, isOpen⟩ := openNode_isOpen opens
  rw [fileBehind_renewed] at isOpen
  have makes := FileTree.makes_of_make making
  have renews := renews_of_make making
  refine ⟨⟨more, rfl⟩, node, _, makes.resolve _, isOpen, ?_, renews⟩
  rcases makes.kind with regular | ⟨d, n⟩
  · have named : files.node node ≠ .device (.descriptor 0) := by
      intro own
      simp [FileTree.isRegular, own] at regular
    rw [renewed, fileBehind_eq (w := { w with files }) named] at renews ⊢
    have regular' : (files.truncate node).isRegular node := FileTree.isRegular_truncate regular
    exact .inl ⟨regular', renews.empty regular'⟩
  · exact .inr ⟨d, node_renewed_device.2 n⟩

end World

/-! ## Wiring -/

namespace Plan
variable {plan : Plan} {w w' : World} {wiring : Wiring} {fault : Fault}

inductive Refuses (plan : Plan) (w : World) : Fault → Prop
  | input {path cause} (named : plan.input = some path) (refused : w.openFile path = .error cause) :
      Refuses plan w (.redirection path cause)
  | output {path cause} (opens : ∀ input ∈ plan.input, ∃ opening, w.openFile input = .ok opening)
      (named : plan.output = some path) (refused : w.createFile path = .error cause) :
      Refuses plan w (.redirection path cause)

/-- The streams that the stages of a plan get in a world, and what that makes of the world. -/
structure Wires (plan : Plan) (w : World) (wiring : Wiring) (w' : World) : Prop where
  pipes : wiring.pipes + 1 = plan.stages.length
  made : w'.pipes = w.pipes ++ Array.replicate wiring.pipes ({} : Pipe)
  streams : wiring.stages.length = plan.stages.length
  boundInput : ∀ i st, wiring.stages[i]? = some st → (st.input.isSome ↔ 0 < i ∨ plan.input.isSome)
  boundOutput : ∀ i st, wiring.stages[i]? = some st →
    (st.output.isSome ↔ i + 1 < plan.stages.length ∨ plan.output.isSome)
  joined : ∀ i before after, wiring.stages[i]? = some before → wiring.stages[i + 1]? = some after →
    before.output = some (.writer (w.pipes.size + i)) ∧
      after.input = some (.reader (w.pipes.size + i))
  input : ∀ path ∈ plan.input, ∃ e, wiring.stages.head?.bind Streams.input = some e ∧ w.Reads path w' e
  output : ∀ path ∈ plan.output, ∃ e,
    wiring.stages.getLast?.bind Streams.output = some e ∧ w.Rewrites path w' e
  untouched : plan.output = none → w'.files = w.files
  frame : w' = { w with files := w'.files, pipes := w'.pipes, opened := w'.opened }

section
variable {how : String → Except SystemError (End × World)} {path : Option String} {e : Option End}

theorem openEnd_error (refused : openEnd how w path = .error fault) :
    ∃ named cause, path = some named ∧ how named = .error cause ∧ fault = .redirection named cause := by
  unfold openEnd at refused
  split at refused
  · cases refused
  · split at refused
    · cases refused
    · cases refused
      exact ⟨_, _, rfl, ‹_›, rfl⟩

theorem openEnd_ok (opens : openEnd how w path = .ok (e, w')) :
    (path = none ∧ e = none ∧ w' = w) ∨
      ∃ named e', path = some named ∧ e = some e' ∧ how named = .ok (e', w') := by
  unfold openEnd at opens
  split at opens
  · cases opens
    exact .inl ⟨rfl, rfl, rfl⟩
  · split at opens
    · cases opens
      exact .inr ⟨_, _, rfl, rfl, ‹_›⟩
    · cases opens

theorem openEnd_isSome (opens : openEnd how w path = .ok (e, w')) : e.isSome ↔ path.isSome := by
  rcases openEnd_ok opens with ⟨rfl, rfl, -⟩ | ⟨_, _, rfl, rfl, -⟩ <;> simp

theorem openEnd_input (opens : openEnd w.openFile w path = .ok (e, w')) :
    (∃ more, w' = { w with opened := w.opened ++ more }) ∧
      ∀ named ∈ path, ∃ e', e = some e' ∧ w.Reads named w' e' := by
  rcases openEnd_ok opens with ⟨rfl, rfl, rfl⟩ | ⟨named, e', rfl, rfl, opened⟩
  · exact ⟨⟨#[], by simp⟩, by simp⟩
  · obtain ⟨more, reads⟩ := World.openFile_reads opened
    refine ⟨more, fun named' same => ?_⟩
    cases same
    exact ⟨e', rfl, reads⟩

theorem openEnd_output (opens : openEnd w.createFile w path = .ok (e, w')) :
    (∃ more, w' = { w with files := w'.files, opened := w.opened ++ more }) ∧
      (path = none → w'.files = w.files) ∧
      ∀ named ∈ path, ∃ e', e = some e' ∧ w.Rewrites named w' e' := by
  rcases openEnd_ok opens with ⟨rfl, rfl, rfl⟩ | ⟨named, e', rfl, rfl, opened⟩
  · exact ⟨⟨#[], by simp⟩, fun _ => rfl, by simp⟩
  · obtain ⟨more, rewrites⟩ := World.createFile_rewrites opened
    refine ⟨more, nofun, fun named' same => ?_⟩
    cases same
    exact ⟨e', rfl, rewrites⟩

end

theorem refuses_of_error (refused : (plan.wire w).wiring = .error fault) : plan.Refuses w fault := by
  unfold wire at refused
  split at refused
  · cases refused
  cases first : openEnd w.openFile w plan.input with
  | error cause =>
    simp only [first, Except.error.injEq] at refused
    obtain ⟨path, cause, named, opening, rfl⟩ := openEnd_error (refused ▸ first)
    exact .input named opening
  | ok opening =>
  obtain ⟨input, opened⟩ := opening
  simp only [first] at refused
  cases second : openEnd opened.createFile opened plan.output with
  | ok creating =>
    rw [second] at refused
    cases refused
  | error cause =>
    simp only [second, Except.error.injEq] at refused
    obtain ⟨path, cause, named, creating, rfl⟩ := openEnd_error (refused ▸ second)
    obtain ⟨⟨more, rfl⟩, -⟩ := openEnd_input first
    refine .output (fun input same => ?_) named ((World.createFile_error_opened _).1 creating)
    rcases openEnd_ok first with ⟨unnamed, -⟩ | ⟨path, e, name, -, opening⟩
    · rw [unnamed] at same
      cases same
    · rw [name] at same
      cases same
      exact ⟨_, opening⟩

theorem wire_ok (staged : plan.stages ≠ []) (wired : (plan.wire w).wiring = .ok wiring) :
    ∃ input opened output created, openEnd w.openFile w plan.input = .ok (input, opened) ∧
      openEnd opened.createFile opened plan.output = .ok (output, created) ∧
      wiring.pipes = plan.stages.length - 1 ∧
      wiring.stages = (List.range plan.stages.length).map
        (Wiring.streamsAt created.pipes.size plan.stages.length input output) ∧
      (plan.wire w).world = created.openPipes wiring.pipes := by
  unfold wire at wired ⊢
  simp only [List.isEmpty_iff, staged, if_false] at wired ⊢
  cases first : openEnd w.openFile w plan.input with
  | error fault =>
    rw [first] at wired
    cases wired
  | ok opening =>
  obtain ⟨input, opened⟩ := opening
  simp only [first] at wired ⊢
  cases second : openEnd opened.createFile opened plan.output with
  | error fault =>
    rw [second] at wired
    cases wired
  | ok creating =>
  obtain ⟨output, created⟩ := creating
  simp only [second] at wired ⊢
  cases wired
  exact ⟨input, opened, output, created, rfl, second, rfl, rfl, rfl⟩

theorem not_refuses_of_ok (staged : plan.stages ≠ []) (wired : (plan.wire w).wiring = .ok wiring)
    (fault : Fault) : ¬plan.Refuses w fault := by
  obtain ⟨input, opened, output, created, first, second, -⟩ := wire_ok staged wired
  rintro (⟨named, refused⟩ | ⟨-, named, refused⟩)
  · rcases openEnd_ok first with ⟨unnamed, -⟩ | ⟨path, e, same, -, opening⟩
    · simp [unnamed] at named
    · rw [same] at named
      cases named
      rw [opening] at refused
      cases refused
  · obtain ⟨⟨more, rfl⟩, -⟩ := openEnd_input first
    replace refused := (World.createFile_error_opened (w.opened ++ more)).2 refused
    rcases openEnd_ok second with ⟨unnamed, -⟩ | ⟨path, e, same, -, opening⟩
    · simp [unnamed] at named
    · rw [same] at named
      cases named
      rw [opening] at refused
      cases refused

theorem wires_of_ok (staged : plan.stages ≠ []) (wired : (plan.wire w).wiring = .ok wiring) :
    plan.Wires w wiring (plan.wire w).world := by
  obtain ⟨input, opened, output, created, first, second, pipes, stages, world⟩ := wire_ok staged wired
  have count : 0 < plan.stages.length := List.length_pos_of_ne_nil staged
  obtain ⟨⟨more, opens⟩, reads⟩ := openEnd_input first
  obtain ⟨⟨more', creates⟩, untouched, writes⟩ := openEnd_output second
  have base : created.pipes = w.pipes := by rw [creates, opens]
  have files : (plan.wire w).world.files = created.files := by rw [world]; rfl
  have last : (plan.wire w).world.opened = created.opened := by rw [world]; rfl
  have stage : ∀ {i st}, wiring.stages[i]? = some st → i < plan.stages.length ∧
      st = Wiring.streamsAt w.pipes.size plan.stages.length input output i := by
    intro i st there
    rw [stages, List.getElem?_map, Option.map_eq_some_iff] at there
    obtain ⟨j, there, rfl⟩ := there
    obtain ⟨within, rfl⟩ := List.getElem?_eq_some_iff.1 there
    rw [List.getElem_range, base]
    exact ⟨by simpa using within, rfl⟩
  constructor
  case pipes => omega
  case made => rw [world, World.openPipes, base]
  case streams => rw [stages, List.length_map, List.length_range]
  case boundInput =>
    intro i st there
    obtain ⟨-, rfl⟩ := stage there
    have outer := openEnd_isSome first
    cases i with
    | zero => simpa [Wiring.streamsAt] using outer
    | succ i => simp [Wiring.streamsAt]
  case boundOutput =>
    intro i st there
    obtain ⟨inside, rfl⟩ := stage there
    have outer := openEnd_isSome second
    by_cases final : i + 1 = plan.stages.length
    · simpa [Wiring.streamsAt, final] using outer
    · simp [Wiring.streamsAt, final]
      omega
  case joined =>
    intro i before after there next
    obtain ⟨-, rfl⟩ := stage there
    obtain ⟨inside, rfl⟩ := stage next
    simp [Wiring.streamsAt, inside.ne]
  case input =>
    intro path named
    obtain ⟨e, rfl, read⟩ := reads path named
    refine ⟨e, ?_, read.later (by rw [last, creates])⟩
    simp [stages, List.head?_range, count.ne', Wiring.streamsAt]
  case output =>
    intro path named
    obtain ⟨e, rfl, written⟩ := writes path named
    refine ⟨e, ?_, written.of_eq (by rw [opens]) (by rw [opens]) files last⟩
    simp [stages, List.getLast?_range, count.ne', Wiring.streamsAt, Nat.sub_add_cancel count]
  case untouched =>
    intro unnamed
    rw [files, untouched unnamed, opens]
  case frame =>
    rw [world, creates, opens]
    rfl

theorem wire_decides (plan : Plan) (w : World) (staged : plan.stages ≠ []) :
    match (plan.wire w).wiring with
    | .error fault => plan.Refuses w fault ∧ (plan.wire w).world = w ∧
        ∀ path ∈ plan.output, ∀ node files cause, w.files.make w.here path = .ok (node, files) →
          w.createFile path = .error cause → w.renewed node files = w.files
    | .ok wiring => (∀ fault, ¬plan.Refuses w fault) ∧ plan.Wires w wiring (plan.wire w).world := by
  cases wired : (plan.wire w).wiring with
  | error fault =>
    refine ⟨refuses_of_error wired, (Session.wire_refused wired).1, ?_⟩
    intro path _ node files cause making refused
    exact World.renewed_of_refused making refused
  | ok wiring => exact ⟨not_refuses_of_ok staged wired, wires_of_ok staged wired⟩

def desk : World :=
  { files :=
      { nodes := #[.folder 0o755 0 [("in", 1), ("out", 2)], .file 0o644 [104, 105], .link "new"] } }

def sorting : Plan :=
  { stages := [⟨.program, ["cat"]⟩, ⟨.program, ["sort"]⟩], input := some "in", output := some "out" }

theorem make_desk : desk.files.make 0 "out" = desk.files.add 0 "new" (.file 0o644 []) := by
  have checked : FileTree.checkPath "out" = .ok () := by decide +kernel
  have names : Path.names "out" = ["out"] := by decide +kernel
  have names' : Path.names "new" = ["new"] := by decide +kernel
  have linked : desk.files.locateNewWithin 41 40 0 "out" = desk.files.locateNewWithin 40 39 0 "new" :=
    FileTree.locateNewWithin_of_link (by decide +kernel) names (by decide +kernel) rfl rfl
      ⟨by decide, by decide, by decide, by decide⟩ rfl rfl
  have located : desk.files.locateNewWithin 40 39 0 "new" = .ok (.free 0 "new") :=
    FileTree.locateNewWithin_of_missing (by decide +kernel) names' (by decide +kernel) rfl rfl
      ⟨by decide, by decide, by decide, by decide⟩ rfl
  exact FileTree.make_of_free checked (linked.trans located)

theorem wire_decides_newFile : sorting.stages ≠ [] ∧
    ∃ wiring, (sorting.wire desk).wiring = .ok wiring ∧
      sorting.Wires desk wiring (sorting.wire desk).world := by
  have staged : sorting.stages ≠ [] := by simp [sorting]
  have decides := wire_decides sorting desk staged
  have steps : Path.steps "in" = ["in"] := by decide +kernel
  have resolved : desk.files.resolve 0 "in" = .ok 1 :=
    FileTree.resolve_of_entry (by decide +kernel) (by decide +kernel) steps rfl rfl
      ⟨by decide, by decide, by decide, by decide⟩ rfl nofun
  have opens : desk.openFile "in" = .ok (desk.pushOpened { node := 1, access := .reading }) := by
    change (desk.files.resolve 0 "in").bind _ = _
    rw [resolved]
    rfl
  have creates : ∃ created, World.createFile { desk with opened := #[{ node := 1 }] } "out" =
      .ok (.file 1, created) := by
    rw [World.createFile_eq]
    change ∃ created, (desk.files.make 0 "out").bind _ = _
    rw [make_desk]
    exact ⟨_, rfl⟩
  obtain ⟨created, creates⟩ := creates
  have first : openEnd desk.openFile desk sorting.input =
      .ok (some (.file 0), { desk with opened := #[{ node := 1 }] }) := by
    simp only [sorting, openEnd, opens]
    rfl
  have second : openEnd (World.createFile { desk with opened := #[{ node := 1 }] })
      { desk with opened := #[{ node := 1 }] } sorting.output = .ok (some (.file 1), created) := by
    simp only [sorting, openEnd, creates]
  have wired := congrArg WiringAttempt.wiring (wire_of_opens staged first second)
  rw [wired] at decides
  exact ⟨staged, _, wired, decides.2⟩

end Plan
end PipeShell
