import PipeShell.Proofs.Handover
import PipeShell.Proofs.Walks

/-!
# The frame of a line

Wiring a plan opens its files and makes its pipes. All the pipes are new, and of the ends around them
it is known that they belong to older pipes or to files, so a line has its frame (`Plan.exists_frame`)
and starts with all its stages waiting (`Flow.fresh`).
-/

namespace PipeShell

/-! ## Opening -/

namespace World
variable {w w' : World} {e : End}

theorem reopen_spec (w : World) (e : End) (access : Access) :
    Alike w (w.reopen e access).2 ∧ ∀ n, e.below n → (w.reopen e access).1.below n := by
  cases e with
  | file id => exact ⟨⟨rfl, rfl⟩, fun _ _ => trivial⟩
  | reader id | writer id =>
    refine ⟨⟨rfl, rfl⟩, fun n below => ?_⟩
    dsimp only [reopen]
    split <;> exact below

theorem openNode_spec {node : Nat} {access : Access} (opens : w.openNode node access = .ok (e, w')) :
    Alike w w' ∧ ∀ n, w.input.below n → e.below n := by
  unfold openNode at opens
  split at opens
  · cases opens
  · obtain ⟨rfl, rfl⟩ := Prod.mk.inj (Except.ok.inj opens)
    exact reopen_spec w w.input access
  · split at opens
    · cases opens
      exact ⟨⟨rfl, rfl⟩, fun _ _ => trivial⟩
    · cases opens
  · cases opens
    exact ⟨⟨rfl, rfl⟩, fun _ _ => trivial⟩

theorem openFile_opens {path : String} (opens : w.openFile path = .ok (e, w')) :
    ∃ node, w.files.resolve w.here path = .ok node ∧ w.openNode node .reading = .ok (e, w') := by
  unfold openFile at opens
  obtain ⟨node, resolved, opens⟩ := bind_eq_ok.1 opens
  obtain ⟨⟨⟩, -, opens⟩ := bind_eq_ok.1 opens
  exact ⟨node, resolved, opens⟩

theorem createFile_opens {path : String} (opens : w.createFile path = .ok (e, w')) :
    ∃ node files, World.openNode { w with files } node .writing = .ok (e, w') := by
  unfold createFile at opens
  obtain ⟨made, -, opens⟩ := bind_eq_ok.1 opens
  exact ⟨made.1, _, opens⟩

theorem openFile_spec {path : String} (opens : w.openFile path = .ok (e, w')) :
    Alike w w' ∧ ∀ n, w.input.below n → e.below n := by
  obtain ⟨node, -, opens⟩ := openFile_opens opens
  exact openNode_spec opens

theorem createFile_spec {path : String} (opens : w.createFile path = .ok (e, w')) :
    Alike w w' ∧ ∀ n, w.input.below n → e.below n := by
  obtain ⟨node, files, opens⟩ := createFile_opens opens
  obtain ⟨alike, below⟩ := openNode_spec opens
  exact ⟨⟨alike.pipes, alike.input⟩, below⟩

end World

namespace Plan

theorem openEnd_spec {how : String → Except SystemError (End × World)} {w w' : World}
    {path : Option String} {e : Option End}
    (opens : ∀ path e w', how path = .ok (e, w') →
      World.Alike w w' ∧ ∀ n, w.input.below n → e.below n)
    (opened : openEnd how w path = .ok (e, w')) :
    World.Alike w w' ∧ ∀ n, w.input.below n → ∀ x ∈ e, x.below n := by
  cases path with
  | none =>
    cases opened
    exact ⟨.refl w, by simp⟩
  | some path =>
    simp only [openEnd] at opened
    split at opened
    · rename_i x w'' made
      cases opened
      obtain ⟨alike, below⟩ := opens path x w' made
      refine ⟨alike, fun n own y member => ?_⟩
      cases member
      exact below n own
    · cases opened

theorem wire_of_opens {plan : Plan} {w opened created : World} {input output : Option End}
    (staged : plan.stages ≠ []) (first : openEnd w.openFile w plan.input = .ok (input, opened))
    (second : openEnd opened.createFile opened plan.output = .ok (output, created)) :
    plan.wire w =
      { wiring := .ok
          { stages := (List.range plan.stages.length).map
              (Wiring.streamsAt created.pipes.size plan.stages.length input output)
            opened := input.toList ++ output.toList ++
              Wiring.pipeEnds created.pipes.size (plan.stages.length - 1)
            pipes := plan.stages.length - 1 }
        closed := none
        world := created.openPipes (plan.stages.length - 1) } := by
  simp only [wire, List.isEmpty_iff, staged, if_false, first, second]

theorem wire_spec {plan : Plan} {w : World} {wiring : Wiring}
    (wired : (plan.wire w).wiring = .ok wiring) (own : w.input.below w.pipes.size) :
    ∃ input output, (∀ e ∈ input, e.below w.pipes.size) ∧ (∀ e ∈ output, e.below w.pipes.size) ∧
      wiring.stages = (List.range plan.stages.length).map
        (Wiring.streamsAt w.pipes.size plan.stages.length input output) ∧
      (plan.wire w).world.pipes =
        w.pipes ++ Array.replicate (plan.stages.length - 1) ({} : Pipe) ∧
      (plan.wire w).world.input = w.input ∧
      (plan.stages ≠ [] → ∃ opened created, openEnd w.openFile w plan.input = .ok (input, opened) ∧
        openEnd opened.createFile opened plan.output = .ok (output, created)) := by
  by_cases empty : plan.stages.isEmpty
  · have nothing : plan.stages = [] := List.isEmpty_iff.1 empty
    simp only [wire, empty, if_true] at wired ⊢
    cases wired
    exact ⟨none, none, by simp, by simp, by simp [nothing]⟩
  · simp only [wire, empty] at wired ⊢
    cases first : openEnd w.openFile w plan.input with
    | error fault =>
      rw [first] at wired
      cases wired
    | ok opening =>
      obtain ⟨input, opened⟩ := opening
      simp only [first] at wired ⊢
      cases second : openEnd opened.createFile opened plan.output with
      | error fault =>
        rw [second] at wired
        cases wired
      | ok creating =>
        obtain ⟨output, created⟩ := creating
        simp only [second] at wired ⊢
        obtain ⟨alike, below⟩ := openEnd_spec (fun _ _ _ => World.openFile_spec) first
        obtain ⟨alike', below'⟩ := openEnd_spec (fun _ _ _ => World.createFile_spec) second
        have same := alike.trans alike'
        cases wired
        refine ⟨input, output, below _ own, below' _ (alike.input ▸ own), ?_, ?_, same.input,
          fun _ => ⟨opened, created, rfl, second⟩⟩
        · rw [same.pipes]
        · rw [← same.pipes]
          rfl

end Plan

/-! ## Frames -/

structure Frame.Fits (f : Frame) (plan : Plan) (wiring : Wiring) (d : Diary) (w : World) : Prop where
  start : f.start = d.length
  first : f.first = d.streams.length
  base : f.base = w.pipes.size
  own : f.own = w.input
  count : f.count = plan.stages.length
  streams : wiring.stages = (List.range f.count).map f.streams
  pipes : (plan.wire w).world.pipes = w.pipes ++ Array.replicate (f.count - 1) ({} : Pipe)
  input : (plan.wire w).world.input = w.input
  opens : plan.stages ≠ [] → ∃ input opened created,
    Plan.openEnd w.openFile w plan.input = .ok (input, opened) ∧
      Plan.openEnd opened.createFile opened plan.output = .ok (f.output, created)

theorem Plan.exists_frame {plan : Plan} {wiring : Wiring} {d : Diary} {w : World}
    (wired : (plan.wire w).wiring = .ok wiring) (sound : d.Sound w) :
    ∃ f : Frame, f.Fits plan wiring d w := by
  obtain ⟨input, output, inputBelow, outputBelow, streams, pipes, same, opens⟩ :=
    wire_spec wired sound.own
  let f : Frame :=
    { start := d.length
      first := d.streams.length
      base := w.pipes.size
      count := plan.stages.length
      input, output
      own := w.input
      input_below := inputBelow
      output_below := outputBelow
      own_below := sound.own }
  exact ⟨f, rfl, rfl, rfl, rfl, rfl, streams, pipes, same, fun staged => ⟨input, opens staged⟩⟩

namespace Frame.Fits
variable {f : Frame} {plan : Plan} {wiring : Wiring} {d : Diary} {w : World}

theorem streams_eq (fits : f.Fits plan wiring d w) {i : Nat} {st : Streams}
    (there : wiring.stages[i]? = some st) : st = f.streams i := by
  rw [fits.streams, List.getElem?_map, Option.map_eq_some_iff] at there
  obtain ⟨j, there, rfl⟩ := there
  obtain ⟨within, rfl⟩ := List.getElem?_eq_some_iff.1 there
  rw [List.getElem_range]

theorem getElem? (fits : f.Fits plan wiring d w) {i : Nat} (inside : i < f.count) :
    wiring.stages[i]? = some (f.streams i) := by
  rw [fits.streams, List.getElem?_map, List.getElem?_range inside, Option.map_some]

theorem length (fits : f.Fits plan wiring d w) : wiring.stages.length = f.count := by
  rw [fits.streams, List.length_map, List.length_range]

end Frame.Fits

theorem Flow.fresh {f : Frame} {plan : Plan} {wiring : Wiring} {d : Diary} {w : World}
    (fits : f.Fits plan wiring d w) (sound : d.Sound w) :
    Flow f (fun _ => .waiting) d (plan.wire w).world := by
  obtain ⟨start, first, base, own, -, -, pipes, input, -⟩ := fits
  generalize (plan.wire w).world = w' at pipes input
  have size : w'.pipes.size = f.base + (f.count - 1) := by
    rw [pipes, Array.size_append, Array.size_replicate, base]
  have larger : w.pipes.size ≤ w'.pipes.size := by
    rw [size, base]
    exact Nat.le_add_right _ _
  have new : ∀ i, i + 1 < f.count → w'.pipe (f.base + i) = {} := by
    intro i inner
    have inside : i < f.count - 1 := by omega
    simp [World.pipe, pipes, base, inside]
  have nothing : f.line d = [] := by
    rw [Frame.line, start, List.drop_length]
  refine ⟨⟨?_, ?_, sound.closed⟩, ⟨?_, ?_, ?_, ?_, ?_⟩, ⟨?_, ?_, ?_, ?_⟩, ⟨?_, ?_, ?_, ?_, ?_⟩,
    ⟨?_, ?_⟩⟩
  · exact fun st member => (sound.ends st member).mono larger
  · rw [input]
    exact sound.own.mono larger
  · intro k st _ there
    exact base ▸ sound.ends st (List.mem_of_getElem? there)
  · rw [first]
  · intro i k there
    cases there
  · intro k new known
    omega
  · intro i j k there
    cases there
  · rw [start]
  · simp [nothing]
  · simp [nothing]
  · simp [nothing]
  · rw [size]
  · rw [input, own]
  · intro i inner
    simp [nothing, new i inner]
  · intro i inner
    rw [new i inner]
    rfl
  · intro i inner
    rw [new i inner]
    rfl
  · simp [nothing]
  · simp [nothing]

end PipeShell
