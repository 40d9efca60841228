import PipeShell.Proofs.Layout

/-!
# Lines that are built up

A line that grows by stages and words alone is always well formed. Its links are threaded through all
of its nodes (`Threaded`), a stage goes to the end of the line (`Threaded.pushStage`), and a word to
the end of the stage of the node that it was added to (`Threaded.pushWord`). No node loses anything but
its links on the way, so the nodes of a line can be read off what was added to it (`Holds`).
-/

namespace PipeShell

def Node.unlinked (n : Node) : Node := { n with next := none, nextStage := none }

namespace Line

/-! ## Nodes and links -/

theorem eq_of_node {line line' : Line} (head : line'.head = line.head)
    (lastStage : line'.lastStage = line.lastStage) (size : line'.nodes.size = line.nodes.size)
    (node : ∀ i, line'.node i = line.node i) : line' = line := by
  obtain ⟨nodes, _, _⟩ := line
  obtain ⟨nodes', _, _⟩ := line'
  dsimp only at head lastStage size
  subst head lastStage
  have same : nodes' = nodes := by
    refine Array.ext size fun i inside inside' => ?_
    have := node i
    simpa [Line.node, Array.getD, inside, inside'] using this
  rw [same]

@[simp] theorem node_modify (line : Line) (id i : Nat) (f : Node → Node) :
    (line.modify id f).node i =
      if i = id ∧ i < line.nodes.size then f (line.node i) else line.node i := by
  simp only [modify, node, Array.getD_eq_getD_getElem?, Array.getElem?_modify]
  by_cases inside : i < line.nodes.size
  · simp only [inside, Array.getElem?_eq_getElem, and_true, eq_comm (a := i)]
    split <;> rfl
  · simp [inside]

@[simp] theorem size_modify (line : Line) (id : Nat) (f : Node → Node) :
    (line.modify id f).nodes.size = line.nodes.size := by
  simp [modify]

theorem read_modify {α : Type} {read : Node → α} {f : Node → Node} (keeps : ∀ n, read (f n) = read n)
    (line : Line) (id i : Nat) : read ((line.modify id f).node i) = read (line.node i) := by
  rw [node_modify]
  split
  · exact keeps _
  · rfl

theorem node_push (line : Line) (n : Node) (head last : Option Nat) (i : Nat) :
    Line.node ⟨line.nodes.push n, head, last⟩ i =
      if i = line.nodes.size then n else line.node i := by
  simp only [node, Array.getD_eq_getD_getElem?, Array.getElem?_push]
  split <;> rfl

theorem node_pushWord {line : Line} {id : Nat} (n : Node) (i : Nat)
    (bound : line.lastWord line.nodes.size id < line.nodes.size) :
    (line.pushWord id n).node i =
      if i = line.nodes.size then n
      else if i = line.lastWord line.nodes.size id then
        { line.node i with next := some line.nodes.size }
      else line.node i := by
  rw [pushWord, node_push]
  simp only [size_modify, node_modify]
  grind

theorem node_pushStage {line : Line} (n : Node) (i : Nat)
    (bound : ∀ last, line.lastStage = some last → last < line.nodes.size) :
    (line.pushStage n).node i =
      if i = line.nodes.size then n
      else if line.lastStage = some i then
        { line.node i with nextStage := some line.nodes.size }
      else line.node i := by
  unfold pushStage
  cases last : line.lastStage with
  | none =>
    simp only [node_push]
    rfl
  | some last =>
    simp only [node_push, size_modify, node_modify, Option.some.injEq]
    have := bound _ last
    grind

@[simp] theorem size_pushStage (line : Line) (n : Node) :
    (line.pushStage n).nodes.size = line.nodes.size + 1 := by
  unfold pushStage
  cases line.lastStage <;> simp

@[simp] theorem size_pushWord (line : Line) (id : Nat) (n : Node) :
    (line.pushWord id n).nodes.size = line.nodes.size + 1 := by
  simp [pushWord]

@[simp] theorem lastStage_pushStage (line : Line) (n : Node) :
    (line.pushStage n).lastStage = some line.nodes.size := rfl

@[simp] theorem lastStage_pushWord (line : Line) (id : Nat) (n : Node) :
    (line.pushWord id n).lastStage = line.lastStage := rfl

@[simp] theorem head_pushWord (line : Line) (id : Nat) (n : Node) :
    (line.pushWord id n).head = line.head := rfl

theorem head_pushStage (line : Line) (n : Node) :
    (line.pushStage n).head =
      if line.lastStage = none then some line.nodes.size else line.head := by
  unfold pushStage
  cases line.lastStage <;> rfl

/-! ## Walks -/

theorem Walk.congr {line line' : Line} {start : Option Nat} {ids : List Nat}
    (walk : Walk line start ids)
    (same : ∀ id ∈ ids, (line'.node id).next = (line.node id).next) : Walk line' start ids := by
  induction walk with
  | stop => exact .stop
  | @step id ids _ ih =>
    refine .step ?_
    rw [same id List.mem_cons_self]
    exact ih fun i mem => same i (List.mem_cons_of_mem _ mem)

theorem Walk.drop {line : Line} {start : Option Nat} {before after : List Nat} {id : Nat}
    (walk : Walk line start (before ++ id :: after)) : Walk line (some id) (id :: after) := by
  induction before generalizing start with
  | nil =>
    obtain ⟨rfl, -⟩ := walk_cons.1 walk
    exact walk
  | cons i before ih => exact ih (walk_cons.1 walk).2

theorem Walk.extend {line line' : Line} {start : Option Nat} {before : List Nat} {last k : Nat}
    (walk : Walk line start (before ++ [last]))
    (same : ∀ i ∈ before, (line'.node i).next = (line.node i).next)
    (link : (line'.node last).next = some k) (final : (line'.node k).next = none) :
    Walk line' start (before ++ [last, k]) := by
  induction before generalizing start with
  | nil =>
    obtain ⟨rfl, -⟩ := walk_cons.1 walk
    refine .step ?_
    rw [link]
    refine .step ?_
    rw [final]
    exact .stop
  | cons i before ih =>
    obtain ⟨rfl, rest⟩ := walk_cons.1 walk
    refine .step ?_
    rw [same i List.mem_cons_self]
    exact ih rest fun j mem => same j (List.mem_cons_of_mem _ mem)

theorem lastWord_of_walk {line : Line} {start id : Nat} {ids : List Nat}
    (walk : Walk line (some start) (ids ++ [id])) {steps : Nat} (enough : ids.length ≤ steps) :
    line.lastWord steps start = id := by
  induction ids generalizing start steps with
  | nil =>
    obtain ⟨same, ended⟩ := walk_cons.1 walk
    obtain rfl := Option.some.inj same
    rw [walk_nil] at ended
    cases steps <;> simp [lastWord, ended]
  | cons i ids ih =>
    obtain ⟨same, rest⟩ := walk_cons.1 walk
    obtain rfl := Option.some.inj same
    cases steps with
    | zero => simp at enough
    | succ steps =>
      cases next : (line.node start).next with
      | none => rw [next] at rest; cases ids <;> simp [walk_cons] at rest
      | some i =>
        rw [next] at rest
        rw [lastWord, next]
        exact ih rest (by simpa using enough)

/-! ## Tours -/

theorem Tour.congr {line line' : Line} {start : Option Nat} {stages : List (List Nat)}
    (tour : Tour line start stages)
    (words : ∀ id ∈ stages.flatten, (line'.node id).next = (line.node id).next)
    (heads : ∀ id ∈ stages.flatten, (line'.node id).nextStage = (line.node id).nextStage) :
    Tour line' start stages := by
  induction tour with
  | stop => exact .stop
  | @step id ids stages walk _ ih =>
    refine .step ?_ ?_
    · rw [words id (by simp)]
      exact walk.congr fun i mem => words i (by simp [mem])
    · rw [heads id (by simp)]
      exact ih (fun i mem => words i (List.mem_append_right _ mem))
        fun i mem => heads i (List.mem_append_right _ mem)

theorem Tour.extend {line line' : Line} {start : Option Nat} {stages : List (List Nat)}
    {last k : Nat} {ids : List Nat} (tour : Tour line start (stages ++ [last :: ids]))
    (words : ∀ id ∈ (stages ++ [last :: ids]).flatten,
      (line'.node id).next = (line.node id).next)
    (heads : ∀ id ∈ stages.flatten, (line'.node id).nextStage = (line.node id).nextStage)
    (link : (line'.node last).nextStage = some k) (word : (line'.node k).next = none)
    (final : (line'.node k).nextStage = none) :
    Tour line' start (stages ++ [last :: ids, [k]]) := by
  induction stages generalizing start with
  | nil =>
    obtain ⟨id, rfl, first, walk, -⟩ := tour_cons.1 tour
    obtain rfl : last = id := by simpa using first
    refine tour_cons.2 ⟨last, rfl, rfl, walk.congr fun i mem => words i (by simpa using mem), ?_⟩
    rw [link]
    refine .step ?_ ?_
    · rw [word]
      exact .stop
    · rw [final]
      exact .stop
  | cons stage stages ih =>
    obtain ⟨id, rfl, first, walk, rest⟩ := tour_cons.1 tour
    have member : id ∈ stage := List.mem_of_head? first
    refine tour_cons.2 ⟨id, rfl, first,
      walk.congr fun i mem => words i (List.mem_append_left _ mem), ?_⟩
    rw [heads id (List.mem_append_left _ member)]
    exact ih rest (fun i mem => words i (List.mem_append_right _ mem))
      fun i mem => heads i (List.mem_append_right _ mem)

theorem Tour.grow {line line' : Line} {start : Option Nat} {before after : List (List Nat)}
    {ids : List Nat} {last k : Nat}
    (tour : Tour line start (before ++ (ids ++ [last]) :: after))
    (words : ∀ id ∈ (before ++ ids :: after).flatten, (line'.node id).next = (line.node id).next)
    (heads : ∀ id ∈ (before ++ (ids ++ [last]) :: after).flatten,
      (line'.node id).nextStage = (line.node id).nextStage)
    (link : (line'.node last).next = some k) (final : (line'.node k).next = none) :
    Tour line' start (before ++ (ids ++ [last, k]) :: after) := by
  induction before generalizing start with
  | nil =>
    obtain ⟨id, rfl, first, walk, rest⟩ := tour_cons.1 tour
    have member : id ∈ ids ++ [last] := List.mem_of_head? first
    refine tour_cons.2 ⟨id, rfl, ?_, walk.extend (fun i mem => words i ?_) link final, ?_⟩
    · cases ids <;> simpa using first
    · exact List.mem_append_left _ mem
    · rw [heads id (List.mem_append_left _ member)]
      exact rest.congr (fun i mem => words i (List.mem_append_right _ mem))
        fun i mem => heads i (List.mem_append_right _ mem)
  | cons stage before ih =>
    obtain ⟨id, rfl, first, walk, rest⟩ := tour_cons.1 tour
    have member : id ∈ stage := List.mem_of_head? first
    refine tour_cons.2 ⟨id, rfl, first,
      walk.congr fun i mem => words i (List.mem_append_left _ mem), ?_⟩
    rw [heads id (List.mem_append_left _ member)]
    exact ih rest (fun i mem => words i (List.mem_append_right _ mem))
      fun i mem => heads i (List.mem_append_right _ mem)

theorem Tour.walk {line : Line} {start : Option Nat} {stages : List (List Nat)}
    (tour : Tour line start stages) {stage : List Nat} (member : stage ∈ stages) :
    ∃ id, stage.head? = some id ∧ Walk line (some id) stage := by
  induction tour with
  | stop => cases member
  | @step id ids stages walk _ ih =>
    rcases List.mem_cons.1 member with rfl | later
    · exact ⟨id, rfl, .step walk⟩
    · exact ih later

/-! ## Threaded lines -/

structure Threaded (line : Line) (stages : List (List Nat)) : Prop where
  tour : Tour line line.head stages
  nodup : stages.flatten.Nodup
  member : ∀ id, id ∈ stages.flatten ↔ id < line.nodes.size
  last : line.lastStage = stages.getLast?.bind List.head?

namespace Threaded
variable {line : Line} {stages : List (List Nat)}

theorem layout_eq (t : Threaded line stages) : line.layout = .ok stages :=
  layout_eq_ok.2 ⟨t.tour, t.nodup, fun id => (t.member id).1⟩

theorem lastStage_lt (t : Threaded line stages) {last : Nat} (h : line.lastStage = some last) :
    last < line.nodes.size := by
  rw [t.last, Option.bind_eq_some_iff] at h
  obtain ⟨stage, final, first⟩ := h
  exact (t.member last).1
    (List.mem_flatten.2 ⟨stage, List.mem_of_getLast? final, List.mem_of_head? first⟩)

theorem empty : Threaded Line.empty [] where
  tour := .stop
  nodup := List.nodup_nil
  member := by simp [Line.empty]
  last := rfl

theorem pushStage (t : Threaded line stages) {n : Node} (word : n.next = none)
    (stage : n.nextStage = none) :
    Threaded (line.pushStage n) (stages ++ [[line.nodes.size]]) := by
  have nodes := fun i => node_pushStage n i fun _ => t.lastStage_lt
  have old : ∀ {i}, i ∈ stages.flatten → i ≠ line.nodes.size :=
    fun mem => Nat.ne_of_lt ((t.member _).1 mem)
  refine ⟨?_, ?_, ?_, ?_⟩
  · rcases List.eq_nil_or_concat stages with rfl | ⟨init, final, rfl⟩
    · have first : line.lastStage = none := t.last
      rw [head_pushStage, if_pos first]
      refine tour_cons.2 ⟨line.nodes.size, rfl, rfl, .step ?_, tour_nil.2 ?_⟩
      · rw [nodes, if_pos rfl, word]
        exact .stop
      · rw [nodes, if_pos rfl, stage]
    · rw [List.concat_eq_append] at t old ⊢
      obtain ⟨last, first, -⟩ := t.tour.walk (List.mem_append_right init List.mem_cons_self)
      obtain ⟨ids, rfl⟩ := List.head?_eq_some_iff.1 first
      have lastStage : line.lastStage = some last := by simp [t.last]
      have nodup := t.nodup
      rw [List.flatten_append, List.nodup_append] at nodup
      rw [head_pushStage, if_neg (by simp [lastStage]), List.append_assoc]
      refine t.tour.extend (fun i mem => ?_) (fun i mem => ?_) ?_ ?_ ?_
      · rw [nodes, if_neg (old mem)]
        split <;> rfl
      · have other : line.lastStage ≠ some i := fun same =>
          nodup.2.2 i mem last (by simp) (Option.some.inj (same.symm.trans lastStage))
        rw [nodes, if_neg (old (by simp [mem])), if_neg other]
      · rw [nodes, if_neg (old (by simp)), if_pos lastStage]
      · rw [nodes, if_pos rfl, word]
      · rw [nodes, if_pos rfl, stage]
  · rw [List.flatten_append, List.nodup_append]
    refine ⟨t.nodup, by simp, ?_⟩
    rintro i mem j other rfl
    exact old mem (by simpa using other)
  · intro id
    simp only [List.flatten_append, List.mem_append, t.member, size_pushStage]
    simp
    omega
  · simp

theorem lastWord_eq {ids : List Nat} {last id : Nat} (t : Threaded line stages)
    (stage : ids ++ [last] ∈ stages) (member : id ∈ ids ++ [last]) :
    line.lastWord line.nodes.size id = last := by
  obtain ⟨head, -, walk⟩ := t.tour.walk stage
  obtain ⟨before, after, split⟩ := List.append_of_mem member
  rw [split] at walk
  have short : (ids ++ [last]).length ≤ line.nodes.size := by
    have nodup : (ids ++ [last]).Nodup := (List.nodup_flatten.1 t.nodup).1 _ stage
    have within : ids ++ [last] ⊆ List.range line.nodes.size := fun i mem =>
      List.mem_range.2 ((t.member i).1 (List.mem_flatten.2 ⟨_, stage, mem⟩))
    simpa using nodup.length_le_of_subset within
  rcases List.eq_nil_or_concat (id :: after) with absurd | ⟨init, final, eq⟩
  · cases absurd
  · rw [List.concat_eq_append] at eq
    rw [eq, ← List.append_assoc] at split
    obtain ⟨same, ending⟩ := List.append_inj' split rfl
    obtain rfl : last = final := by simpa using ending
    refine lastWord_of_walk (eq ▸ walk.drop) ?_
    rw [same] at short
    simp at short
    omega

theorem pushWord {before after : List (List Nat)} {stage : List Nat} {id : Nat}
    (t : Threaded line (before ++ stage :: after)) (member : id ∈ stage) {n : Node}
    (word : n.next = none) :
    Threaded (line.pushWord id n) (before ++ (stage ++ [line.nodes.size]) :: after) := by
  rcases List.eq_nil_or_concat stage with rfl | ⟨ids, last, rfl⟩
  · cases member
  rw [List.concat_eq_append] at t member ⊢
  have ending := t.lastWord_eq (List.mem_append_right before List.mem_cons_self) member
  have inside : last < line.nodes.size := (t.member last).1 (by simp)
  have nodes : ∀ i, (line.pushWord id n).node i = _ := fun i =>
    node_pushWord n i (ending ▸ inside)
  rw [ending] at nodes
  have flat : ∀ words, (before ++ words :: after).flatten =
      before.flatten ++ (words ++ after.flatten) := by simp
  have nodup := t.nodup
  have member := t.member
  rw [flat, List.append_assoc, ← List.append_assoc, List.singleton_append, List.nodup_middle,
    List.append_assoc, ← flat, List.nodup_cons] at nodup
  have old : ∀ {i}, i ∈ (before ++ (ids ++ [last]) :: after).flatten → i ≠ line.nodes.size :=
    fun mem => Nat.ne_of_lt ((member _).1 mem)
  refine ⟨?_, ?_, ?_, ?_⟩
  · rw [List.append_assoc, head_pushWord]
    refine t.tour.grow (fun i mem => ?_) (fun i mem => ?_) ?_ ?_
    · have other : i ≠ last := fun same => nodup.1 (same ▸ mem)
      rw [flat] at mem
      rw [nodes, if_neg (old (by rw [flat]; grind)), if_neg other]
    · rw [nodes, if_neg (old mem)]
      split <;> rfl
    · rw [nodes, if_neg (Nat.ne_of_lt inside), if_pos rfl]
    · rw [nodes, if_pos rfl, word]
  · have fresh : line.nodes.size ∉ (before ++ (ids ++ [last]) :: after).flatten :=
      fun mem => old mem rfl
    rw [flat, List.append_assoc, ← List.append_assoc, List.singleton_append, List.nodup_middle,
      List.append_assoc, ← flat, List.nodup_cons]
    exact ⟨fresh, t.nodup⟩
  · intro i
    rw [size_pushWord, Nat.lt_succ_iff_lt_or_eq, ← member, flat, flat]
    simp only [List.mem_append, List.mem_singleton]
    tauto
  · rw [lastStage_pushWord, t.last]
    rcases List.eq_nil_or_concat after with rfl | ⟨init, final, rfl⟩
    · cases ids <;> simp
    · simp only [List.concat_eq_append, ← List.cons_append, ← List.append_assoc,
        List.getLast?_concat]

theorem modify (t : Threaded line stages) (id : Nat) {f : Node → Node}
    (word : ∀ n, (f n).next = n.next) (stage : ∀ n, (f n).nextStage = n.nextStage) :
    Threaded (line.modify id f) stages where
  tour := t.tour.congr (fun i _ => read_modify word line id i) fun i _ => read_modify stage line id i
  nodup := t.nodup
  member := by simpa using t.member
  last := t.last

end Threaded

/-! ## What a line holds -/

def words (line : Line) (ids : List Nat) : List Node := ids.map fun id => (line.node id).unlinked

def Holds (line : Line) (nodes : List (List Node)) : Prop :=
  ∃ stages, Threaded line stages ∧ stages.map line.words = nodes

theorem words_congr {line line' : Line} {ids : List Nat}
    (same : ∀ id ∈ ids, (line'.node id).unlinked = (line.node id).unlinked) :
    line'.words ids = line.words ids :=
  List.map_congr_left same

theorem map_words_congr {line line' : Line} {stages : List (List Nat)}
    (same : ∀ id ∈ stages.flatten, (line'.node id).unlinked = (line.node id).unlinked) :
    stages.map line'.words = stages.map line.words :=
  List.map_congr_left fun stage member => words_congr fun id mem =>
    same id (List.mem_flatten.2 ⟨stage, member, mem⟩)

theorem words_pushStage {line : Line} {stages : List (List Nat)} (t : Threaded line stages)
    (n : Node) : (stages ++ [[line.nodes.size]]).map (line.pushStage n).words =
      stages.map line.words ++ [[n.unlinked]] := by
  have nodes := fun i => node_pushStage n i fun _ => t.lastStage_lt
  have kept : stages.map (line.pushStage n).words = stages.map line.words := by
    refine map_words_congr fun i mem => ?_
    rw [nodes, if_neg (Nat.ne_of_lt ((t.member i).1 mem))]
    split <;> rfl
  rw [List.map_append, kept]
  simp [words, nodes]

theorem words_pushWord {line : Line} {before after : List (List Nat)} {stage : List Nat}
    {id : Nat} (t : Threaded line (before ++ stage :: after)) (member : id ∈ stage) (n : Node) :
    (before ++ (stage ++ [line.nodes.size]) :: after).map (line.pushWord id n).words =
      before.map line.words ++ (line.words stage ++ [n.unlinked]) :: after.map line.words := by
  have inside : line.lastWord line.nodes.size id < line.nodes.size := by
    obtain ⟨ids, last, rfl⟩ := (List.eq_nil_or_concat stage).resolve_left
      (List.ne_nil_of_mem member)
    rw [List.concat_eq_append] at t member
    rw [t.lastWord_eq (List.mem_append_right before List.mem_cons_self) member]
    exact (t.member last).1 (by simp)
  have nodes : ∀ i, (line.pushWord id n).node i = _ := fun i => node_pushWord n i inside
  have kept : ∀ i ∈ (before ++ stage :: after).flatten,
      ((line.pushWord id n).node i).unlinked = (line.node i).unlinked := by
    intro i mem
    rw [nodes, if_neg (Nat.ne_of_lt ((t.member i).1 mem))]
    split <;> rfl
  have first : before.map (line.pushWord id n).words = before.map line.words :=
    map_words_congr fun i mem => kept i (by simp_all)
  have grown : (line.pushWord id n).words stage = line.words stage :=
    words_congr fun i mem => kept i (by simp_all)
  have final : after.map (line.pushWord id n).words = after.map line.words :=
    map_words_congr fun i mem => kept i (by simp_all)
  rw [List.map_append, List.map_cons, first, final, ← grown]
  simp [words, nodes]

end Line

/-! ## Lines that were read -/

namespace Segment

def nodes (background : Bool) (s : Segment) : List Node :=
  { Node.ofHead s.head with input := s.input, output := s.output, background } ::
    s.args.map Node.ofArg

end Segment

namespace Pipeline

def nodes (background : Bool) : List Segment → List (List Node)
  | [] => []
  | [s] => [s.nodes background]
  | s :: rest => s.nodes false :: nodes background rest

theorem nodes_concat (background : Bool) (segments : List Segment) (s : Segment) :
    nodes background (segments ++ [s]) =
      segments.map (Segment.nodes false) ++ [s.nodes background] := by
  induction segments with
  | nil => rfl
  | cons first rest ih => cases rest <;> simp_all [nodes]

end Pipeline

namespace Line

theorem Holds.pushWords {line : Line} {before : List (List Node)} {words : List Node} {id : Nat}
    {stages : List (List Nat)} {stage : List Nat} (t : Threaded line (stages ++ [stage]))
    (member : id ∈ stage) (holds : (stages ++ [stage]).map line.words = before ++ [words])
    (args : List Arg) :
    Holds (args.foldl (fun line a => line.pushWord id (.ofArg a)) line)
      (before ++ [words ++ args.map Node.ofArg]) := by
  induction args generalizing line words stage with
  | nil => exact ⟨_, t, by simpa using holds⟩
  | cons a args ih =>
    rw [List.foldl_cons]
    have plain : (Node.ofArg a).unlinked = Node.ofArg a := by cases a <;> rfl
    have grown := words_pushWord t member (Node.ofArg a)
    have added := t.pushWord member (n := Node.ofArg a) (by cases a <;> rfl)
    rw [plain] at grown
    obtain ⟨rfl, same⟩ : stages.map line.words = before ∧ line.words stage = words := by
      simpa using holds
    have := ih added (List.mem_append_left _ member) (by rw [grown, same]; rfl)
    simpa using this

theorem Holds.pushSegment {line : Line} {nodes : List (List Node)} (holds : Holds line nodes)
    (s : Segment) : Holds (line.pushSegment s) (nodes ++ [s.nodes false]) := by
  obtain ⟨stages, t, rfl⟩ := holds
  let head : Node := { Node.ofHead s.head with input := s.input, output := s.output }
  have plain : head.unlinked = head ∧ head.background = false := by
    cases h : s.head <;> simp [head, h, Node.ofHead, Node.unlinked, Node.ofCommand, Node.ofArg,
      Node.ofText, Node.ofParameter]
  have added : Threaded (line.pushStage head) _ := t.pushStage
    (congrArg Node.next plain.1.symm) (congrArg Node.nextStage plain.1.symm)
  have grown := words_pushStage t head
  rw [plain.1] at grown
  have := Holds.pushWords added (List.mem_singleton.2 rfl) grown s.args
  have same : s.nodes false = [head] ++ s.args.map Node.ofArg := by
    rw [Segment.nodes, ← plain.2]
    rfl
  rw [same]
  exact this

theorem holds_foldl (segments : List Segment) {line : Line} {nodes : List (List Node)}
    (holds : Holds line nodes) :
    Holds (segments.foldl Line.pushSegment line) (nodes ++ segments.map (Segment.nodes false)) := by
  induction segments generalizing line nodes with
  | nil => simpa using holds
  | cons s rest ih => simpa using ih (holds.pushSegment s)

theorem Holds.lastStage {line : Line} {nodes : List (List Node)} {head : Node} {args : List Node}
    (holds : Holds line (nodes ++ [head :: args])) :
    ∃ init id ids, Threaded line (init ++ [id :: ids]) ∧ line.lastStage = some id ∧
      init.map line.words = nodes ∧ (line.node id).unlinked = head ∧ line.words ids = args := by
  obtain ⟨stages, t, eq⟩ := holds
  obtain ⟨init, rest, rfl, first, eq⟩ := List.map_eq_append_iff.1 eq
  obtain ⟨stage, rfl, same⟩ := List.map_eq_singleton_iff.1 eq
  obtain ⟨id, ids, rfl, here, more⟩ := List.map_eq_cons_iff.1 same
  exact ⟨init, id, ids, t, by simp [t.last], first, here, more⟩

theorem Holds.mark {line : Line} {nodes : List (List Node)} {head : Node} {args : List Node}
    (holds : Holds line (nodes ++ [head :: args])) (background : Bool) :
    ∃ last, line.lastStage = some last ∧
      Holds (line.modify last ({ · with background }))
        (nodes ++ [{ head with background } :: args]) := by
  obtain ⟨init, id, ids, t, final, rfl, rfl, rfl⟩ := holds.lastStage
  have nodup := t.nodup
  simp only [List.flatten_append, List.flatten_singleton, List.nodup_append,
    List.nodup_cons] at nodup
  have inside : id < line.nodes.size := (t.member id).1 (by simp)
  have others : ∀ i, i ≠ id →
      ((line.modify id ({ · with background })).node i).unlinked = (line.node i).unlinked := by
    intro i other
    rw [node_modify, if_neg (fun h => other h.1)]
  refine ⟨id, final, _, t.modify id (fun _ => rfl) (fun _ => rfl), ?_⟩
  rw [List.map_append, map_words_congr fun i mem => others i fun same =>
    nodup.2.2 i mem id List.mem_cons_self same, List.map_singleton, words, List.map_cons]
  have rest := words_congr fun i mem => others i fun same => nodup.2.1.1 (same ▸ mem)
  rw [words] at rest
  rw [rest, node_modify, if_pos ⟨rfl, inside⟩]
  rfl

theorem holds_ofPipeline (p : Pipeline) :
    Holds (ofPipeline p) (Pipeline.nodes p.background p.stages) := by
  have holds : Holds _ _ := holds_foldl p.stages ⟨[], .empty, rfl⟩
  unfold ofPipeline
  rcases List.eq_nil_or_concat p.stages with empty | ⟨segments, s, split⟩
  · rw [empty] at holds ⊢
    exact holds
  · rw [split, List.concat_eq_append] at holds ⊢
    rw [Pipeline.nodes_concat]
    rw [List.map_append, List.map_singleton] at holds
    obtain ⟨last, final, marked⟩ := holds.mark p.background
    simp only [final]
    exact marked

end Line
end PipeShell
