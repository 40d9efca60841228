import PipeShell.Host.Scripted
import PipeShell.Proofs.Books
import PipeShell.Proofs.Launching

/-!
# Custody of ends

A line opens its files and makes its pipes, and whoever keeps an end too long makes another program
wait for ever. The shell keeps none too long: it lets go of each exactly once, in the turn of a
built-in command it has nothing that could be read, and when somebody is waited for it has nothing at
all (`Session.runPlan_custody`).
-/

namespace PipeShell
open Books

/-! ## The ends of a wiring -/

namespace World
variable {w w' : World} {e : End}

theorem openNode_end {node : Nat} {access : Access} (opens : w.openNode node access = .ok (e, w')) :
    (e = .file w.opened.size ∧ w'.opened.size = w.opened.size + 1) ∨
      ∃ id, e = if access = .reading then .reader id else .writer id := by
  have pushed : ∀ o, (.file w.opened.size, { w with opened := w.opened.push o }) = (e, w') →
      e = .file w.opened.size ∧ w'.opened.size = w.opened.size + 1 := by
    intro o same
    obtain ⟨rfl, rfl⟩ := Prod.mk.inj same
    exact ⟨rfl, Array.size_push _⟩
  unfold openNode at opens
  split at opens
  · cases opens
  · have same := Except.ok.inj opens
    unfold reopen at same
    split at same
    · exact .inl (pushed _ same)
    all_goals exact .inr ⟨_, (Prod.mk.inj same).1.symm⟩
  · split at opens
    · exact .inl (pushed _ (Except.ok.inj opens))
    · cases opens
  · exact .inl (pushed _ (Except.ok.inj opens))

theorem openFile_end {path : String} (opens : w.openFile path = .ok (e, w')) :
    (e = .file w.opened.size ∧ w'.opened.size = w.opened.size + 1) ∨ ∃ id, e = .reader id := by
  obtain ⟨node, -, opens⟩ := openFile_opens opens
  exact openNode_end opens

theorem createFile_end {path : String} (opens : w.createFile path = .ok (e, w')) :
    e = .file w.opened.size ∨ ∃ id, e = .writer id := by
  obtain ⟨node, files, opens⟩ := createFile_opens opens
  exact (openNode_end opens).imp_left And.left

end World

namespace Plan
variable {plan : Plan} {w w' w'' : World} {input output : Option End}

theorem openEnd_apart (first : openEnd w.openFile w plan.input = .ok (input, w'))
    (second : openEnd w'.createFile w' plan.output = .ok (output, w'')) :
    (∀ e ∈ input, e ∉ output) ∧ ∀ id, .reader id ∉ output := by
  unfold openEnd at first second
  split at second
  · cases second
    simp
  · split at second
    · rename_i made
      cases second
      have written := World.createFile_end made
      constructor
      · intro e member same
        obtain rfl : _ = e := Option.some.inj same
        split at first
        · cases first
          cases member
        · split at first
          · rename_i opens
            cases first
            cases member
            rcases World.openFile_end opens with ⟨rfl, size⟩ | ⟨id, rfl⟩
            · rcases written with same | ⟨id, same⟩
              · have := End.file.inj same
                omega
              · cases same
            · rcases written with same | ⟨_, same⟩ <;> cases same
          · cases first
      · intro id same
        obtain rfl := Option.some.inj same
        rcases written with same | ⟨_, same⟩ <;> cases same
    · cases second

end Plan

namespace Wiring

theorem length_pipeEnds (base count : Nat) : (pipeEnds base count).length = 2 * count := by
  simp [pipeEnds, List.length_flatMap, Nat.mul_comm]

theorem mem_pipeEnds {base count : Nat} {e : End} :
    e ∈ pipeEnds base count ↔ ∃ i < count, e = .reader (base + i) ∨ e = .writer (base + i) := by
  simp [pipeEnds]

theorem not_mem_pipeEnds {base count : Nat} {e : End} (below : e.below base) :
    e ∉ pipeEnds base count := by
  rw [mem_pipeEnds]
  rintro ⟨i, -, rfl | rfl⟩ <;> exact absurd below (by simp [End.below])

theorem nodup_pipeEnds (base count : Nat) : (pipeEnds base count).Nodup := by
  rw [pipeEnds, List.nodup_flatMap]
  refine ⟨by simp, List.nodup_range.imp ?_⟩
  intro i j other
  simp only [List.disjoint_left]
  intro e member
  simp only [List.mem_cons, List.not_mem_nil, or_false] at member ⊢
  rcases member with rfl | rfl <;> simp [other]

theorem ends_perm (base count : Nat) (input output : Option End) :
    (((List.range (count + 1)).map (streamsAt base (count + 1) input output)).flatMap
      Streams.ends).Perm (input.toList ++ output.toList ++ pipeEnds base count) := by
  have inputs : (List.range (count + 1)).flatMap
      (fun i => (streamsAt base (count + 1) input output i).input.toList) =
        input.toList ++ (List.range count).flatMap fun i => [.reader (base + i)] := by
    rw [List.range_succ_eq_map, List.flatMap_cons, List.flatMap_map]
    rfl
  have outputs : (List.range (count + 1)).flatMap
      (fun i => (streamsAt base (count + 1) input output i).output.toList) =
        ((List.range count).flatMap fun i => [.writer (base + i)]) ++ output.toList := by
    rw [List.range_succ, List.flatMap_append, List.flatMap_singleton]
    congr 1
    · apply List.flatMap_congr
      intro i member
      have inner : i ≠ count := (List.mem_range.1 member).ne
      simp [streamsAt, inner]
    · simp [streamsAt]
  have split := List.flatMap_append_perm (List.range (count + 1))
    (fun i => (streamsAt base (count + 1) input output i).input.toList)
    (fun i => (streamsAt base (count + 1) input output i).output.toList)
  have pairs := List.flatMap_append_perm (List.range count)
    (fun i => [End.reader (base + i)]) (fun i => [End.writer (base + i)])
  rw [inputs, outputs] at split
  rw [List.flatMap_map]
  refine split.symm.trans (.trans ?_ (pairs.append_left _))
  simp only [List.perm_iff_count, List.count_append]
  intro e
  omega

theorem exists_input {base count id : Nat} {input : Option End} (output : Option End)
    (positive : 0 < count) (member : .reader id ∈ input.toList ++ pipeEnds base (count - 1)) :
    ∃ st ∈ (List.range count).map (streamsAt base count input output), .reader id ∈ st.input := by
  rw [List.mem_append, Option.mem_toList, mem_pipeEnds] at member
  rcases member with outer | ⟨i, inner, same | same⟩
  · exact ⟨_, List.mem_map.2 ⟨0, List.mem_range.2 positive, rfl⟩, outer⟩
  · refine ⟨_, List.mem_map.2 ⟨i + 1, List.mem_range.2 (by omega), rfl⟩, ?_⟩
    rw [same]
    rfl
  · cases same

end Wiring

theorem Plan.wire_opened {plan : Plan} {w : World} {wiring : Wiring}
    (wired : (plan.wire w).wiring = .ok wiring) (own : w.input.below w.pipes.size) :
    ∃ input output,
      wiring.stages = (List.range plan.stages.length).map
        (Wiring.streamsAt w.pipes.size plan.stages.length input output) ∧
      (plan.stages ≠ [] → ∃ opened created, openEnd w.openFile w plan.input = .ok (input, opened) ∧
        openEnd opened.createFile opened plan.output = .ok (output, created)) ∧
      wiring.opened = input.toList ++ output.toList ++
        Wiring.pipeEnds w.pipes.size (plan.stages.length - 1) ∧
      wiring.opened.Nodup ∧ wiring.opened.Perm (wiring.stages.flatMap Streams.ends) ∧
      (∀ id, .reader id ∉ output) := by
  by_cases empty : plan.stages = []
  · have bare : plan.wire w = ⟨.ok ⟨[], [], 0⟩, none, w⟩ := by simp [wire, empty]
    rw [bare] at wired
    cases wired
    exact ⟨none, none, by simp [empty], by simp [empty], by simp [empty, Wiring.pipeEnds],
      .nil, .nil, by simp⟩
  · obtain ⟨input, output, inputBelow, outputBelow, streams, -, -, opens⟩ := wire_spec wired own
    obtain ⟨opened, created, first, second⟩ := opens empty
    obtain ⟨apart, writes⟩ := openEnd_apart first second
    obtain ⟨alike, -⟩ := openEnd_spec (fun _ _ _ => World.openFile_spec) first
    obtain ⟨alike', -⟩ := openEnd_spec (fun _ _ _ => World.createFile_spec) second
    have ends : wiring.opened = input.toList ++ output.toList ++
        Wiring.pipeEnds w.pipes.size (plan.stages.length - 1) := by
      have base := congrArg Array.size (alike.trans alike').pipes
      rw [wire_of_opens empty first second] at wired
      cases wired
      dsimp only
      rw [base]
    obtain ⟨count, length⟩ : ∃ count, plan.stages.length = count + 1 :=
      Nat.exists_eq_succ_of_ne_zero fun zero => empty (List.eq_nil_of_length_eq_zero zero)
    refine ⟨input, output, streams, fun _ => ⟨opened, created, first, second⟩, ends, ?_, ?_, writes⟩
    · rw [ends]
      refine .append (.append ?_ ?_ ?_) (Wiring.nodup_pipeEnds _ _) ?_
      · cases input <;> simp
      · cases output <;> simp
      · intro e member same
        exact apart e (Option.mem_toList.1 member) (Option.mem_toList.1 same)
      · intro e member
        rw [List.mem_append, Option.mem_toList, Option.mem_toList] at member
        exact Wiring.not_mem_pipeEnds (member.elim (inputBelow e) (outputBelow e))
    · rw [ends, streams, length]
      exact (Wiring.ends_perm _ _ _ _).symm

/-! ## The course of a line -/

def entries (opened : List End) (l : List (Stage × Streams)) (starts waits : List Event) :
    List Event :=
  opened.map .opened ++ starts ++ (deferred l).flatMap turn ++ waits

structure Course (opened : List End) (l : List (Stage × Streams)) (starts waits : List Event) :
    Prop where
  balance : (released starts ++ outputs (deferred l)).Perm opened
  starts : ∀ e ∈ starts, e.IsStart
  waits : ∀ e ∈ waits, e.IsWait

namespace Course
variable {opened : List End} {l : List (Stage × Streams)} {starts waits before after : List Event}

theorem gained_turns (l : List (Stage × Streams)) : gained (l.flatMap turn) = [] := by
  refine List.flatMap_eq_nil_iff.2 fun e member => ?_
  obtain ⟨p, -, member⟩ := List.mem_flatMap.1 member
  rw [turn, List.mem_cons, List.mem_map] at member
  rcases member with rfl | ⟨_, -, rfl⟩ <;> rfl

theorem released_turns (l : List (Stage × Streams)) : released (l.flatMap turn) = outputs l := by
  induction l with
  | nil => rfl
  | cons p l ih =>
    rw [List.flatMap_cons, released_append, ih]
    cases output : p.2.output <;> simp [outputs, turn, output, released, Event.released]

theorem moved_waits (only : ∀ e ∈ waits, e.IsWait) : gained waits = [] ∧ released waits = [] := by
  constructor <;>
  · refine List.flatMap_eq_nil_iff.2 fun e member => ?_
    cases only e member
    rfl

variable (course : Course opened l starts waits)
include course

theorem gained_starts : gained starts = [] := by
  refine List.flatMap_eq_nil_iff.2 fun e member => ?_
  cases course.starts e member <;> rfl

theorem commands_starts : commands starts = [] := by
  refine List.flatMap_eq_nil_iff.2 fun e member => ?_
  cases course.starts e member <;> rfl

theorem gained_eq : gained (entries opened l starts waits) = opened := by
  simp [entries, course.gained_starts, (moved_waits course.waits).1, gained_turns]

theorem released_perm : (released (entries opened l starts waits)).Perm opened := by
  rw [entries, released_append, released_append, released_append, released_opened, released_turns,
    (moved_waits course.waits).2, List.nil_append, List.append_nil]
  exact course.balance

theorem sane {p : List Event} (early : p <+: entries opened l starts waits) :
    (released p).Subperm (gained p) := by
  have balance := course.released_perm
  rw [entries, List.append_assoc, List.append_assoc] at early balance
  rcases List.prefix_or_prefix_of_prefix early (List.prefix_append _ _) with within | ⟨q, rfl⟩
  · have unreleased : released p = [] := by
      refine List.flatMap_eq_nil_iff.2 fun e member => ?_
      obtain ⟨x, -, rfl⟩ := List.mem_map.1 (within.subset member)
      rfl
    rw [unreleased]
    exact List.nil_subperm
  · obtain ⟨r, later⟩ := (List.prefix_append_right_inj _).1 early
    rw [← later, released_append, released_opened, List.nil_append, released_append] at balance
    rw [released_append, released_opened, List.nil_append, gained_append, gained_opened]
    have part : (released q).Sublist (released q ++ released r) := List.sublist_append_left _ _
    have taken : opened.Sublist (opened ++ gained q) := List.sublist_append_left _ _
    exact (part.subperm.trans balance.subperm).trans taken.subperm

theorem not_waited (pid : Pid) (answer : Except Fault Int) :
    .waited pid answer ∉ opened.map .opened ++ starts ++ (deferred l).flatMap turn := by
  intro member
  rw [List.mem_append, List.mem_append] at member
  rcases member with (taken | begun) | turned
  · simp at taken
  · cases course.starts _ begun
  · simp [turn] at turned

theorem held_wait {pid : Pid} {answer : Except Fault Int}
    (split : entries opened l starts waits = before ++ .waited pid answer :: after) :
    held before = [] := by
  obtain ⟨middle, rfl, later⟩ := split_of_not_mem (course.not_waited pid answer) split
  -- what stands between the turns and this wait are waits as well
  have others : ∀ e ∈ middle, e.IsWait := fun e member =>
    course.waits e (later ▸ List.mem_append_left _ member)
  obtain ⟨still, calm⟩ := moved_waits others
  obtain ⟨untaken, quiet⟩ := moved_waits course.waits
  have balance := course.released_perm
  have taken := course.gained_eq
  rw [entries, released_append, quiet, List.append_nil] at balance
  rw [entries, gained_append, untaken, List.append_nil] at taken
  apply List.Perm.eq_nil
  apply held_perm
  rw [gained_append, released_append, calm, still, taken]
  simpa using balance.symm

theorem held_command {stage : Stage}
    (split : entries opened l starts waits = before ++ .builtin stage :: after) :
    (deferred l)[(commands before).length]?.map Prod.fst = some stage ∧
      (held before).Perm (outputs ((deferred l).drop (commands before).length)) ∧
      gained before = opened ∧ released starts ⊆ released before := by
  have other : .builtin stage ∉ opened.map .opened ++ starts := by
    intro member
    rcases List.mem_append.1 member with taken | begun
    · simp at taken
    · cases course.starts _ begun
  have unlike : .builtin stage ∉ waits := by
    intro member
    cases course.waits _ member
  rw [entries, List.append_assoc] at split
  obtain ⟨middle, rfl, later⟩ := split_of_not_mem other split
  obtain ⟨there, still, gone⟩ := turns_split unlike later
  have count : commands (opened.map .opened ++ starts ++ middle) = commands middle := by
    rw [commands_append, commands_append, course.commands_starts, List.append_nil,
      commands_opened, List.nil_append]
  have released_eq : released (opened.map .opened ++ starts ++ middle) =
      released starts ++ outputs ((deferred l).take (commands middle).length) := by
    rw [released_append, released_append, released_opened, gone, List.nil_append]
  have gained_eq : gained (opened.map .opened ++ starts ++ middle) = opened := by
    rw [gained_append, gained_append, gained_opened, course.gained_starts, still, List.append_nil,
      List.append_nil]
  rw [count]
  refine ⟨there, held_perm ?_, gained_eq, ?_⟩
  · rw [gained_eq, released_eq, List.append_assoc, outputs, outputs, ← List.flatMap_append,
      List.take_append_drop]
    exact course.balance.symm
  · rw [released_eq]
    exact List.subset_append_left _ _

end Course

/-! ## Whole lines -/

/-- Ends pass from the shell one by one, and whenever it waits, and in the end, it has none. -/
structure Balanced (es : List Event) : Prop where
  distinct : (gained es).Nodup
  once : (released es).Perm (gained es)
  sane : ∀ p, p <+: es → (released p).Subperm (gained p)
  waits : ∀ before pid answer after, es = before ++ .waited pid answer :: after → held before = []
  settled : held es = []

theorem Course.balanced {opened : List End} {l : List (Stage × Streams)}
    {starts waits es : List Event} (course : Course opened l starts waits) (distinct : opened.Nodup)
    (moves : es.filter Event.isMove = entries opened l starts waits) : Balanced es := by
  have taken : gained es = opened := by
    rw [← gained_moves, moves, course.gained_eq]
  have balance : (released es).Perm (gained es) := by
    rw [taken, ← released_moves, moves]
    exact course.released_perm
  refine ⟨taken ▸ distinct, balance, ?_, ?_, ?_⟩
  · intro p early
    rw [← released_moves, ← gained_moves]
    exact course.sane (moves ▸ early.filter _)
  · intro before pid answer after split
    rw [← held_moves]
    exact course.held_wait (moves ▸ filter_split Event.isMove rfl split)
  · apply List.Perm.eq_nil
    apply held_perm
    simpa using balance.symm

/-- Of the ends that a plan opens in a world the shell has at no time more than it needs. -/
structure Plan.Custody (plan : Plan) (w : World) (es : List Event) : Prop extends Balanced es where
  refused : ∀ fault, (plan.wire w).wiring = .error fault →
    gained es = ((openEnd w.openFile w plan.input).toOption.bind Prod.fst).toList
  wired : ∀ wiring, (plan.wire w).wiring = .ok wiring → ∃ input output,
    wiring.stages = (List.range plan.stages.length).map
      (Wiring.streamsAt w.pipes.size plan.stages.length input output) ∧
    (plan.stages ≠ [] → ∃ opened created, openEnd w.openFile w plan.input = .ok (input, opened) ∧
      openEnd opened.createFile opened plan.output = .ok (output, created)) ∧
    gained es = input.toList ++ output.toList ++
      Wiring.pipeEnds w.pipes.size (plan.stages.length - 1) ∧
    (Wiring.pipeEnds w.pipes.size (plan.stages.length - 1)).length = 2 * (plan.stages.length - 1)
  turns : ∀ wiring, (plan.wire w).wiring = .ok wiring →
    ∀ before stage after, es = before ++ .builtin stage :: after →
      let waiting := (deferred (plan.stages.zip wiring.stages)).drop (commands before).length
      waiting.head?.map Prod.fst = some stage ∧ (held before).Perm (outputs waiting) ∧
        (∀ id, .reader id ∉ held before) ∧
        ∀ st ∈ wiring.stages, ∀ e ∈ st.input, e ∉ held before

theorem Plan.closed_eq {plan : Plan} {w : World} {fault : Fault}
    (refused : (plan.wire w).wiring = .error fault) :
    (plan.wire w).closed = (openEnd w.openFile w plan.input).toOption.bind Prod.fst := by
  unfold wire at refused ⊢
  split
  · rename_i empty
    rw [if_pos empty] at refused
    cases refused
  · rename_i staged
    rw [if_neg staged] at refused
    cases first : openEnd w.openFile w plan.input with
    | error cause => rfl
    | ok opening =>
      obtain ⟨input, opened⟩ := opening
      simp only [first] at refused ⊢
      cases second : openEnd opened.createFile opened plan.output with
      | error cause => rfl
      | ok creating =>
        rw [second] at refused
        cases refused

namespace Plan.Custody
variable {plan : Plan} {w : World} {es : List Event}

theorem of_error {fault : Fault} (refused : (plan.wire w).wiring = .error fault) :
    plan.Custody w ((plan.wire w).closed.toList.flatMap fun e => [.opened e, .closed e]) := by
  have closed := closed_eq refused
  generalize (plan.wire w).closed = e at closed ⊢
  have never : ∀ wiring, (plan.wire w).wiring ≠ .ok wiring := by
    intro wiring wired
    rw [refused] at wired
    cases wired
  have course : Course e.toList [] (e.toList.map .closed) [] := by
    refine ⟨?_, ?_, by simp⟩
    · rw [released_closed]
      exact .of_eq (List.append_nil _)
    · intro x member
      obtain ⟨y, -, rfl⟩ := List.mem_map.1 member
      exact .closed y
  refine ⟨course.balanced ?_ ?_, ?_, ?_, ?_⟩
  · cases e <;> simp
  · cases e <;> rfl
  · intro _ _
    rw [← closed]
    cases e <;> rfl
  · exact fun wiring wired => absurd wired (never wiring)
  · exact fun wiring wired => absurd wired (never wiring)

theorem of_course {wiring : Wiring} {starts waits : List Event}
    (wired : (plan.wire w).wiring = .ok wiring) (own : w.input.below w.pipes.size)
    (course : Course wiring.opened (plan.stages.zip wiring.stages) starts waits)
    (gone : released starts = (plan.stages.zip wiring.stages).flatMap letGo)
    (moves : es.filter Event.isMove =
      entries wiring.opened (plan.stages.zip wiring.stages) starts waits) :
    plan.Custody w es := by
  obtain ⟨input, output, streams, opens, ends, distinct, -, writes⟩ := wire_opened wired own
  have same : ∀ wiring', (plan.wire w).wiring = .ok wiring' → wiring' = wiring := by
    intro wiring' wired'
    exact Except.ok.inj (wired'.symm.trans wired)
  refine ⟨course.balanced distinct moves, ?_, ?_, ?_⟩
  · intro fault refused
    rw [refused] at wired
    cases wired
  · intro wiring' wired'
    obtain rfl := same wiring' wired'
    refine ⟨input, output, streams, opens, ?_, Wiring.length_pipeEnds _ _⟩
    rw [← ends, ← gained_moves, moves, course.gained_eq]
  · intro wiring' wired' before stage after split
    obtain rfl := same wiring' wired'
    obtain ⟨there, perm, earlier, inputs⟩ :=
      course.held_command (moves ▸ filter_split Event.isMove rfl split)
    rw [commands_moves] at there perm
    rw [held_moves] at perm
    rw [gained_moves] at earlier
    rw [released_moves, gone] at inputs
    have mem_held {e : End} := mem_held (e := e) (earlier ▸ distinct)
    have away : ∀ st ∈ wiring'.stages, ∀ e ∈ st.input, e ∉ held before := by
      intro st member e input
      rw [← List.map_snd_zip (Session.length_of_wire wired').le, List.mem_map] at member
      obtain ⟨p, member, rfl⟩ := member
      rw [mem_held]
      exact fun both => both.2 (inputs (List.mem_flatMap.2 ⟨p, member, mem_letGo input⟩))
    refine ⟨?_, perm, ?_, away⟩
    · rwa [List.head?_drop]
    · intro id member
      have positive : 0 < plan.stages.length := by
        by_contra zero
        have empty : plan.stages = [] := List.eq_nil_of_length_eq_zero (Nat.eq_zero_of_not_pos zero)
        simp [empty, deferred] at there
      have opened := (mem_held.1 member).1
      rw [earlier, ends, List.append_assoc, List.mem_append, List.mem_append] at opened
      have other : .reader id ∈ input.toList ++ Wiring.pipeEnds w.pipes.size
          (plan.stages.length - 1) := by
        rcases opened with first | second | pipe
        · exact List.mem_append_left _ first
        · exact absurd (Option.mem_toList.1 second) (writes id)
        · exact List.mem_append_right _ pipe
      obtain ⟨st, here, input⟩ := Wiring.exists_input output positive other
      exact away st (streams ▸ here) _ input member

end Plan.Custody

namespace Session
variable {σ : Type} {plan : Plan} {wiring : Wiring} {s : Session σ}

theorem launch_books (host : Host σ) (plan : Plan) (wiring : Wiring) (s : Session σ) :
    let b := s.begun host plan wiring
    ∃ starts, released starts = (plan.stages.zip wiring.stages).flatMap letGo ∧
      (∀ e ∈ starts, e.IsStart) ∧
      Moves s (runDeferred host b.1 b.2).2 (wiring.opened.map .opened ++ starts ++
        (deferred (plan.stages.zip wiring.stages)).flatMap turn) := by
  have ready : Moves s (s.ready plan wiring) (wiring.opened.map .opened) := by
    have opened : Moves s ({ s with world := (plan.wire s.world).world }.record
        (wiring.opened.map .opened)) (wiring.opened.map .opened) :=
      ⟨_, rfl, List.filter_eq_self.2 (by simp [Event.isMove])⟩
    exact (opened.before (.note _ _)).before (.note _ _)
  obtain ⟨starts, begins, gone, kinds, turns⟩ := beginAll_books host
    (s.ready plan wiring).searchPath (plan.stages.zip wiring.stages) (s.ready plan wiring)
  have runs := runDeferred_books host (s.begun host plan wiring).1 (s.begun host plan wiring).2
  rw [begun, turns] at runs
  exact ⟨starts, gone, kinds, (ready.trans begins).trans runs⟩

/-- Every end that a line opens is let go once, none is kept while somebody waits for it, and when the
line is waited for, or becomes a job, or is over in any way, the shell has none. -/
theorem runPlan_custody (host : Host σ) (plan : Plan) (s : Session σ)
    (own : s.world.input.below s.world.pipes.size) :
    ∃ es, (s.runPlan host plan).2.events = s.events ++ es ∧ plan.Custody s.world es ∧
      ∀ wiring, (plan.wire s.world).wiring = .ok wiring →
        ∃ before failures results, ∃ s₁ : Session σ,
          s.runPlan host plan = s₁.conclude host plan failures results ∧ s₁.jobs = s.jobs ∧
          s₁.events = s.events ++ before ∧ before <+: es ∧ held before = [] ∧
          ∀ pid answer, .waited pid answer ∉ before := by
  cases wired : (plan.wire s.world).wiring with
  | error fault =>
    refine ⟨_, ?_, .of_error wired, by simp⟩
    simp only [runPlan, wired]
    rfl
  | ok wiring =>
    obtain ⟨-, -, -, -, -, distinct, ends, -⟩ := Plan.wire_opened wired own
    obtain ⟨starts, gone, kinds, launched⟩ := launch_books host plan wiring s
    have plans : s.runPlan host plan = _ := runPlan_wired wired
    have kept : (s.begun host plan wiring).2.jobs = s.jobs :=
      (beginAll_spec host _ _ (s.ready plan wiring)).1
    rcases begins : s.begun host plan wiring with ⟨begun, s₁⟩
    rcases runs : runDeferred host begun s₁ with ⟨results, s₂⟩
    have jobs := (runDeferred_spec host begun s₁).1
    simp only [begins, runs] at launched plans kept jobs
    obtain ⟨before, said, early⟩ := launched.before (.note s₂ (.phase .launching .running))
    obtain ⟨waits, ⟨later, more, waited⟩, only⟩ := conclude_books host plan
      (begun.filterMap Begun.fault? ++ results.failures) results
      (s₂.note (.phase .launching .running))
    have balance : (released starts ++ outputs (deferred (plan.stages.zip wiring.stages))).Perm
        wiring.opened := by
      rw [gone]
      refine (letGo_perm _).trans (.trans (.of_eq ?_) ends.symm)
      rw [← List.flatMap_map, List.map_snd_zip (length_of_wire wired).le]
    have course : ∀ waits, (∀ e ∈ waits, e.IsWait) →
        Course wiring.opened (plan.stages.zip wiring.stages) starts waits :=
      fun _ only => ⟨balance, kinds, only⟩
    refine ⟨before ++ later, ?_, .of_course wired own (course waits only) gone ?_, ?_⟩
    · rw [plans, more, said, List.append_assoc]
    · rw [List.filter_append, early, waited, entries]
    · intro _ _
      refine ⟨before, _, results, _, plans, jobs.trans kept, said, List.prefix_append _ _, ?_, ?_⟩
      · exact ((course [] (by simp)).balanced distinct (by simp [entries, early])).settled
      · intro pid answer member
        refine (course [] (by simp)).not_waited pid answer ?_
        rw [← early]
        exact List.mem_filter.2 ⟨member, rfl⟩

def betweenCommands : Plan where
  stages := [⟨.builtin .echo, ["echo", "hi"]⟩, ⟨.program, ["cat"]⟩, ⟨.builtin .set, ["set"]⟩]
  output := some "out"

def written : World :=
  { files := { nodes := #[.folder 0o755 0 [("out", 1)], .file 0o644 []], changes := [(1, 0), (0, 0)] }
    opened := #[{ node := 1, access := .writing }] }

theorem createFile_out : World.createFile {} "out" = .ok (.file 0, written) := by
  have checked : FileTree.checkPath "out" = .ok () := by decide +kernel
  have names : Path.names "out" = ["out"] := by decide +kernel
  have located : FileTree.locateNewWithin {} 41 40 0 "out" = .ok (.free 0 "out") :=
    FileTree.locateNewWithin_of_missing (by decide +kernel) names (by decide +kernel) rfl rfl
      ⟨by decide, by decide, by decide, by decide⟩ rfl
  have made : FileTree.make {} 0 "out" = FileTree.add {} 0 "out" (.file 0o644 []) :=
    FileTree.make_of_free checked located
  rw [World.createFile]
  change (FileTree.make {} 0 "out").bind _ = _
  rw [made]
  rfl

theorem runPlan_custody_betweenCommands :
    ({} : World).input.below ({} : World).pipes.size ∧
    ∃ es, (({ host := {} } : Session ScriptedHost).runPlan ScriptedHost.host
        betweenCommands).2.events = es ∧
      betweenCommands.Custody {} es ∧
      gained es = [.file 0, .reader 1, .writer 1, .reader 2, .writer 2] ∧
      released es = [.reader 1, .writer 2, .reader 2, .writer 1, .file 0] := by
  have own : ({} : World).input.below ({} : World).pipes.size := Nat.zero_lt_one
  obtain ⟨es, events, custody, -⟩ :=
    runPlan_custody ScriptedHost.host betweenCommands { host := {} } own
  rw [List.nil_append] at events
  have second : Plan.openEnd (World.createFile {}) {} betweenCommands.output =
      .ok (some (.file 0), written) := by
    simp only [betweenCommands, Plan.openEnd, createFile_out]
  have wired : betweenCommands.wire ({ host := {} } : Session ScriptedHost).world = _ :=
    Plan.wire_of_opens (by simp [betweenCommands]) rfl second
  have ends : gained es = [.file 0, .reader 1, .writer 1, .reader 2, .writer 2] ∧
      released es = [.reader 1, .writer 2, .reader 2, .writer 1, .file 0] := by
    rw [← events, runPlan, wired]
    decide +kernel
  exact ⟨own, es, events, custody, ends⟩

end Session
end PipeShell
