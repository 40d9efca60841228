import Mathlib.Logic.Function.Basic
import PipeShell.Proofs.Conduct
import PipeShell.Wiring

/-!
# The places of a line

Where the stages of a line stand while it is launched, and what that says of its pipes. Each pipe has
the stage before it as its only writer and the stage behind it as its only reader: the ends that a
stage was given are with the shell, with one process, or closed (`Flow`). Whatever processes do keeps
it that way (`Flow.conducts`).
-/

namespace PipeShell

/-! ## Frames -/

/-- The pipes of a line and its two outer ends. The pipes are newer than all ends around them. -/
structure Frame where
  start : Nat
  first : Nat
  base : Nat
  count : Nat
  input : Option End
  output : Option End
  own : End
  input_below : ∀ e ∈ input, e.below base
  output_below : ∀ e ∈ output, e.below base
  own_below : own.below base

namespace Frame
variable (f : Frame)

def streams (i : Nat) : Streams := Wiring.streamsAt f.base f.count f.input f.output i

def line (d : Diary) : Diary := d.drop f.start

def writer (i : Nat) : End := .writer (f.base + i)

def reader (i : Nat) : End := .reader (f.base + i)

variable {f} {i j : Nat}

theorem output_eq_iff (inner : i + 1 < f.count) :
    (f.streams j).output = some (f.writer i) ↔ j = i := by
  simp only [streams, Wiring.streamsAt, writer]
  split
  · constructor
    · intro same
      have := f.output_below _ (Option.mem_def.2 same)
      simp only [End.below] at this
      omega
    · omega
  · simp

theorem input_eq_iff : (f.streams j).input = some (f.reader i) ↔ j = i + 1 := by
  simp only [streams, Wiring.streamsAt, reader]
  split
  · constructor
    · intro same
      have := f.input_below _ (Option.mem_def.2 same)
      simp only [End.below] at this
      omega
    · omega
  · simp
    omega

theorem output_ne_reader : (f.streams j).output ≠ some (f.reader i) := by
  simp only [streams, Wiring.streamsAt, reader]
  split
  · intro same
    have := f.output_below _ (Option.mem_def.2 same)
    simp only [End.below] at this
    omega
  · simp

theorem input_ne_writer : (f.streams j).input ≠ some (f.writer i) := by
  simp only [streams, Wiring.streamsAt, writer]
  split
  · intro same
    have := f.input_below _ (Option.mem_def.2 same)
    simp only [End.below] at this
    omega
  · simp

theorem own_ne (i : Nat) : f.own ≠ f.reader i := by
  intro same
  have := f.own_below
  simp only [same, reader, End.below] at this
  omega

theorem source_eq_iff : (f.streams j).input.getD f.own = f.reader i ↔ j = i + 1 := by
  rw [← input_eq_iff]
  cases (f.streams j).input with
  | none => simp [own_ne i]
  | some e => simp

theorem below_ne_writer {streams : Streams} (below : streams.below f.base) (i : Nat) :
    streams.output ≠ some (f.writer i) ∧ streams.input ≠ some (f.writer i) := by
  refine ⟨fun same => ?_, fun same => ?_⟩
  · have := below.2 _ (Option.mem_def.2 same)
    simp only [writer, End.below] at this
    omega
  · have := below.1 _ (Option.mem_def.2 same)
    simp only [writer, End.below] at this
    omega

theorem below_ne_reader {streams : Streams} (below : streams.below f.base) (i : Nat) :
    streams.output ≠ some (f.reader i) ∧ streams.input.getD f.own ≠ f.reader i := by
  refine ⟨fun same => ?_, fun same => ?_⟩
  · have := below.2 _ (Option.mem_def.2 same)
    simp only [reader, End.below] at this
    omega
  · cases input : streams.input with
    | none =>
      rw [input] at same
      exact own_ne i same
    | some e =>
      rw [input] at same
      have := below.1 e (Option.mem_def.2 input)
      rw [show e = f.reader i from same] at this
      simp only [reader, End.below] at this
      omega

theorem line_append {d : Diary} (begun : f.start ≤ d.length) (e : Diary) :
    f.line (d ++ e) = f.line d ++ e := by
  rw [line, line, List.drop_append_of_le_length begun]

end Frame

/-! ## Places -/

inductive Standing where
  | waiting
  | process (number : Nat)
  | failed
  | deferred
  | speaking
  | done
deriving DecidableEq

namespace Standing

def writes (line : Diary) : Standing → Bool
  | waiting | deferred | speaking => true
  | process k => .closedOutput k ∉ line
  | failed | done => false

def reads (line : Diary) : Standing → Bool
  | waiting => true
  | process k => .closedInput k ∉ line
  | _ => false

def spoken (p : Standing) : Prop := p = speaking ∨ p = done

end Standing

structure Numbered (f : Frame) (place : Nat → Standing) (processes : List Streams) : Prop where
  old : ∀ (k : Nat) (st : Streams), k < f.first → processes[k]? = some st → st.below f.base
  known : f.first ≤ processes.length
  own : ∀ i k, place i = .process k → i < f.count ∧ f.first ≤ k ∧ processes[k]? = some (f.streams i)
  onto : ∀ k, f.first ≤ k → k < processes.length → ∃ i, place i = .process k
  inj : ∀ i j k, place i = .process k → place j = .process k → i = j

/-- Every deed was done through the streams of the one who did it, and the shell writes for a built-in
command when that has got the word. -/
structure Signed (f : Frame) (place : Nat → Standing) (d : Diary) : Prop where
  begun : f.start ≤ d.length
  wrote : ∀ k t b, .wrote (some k) t b ∈ f.line d → ∃ st, d.streams[k]? = some st ∧ t = st.output
  read : ∀ k e b, .read k e b ∈ f.line d →
    ∃ st, d.streams[k]? = some st ∧ e = st.input.getD f.own
  spoke : ∀ deed ∈ f.line d, ∀ t, deed.attempt? = some t →
    ∃ i < f.count, (place i).spoken ∧ t = (f.streams i).output

/-- The pipes hold what was written and not yet read, and their ends are open where the stages beside
them hold these. -/
structure Piped (f : Frame) (place : Nat → Standing) (d : Diary) (w : World) : Prop where
  size : f.base + (f.count - 1) ≤ w.pipes.size
  input : w.input = f.own
  fifo : ∀ i, i + 1 < f.count → (f.line d).flatMap (Deed.bytesTo (some (f.writer i))) =
    (f.line d).flatMap (Deed.bytesFrom (f.reader i)) ++ (w.pipe (f.base + i)).buffer
  writer : ∀ i, i + 1 < f.count →
    (w.pipe (f.base + i)).hasWriter = (place i).writes (f.line d)
  reader : ∀ i, i + 1 < f.count →
    (w.pipe (f.base + i)).hasReader = (place (i + 1)).reads (f.line d)

structure Heard (f : Frame) (place : Nat → Standing) (line : Diary) : Prop where
  taken : ∀ i, i + 1 < f.count → ∀ before b,
    before ++ [.wrote none (some (f.writer i)) b] <+: line →
      ∃ k, place (i + 1) = .process k ∧ .closedInput k ∉ before
  refused : ∀ i, i + 1 < f.count → ∀ before b c,
    before ++ [.refused (some (f.writer i)) b c] <+: line →
      c = .brokenPipe ∧ ∀ k, place (i + 1) = .process k → .closedInput k ∈ before

structure Flow (f : Frame) (place : Nat → Standing) (d : Diary) (w : World) : Prop where
  sound : d.Sound w
  numbered : Numbered f place d.streams
  signed : Signed f place d
  piped : Piped f place d w
  heard : Heard f place (f.line d)

/-! ## Deeds of processes -/

theorem Diary.streams_deed (d : Diary) {deed : Deed} (other : deed.started? = none) :
    Diary.streams (d ++ [deed]) = d.streams := by
  simp [Diary.streams, other]

namespace Standing

theorem writes_deed (p : Standing) (line : Diary) {deed : Deed} (other : ∀ k, deed ≠ .closedOutput k) :
    p.writes (line ++ [deed]) = p.writes line := by
  cases p <;> simp [writes, (other _).symm]

theorem reads_deed (p : Standing) (line : Diary) {deed : Deed} (other : ∀ k, deed ≠ .closedInput k) :
    p.reads (line ++ [deed]) = p.reads line := by
  cases p <;> simp [reads, (other _).symm]

theorem writes_closed (p : Standing) (line : Diary) (k : Nat) :
    p.writes (line ++ [.closedOutput k]) = (p.writes line && p ≠ .process k) := by
  cases p <;> simp [writes]

theorem reads_closed (p : Standing) (line : Diary) (k : Nat) :
    p.reads (line ++ [.closedInput k]) = (p.reads line && p ≠ .process k) := by
  cases p <;> simp [reads]

end Standing

namespace Diary.Sound
variable {d d' : Diary} {w w' : World}

theorem deed (sound : d.Sound w) {deed : Deed} (streams : deed.started? = none)
    (closed : ∀ k, deed = .closedInput k ∨ deed = .closedOutput k → k < d.streams.length)
    (size : w'.pipes.size = w.pipes.size) (input : w'.input = w.input) :
    Diary.Sound (d ++ [deed]) w' := by
  have same := d.streams_deed streams
  refine ⟨?_, ?_, ?_⟩
  · rw [same, size]
    exact sound.ends
  · rw [input, size]
    exact sound.own
  · intro k member
    rw [same]
    simp only [List.mem_append, List.mem_singleton] at member
    rcases member with (old | new) | (old | new)
    · exact sound.closed k (.inl old)
    · exact closed k (.inl new.symm)
    · exact sound.closed k (.inr old)
    · exact closed k (.inr new.symm)

theorem alike (sound : d.Sound w) (alike : World.Alike w w') : d.Sound w' := by
  refine ⟨?_, ?_, sound.closed⟩
  · rw [alike.pipes]
    exact sound.ends
  · rw [alike.pipes, alike.input]
    exact sound.own

theorem acts (sound : d.Sound w) (acts : Acts d w d' w') : d'.Sound w' := by
  have known : ∀ {k : Nat} {st : Streams}, d.streams[k]? = some st → k < d.streams.length :=
    fun own => (List.getElem?_eq_some_iff.1 own).1
  cases acts with
  | wrote own held taken =>
    obtain ⟨size, input, -⟩ := World.write_ok taken
    exact sound.deed rfl (by simp) size input
  | read own held got =>
    obtain ⟨size, input, -⟩ := World.read_ok got
    exact sound.deed rfl (by simp) size input
  | closedInput own held =>
    obtain ⟨size, input, -⟩ := World.close?_spec w _
    exact sound.deed rfl (by rintro k (⟨⟨⟩⟩ | ⟨⟨⟩⟩); exact known own) size input
  | closedOutput own held =>
    obtain ⟨size, input, -⟩ := World.close?_spec w _
    exact sound.deed rfl (by rintro k (⟨⟨⟩⟩ | ⟨⟨⟩⟩); exact known own) size input
  | aside pipes input output => exact sound.alike ⟨pipes, input⟩

end Diary.Sound

namespace Signed
variable {f : Frame} {place : Nat → Standing} {d : Diary}

theorem deed (signed : Signed f place d) {deed : Deed} (streams : deed.started? = none)
    (wrote : ∀ k t b, deed = .wrote (some k) t b → ∃ st, d.streams[k]? = some st ∧ t = st.output)
    (read : ∀ k e b, deed = .read k e b →
      ∃ st, d.streams[k]? = some st ∧ e = st.input.getD f.own)
    (spoke : ∀ t, deed.attempt? = some t →
      ∃ i < f.count, (place i).spoken ∧ t = (f.streams i).output) :
    Signed f place (d ++ [deed]) := by
  have same := d.streams_deed streams
  refine ⟨by simpa using Nat.le_succ_of_le signed.begun, ?_, ?_, ?_⟩
  · intro k t b member
    rw [f.line_append signed.begun, List.mem_append, List.mem_singleton] at member
    rw [same]
    exact member.elim (signed.wrote k t b) fun new => wrote k t b new.symm
  · intro k e b member
    rw [f.line_append signed.begun, List.mem_append, List.mem_singleton] at member
    rw [same]
    exact member.elim (signed.read k e b) fun new => read k e b new.symm
  · intro other member t attempt
    rw [f.line_append signed.begun, List.mem_append, List.mem_singleton] at member
    rcases member with old | rfl
    · exact signed.spoke other old t attempt
    · exact spoke t attempt

end Signed

namespace Piped
variable {f : Frame} {place place' : Nat → Standing} {d : Diary} {w w' : World}

theorem deed (piped : Piped f place d w) (begun : f.start ≤ d.length) {deed : Deed}
    (size : w'.pipes.size = w.pipes.size) (input : w'.input = w.input)
    (bytes : ∀ i, i + 1 < f.count →
      (w.pipe (f.base + i)).buffer ++ deed.bytesTo (some (f.writer i)) =
        deed.bytesFrom (f.reader i) ++ (w'.pipe (f.base + i)).buffer)
    (writer : ∀ i, i + 1 < f.count →
      (w'.pipe (f.base + i)).hasWriter = (place' i).writes (f.line d ++ [deed]))
    (reader : ∀ i, i + 1 < f.count →
      (w'.pipe (f.base + i)).hasReader = (place' (i + 1)).reads (f.line d ++ [deed])) :
    Piped f place' (d ++ [deed]) w' := by
  refine ⟨size ▸ piped.size, input.trans piped.input, fun i inner => ?_, ?_, ?_⟩
  · rw [f.line_append begun, List.flatMap_append, List.flatMap_append, piped.fifo i inner,
      List.append_assoc, List.flatMap_singleton, bytes i inner, List.flatMap_singleton,
      List.append_assoc]
  · rw [f.line_append begun]
    exact writer
  · rw [f.line_append begun]
    exact reader

theorem inside (piped : Piped f place d w) {i : Nat} (inner : i + 1 < f.count) :
    f.base + i < w.pipes.size := by
  have := piped.size
  omega

theorem alike (piped : Piped f place d w) (alike : World.Alike w w') : Piped f place d w' := by
  refine ⟨alike.pipes ▸ piped.size, alike.input.trans piped.input, ?_, ?_, ?_⟩
  · simpa only [alike.pipe] using piped.fifo
  · simpa only [alike.pipe] using piped.writer
  · simpa only [alike.pipe] using piped.reader

theorem close? (piped : Piped f place d w) (e : Option End)
    (writer : ∀ i, i + 1 < f.count → (place' i).writes (f.line d) =
      ((place i).writes (f.line d) && e ≠ some (f.writer i)))
    (reader : ∀ i, i + 1 < f.count → (place' (i + 1)).reads (f.line d) =
      ((place (i + 1)).reads (f.line d) && e ≠ some (f.reader i))) :
    Piped f place' d (w.close? e) := by
  obtain ⟨size, input, pipes⟩ := World.close?_spec w e
  refine ⟨size ▸ piped.size, input.trans piped.input, ?_, ?_, ?_⟩
  · intro i inner
    rw [pipes _ (piped.inside inner)]
    exact piped.fifo i inner
  · intro i inner
    rw [pipes _ (piped.inside inner), writer i inner, ← piped.writer i inner]
    rfl
  · intro i inner
    rw [pipes _ (piped.inside inner), reader i inner, ← piped.reader i inner]
    rfl

end Piped

namespace Heard
variable {f : Frame} {place : Nat → Standing} {line : Diary}

theorem deed (heard : Heard f place line) {deed : Deed}
    (taken : ∀ i, i + 1 < f.count → ∀ b, deed = .wrote none (some (f.writer i)) b →
      ∃ k, place (i + 1) = .process k ∧ .closedInput k ∉ line)
    (refused : ∀ i, i + 1 < f.count → ∀ b c, deed = .refused (some (f.writer i)) b c →
      c = .brokenPipe ∧ ∀ k, place (i + 1) = .process k → .closedInput k ∈ line) :
    Heard f place (line ++ [deed]) := by
  refine ⟨fun i inner before b pre => ?_, fun i inner before b c pre => ?_⟩
  · rcases List.prefix_concat_iff.1 pre with same | old
    · obtain ⟨rfl, new⟩ := List.append_inj' same rfl
      exact taken i inner b (List.singleton_inj.1 new).symm
    · exact heard.taken i inner before b old
  · rcases List.prefix_concat_iff.1 pre with same | old
    · obtain ⟨rfl, new⟩ := List.append_inj' same rfl
      exact refused i inner b c (List.singleton_inj.1 new).symm
    · exact heard.refused i inner before b c old

end Heard

namespace Flow
variable {f : Frame} {place : Nat → Standing} {d d' : Diary} {w w' : World}

theorem process_cases (flow : Flow f place d w) {k : Nat} {st : Streams}
    (own : d.streams[k]? = some st) :
    (k < f.first ∧ st.below f.base) ∨ ∃ i, place i = .process k ∧ st = f.streams i := by
  by_cases old : k < f.first
  · exact .inl ⟨old, flow.numbered.old k st old own⟩
  · obtain ⟨i, here⟩ := flow.numbered.onto k (Nat.le_of_not_lt old)
      (List.getElem?_eq_some_iff.1 own).1
    obtain ⟨-, -, same⟩ := flow.numbered.own i k here
    exact .inr ⟨i, here, Option.some.inj (own.symm.trans same)⟩

theorem output_iff (flow : Flow f place d w) {k i : Nat} {st : Streams}
    (own : d.streams[k]? = some st) (inner : i + 1 < f.count) :
    st.output = some (f.writer i) ↔ place i = .process k := by
  rcases flow.process_cases own with ⟨old, below⟩ | ⟨j, here, rfl⟩
  · refine ⟨fun same => absurd same (f.below_ne_writer below i).1, fun new => ?_⟩
    have := (flow.numbered.own i k new).2.1
    omega
  · rw [f.output_eq_iff inner]
    exact ⟨fun same => same ▸ here, fun there => flow.numbered.inj j i k here there⟩

theorem source_iff (flow : Flow f place d w) {k i : Nat} {st : Streams}
    (own : d.streams[k]? = some st) :
    st.input.getD f.own = f.reader i ↔ place (i + 1) = .process k := by
  rcases flow.process_cases own with ⟨old, below⟩ | ⟨j, here, rfl⟩
  · refine ⟨fun same => absurd same (f.below_ne_reader below i).2, fun new => ?_⟩
    have := (flow.numbered.own (i + 1) k new).2.1
    omega
  · rw [f.source_eq_iff]
    exact ⟨fun same => same ▸ here, fun there => flow.numbered.inj j (i + 1) k here there⟩

theorem input_iff (flow : Flow f place d w) {k i : Nat} {st : Streams}
    (own : d.streams[k]? = some st) :
    st.input = some (f.reader i) ↔ place (i + 1) = .process k := by
  rw [← flow.source_iff own]
  cases st.input with
  | none => simp [f.own_ne i]
  | some e => simp

theorem wrote (flow : Flow f place d w) {k : Nat} {st : Streams} {bytes : Bytes}
    (own : d.streams[k]? = some st) (held : .closedOutput k ∉ d)
    (taken : w.write st.output bytes = (none, w')) :
    Flow f place (d ++ [.wrote (some k) st.output bytes]) w' := by
  obtain ⟨size, input, pipes⟩ := World.write_ok taken
  refine ⟨flow.sound.acts (.wrote own held taken), ?_, ?_, ?_, ?_⟩
  · rw [d.streams_deed rfl]
    exact flow.numbered
  · refine flow.signed.deed rfl ?_ (by simp) (by simp [Deed.attempt?])
    rintro _ _ _ ⟨⟩
    exact ⟨st, own, rfl⟩
  · refine flow.piped.deed flow.signed.begun size input (fun i inner => ?_) (fun i inner => ?_)
      fun i inner => ?_
    · rw [(pipes _ (flow.piped.inside inner)).1]
      rfl
    · rw [(pipes _ (flow.piped.inside inner)).1, Standing.writes_deed _ _ (by simp)]
      exact flow.piped.writer i inner
    · rw [(pipes _ (flow.piped.inside inner)).1, Standing.reads_deed _ _ (by simp)]
      exact flow.piped.reader i inner
  · rw [f.line_append flow.signed.begun]
    exact flow.heard.deed (by simp) (by simp)

theorem read (flow : Flow f place d w) {k most : Nat} {st : Streams} {bytes : Bytes}
    (own : d.streams[k]? = some st) (held : .closedInput k ∉ d)
    (got : w.read (st.input.getD w.input) most = (.ok bytes, w')) :
    Flow f place (d ++ [.read k (st.input.getD w.input) bytes]) w' := by
  obtain ⟨size, input, pipes⟩ := World.read_ok got
  refine ⟨flow.sound.acts (.read own held got), ?_, ?_, ?_, ?_⟩
  · rw [d.streams_deed rfl]
    exact flow.numbered
  · refine flow.signed.deed rfl (by simp) ?_ (by simp [Deed.attempt?])
    rintro _ _ _ ⟨⟩
    exact ⟨st, own, by rw [flow.piped.input]⟩
  · refine flow.piped.deed flow.signed.begun size input (fun i inner => ?_) (fun i inner => ?_)
      fun i inner => ?_
    · exact (List.append_nil _).trans (pipes _ (flow.piped.inside inner)).1
    · rw [(pipes _ (flow.piped.inside inner)).2.2, Standing.writes_deed _ _ (by simp)]
      exact flow.piped.writer i inner
    · rw [(pipes _ (flow.piped.inside inner)).2.1, Standing.reads_deed _ _ (by simp)]
      exact flow.piped.reader i inner
  · rw [f.line_append flow.signed.begun]
    exact flow.heard.deed (by simp) (by simp)

theorem closedInput (flow : Flow f place d w) {k : Nat} {st : Streams}
    (own : d.streams[k]? = some st) (held : .closedInput k ∉ d) :
    Flow f place (d ++ [.closedInput k]) (w.close? st.input) := by
  obtain ⟨size, input, pipes⟩ := World.close?_spec w st.input
  refine ⟨flow.sound.acts (.closedInput own held), ?_, ?_, ?_, ?_⟩
  · rw [d.streams_deed rfl]
    exact flow.numbered
  · exact flow.signed.deed rfl (by simp) (by simp) (by simp [Deed.attempt?])
  · refine flow.piped.deed flow.signed.begun size input (fun i inner => ?_) (fun i inner => ?_)
      fun i inner => ?_
    · rw [pipes _ (flow.piped.inside inner)]
      simp [Deed.bytesTo, Deed.bytesFrom]
    · have other : st.input ≠ some (.writer (f.base + i)) := by
        rcases flow.process_cases own with ⟨-, below⟩ | ⟨j, -, rfl⟩
        · exact (f.below_ne_writer below i).2
        · exact f.input_ne_writer
      rw [pipes _ (flow.piped.inside inner), Standing.writes_deed _ _ (by simp),
        ← flow.piped.writer i inner]
      simp [other]
    · rw [pipes _ (flow.piped.inside inner), Standing.reads_closed, ← flow.piped.reader i inner]
      simp only [ne_eq, ← flow.input_iff own]
      rfl
  · rw [f.line_append flow.signed.begun]
    exact flow.heard.deed (by simp) (by simp)

theorem closedOutput (flow : Flow f place d w) {k : Nat} {st : Streams}
    (own : d.streams[k]? = some st) (held : .closedOutput k ∉ d) :
    Flow f place (d ++ [.closedOutput k]) (w.close? st.output) := by
  obtain ⟨size, input, pipes⟩ := World.close?_spec w st.output
  refine ⟨flow.sound.acts (.closedOutput own held), ?_, ?_, ?_, ?_⟩
  · rw [d.streams_deed rfl]
    exact flow.numbered
  · exact flow.signed.deed rfl (by simp) (by simp) (by simp [Deed.attempt?])
  · refine flow.piped.deed flow.signed.begun size input (fun i inner => ?_) (fun i inner => ?_)
      fun i inner => ?_
    · rw [pipes _ (flow.piped.inside inner)]
      simp [Deed.bytesTo, Deed.bytesFrom]
    · rw [pipes _ (flow.piped.inside inner), Standing.writes_closed, ← flow.piped.writer i inner]
      simp only [ne_eq, ← flow.output_iff own inner]
      rfl
    · have other : st.output ≠ some (.reader (f.base + i)) := by
        rcases flow.process_cases own with ⟨-, below⟩ | ⟨j, -, rfl⟩
        · exact (f.below_ne_reader below i).1
        · exact f.output_ne_reader
      rw [pipes _ (flow.piped.inside inner), Standing.reads_deed _ _ (by simp),
        ← flow.piped.reader i inner]
      simp [other]
  · rw [f.line_append flow.signed.begun]
    exact flow.heard.deed (by simp) (by simp)

theorem alike (flow : Flow f place d w) (alike : World.Alike w w') : Flow f place d w' where
  sound := flow.sound.alike alike
  numbered := flow.numbered
  signed := flow.signed
  piped := flow.piped.alike alike
  heard := flow.heard

theorem acts (flow : Flow f place d w) (acts : Acts d w d' w') : Flow f place d' w' := by
  cases acts with
  | wrote own held taken => exact flow.wrote own held taken
  | read own held got => exact flow.read own held got
  | closedInput own held => exact flow.closedInput own held
  | closedOutput own held => exact flow.closedOutput own held
  | aside pipes input => exact flow.alike ⟨pipes, input⟩

theorem conducts (flow : Flow f place d w) (conduct : Conducts d w d' w') :
    Flow f place d' w' := by
  induction conduct with
  | refl => exact flow
  | step first _ ih => exact ih (flow.acts first)

end Flow
end PipeShell
