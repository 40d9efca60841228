import Mathlib.Data.List.Infix
import PipeShell.Host
import PipeShell.Notice

/-!
# What processes may do

A host is free in what its processes do, and when. What a system promises is that a process gets at
the pipes through its own streams alone: it reads its input, writes its output, and closes each of
them once. To speak of who wrote what, the state of a host is taken to hold a diary of all deeds of its
processes, and of what was written for the shell; `Host.Keeps` says that the diary tells what becomes
of the world.
-/

namespace PipeShell

/-! ## Ends -/

def End.below (n : Nat) : End → Prop
  | reader pipe => pipe < n
  | writer pipe => pipe < n
  | file _ => True

def Streams.below (n : Nat) (streams : Streams) : Prop :=
  (∀ e ∈ streams.input, e.below n) ∧ ∀ e ∈ streams.output, e.below n

theorem End.below.mono {n m : Nat} {e : End} (below : e.below n) (le : n ≤ m) : e.below m := by
  cases e with
  | reader | writer => exact Nat.lt_of_lt_of_le below le
  | file => trivial

theorem Streams.below.mono {n m : Nat} {streams : Streams} (below : streams.below n)
    (le : n ≤ m) : streams.below m :=
  ⟨fun e member => (below.1 e member).mono le, fun e member => (below.2 e member).mono le⟩

/-! ## Diaries -/

/-- A deed that has to do with streams. Processes are numbered in the order in which they started. -/
inductive Deed where
  | started (streams : Streams)
  | wrote (process : Option Nat) (target : Option End) (bytes : Bytes)
  | refused (target : Option End) (bytes : Bytes) (cause : SystemError)
  | read (process : Nat) (source : End) (bytes : Bytes)
  | closedInput (process : Nat)
  | closedOutput (process : Nat)
deriving DecidableEq

abbrev Diary := List Deed

namespace Deed

def started? : Deed → Option Streams
  | started streams => some streams
  | _ => none

def bytesTo (target : Option End) : Deed → Bytes
  | wrote _ t bytes => if t = target then bytes else []
  | _ => []

def bytesFrom (source : End) : Deed → Bytes
  | read _ e bytes => if e = source then bytes else []
  | _ => []

def bytesBy (process : Nat) : Deed → Bytes
  | wrote (some k) _ bytes => if k = process then bytes else []
  | _ => []

def bytesReadBy (process : Nat) : Deed → Bytes
  | read k _ bytes => if k = process then bytes else []
  | _ => []

def bytesSaid (target : Option End) : Deed → Bytes
  | wrote none t bytes => if t = target then bytes else []
  | _ => []

def attempt? : Deed → Option (Option End)
  | wrote none target _ => some target
  | refused target _ _ => some target
  | _ => none

def refusal? (target : Option End) : Deed → Option SystemError
  | refused t _ cause => if t = target then some cause else none
  | _ => none

end Deed

namespace Diary

def streams (d : Diary) : List Streams := d.filterMap Deed.started?

@[simp] theorem streams_append (d e : Diary) : streams (d ++ e) = d.streams ++ e.streams :=
  List.filterMap_append ..

end Diary

/-! ## Steps -/

/-- A process does something, or something happens that has to do with no pipe. -/
inductive Acts : Diary → World → Diary → World → Prop
  | wrote {d : Diary} {w w' : World} {k : Nat} {streams : Streams} {bytes : Bytes}
      (own : d.streams[k]? = some streams) (held : .closedOutput k ∉ d)
      (taken : w.write streams.output bytes = (none, w')) :
      Acts d w (d ++ [.wrote (some k) streams.output bytes]) w'
  | read {d : Diary} {w w' : World} {k : Nat} {streams : Streams} {most : Nat} {bytes : Bytes}
      (own : d.streams[k]? = some streams) (held : .closedInput k ∉ d)
      (got : w.read (streams.input.getD w.input) most = (.ok bytes, w')) :
      Acts d w (d ++ [.read k (streams.input.getD w.input) bytes]) w'
  | closedInput {d : Diary} {w : World} {k : Nat} {streams : Streams}
      (own : d.streams[k]? = some streams) (held : .closedInput k ∉ d) :
      Acts d w (d ++ [.closedInput k]) (w.close? streams.input)
  | closedOutput {d : Diary} {w : World} {k : Nat} {streams : Streams}
      (own : d.streams[k]? = some streams) (held : .closedOutput k ∉ d) :
      Acts d w (d ++ [.closedOutput k]) (w.close? streams.output)
  | aside {d : Diary} {w w' : World} (pipes : w'.pipes = w.pipes) (input : w'.input = w.input)
      (output : w'.output = w.output) : Acts d w d w'

inductive Conducts : Diary → World → Diary → World → Prop
  | refl {d : Diary} {w : World} : Conducts d w d w
  | step {d d' d'' : Diary} {w w' w'' : World} (first : Acts d w d' w')
      (rest : Conducts d' w' d'' w'') : Conducts d w d'' w''

inductive Writes (target : Option End) :
    Bytes → Diary → World → Option SystemError → Diary → World → Prop
  | done {d d' : Diary} {w w' : World} (meanwhile : Conducts d w d' w') :
      Writes target [] d w none d' w'
  | piece {d d₁ d' : Diary} {w w₁ w₂ w' : World} {piece rest : Bytes} {result : Option SystemError}
      (meanwhile : Conducts d w d₁ w₁) (taken : w₁.write target piece = (none, w₂))
      (more : Writes target rest (d₁ ++ [.wrote none target piece]) w₂ result d' w') :
      Writes target (piece ++ rest) d w result d' w'
  | refused {d d₁ : Diary} {w w₁ w₂ : World} {piece rest : Bytes} {cause : SystemError}
      (meanwhile : Conducts d w d₁ w₁) (refused : w₁.write target piece = (some cause, w₂)) :
      Writes target (piece ++ rest) d w (some cause) (d₁ ++ [.refused target piece cause]) w₂

structure Diary.Sound (d : Diary) (w : World) : Prop where
  ends : ∀ st ∈ d.streams, st.below w.pipes.size
  own : w.input.below w.pipes.size
  closed : ∀ k, .closedInput k ∈ d ∨ .closedOutput k ∈ d → k < d.streams.length

theorem Diary.sound_nil {w : World} (own : w.input.below w.pipes.size) : Diary.Sound [] w where
  ends := by simp [Diary.streams]
  own := own
  closed := by simp

/-- The diary of a host tells what becomes of the world. A process that is started owns its streams;
when it does not start, its ends are closed. -/
structure Host.Keeps {σ : Type} (host : Host σ) (diary : σ → Diary) : Prop where
  starts : ∀ launch state w pid, (diary state).Sound w →
    (host.spawn launch state w).answer = .ok pid →
    ∃ d w', Conducts (diary state) w d w' ∧
      Conducts (d ++ [.started launch.streams]) w' (diary (host.spawn launch state w).host)
        (host.spawn launch state w).world
  fails : ∀ launch state w cause, (diary state).Sound w →
    (host.spawn launch state w).answer = .error cause →
    ∃ d w', Conducts (diary state) w d w' ∧
      Conducts d ((w'.close? launch.streams.input).close? launch.streams.output)
        (diary (host.spawn launch state w).host) (host.spawn launch state w).world
  waits : ∀ pid state w, (diary state).Sound w →
    Conducts (diary state) w (diary (host.wait pid state w).host) (host.wait pid state w).world
  polls : ∀ pid state w, (diary state).Sound w →
    Conducts (diary state) w (diary (host.poll pid state w).host) (host.poll pid state w).world
  writes : ∀ target bytes state w, (diary state).Sound w →
    Writes target bytes (diary state) w (host.write target bytes (state, w)).1
      (diary (host.write target bytes (state, w)).2.1)
      (host.write target bytes (state, w)).2.2

/-! ## Pipes -/

namespace World

theorem pipe_modifyPipe (w : World) (id i : Nat) (f : Pipe → Pipe) :
    (w.modifyPipe id f).pipe i =
      if i = id ∧ i < w.pipes.size then f (w.pipe i) else w.pipe i := by
  simp only [modifyPipe, pipe, Array.getD_eq_getD_getElem?, Array.getElem?_modify]
  by_cases inside : i < w.pipes.size
  · simp only [inside, Array.getElem?_eq_getElem, and_true, eq_comm (a := i)]
    split <;> rfl
  · simp [inside]

@[simp] theorem size_modifyPipe (w : World) (id : Nat) (f : Pipe → Pipe) :
    (w.modifyPipe id f).pipes.size = w.pipes.size := by
  simp [modifyPipe]

structure Alike (w w' : World) : Prop where
  pipes : w'.pipes = w.pipes
  input : w'.input = w.input

namespace Alike
variable {w w' w'' : World}

theorem refl (w : World) : Alike w w := ⟨rfl, rfl⟩

theorem trans (first : Alike w w') (second : Alike w' w'') : Alike w w'' :=
  ⟨second.pipes.trans first.pipes, second.input.trans first.input⟩

theorem pipe (alike : Alike w w') (i : Nat) : w'.pipe i = w.pipe i := by
  rw [World.pipe, alike.pipes, World.pipe]

theorem writeError (w : World) (bytes : Bytes) : Alike w (w.writeError bytes) := ⟨rfl, rfl⟩

end Alike

theorem alike_writeOpened {w w' : World} {id : Nat} {bytes : Bytes} {result : Option SystemError}
    (eq : w.writeOpened id bytes = (result, w')) : Alike w w' := by
  unfold writeOpened at eq
  dsimp only at eq
  repeat' split at eq
  all_goals
    cases eq
    exact ⟨rfl, rfl⟩

variable {w w' : World}

theorem write_ok {target : Option End} {bytes : Bytes} (taken : w.write target bytes = (none, w')) :
    w'.pipes.size = w.pipes.size ∧ w'.input = w.input ∧ ∀ i < w.pipes.size,
      w'.pipe i = { w.pipe i with
        buffer := (w.pipe i).buffer ++ if target = some (.writer i) then bytes else [] } ∧
      (target = some (.writer i) → (w.pipe i).hasReader = true) := by
  rcases target with _ | (id | id | id)
  · cases taken
    exact ⟨rfl, rfl, fun i _ => ⟨by simp [pipe], by simp⟩⟩
  · cases taken
  · simp only [write] at taken
    split at taken
    · rename_i reader
      cases taken
      refine ⟨by simp, rfl, fun i inside => ⟨?_, ?_⟩⟩
      · rw [pipe_modifyPipe]
        by_cases here : i = id
        · simp [here, here ▸ inside]
        · simp [here, Ne.symm here]
      · rintro ⟨⟩
        exact reader
    · cases taken
  · have alike := alike_writeOpened taken
    exact ⟨by rw [alike.pipes], alike.input, fun i _ => ⟨by simp [alike.pipe], by simp⟩⟩

theorem write_refused {target : Option End} {bytes : Bytes} {cause : SystemError}
    (refused : w.write target bytes = (some cause, w')) :
    Alike w w' ∧ ∀ i, target = some (.writer i) →
      cause = .brokenPipe ∧ (w.pipe i).hasReader = false := by
  rcases target with _ | (id | id | id)
  · cases refused
  · cases refused
    exact ⟨.refl w, by simp⟩
  · simp only [write] at refused
    split at refused
    · cases refused
    · rename_i reader
      cases refused
      refine ⟨.refl w, ?_⟩
      rintro i ⟨⟩
      exact ⟨rfl, by simpa using reader⟩
  · exact ⟨alike_writeOpened refused, by simp⟩

theorem read_ok {source : End} {most : Nat} {bytes : Bytes}
    (got : w.read source most = (.ok bytes, w')) :
    w'.pipes.size = w.pipes.size ∧ w'.input = w.input ∧ ∀ i < w.pipes.size,
      (w.pipe i).buffer = (if source = .reader i then bytes else []) ++ (w'.pipe i).buffer ∧
      (w'.pipe i).hasReader = (w.pipe i).hasReader ∧
      (w'.pipe i).hasWriter = (w.pipe i).hasWriter := by
  rcases source with id | id | id
  · cases got
    refine ⟨by simp, rfl, fun i inside => ?_⟩
    rw [pipe_modifyPipe]
    by_cases here : i = id
    · subst here
      simp [inside]
    · simp [here, Ne.symm here]
  · cases got
  · have alike : Alike w w' := by
      simp only [read] at got
      repeat' split at got
      all_goals
        cases got
        try exact ⟨rfl, rfl⟩
    exact ⟨by rw [alike.pipes], alike.input, fun i _ => by simp [alike.pipe]⟩

theorem close?_spec (w : World) (e : Option End) :
    (w.close? e).pipes.size = w.pipes.size ∧ (w.close? e).input = w.input ∧
    ∀ i < w.pipes.size, (w.close? e).pipe i = { w.pipe i with
      hasReader := (w.pipe i).hasReader && e ≠ some (.reader i)
      hasWriter := (w.pipe i).hasWriter && e ≠ some (.writer i) } := by
  rcases e with _ | (id | id | id)
  · exact ⟨rfl, rfl, fun i _ => by simp [close?]⟩
  · refine ⟨by simp [close?, close], rfl, fun i inside => ?_⟩
    rw [close?, close, pipe_modifyPipe]
    by_cases here : i = id
    · simp [here, here ▸ inside]
    · simp [here, Ne.symm here]
  · refine ⟨by simp [close?, close], rfl, fun i inside => ?_⟩
    rw [close?, close, pipe_modifyPipe]
    by_cases here : i = id
    · simp [here, here ▸ inside]
    · simp [here, Ne.symm here]
  · exact ⟨rfl, rfl, fun i _ => by simp [close?, close]⟩

end World
end PipeShell
