import Mathlib.Data.List.Nodup
import Mathlib.Data.List.Perm.Basic
import PipeShell.Proofs.Dealings

/-!
# The books of a session

The events of a session tell which ends the shell took and which it let go, by closing them or with a
program that it started. Here the entries of each part of a line are listed: the stages begin
(`Session.beginAll_books`), the built-in commands have their turns (`Session.runDeferred_books`), and
the ending adds nothing but waits (`Session.conclude_books`).
-/

namespace PipeShell

/-! ## Books -/

def Streams.ends (st : Streams) : List End := st.input.toList ++ st.output.toList

namespace Event

def isMove : Event → Bool
  | opened _ | closed _ | spawned .. | builtin _ | waited .. => true
  | _ => false

def gained : Event → List End
  | opened e => [e]
  | _ => []

def released : Event → List End
  | closed e => [e]
  | spawned launch _ => launch.streams.ends
  | _ => []

def commands : Event → List Stage
  | builtin stage => [stage]
  | _ => []

inductive IsStart : Event → Prop
  | closed (e : End) : IsStart (.closed e)
  | spawned (launch : Launch) (answer : Except Fault Pid) : IsStart (.spawned launch answer)

inductive IsWait : Event → Prop
  | waited (pid : Pid) (answer : Except Fault Int) : IsWait (.waited pid answer)

end Event

namespace Books

def gained (es : List Event) : List End := es.flatMap Event.gained

def released (es : List Event) : List End := es.flatMap Event.released

/-- What the shell has at hand after these events. -/
def held (es : List Event) : List End := (gained es).diff (released es)

def commands (es : List Event) : List Stage := es.flatMap Event.commands

variable {es es' : List Event}

@[simp] theorem gained_append : gained (es ++ es') = gained es ++ gained es' :=
  List.flatMap_append

@[simp] theorem released_append : released (es ++ es') = released es ++ released es' :=
  List.flatMap_append

@[simp] theorem commands_append : commands (es ++ es') = commands es ++ commands es' :=
  List.flatMap_append

theorem flatMap_moves {α : Type} {f : Event → List α} (still : ∀ e, ¬e.isMove → f e = [])
    (es : List Event) : (es.filter Event.isMove).flatMap f = es.flatMap f := by
  induction es with
  | nil => rfl
  | cons e es ih =>
    by_cases moves : e.isMove
    · rw [List.filter_cons_of_pos moves, List.flatMap_cons, List.flatMap_cons, ih]
    · rw [List.filter_cons_of_neg moves, List.flatMap_cons, ih, still e moves, List.nil_append]

theorem gained_moves (es : List Event) : gained (es.filter Event.isMove) = gained es :=
  flatMap_moves (fun e still => by cases e <;> first | rfl | exact absurd rfl still) es

theorem released_moves (es : List Event) : released (es.filter Event.isMove) = released es :=
  flatMap_moves (fun e still => by cases e <;> first | rfl | exact absurd rfl still) es

theorem commands_moves (es : List Event) : commands (es.filter Event.isMove) = commands es :=
  flatMap_moves (fun e still => by cases e <;> first | rfl | exact absurd rfl still) es

theorem held_moves (es : List Event) : held (es.filter Event.isMove) = held es := by
  rw [held, gained_moves, released_moves, held]

theorem diff_append_self (l rest : List End) : (l ++ rest).diff l = rest := by
  induction l with
  | nil => rfl
  | cons e l ih => rw [List.cons_append, List.diff_cons, List.erase_cons_head, ih]

theorem held_perm {rest : List End} (balance : (gained es).Perm (released es ++ rest)) :
    (held es).Perm rest := by
  have same := balance.diff_right (released es)
  rwa [diff_append_self] at same

@[simp] theorem gained_opened (l : List End) : gained (l.map .opened) = l := by
  induction l with
  | nil => rfl
  | cons e l ih => exact congrArg (e :: ·) ih

@[simp] theorem released_opened (l : List End) : released (l.map .opened) = [] := by
  simp [released, Event.released]

@[simp] theorem commands_opened (l : List End) : commands (l.map .opened) = [] := by
  simp [commands, Event.commands]

@[simp] theorem released_closed (l : List End) : released (l.map .closed) = l := by
  induction l with
  | nil => rfl
  | cons e l ih => exact congrArg (e :: ·) ih

theorem mem_held {e : End} (distinct : (gained es).Nodup) :
    e ∈ held es ↔ e ∈ gained es ∧ e ∉ released es := distinct.mem_sdiff_iff

end Books

theorem split_of_not_mem {α : Type} {l rest before after : List α} {a : α} (other : a ∉ l)
    (split : l ++ rest = before ++ a :: after) :
    ∃ middle, before = l ++ middle ∧ rest = middle ++ a :: after := by
  rcases List.append_eq_append_iff.1 split with ⟨middle, first, second⟩ | ⟨middle, first, second⟩
  · exact ⟨middle, first, second⟩
  · cases middle with
    | nil => exact ⟨[], by simpa using first.symm, by simpa using second.symm⟩
    | cons b middle =>
      obtain ⟨rfl, -⟩ := List.cons.inj second
      exact absurd (by simp [first]) other

theorem filter_split {α : Type} (p : α → Bool) {l before after : List α} {a : α} (counts : p a)
    (split : l = before ++ a :: after) :
    l.filter p = before.filter p ++ a :: after.filter p := by
  rw [split, List.filter_append, List.filter_cons_of_pos counts]

/-! ## What each part of a launch moves -/

namespace Books

def letGo (p : Stage × Streams) : List End :=
  if p.1.kind.isBuiltin then p.2.input.toList else p.2.ends

def deferred (l : List (Stage × Streams)) : List (Stage × Streams) :=
  l.filter fun p => p.1.kind.isBuiltin

theorem mem_letGo {p : Stage × Streams} {e : End} (input : e ∈ p.2.input) : e ∈ letGo p := by
  rw [letGo]
  split
  · exact Option.mem_toList.2 input
  · exact List.mem_append_left _ (Option.mem_toList.2 input)

def outputs (l : List (Stage × Streams)) : List End := l.flatMap fun p => p.2.output.toList

def turn (p : Stage × Streams) : List Event :=
  .builtin p.1 :: p.2.output.toList.map .closed

theorem outputs_deferred (l : List (Stage × Streams)) :
    outputs (deferred l) =
      l.flatMap fun p => if p.1.kind.isBuiltin then p.2.output.toList else [] := by
  induction l with
  | nil => rfl
  | cons p l ih =>
    rw [List.flatMap_cons, ← ih, deferred]
    by_cases builtin : p.1.kind.isBuiltin
    · rw [List.filter_cons_of_pos (by exact builtin), if_pos builtin]
      rfl
    · rw [List.filter_cons_of_neg (by exact builtin), if_neg builtin]
      rfl

theorem letGo_perm (l : List (Stage × Streams)) :
    (l.flatMap letGo ++ outputs (deferred l)).Perm (l.flatMap fun p => p.2.ends) := by
  rw [outputs_deferred]
  refine (List.flatMap_append_perm l letGo _).trans (.of_eq ?_)
  apply List.flatMap_congr
  intro p _
  by_cases builtin : p.1.kind.isBuiltin <;> simp [letGo, builtin, Streams.ends]

theorem turns_split {l : List (Stage × Streams)} {rest before after : List Event} {stage : Stage}
    (other : .builtin stage ∉ rest)
    (split : l.flatMap turn ++ rest = before ++ .builtin stage :: after) :
    l[(commands before).length]?.map Prod.fst = some stage ∧ gained before = [] ∧
      released before = outputs (l.take (commands before).length) := by
  induction l generalizing before with
  | nil =>
    rw [List.flatMap_nil, List.nil_append] at split
    exact absurd (split ▸ by simp) other
  | cons p l ih =>
    rw [List.flatMap_cons, turn, List.append_assoc, List.cons_append] at split
    cases before with
    | nil =>
      obtain ⟨same, -⟩ := List.cons.inj split
      cases same
      exact ⟨rfl, rfl, rfl⟩
    | cons first before =>
      -- a turn before this one is over as a whole, its output closed, when this one comes
      obtain ⟨rfl, behind⟩ := List.cons.inj split
      obtain ⟨middle, rfl, later⟩ := split_of_not_mem (by simp) behind
      obtain ⟨there, unopened, gone⟩ := ih later
      have count : (commands (.builtin p.1 :: (p.2.output.toList.map .closed ++ middle))).length =
          (commands middle).length + 1 := by
        cases p.2.output <;> rfl
      rw [count]
      refine ⟨there, ?_, ?_⟩
      · cases p.2.output <;> exact unopened
      · rw [List.take_succ_cons, outputs, List.flatMap_cons, ← outputs, ← gone]
        cases p.2.output <;> rfl

end Books
open Books

def Begun.turn : Begun → List Event
  | deferred stage output => .builtin stage :: output.toList.map .closed
  | _ => []

namespace Session
variable {σ : Type} {s s' s'' : Session σ} {ts ts' : List Event}

def Moves (s s' : Session σ) (ts : List Event) : Prop :=
  ∃ es, s'.events = s.events ++ es ∧ es.filter Event.isMove = ts

namespace Moves

theorem trans (first : Moves s s' ts) (second : Moves s' s'' ts') : Moves s s'' (ts ++ ts') := by
  obtain ⟨es, before, rfl⟩ := first
  obtain ⟨es', after, rfl⟩ := second
  exact ⟨es ++ es', by rw [after, before, List.append_assoc], List.filter_append ..⟩

theorem refl (s : Session σ) : Moves s s [] := ⟨[], by simp, rfl⟩

theorem after (still : Moves s s' []) (moves : Moves s' s'' ts) : Moves s s'' ts :=
  still.trans moves

theorem before (moves : Moves s s' ts) (still : Moves s' s'' []) : Moves s s'' ts := by
  simpa using moves.trans still

theorem record (s : Session σ) (es : List Event) :
    Moves s (s.record es) (es.filter Event.isMove) := ⟨es, rfl, rfl⟩

theorem note (s : Session σ) (n : Notice) : Moves s (s.note n) [] := record s _

theorem noteAll (s : Session σ) (ns : List Notice) : Moves s (s.noteAll ns) [] :=
  ⟨ns.map .note, rfl, by simp [Event.isMove]⟩

theorem close? (s : Session σ) (e : Option End) :
    Moves s (s.close? e) (e.toList.map .closed) := by
  cases e with
  | none => exact refl s
  | some e => exact ⟨[.closed e], rfl, rfl⟩

theorem receive {α : Type} (s : Session σ) (r : Reply σ α) (event : Except Fault α → Event)
    (counts : (event r.answer).isMove) : Moves s (s.receive r event).2 [event r.answer] := by
  refine ⟨_, rfl, ?_⟩
  have heard : (s.overheard r).filter Event.isMove = [] := by
    unfold overheard
    split <;> rfl
  have told : (r.notices.map Event.note).filter Event.isMove = [] := by simp [Event.isMove]
  rw [List.cons_append, List.filter_cons_of_pos counts, List.filter_append, told, heard]
  rfl

theorem showCommand (stage : Stage) (s : Session σ) : Moves s (s.showCommand stage) [] := by
  unfold Session.showCommand
  split
  · exact record s _
  · exact refl s

theorem showProcess (pid : Pid) (stage : Stage) (s : Session σ) :
    Moves s (s.showProcess pid stage) [] := by
  unfold Session.showProcess
  split
  · exact record s _
  · exact refl s

end Moves

variable {host : Host σ}

theorem begin_books (host : Host σ) (path : String) (p : Stage × Streams) (s : Session σ) :
    ∃ ts, Moves s (s.begin host path p.1 p.2).2 ts ∧ released ts = letGo p ∧
      (∀ e ∈ ts, e.IsStart) ∧
      (s.begin host path p.1 p.2).1.turn = if p.1.kind.isBuiltin then turn p else [] := by
  obtain ⟨stage, streams⟩ := p
  have shown := Moves.showCommand stage s
  by_cases builtin : stage.kind.isBuiltin
  · rw [begin_builtin builtin]
    refine ⟨_, shown.after (.close? _ streams.input), ?_, ?_, ?_⟩
    · simp [letGo, builtin]
    · intro e member
      obtain ⟨x, -, rfl⟩ := List.mem_map.1 member
      exact .closed x
    · simp [builtin, Begun.turn, turn]
  · have asked := Moves.receive (s.showCommand stage)
      (host.spawn ⟨stage.argv, path, streams⟩ (s.showCommand stage).host (s.showCommand stage).world)
      (.spawned ⟨stage.argv, path, streams⟩) rfl
    change Moves _ ((s.showCommand stage).spawn host ⟨stage.argv, path, streams⟩).2 _ at asked
    have gone : ∀ answer, released [.spawned ⟨stage.argv, path, streams⟩ answer] =
        letGo (stage, streams) := by
      intro answer
      simp [letGo, builtin, released, Event.released]
    have starts : ∀ answer, ∀ e ∈ [Event.spawned ⟨stage.argv, path, streams⟩ answer], e.IsStart :=
      fun answer => List.forall_mem_singleton.2 (.spawned _ answer)
    rcases answered : (s.showCommand stage).spawn host ⟨stage.argv, path, streams⟩ with
      ⟨cause | pid, s'⟩ <;> rw [answered] at asked
    · rw [begin_failed builtin answered]
      refine ⟨_, shown.after (asked.before (.note s' _)), gone _, starts _, ?_⟩
      simp [builtin, Begun.turn]
    · rw [begin_process builtin answered]
      refine ⟨_, shown.after (asked.before (.showProcess pid stage s')), gone _, starts _, ?_⟩
      simp [builtin, Begun.turn]

theorem beginAll_books (host : Host σ) (path : String) (l : List (Stage × Streams))
    (s : Session σ) :
    ∃ ts, Moves s (s.beginAll host path l).2 ts ∧ released ts = l.flatMap letGo ∧
      (∀ e ∈ ts, e.IsStart) ∧
      (s.beginAll host path l).1.flatMap Begun.turn = (deferred l).flatMap turn := by
  induction l generalizing s with
  | nil => exact ⟨[], .refl s, rfl, by simp, rfl⟩
  | cons p l ih =>
    obtain ⟨ts, moves, gone, kinds, first⟩ := begin_books host path p s
    obtain ⟨ts', moves', gone', kinds', others⟩ := ih (s.begin host path p.1 p.2).2
    refine ⟨ts ++ ts', ?_, ?_, ?_, ?_⟩
    · rw [beginAll_cons]
      exact moves.trans moves'
    · rw [released_append, gone, gone', List.flatMap_cons]
    · intro e member
      exact (List.mem_append.1 member).elim (kinds e) (kinds' e)
    · rw [beginAll_cons, List.flatMap_cons, first, others]
      by_cases builtin : p.1.kind.isBuiltin
      · rw [deferred, deferred, List.filter_cons_of_pos (by exact builtin), if_pos builtin]
        rfl
      · rw [deferred, deferred, List.filter_cons_of_neg (by exact builtin), if_neg builtin]
        rfl

theorem runBuiltin_books (host : Host σ) (stage : Stage) (output : Option End) (s : Session σ) :
    Moves s (s.runBuiltin host stage output).2 [.builtin stage] := by
  have told := (Moves.record s [.builtin stage]).before
    (.noteAll _ (stage.act s.surroundings).notices)
  simp only [runBuiltin]
  split
  · exact told.before ⟨[], rfl, rfl⟩
  · exact told.before ⟨[.errorText _], rfl, rfl⟩

theorem runDeferred_books (host : Host σ) (begun : List Begun) (s : Session σ) :
    Moves s (runDeferred host begun s).2 (begun.flatMap Begun.turn) := by
  induction begun generalizing s with
  | nil => exact .refl s
  | cons first rest ih =>
    cases first with
    | process pid | failed cause => exact ih s
    | deferred stage output =>
      rw [runDeferred_cons]
      have spoken := (runBuiltin_books host stage output s).trans (.close? _ output)
      exact spoken.trans (ih _)

theorem waitAll_books (host : Host σ) (stages : List Settled) (s : Session σ) :
    ∃ ts, Moves s (s.waitAll host stages).2.2 ts ∧ ∀ e ∈ ts, e.IsWait := by
  induction stages generalizing s with
  | nil => exact ⟨[], .refl s, by simp⟩
  | cons first rest ih =>
    cases first with
    | ended status => exact ih s
    | process pid =>
      have asked := Moves.receive s (host.wait pid s.host s.world) (.waited pid) rfl
      change Moves s (s.wait host pid).2 _ at asked
      have onward : ∀ {s' : Session σ} {answer}, Moves s s' [.waited pid answer] →
          ∃ ts, Moves s (s'.waitAll host rest).2.2 ts ∧ ∀ e ∈ ts, e.IsWait := by
        intro s' answer one
        obtain ⟨ts, moves, waits⟩ := ih s'
        exact ⟨_, one.trans moves, List.forall_mem_cons.2 ⟨.waited pid answer, waits⟩⟩
      rw [waitAll]
      rcases answered : s.wait host pid with ⟨cause | status, s'⟩ <;> rw [answered] at asked
      · exact onward (asked.before (.note s' _))
      · exact onward asked

theorem conclude_books (host : Host σ) (plan : Plan) (failures : List Fault)
    (results : BuiltinResults) (s : Session σ) :
    ∃ ts, Moves s (s.conclude host plan failures results).2 ts ∧ ∀ e ∈ ts, e.IsWait := by
  unfold conclude
  split
  · exact ⟨[], .refl s, by simp⟩
  · split
    · refine ⟨[], ?_, by simp⟩
      have added : Moves s (s.addJob plan.describe results.settled).2 [] := ⟨_, rfl, rfl⟩
      exact added.before (.note _ _)
    · obtain ⟨ts, moves, waits⟩ := waitAll_books host results.settled s
      refine ⟨ts, ?_, waits⟩
      rcases ended : s.waitAll host results.settled with ⟨statuses, _ | cause, s'⟩ <;>
      · rw [ended] at moves
        exact moves.before (.note _ _)

end Session
end PipeShell
