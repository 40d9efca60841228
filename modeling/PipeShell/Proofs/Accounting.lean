import Mathlib.Data.List.Nodup
import PipeShell.Host.Scripted
import PipeShell.Proofs.Calls

/-!
# What becomes of every process

The books of a run: every process that was started is waited for once, or belongs to one job and is
asked after until it has ended, or is left alone because the shell was made to leave. Each fact is
shown for one call, from what a call can do, and then for runs by induction.
-/

namespace PipeShell

/-! ## Tables -/

namespace JobTable

def pids (table : JobTable) : List Pid := table.jobs.flatMap Job.pids

def running (table : JobTable) : List Pid := table.jobs.flatMap Job.running

theorem running_sublist (table : JobTable) : table.running.Sublist table.pids := by
  rw [running, pids]
  induction table.jobs with
  | nil => exact .slnil
  | cons job jobs ih => exact (List.filter_sublist.map _).append ih

theorem running_unfinished (jobs : List Job) :
    running ⟨jobs.filter fun job => !job.isOver⟩ = jobs.flatMap Job.running := by
  simp only [running]
  induction jobs with
  | nil => rfl
  | cons job jobs ih =>
    by_cases ended : job.isOver
    · rw [List.filter_cons_of_neg (by simp [ended]), List.flatMap_cons, ih,
        Job.running_of_isOver ended, List.nil_append]
    · rw [List.filter_cons_of_pos (by simp [ended]), List.flatMap_cons, List.flatMap_cons, ih]

theorem jobs_add (table : JobTable) (ids : List Pid) (command : String) (known : Option Int) :
    (table.add ids command known).2.jobs =
      table.jobs ++ [⟨table.freeIndex, ids.map ({ pid := · }), command, known⟩] := rfl

end JobTable

theorem Job.pids_new (index : Nat) (ids : List Pid) (command : String) (known : Option Int) :
    Job.pids ⟨index, ids.map ({ pid := · }), command, known⟩ = ids := by
  simp [Job.pids, Function.comp_def]

theorem Job.running_new (index : Nat) (ids : List Pid) (command : String) (known : Option Int) :
    Job.running ⟨index, ids.map ({ pid := · }), command, known⟩ = ids := by
  simp [Job.running, List.filter_map, Function.comp_def]

/-! ## One call -/

namespace Plan.Launched
variable {plan : Plan} {es : List Event}

theorem waited (launched : plan.Launched es) : es.filterMap Event.waited? = [] := by
  rw [List.filterMap_eq_nil_iff]
  intro e member
  rcases launched.only e member with ⟨_, _, rfl⟩ | ⟨_, rfl⟩ <;> rfl

theorem polled (launched : plan.Launched es) : es.filterMap Event.polled? = [] := by
  rw [List.filterMap_eq_nil_iff]
  intro e member
  rcases launched.only e member with ⟨_, _, rfl⟩ | ⟨_, rfl⟩ <;> rfl

end Plan.Launched

def Turn.left (turn : Turn) : Bool :=
  match turn.result with
  | some (.ok ⟨.background _, _⟩) => true
  | _ => false

theorem started_of_waits {ws : List Event} (waits : ∀ e ∈ ws, ∃ pid answer, e = .waited pid answer) :
    ws.filterMap Event.started? = [] ∧ ws.filterMap Event.polled? = [] ∧
      ws.filterMap Event.launch? = [] := by
  refine ⟨?_, ?_, ?_⟩ <;>
  · rw [List.filterMap_eq_nil_iff]
    intro e member
    obtain ⟨_, _, rfl⟩ := waits e member
    rfl

theorem started_of_polls {es : List Event} (polls : ∀ e ∈ es, ∃ pid answer, e = .polled pid answer) :
    es.filterMap Event.started? = [] ∧ es.filterMap Event.waited? = [] := by
  refine ⟨?_, ?_⟩ <;>
  · rw [List.filterMap_eq_nil_iff]
    intro e member
    obtain ⟨_, _, rfl⟩ := polls e member
    rfl

namespace Turn.Moves
variable {turn : Turn} {table next : JobTable}

theorem waited (move : turn.Moves table next) :
    turn.waited = if turn.exited || turn.background then [] else turn.started := by
  cases move with
  | idle => simp [Turn.waited, Turn.started]
  | exit launched => simp [Turn.waited, Turn.exited, launched.waited]
  | background launched apart =>
    simp [Turn.waited, Turn.background, launched.waited, apart]
  | foreground launched here finishes waited waits =>
    have started := (started_of_waits waits).1
    cases finishes <;> simp [Turn.exited, Turn.waited, Turn.background, Turn.started,
      launched.waited, here, waited, started]
  | reap asks =>
    simp [Turn.waited, Turn.exited, Turn.background, Turn.started, started_of_polls asks.polls]

theorem polled (move : turn.Moves table next) :
    (turn.polled = [] ∧ ∀ pid ∉ turn.started, pid ∈ next.running ↔ pid ∈ table.running) ∨
    turn.started = [] ∧ turn.polled.map Prod.fst = table.running ∧
      next.running = (turn.polled.filter (stillRuns ·.2)).map Prod.fst := by
  cases move with
  | idle => exact .inl ⟨rfl, fun _ _ => .rfl⟩
  | exit launched => exact .inl ⟨launched.polled, fun _ _ => .rfl⟩
  | background launched =>
    refine .inl ⟨launched.polled, fun pid other => ?_⟩
    have other : pid ∉ List.filterMap Event.started? _ := other
    simp only [JobTable.running, JobTable.jobs_add, List.flatMap_append, List.flatMap_singleton,
      Job.running_new, List.mem_append, other, or_false]
  | foreground launched _ _ _ waits =>
    refine .inl ⟨?_, fun _ _ => .rfl⟩
    simp [Turn.polled, launched.polled, started_of_waits waits]
  | reap asks =>
    refine .inr ⟨(started_of_polls asks.polls).1, asks.polled, ?_⟩
    rw [JobTable.running_unfinished]
    exact asks.running

theorem jobs (move : turn.Moves table next) :
    ((turn.reported ++ next.jobs).map Job.pids).Perm
      (table.jobs.map Job.pids ++ if turn.left then [turn.started] else []) := by
  cases move with
  | idle finishes => cases finishes <;> simp [Turn.left]
  | exit launched => simp [Turn.left]
  | background launched => simp [Turn.left, JobTable.jobs_add, Job.pids_new, Turn.started]
  | foreground _ _ finishes => cases finishes <;> simp [Turn.left]
  | reap asks =>
    simp only [Turn.left, List.append_nil, Bool.false_eq_true, if_false]
    rw [← asks.pids]
    exact (List.filter_append_perm Job.isOver _).map _

theorem pids (move : turn.Moves table next) :
    (turn.reported.flatMap Job.pids ++ next.pids).Perm
      (table.pids ++ if turn.left then turn.started else []) := by
  have flat := move.jobs.flatten
  rw [List.map_append, List.flatten_append, List.flatten_append] at flat
  simp only [← List.flatMap_def] at flat
  refine flat.trans (List.Perm.append_left _ ?_)
  split <;> simp

theorem mem_pids (move : turn.Moves table next) {pid : Pid} (member : pid ∈ next.pids) :
    pid ∈ table.pids ∨ pid ∈ turn.started := by
  have := move.pids.subset (List.mem_append_right _ member)
  split at this
  · exact List.mem_append.1 this
  · exact .inl (by simpa using this)

theorem nodup (move : turn.Moves table next) {later : List Pid}
    (fresh : (table.pids ++ (turn.started ++ later)).Nodup) : (next.pids ++ later).Nodup := by
  have all : (table.pids ++ (if turn.left then turn.started else []) ++ later).Nodup := by
    rw [List.append_assoc]
    split
    · exact fresh
    · exact fresh.sublist (by simp)
  have := ((move.pids.append_right later).nodup_iff.2 all)
  rw [List.append_assoc] at this
  exact this.of_append_right

end Turn.Moves

/-! ## Order -/

def Event.touched? : Event → Option Pid
  | .waited pid _ => some pid
  | .polled pid _ => some pid
  | _ => none

/-- Only processes that are known, or were started before, are waited for or asked after. -/
def Backed (known : List Pid) (es : List Event) : Prop :=
  ∀ before e after, es = before ++ e :: after → ∀ pid, e.touched? = some pid →
    pid ∈ known ∨ pid ∈ before.filterMap Event.started?

theorem Backed.append {known : List Pid} {es fs : List Event} (first : Backed known es)
    (second : Backed (known ++ es.filterMap Event.started?) fs) : Backed known (es ++ fs) := by
  intro before e after split pid touched
  rcases List.append_eq_append_iff.1 split with ⟨middle, rfl, later⟩ | ⟨middle, rfl, later⟩
  · rcases second _ _ _ later pid touched with old | new
    · rcases List.mem_append.1 old with old | new
      · exact .inl old
      · exact .inr (by simp [new])
    · exact .inr (by simp [new])
  · cases middle with
    | nil =>
      rcases second [] e after later.symm pid touched with old | new
      · simpa using old
      · cases new
    | cons d middle =>
      obtain ⟨rfl, rfl⟩ := List.cons.inj later
      exact first _ _ _ rfl pid touched

theorem Backed.mono {known more : List Pid} {es : List Event} (backed : Backed known es)
    (within : known ⊆ more) : Backed more es := by
  intro before e after split pid touched
  exact (backed before e after split pid touched).imp (fun old => within old) id

theorem backed_of_forall {known : List Pid} {es : List Event}
    (all : ∀ e ∈ es, ∀ pid, e.touched? = some pid → pid ∈ known) : Backed known es := by
  rintro before e after rfl pid touched
  exact .inl (all e (by simp) pid touched)

theorem Plan.Launched.backed {plan : Plan} {es : List Event} (launched : plan.Launched es)
    (known : List Pid) : Backed known es := by
  refine backed_of_forall fun e member pid touched => ?_
  rcases launched.only e member with ⟨_, _, rfl⟩ | ⟨_, rfl⟩ <;> cases touched

theorem Turn.Moves.backed {turn : Turn} {table next : JobTable} (move : turn.Moves table next) :
    Backed table.pids turn.dealings := by
  cases move with
  | idle => exact backed_of_forall (by simp)
  | exit launched => exact launched.backed _
  | background launched => exact launched.backed _
  | foreground launched _ _ waited waits =>
    refine (launched.backed _).append (backed_of_forall fun e member pid touched => ?_)
    refine List.mem_append_right _ (waited ▸ List.mem_filterMap.2 ⟨e, member, ?_⟩)
    obtain ⟨_, _, rfl⟩ := waits e member
    exact touched
  | reap asks =>
    refine backed_of_forall fun e member pid touched => ?_
    refine table.running_sublist.subset ?_
    obtain ⟨asked, answer, rfl⟩ := asks.polls e member
    obtain rfl : asked = pid := Option.some.inj touched
    rw [JobTable.running, ← asks.polled]
    exact List.mem_map.2 ⟨(asked, answer), List.mem_filterMap.2 ⟨_, member, rfl⟩, rfl⟩

/-! ## Runs -/

namespace Runs
variable {turns : List Turn} {table last : JobTable}

theorem split {before after : List Turn} {turn : Turn}
    (run : Runs table (before ++ turn :: after) last) :
    ∃ middle next, Runs table before middle ∧ turn.Moves middle next ∧ Runs next after last := by
  induction before generalizing table with
  | nil =>
    cases run with
    | cons move rest => exact ⟨_, _, .nil, move, rest⟩
  | cons first before ih =>
    cases run with
    | cons move rest =>
      obtain ⟨middle, next, begun, here, ended⟩ := ih rest
      exact ⟨middle, next, .cons move begun, here, ended⟩

theorem backed (run : Runs table turns last) :
    Backed table.pids (turns.flatMap Turn.dealings) := by
  induction run with
  | nil => exact backed_of_forall (by simp)
  | cons move _ ih =>
    rw [List.flatMap_cons]
    refine move.backed.append (ih.mono fun pid member => ?_)
    exact List.mem_append.2 (move.mem_pids member)

theorem mem_pids (run : Runs table turns last) {pid : Pid} (member : pid ∈ last.pids) :
    pid ∈ table.pids ∨ pid ∈ turns.flatMap Turn.started := by
  induction run with
  | nil => exact .inl member
  | cons move _ ih =>
    rw [List.flatMap_cons, List.mem_append]
    rcases ih member with old | new
    · exact (move.mem_pids old).imp id .inl
    · exact .inr (.inr new)

theorem nodup (run : Runs table turns last) {later : List Pid}
    (fresh : (table.pids ++ (turns.flatMap Turn.started ++ later)).Nodup) :
    (last.pids ++ later).Nodup := by
  induction run with
  | nil => simpa using fresh
  | cons move _ ih =>
    refine ih (move.nodup ?_)
    simpa using fresh

theorem jobs (run : Runs table turns last) :
    ((turns.flatMap Turn.reported ++ last.jobs).map Job.pids).Perm
      (table.jobs.map Job.pids ++ (turns.filter Turn.left).map Turn.started) := by
  induction run with
  | nil => simp
  | @cons table next last turn turns move _ ih =>
    have step := move.jobs
    rw [List.flatMap_cons, List.append_assoc, List.map_append]
    rw [List.map_append] at step
    refine (ih.append_left _).trans ?_
    rw [← List.append_assoc]
    refine (step.append_right _).trans ?_
    rw [List.append_assoc, List.filter_cons]
    split <;> simp

theorem waited_subset (run : Runs table turns last) :
    turns.flatMap Turn.waited ⊆ turns.flatMap Turn.started := by
  induction run with
  | nil => simp
  | cons move _ ih =>
    rw [List.flatMap_cons, List.flatMap_cons]
    refine List.append_subset.2 ⟨?_, List.Subset.trans ih (List.subset_append_right _ _)⟩
    rw [move.waited]
    split <;> simp

theorem not_polled (run : Runs table turns last) {pid : Pid} (idle : pid ∉ table.running)
    (other : pid ∉ turns.flatMap Turn.started) :
    pid ∉ (turns.flatMap Turn.polled).map Prod.fst := by
  induction run with
  | nil => simp
  | cons move _ ih =>
    rw [List.flatMap_cons, List.mem_append, not_or] at other
    rw [List.flatMap_cons, List.map_append, List.mem_append, not_or]
    rcases move.polled with ⟨silent, same⟩ | ⟨-, asked, left⟩
    · rw [silent]
      exact ⟨by simp, ih (mt (same pid other.1).1 idle) other.2⟩
    · rw [asked]
      refine ⟨idle, ih (fun member => idle ?_) other.2⟩
      rw [← asked]
      rw [left] at member
      exact (List.filter_sublist.map _).subset member

theorem polled_nodup (run : Runs table turns last)
    (fresh : (table.pids ++ turns.flatMap Turn.started).Nodup) :
    ∀ turn ∈ turns, (turn.polled.map Prod.fst).Nodup := by
  induction run with
  | nil => simp
  | @cons table next last turn turns move _ ih =>
    rw [List.flatMap_cons] at fresh
    rintro t (_ | ⟨_, later⟩)
    · rcases move.polled with ⟨silent, -⟩ | ⟨-, asked, -⟩
      · simp [silent]
      · rw [asked]
        exact (fresh.of_append_left).sublist table.running_sublist
    · exact ih (move.nodup fresh) t later

end Runs

def answers (pid : Pid) (polled : List (Pid × Except Fault (Option Int))) :
    List (Except Fault (Option Int)) :=
  (polled.filter (·.1 = pid)).map Prod.snd

theorem answers_append (pid : Pid) (xs ys : List (Pid × Except Fault (Option Int))) :
    answers pid (xs ++ ys) = answers pid xs ++ answers pid ys := by
  simp [answers]

theorem answers_eq_nil {pid : Pid} {polled : List (Pid × Except Fault (Option Int))}
    (unasked : pid ∉ polled.map Prod.fst) : answers pid polled = [] := by
  rw [answers, List.filter_eq_nil_iff.2, List.map_nil]
  intro asked member
  simp only [decide_eq_true_eq]
  rintro rfl
  exact unasked (List.mem_map.2 ⟨asked, member, rfl⟩)

theorem answers_eq_singleton {pid : Pid} {polled : List (Pid × Except Fault (Option Int))}
    (nodup : (polled.map Prod.fst).Nodup) (member : pid ∈ polled.map Prod.fst) :
    ∃ answer, answers pid polled = [answer] ∧
      (pid ∈ (polled.filter (stillRuns ·.2)).map Prod.fst ↔ stillRuns answer) := by
  induction polled with
  | nil => cases member
  | cons asked rest ih =>
    obtain ⟨first, answer⟩ := asked
    rw [List.map_cons, List.nodup_cons] at nodup
    by_cases here : first = pid
    · subst here
      have alone := answers_eq_nil nodup.1
      have gone : first ∉ (rest.filter (stillRuns ·.2)).map Prod.fst :=
        fun member => nodup.1 ((List.filter_sublist.map _).subset member)
      refine ⟨answer, ?_, ?_⟩
      · rw [answers] at alone ⊢
        simp [alone]
      · rw [List.filter_cons]
        split <;> simp_all
    · have later : pid ∈ rest.map Prod.fst := by simpa [Ne.symm here] using member
      obtain ⟨answer', eq, runs⟩ := ih nodup.2 later
      refine ⟨answer', ?_, ?_⟩
      · rw [answers] at eq ⊢
        rw [List.filter_cons_of_neg (by simpa using here), eq]
      · rw [← runs, List.filter_cons]
        split <;> simp [Ne.symm here]

namespace Runs
variable {turns : List Turn} {table last : JobTable}

theorem answers_dropLast (run : Runs table turns last) (pid : Pid)
    (fresh : (table.pids ++ turns.flatMap Turn.started).Nodup)
    (other : pid ∉ turns.flatMap Turn.started) :
    ∀ answer ∈ (answers pid (turns.flatMap Turn.polled)).dropLast, stillRuns answer := by
  induction run with
  | nil => simp [answers]
  | @cons table next last turn turns move rest ih =>
    rw [List.flatMap_cons] at fresh other
    rw [List.mem_append, not_or] at other
    rw [List.flatMap_cons, answers_append]
    have later := ih (move.nodup fresh) other.2
    by_cases member : pid ∈ turn.polled.map Prod.fst
    · rcases move.polled with ⟨silent, -⟩ | ⟨-, asked, left⟩
      · rw [silent] at member
        cases member
      · have once : (turn.polled.map Prod.fst).Nodup := by
          rw [asked]
          exact (fresh.of_append_left).sublist table.running_sublist
        obtain ⟨answer, eq, runs⟩ := answers_eq_singleton once member
        rw [← left] at runs
        rw [eq]
        by_cases ended : stillRuns answer
        · rw [List.singleton_append]
          cases more : answers pid (turns.flatMap Turn.polled) with
          | nil => simp
          | cons => simpa [more, ended] using later
        · rw [answers_eq_nil (rest.not_polled (mt runs.1 ended) other.2)]
          simp
    · rw [answers_eq_nil member]
      exact later

end Runs

/-! ## The books -/

theorem stillRuns_iff {answer : Except Fault (Option Int)} :
    stillRuns answer ↔ answer = .ok none := by
  rcases answer with _ | (_ | _) <;> simp [stillRuns, Ending.ofAnswer]

def allJobs (turns : List Turn) (table : JobTable) : List Job :=
  turns.flatMap Turn.reported ++ table.jobs

/-- What becomes of a process that a call of a run has started. -/
structure Turn.Accounts (turns : List Turn) (table : JobTable) (turn : Turn) (pid : Pid) :
    Prop where
  order : ∃ plan, turn.plan = some plan ∧ turn.launches.map Launch.argv =
    (plan.stages.filter fun stage => !stage.kind.isBuiltin).map Stage.argv
  foreground : turn.exited = false → turn.background = false →
    turn.waited = turn.started ∧ (turns.flatMap Turn.waited).count pid = 1 ∧
    pid ∉ (turns.flatMap Turn.polled).map Prod.fst ∧ ∀ job ∈ allJobs turns table, pid ∉ job.pids
  background : turn.exited = false → turn.background = true →
    pid ∉ turns.flatMap Turn.waited ∧
    ((allJobs turns table).filter (pid ∈ ·.pids)).map Job.pids = [turn.started] ∧
    (∀ t ∈ turns, (t.polled.map Prod.fst).count pid ≤ 1) ∧
    ∀ answer ∈ (answers pid (turns.flatMap Turn.polled)).dropLast, answer = .ok none
  exit : turn.exited = true →
    pid ∉ turns.flatMap Turn.waited ∧ pid ∉ (turns.flatMap Turn.polled).map Prod.fst ∧
    ∀ job ∈ allJobs turns table, pid ∉ job.pids

namespace Turn.Moves
variable {turn : Turn} {table next : JobTable} {pid : Pid}

theorem of_started (move : turn.Moves table next) (member : pid ∈ turn.started) :
    (∃ plan, turn.plan = some plan ∧ turn.launches.map Launch.argv =
      (plan.stages.filter fun stage => !stage.kind.isBuiltin).map Stage.argv) ∧
    turn.left = (!turn.exited && turn.background) ∧ turn.polled = [] := by
  cases move with
  | idle => cases member
  | exit launched => exact ⟨⟨_, rfl, launched.launches⟩, by simp [Turn.left, Turn.exited], launched.polled⟩
  | background launched apart =>
    exact ⟨⟨_, rfl, launched.launches⟩, by simp [Turn.left, Turn.exited, Turn.background, apart],
      launched.polled⟩
  | foreground launched here finishes waited waits =>
    obtain ⟨-, polled, launches⟩ := started_of_waits waits
    refine ⟨⟨_, rfl, ?_⟩, ?_, ?_⟩
    · rw [← launched.launches]
      simp [Turn.launches, launches]
    · cases finishes <;> simp [Turn.left, Turn.background, here]
    · simp [Turn.polled, launched.polled, polled]
  | reap asks =>
    rw [Turn.started, (started_of_polls asks.polls).1] at member
    cases member

end Turn.Moves

theorem filter_mem_middle {pid : Pid} {before after : List Turn} {turn : Turn}
    (member : pid ∈ turn.started) (others : ∀ t ∈ before ++ after, pid ∉ t.started) :
    (((before ++ turn :: after).filter Turn.left).map Turn.started).filter (pid ∈ ·) =
      if turn.left then [turn.started] else [] := by
  have apart : ∀ ts ⊆ before ++ after,
      ((ts.filter Turn.left).map Turn.started).filter (pid ∈ ·) = [] := by
    intro ts within
    rw [List.filter_eq_nil_iff]
    intro pids mem
    obtain ⟨t, kept, rfl⟩ := List.mem_map.1 mem
    simpa using others t (within (List.mem_filter.1 kept).1)
  rw [List.filter_append, List.map_append, List.filter_append,
    apart before (List.subset_append_left _ _), List.nil_append, List.filter_cons]
  have rest := apart after (List.subset_append_right _ _)
  split <;> simp [rest, member]

namespace Runs
variable {before after : List Turn} {turn : Turn} {last : JobTable} {pid : Pid}

theorem apart (fresh : ((before ++ turn :: after).flatMap Turn.started).Nodup)
    (member : pid ∈ turn.started) :
    pid ∉ before.flatMap Turn.started ∧ pid ∉ after.flatMap Turn.started := by
  rw [List.flatMap_append, List.flatMap_cons] at fresh
  constructor
  · intro mem
    exact (List.nodup_append.1 fresh).2.2 pid mem pid (List.mem_append_left _ member) rfl
  · intro mem
    exact (List.nodup_append.1 fresh.of_append_right).2.2 pid member pid mem rfl

theorem jobs_of (run : Runs {} (before ++ turn :: after) last) (member : pid ∈ turn.started)
    (fresh : ((before ++ turn :: after).flatMap Turn.started).Nodup) :
    ((allJobs (before ++ turn :: after) last).filter (pid ∈ ·.pids)).map Job.pids =
      if turn.left then [turn.started] else [] := by
  obtain ⟨notBefore, notAfter⟩ := apart fresh member
  have all := run.jobs.filter (pid ∈ ·)
  rw [List.filter_map] at all
  have others : ∀ t ∈ before ++ after, pid ∉ t.started := by
    intro t mem started
    rcases List.mem_append.1 mem with mem | mem
    · exact notBefore (List.mem_flatMap.2 ⟨t, mem, started⟩)
    · exact notAfter (List.mem_flatMap.2 ⟨t, mem, started⟩)
  rw [List.map_nil, List.nil_append, filter_mem_middle member others] at all
  revert all
  cases turn.left with
  | true => exact List.perm_singleton.1
  | false => exact List.perm_nil.1

theorem count_waited (run : Runs {} (before ++ turn :: after) last) (member : pid ∈ turn.started)
    (fresh : ((before ++ turn :: after).flatMap Turn.started).Nodup) :
    ((before ++ turn :: after).flatMap Turn.waited).count pid = turn.waited.count pid := by
  obtain ⟨notBefore, notAfter⟩ := apart fresh member
  obtain ⟨middle, next, begun, -, ended⟩ := run.split
  have former : pid ∉ before.flatMap Turn.waited := fun mem => notBefore (begun.waited_subset mem)
  have later : pid ∉ after.flatMap Turn.waited := fun mem => notAfter (ended.waited_subset mem)
  rw [List.flatMap_append, List.flatMap_cons, List.count_append, List.count_append,
    List.count_eq_zero_of_not_mem former, List.count_eq_zero_of_not_mem later]
  omega

theorem unasked (run : Runs {} (before ++ turn :: after) last) (member : pid ∈ turn.started)
    (fresh : ((before ++ turn :: after).flatMap Turn.started).Nodup) (alone : turn.left = false) :
    pid ∉ ((before ++ turn :: after).flatMap Turn.polled).map Prod.fst ∧
    ∀ job ∈ allJobs (before ++ turn :: after) last, pid ∉ job.pids := by
  obtain ⟨notBefore, notAfter⟩ := apart fresh member
  obtain ⟨middle, next, begun, move, ended⟩ := run.split
  obtain ⟨-, -, silent⟩ := move.of_started member
  have jobs := run.jobs_of member fresh
  have kept := move.pids
  rw [alone] at jobs kept
  constructor
  · have former := begun.not_polled (by simp [JobTable.running]) notBefore
    have idle : pid ∉ next.running := by
      intro mem
      have known : pid ∈ middle.pids := by
        simpa using kept.subset (List.mem_append_right _ (next.running_sublist.subset mem))
      exact (begun.mem_pids known).elim (fun member => by cases member) notBefore
    have later := ended.not_polled idle notAfter
    rw [List.flatMap_append, List.flatMap_cons, silent, List.nil_append, List.map_append,
      List.mem_append, not_or]
    exact ⟨former, later⟩
  · intro job mem within
    have other := List.filter_eq_nil_iff.1 (List.map_eq_nil_iff.1 jobs) job mem
    exact other (by simpa using within)

theorem answers_of (run : Runs {} (before ++ turn :: after) last) (member : pid ∈ turn.started)
    (fresh : ((before ++ turn :: after).flatMap Turn.started).Nodup) :
    ∀ answer ∈ (answers pid ((before ++ turn :: after).flatMap Turn.polled)).dropLast,
      answer = .ok none := by
  obtain ⟨notBefore, notAfter⟩ := apart fresh member
  obtain ⟨middle, next, begun, move, ended⟩ := run.split
  obtain ⟨-, -, silent⟩ := move.of_started member
  have nodup : (({} : JobTable).pids ++ (before ++ turn :: after).flatMap Turn.started).Nodup := fresh
  have former := begun.not_polled (by simp [JobTable.running]) notBefore
  have later := ended.answers_dropLast pid (move.nodup (begun.nodup (by simpa using nodup))) notAfter
  rw [List.flatMap_append, List.flatMap_cons, silent, List.nil_append, answers_append,
    answers_eq_nil former, List.nil_append]
  exact fun answer mem => stillRuns_iff.1 (later answer mem)

theorem accounts (run : Runs {} (before ++ turn :: after) last)
    (fresh : ((before ++ turn :: after).flatMap Turn.started).Nodup) (member : pid ∈ turn.started) :
    turn.Accounts (before ++ turn :: after) last pid := by
  obtain ⟨middle, next, -, move, -⟩ := run.split
  obtain ⟨plan, left, -⟩ := move.of_started member
  have count := run.count_waited member fresh
  have unwaited (idle : turn.waited = []) :
      pid ∉ (before ++ turn :: after).flatMap Turn.waited := by
    rw [idle, List.count_nil] at count
    exact List.count_eq_zero.1 count
  refine ⟨plan, fun stayed here => ?_, fun stayed background => ?_, fun exited => ?_⟩
  · obtain ⟨unasked, unowned⟩ := run.unasked member fresh (by simp [left, here])
    have own : turn.waited = turn.started := by simp [move.waited, stayed, here]
    have once : turn.started.Nodup := by
      rw [List.flatMap_append, List.flatMap_cons] at fresh
      exact fresh.of_append_right.of_append_left
    refine ⟨own, ?_, unasked, unowned⟩
    rw [count, own, List.count_eq_one_of_mem once member]
  · have jobs := run.jobs_of member fresh
    rw [left, stayed, background] at jobs
    refine ⟨unwaited (by simp [move.waited, background]), jobs, fun t mem => ?_,
      run.answers_of member fresh⟩
    exact List.nodup_iff_count_le_one.1 (run.polled_nodup fresh t mem) pid
  · obtain ⟨unasked, unowned⟩ := run.unasked member fresh (by simp [left, exited])
    exact ⟨unwaited (by simp [move.waited, exited]), unasked, unowned⟩

end Runs

/-- Over every run of an executor, whatever its host answers: if no process number is given out twice,
each process that is started has one fate, which the ending of its line decides, and no process is
waited for or asked after that was not started before. -/
theorem serveAll_accounts {σ : Type} (host : Host σ) (calls : List (Call σ))
    (fresh : ((serveAll host calls {}).1.flatMap Turn.started).Nodup) :
    (∀ turn ∈ (serveAll host calls {}).1, ∀ pid ∈ turn.started,
      turn.Accounts (serveAll host calls {}).1 (serveAll host calls {}).2 pid) ∧
    ∀ before e after, (serveAll host calls {}).1.flatMap Turn.dealings = before ++ e :: after →
      ∀ pid, e.touched? = some pid → pid ∈ before.filterMap Event.started? := by
  have run := serveAll_runs host calls {}
  refine ⟨fun turn mem pid member => ?_, fun before e after split pid touched => ?_⟩
  · obtain ⟨before, after, split⟩ := List.append_of_mem mem
    rw [split] at run fresh ⊢
    exact run.accounts fresh member
  · exact (run.backed before e after split pid touched).resolve_left (by simp [JobTable.pids])

def threeCalls : List (Call ScriptedHost) :=
  let line (background : Bool) : Line := ⟨#[{ text := some "cat", background }], some 0, some 0⟩
  let process (pid : Pid) : ScriptedProcess := ⟨pid, {}, none, 0⟩
  [⟨.execute (line false), {}, {}⟩,
    ⟨.execute (line true), { processes := [process 1001] }, {}⟩,
    ⟨.reap, { processes := [process 1001, process 1002] }, {}⟩]

theorem serveAll_accounts_threeCalls :
    ((serveAll ScriptedHost.host threeCalls {}).1.flatMap Turn.started).Nodup ∧
    ∀ turn ∈ (serveAll ScriptedHost.host threeCalls {}).1, ∀ pid ∈ turn.started,
      turn.Accounts (serveAll ScriptedHost.host threeCalls {}).1
        (serveAll ScriptedHost.host threeCalls {}).2 pid := by
  have started : (serveAll ScriptedHost.host threeCalls {}).1.flatMap Turn.started =
      [1001, 1002] := by
    decide +kernel
  have fresh : ((serveAll ScriptedHost.host threeCalls {}).1.flatMap Turn.started).Nodup := by
    rw [started]
    decide
  exact ⟨fresh, (serveAll_accounts ScriptedHost.host threeCalls fresh).1⟩

end PipeShell
