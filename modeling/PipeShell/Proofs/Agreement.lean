import PipeShell.Host.Scripted
import PipeShell.Proofs.Numbering

/-!
# Foreground and background agree

A plan does the same to processes and surroundings whether the shell waits for it or leaves it to
itself. The status that waiting gives comes from the answers of all processes in turn, the status of a
job from what is learnt of them in any order over many calls; both are the status of the last stage
(`getLast?_statuses`, `Job.Follows.status_eq`).
-/

namespace PipeShell

/-! ## What a line does before its ending -/

namespace Session
variable {σ : Type}

theorem waitAll_frame (host : Host σ)
    (stays : ∀ pid state w, (host.wait pid state w).world.here = w.here) (stages : List Settled)
    (s : Session σ) :
    (s.waitAll host stages).2.2.symbols = s.symbols ∧
    (s.waitAll host stages).2.2.settings = s.settings ∧
    (s.waitAll host stages).2.2.world.here = s.world.here := by
  induction stages generalizing s with
  | nil => exact ⟨rfl, rfl, rfl⟩
  | cons first rest ih =>
    cases first with
    | ended status => exact ih s
    | process pid =>
      have kept : (s.wait host pid).2.symbols = s.symbols ∧
          (s.wait host pid).2.settings = s.settings ∧
          (s.wait host pid).2.world.here = s.world.here := ⟨rfl, rfl, stays pid s.host s.world⟩
      rw [waitAll]
      generalize s.wait host pid = answered at kept ⊢
      rcases answered with ⟨cause | status, s'⟩
      · obtain ⟨symbols, settings, here⟩ := ih (s'.note (.waitFailed pid cause))
        exact ⟨symbols.trans kept.1, settings.trans kept.2.1, here.trans kept.2.2⟩
      · obtain ⟨symbols, settings, here⟩ := ih s'
        exact ⟨symbols.trans kept.1, settings.trans kept.2.1, here.trans kept.2.2⟩

end Session

/-! ## The status of a line -/

theorem getLast?_statuses (code : Pid → Int) (stages : List Settled) :
    (stages.map (Settled.status code)).getLast?.getD 0 =
      (stages.getLast?.bind Settled.status?).getD
        (((stages.filterMap Settled.pid?).getLast?.map code).getD 0) := by
  rcases List.eq_nil_or_concat stages with rfl | ⟨init, last, rfl⟩
  · rfl
  · rw [List.concat_eq_append]
    cases last <;> simp [List.filterMap_append, Settled.status, Settled.status?, Settled.pid?]

/-- The job that is left of a line: what is learnt of its processes are their codes. -/
structure Job.Follows (code : Pid → Int) (pids : List Pid) (known : Option Int) (job : Job) :
    Prop where
  pids_eq : job.pids = pids
  known_eq : job.known = known
  endings : ∀ m ∈ job.members, ∀ ending, m.ending = some ending → ending = .status (code m.pid)

namespace Job.Follows
variable {code : Pid → Int} {pids : List Pid} {known : Option Int} {job : Job}

theorem status_eq (follows : job.Follows code pids known) (closed : job.isOver) :
    job.status = known.getD ((pids.getLast?.map code).getD 0) := by
  rw [Job.status, follows.known_eq, ← follows.pids_eq, Job.pids, List.getLast?_map]
  cases known with
  | some status => rfl
  | none =>
    cases final : job.members.getLast? with
    | none => rfl
    | some m =>
      have member := List.mem_of_getLast? final
      obtain ⟨ending, ended⟩ := Option.isSome_iff_exists.1 (List.all_eq_true.1 closed m member)
      simp [ended, follows.endings m member ending ended, Ending.code?]

end Job.Follows

structure Job.Becomes (es : List Event) (job job' : Job) : Prop where
  pids_eq : job'.pids = job.pids
  known_eq : job'.known = job.known
  learnt : ∀ m ∈ job'.members, m ∈ job.members ∨
    ∃ answer, .polled m.pid answer ∈ es ∧ m.ending = Ending.ofAnswer answer

namespace Job.Becomes
variable {es fs : List Event} {job job' job'' : Job}

theorem refl (es : List Event) (job : Job) : job.Becomes es job := ⟨rfl, rfl, fun _ => .inl⟩

theorem trans (first : job.Becomes es job') (second : job'.Becomes fs job'') :
    job.Becomes (es ++ fs) job'' where
  pids_eq := second.pids_eq.trans first.pids_eq
  known_eq := second.known_eq.trans first.known_eq
  learnt := by
    intro m member
    rcases second.learnt m member with old | ⟨answer, polled, ending⟩
    · refine (first.learnt m old).imp_right ?_
      rintro ⟨answer, polled, ending⟩
      exact ⟨answer, List.mem_append_left fs polled, ending⟩
    · exact .inr ⟨answer, List.mem_append_right es polled, ending⟩

theorem asked {ms : List Member} (asks : Member.Asked job.members fs ms) (within : fs ⊆ es) :
    job.Becomes es { job with members := ms } where
  pids_eq := asks.pids
  known_eq := rfl
  learnt := by
    intro m' member
    obtain ⟨m, old, same, rfl | ⟨answer, polled, ending⟩⟩ := asks.ending member
    · exact .inl old
    · exact .inr ⟨answer, within (same ▸ polled), ending⟩

theorem follows {code : Pid → Int} {pids : List Pid} {known : Option Int}
    (becomes : job.Becomes es job') (follows : job.Follows code pids known)
    (told : ∀ pid ∈ pids, ∀ answer, .polled pid answer ∈ es →
      answer = .ok none ∨ answer = .ok (some (code pid))) : job'.Follows code pids known where
  pids_eq := becomes.pids_eq.trans follows.pids_eq
  known_eq := becomes.known_eq.trans follows.known_eq
  endings := by
    intro m member ending ended
    rcases becomes.learnt m member with old | ⟨answer, polled, learnt⟩
    · exact follows.endings m old ending ended
    · have within : m.pid ∈ pids :=
        (becomes.pids_eq.trans follows.pids_eq) ▸ List.mem_map.2 ⟨m, member, rfl⟩
      rw [learnt] at ended
      rcases told m.pid within answer polled with rfl | rfl
      · cases ended
      · exact (Option.some.inj ended).symm

end Job.Becomes

theorem Turn.Moves.becomes {turn : Turn} {table next : JobTable} {index : Nat} {job : Job}
    (move : turn.Moves table next) (only : table.jobs.filter (·.index = index) = [job]) :
    ∃ job', job.Becomes turn.dealings job' ∧
      ((∀ j ∈ turn.reported, j.index ≠ index) → next.jobs.filter (·.index = index) = [job']) ∧
      ∀ j ∈ turn.reported, j.index = index → j = job' ∧ j.isOver := by
  cases move with
  | idle => exact ⟨job, .refl _ job, fun _ => only, by simp⟩
  | exit => exact ⟨job, .refl _ job, fun _ => only, by simp⟩
  | foreground => exact ⟨job, .refl _ job, fun _ => only, by simp⟩
  | background =>
    have member := List.mem_filter.1 (only ▸ List.mem_singleton_self job)
    have taken : index ≠ table.freeIndex :=
      of_decide_eq_true member.2 ▸ table.freeIndex_free job member.1
    exact ⟨job, .refl _ job, fun _ => (table.filter_add_of_ne taken _ _ _).trans only, by simp⟩
  | reap asks =>
    obtain ⟨fs, within, asked⟩ := asks.filter_index index
    rw [only] at asked
    obtain ⟨ms, members, rest⟩ := asked.singleton
    refine ⟨_, .asked members within, fun silent => ?_, fun j member same => ?_⟩
    · have here := List.mem_filter.1 (rest ▸ List.mem_singleton_self { job with members := ms })
      have running : ¬Job.isOver { job with members := ms } := fun closed =>
        silent _ (List.mem_filter.2 ⟨here.1, closed⟩) (of_decide_eq_true here.2)
      rw [List.filter_comm, rest, List.filter_cons_of_pos (by simpa using running), List.filter_nil]
    · obtain ⟨member, closed⟩ := List.mem_filter.1 member
      have here : j ∈ [{ job with members := ms }] := by
        rw [← rest]
        exact List.mem_filter.2 ⟨member, decide_eq_true same⟩
      exact ⟨List.mem_singleton.1 here, closed⟩

theorem Runs.becomes {turns before after : List Turn} {turn : Turn} {table last : JobTable}
    {index : Nat} {job : Job} (run : Runs table turns last)
    (split : turns = before ++ turn :: after)
    (only : table.jobs.filter (·.index = index) = [job])
    (kept : ∀ t ∈ before, ∀ j ∈ t.reported, j.index ≠ index) :
    ∀ j ∈ turn.reported, j.index = index →
      job.Becomes ((before ++ [turn]).flatMap Turn.dealings) j ∧ j.isOver := by
  induction before generalizing turns table job with
  | nil =>
    obtain rfl := split
    cases run with
    | cons move _ =>
      obtain ⟨job', becomes, -, handedOut⟩ := move.becomes only
      intro j member number
      obtain ⟨rfl, closed⟩ := handedOut j member number
      exact ⟨by simpa using becomes, closed⟩
  | cons first before ih =>
    obtain rfl := split
    cases run with
    | cons move rest =>
      obtain ⟨job', becomes, next, -⟩ := move.becomes only
      intro j member number
      obtain ⟨later, closed⟩ := ih rest rfl (next (kept first List.mem_cons_self))
        (fun t within => kept t (List.mem_cons_of_mem first within)) j member number
      exact ⟨becomes.trans later, closed⟩

def JobTable.Tracks (table : JobTable) (index : Nat) (code : Pid → Int) (pids : List Pid)
    (known : Option Int) : Prop :=
  ∃ job, table.jobs.filter (·.index = index) = [job] ∧ job.Follows code pids known

theorem JobTable.Tracks.handedOut {σ : Type} (host : Host σ) {table : JobTable} {index : Nat}
    {code : Pid → Int} {stages : List Settled}
    (tracks : table.Tracks index code (stages.filterMap Settled.pid?)
      (stages.getLast?.bind Settled.status?)) :
    ∃ job, table.jobs.filter (·.index = index) = [job] ∧
      job.pids = stages.filterMap Settled.pid? ∧
      ∀ calls before turn after, (serveAll host calls table).1 = before ++ turn :: after →
        (∀ t ∈ before, ∀ j ∈ t.reported, j.index ≠ index) →
        (∀ t ∈ before ++ [turn], ∀ pid ∈ job.pids, ∀ answer, .polled pid answer ∈ t.dealings →
          answer = .ok none ∨ answer = .ok (some (code pid))) →
        ∀ j ∈ turn.reported, j.index = index → j.pids = job.pids ∧
          j.status = (stages.map (Settled.status code)).getLast?.getD 0 := by
  obtain ⟨job, one, follows⟩ := tracks
  refine ⟨job, one, follows.pids_eq, ?_⟩
  intro calls before turn after split kept told j member number
  rw [follows.pids_eq] at told
  obtain ⟨becomes, closed⟩ := (serveAll_runs host calls table).becomes split one kept j member number
  have followed := becomes.follows follows fun pid within answer polled => by
    obtain ⟨t, mem, polled⟩ := List.mem_flatMap.1 polled
    exact told t mem pid within answer polled
  refine ⟨becomes.pids_eq, ?_⟩
  rw [followed.status_eq closed, getLast?_statuses]

/-! ## Agreement -/

namespace Session
variable {σ : Type}

def since (s s' : Session σ) : List Event := s'.dealings.drop s.dealings.length

theorem since_eq {s s' : Session σ} {es : List Event} (dealings : s'.dealings = s.dealings ++ es) :
    s.since s' = es := by
  rw [since, dealings, List.drop_left]

theorem conclude_exit (host : Host σ) (plan : Plan) (failures : List Fault)
    {results : BuiltinResults} {code : Int} (s : Session σ) (leaves : results.exit = some code) :
    s.conclude host plan failures results = (.ok ⟨.exit code, failures⟩, s) := by
  simp only [conclude, leaves]

theorem conclude_foreground (host : Host σ) (plan : Plan) (failures : List Fault)
    {results : BuiltinResults} (s : Session σ) (code : Pid → Int) (stays : results.exit = none)
    (here : plan.background = false) :
    ∃ es, (s.conclude host plan failures results).2.dealings = s.dealings ++ es ∧
      (∀ e ∈ es, ∃ pid answer, e = .waited pid answer) ∧
      ((∀ pid answer, .waited pid answer ∈ es → answer = .ok (code pid)) →
        (s.conclude host plan failures results).1 =
          .ok ⟨.finished ((results.settled.map (Settled.status code)).getLast?.getD 0),
            failures⟩) := by
  obtain ⟨-, es, dealings, -, waits, statuses⟩ := waitAll_spec host results.settled s
  have noted := OnlyReports.note (s.waitAll host results.settled).2.2 (.phase .running .waited)
  refine ⟨es, ?_, waits, fun told => ?_⟩
  · simp only [conclude, stays, here]
    cases (s.waitAll host results.settled).2.1 <;> exact noted.dealings.trans dealings
  · obtain ⟨statuses, unfailed⟩ := statuses code told
    simp only [conclude, stays, here, Bool.false_eq_true, if_false, unfailed, statuses]

theorem conclude_background (host : Host σ) (plan : Plan) (failures : List Fault)
    {results : BuiltinResults} (s : Session σ) (code : Pid → Int) (stays : results.exit = none)
    (apart : plan.background = true) :
    (s.conclude host plan failures results).2.dealings = s.dealings ∧
    (s.conclude host plan failures results).1 = .ok ⟨.background s.jobs.freeIndex, failures⟩ ∧
    (s.conclude host plan failures results).2.jobs.Tracks s.jobs.freeIndex code
      (results.settled.filterMap Settled.pid?)
      (results.settled.getLast?.bind Settled.status?) := by
  obtain ⟨index, jobs, dealings⟩ := addJob_spec plan.describe results.settled s
  have noted := OnlyReports.note (s.addJob plan.describe results.settled).2 (.phase .running .collected)
  simp only [conclude, stays, apart, if_true]
  refine ⟨noted.dealings.trans dealings, by rw [index], ?_⟩
  rw [noted.jobs, jobs]
  refine ⟨_, s.jobs.filter_add_self _ _ _, Job.pids_new .., rfl, ?_⟩
  intro m member ending ended
  obtain ⟨pid, -, rfl⟩ := List.mem_map.1 member
  cases ended

theorem conclude_frame (host : Host σ)
    (still : ∀ pid state w, (host.wait pid state w).world.here = w.here) (plan : Plan)
    (failures : List Fault) (results : BuiltinResults) (s : Session σ) :
    (s.conclude host plan failures results).2.symbols = s.symbols ∧
    (s.conclude host plan failures results).2.settings = s.settings ∧
    (s.conclude host plan failures results).2.world.here = s.world.here := by
  unfold conclude
  split
  · exact ⟨rfl, rfl, rfl⟩
  · split
    · exact ⟨rfl, rfl, rfl⟩
    · have frame := waitAll_frame host still results.settled s
      dsimp only
      split <;> exact frame

/-- Whatever plan is run, and whatever its host answers: in the foreground and in the background the
same programs are started with the same ends, and the same built-in commands run. The shell leaves in
both cases or in neither, and if not, the status that it waits for is the one under which the job of
the line is handed out, at whatever call and in whatever order its processes end. -/
theorem runPlan_agrees (host : Host σ) (plan : Plan) (s : Session σ) (code : Pid → Int)
    (still : ∀ pid state w, (host.wait pid state w).world.here = w.here)
    (waits : ∀ pid answer,
      .waited pid answer ∈ s.since (s.runPlan host { plan with background := false }).2 →
        answer = .ok (code pid)) :
    let fg := s.runPlan host { plan with background := false }
    let bg := s.runPlan host { plan with background := true }
    (s.since fg.2).filter (·.waited?.isNone) = s.since bg.2 ∧
    fg.2.symbols = bg.2.symbols ∧ fg.2.settings = bg.2.settings ∧
    fg.2.world.here = bg.2.world.here ∧
    (∀ fault, fg.1 = .error fault → bg.1 = .error fault ∧ bg.2.jobs = s.jobs) ∧
    (∀ left failures, fg.1 = .ok ⟨.exit left, failures⟩ →
      bg.1 = .ok ⟨.exit left, failures⟩ ∧ bg.2.jobs = s.jobs) ∧
    ∀ status failures, fg.1 = .ok ⟨.finished status, failures⟩ →
      ∃ index job, bg.1 = .ok ⟨.background index, failures⟩ ∧
        bg.2.jobs.jobs.filter (·.index = index) = [job] ∧
        job.pids = (s.since bg.2).filterMap Event.started? ∧
        ∀ calls before turn after, (serveAll host calls bg.2.jobs).1 = before ++ turn :: after →
          (∀ t ∈ before, ∀ j ∈ t.reported, j.index ≠ index) →
          (∀ t ∈ before ++ [turn], ∀ pid ∈ job.pids, ∀ answer, .polled pid answer ∈ t.dealings →
            answer = .ok none ∨ answer = .ok (some (code pid))) →
          ∀ j ∈ turn.reported, j.index = index → j.pids = job.pids ∧ j.status = status := by
  dsimp only
  rcases runPlan_cases host plan s with
    ⟨fault, s', same, jobs, dealings⟩ | ⟨wiring, s', enough, same, jobs, dealings⟩
  · rw [same true, same false]
    have nothing : s.since s' = [] := since_eq (by simp [dealings])
    refine ⟨by simp [nothing], rfl, rfl, rfl, fun fault' eq => ⟨eq, jobs⟩, by simp, by simp⟩
  · rw [same false, runWired_eq] at waits ⊢
    rw [same true, runWired_eq]
    dsimp only at waits ⊢
    obtain ⟨kept, es, more, launched, pids⟩ := launch_spec host plan enough s'
    generalize s'.launch host plan.stages wiring = l at waits kept more pids ⊢
    obtain ⟨failures, results, s₁⟩ := l
    dsimp only at waits kept more pids ⊢
    have fgFrame := conclude_frame host still { plan with background := false } failures results s₁
    have bgFrame := conclude_frame host still { plan with background := true } failures results s₁
    rw [dealings] at more
    rw [jobs] at kept
    have plain : es.filter (·.waited?.isNone) = es := by
      rw [List.filter_eq_self]
      intro e member
      rcases launched.only e member with ⟨_, _, rfl⟩ | ⟨_, rfl⟩ <;> rfl
    cases exit : results.exit with
    | some left =>
      rw [conclude_exit host _ failures s₁ exit, conclude_exit host _ failures s₁ exit, since_eq more]
      exact ⟨plain, rfl, rfl, rfl, by simp, fun _ _ eq => ⟨eq, kept⟩, by simp⟩
    | none =>
      obtain ⟨ws, fgDealings, only, finishes⟩ := conclude_foreground host
        { plan with background := false } failures s₁ code exit rfl
      obtain ⟨bgDealings, background, tracks⟩ := conclude_background host
        { plan with background := true } failures s₁ code exit rfl
      rw [more, List.append_assoc] at fgDealings
      rw [more] at bgDealings
      rw [since_eq fgDealings] at waits ⊢
      rw [since_eq bgDealings, finishes fun pid answer member =>
        waits pid answer (List.mem_append_right _ member)]
      refine ⟨?_, fgFrame.1.trans bgFrame.1.symm, fgFrame.2.1.trans bgFrame.2.1.symm,
        fgFrame.2.2.trans bgFrame.2.2.symm, by simp, by simp, ?_⟩
      · rw [List.filter_append, plain, List.filter_eq_nil_iff.2, List.append_nil]
        intro e member
        obtain ⟨_, _, rfl⟩ := only e member
        simp [Event.waited?]
      · rintro status _ ⟨⟩
        obtain ⟨job, one, own, handedOut⟩ := tracks.handedOut host
        exact ⟨_, job, background, one, own.trans pids, handedOut⟩

def twoPrograms : Plan := { stages := [⟨.program, ["cat"]⟩, ⟨.program, ["false"]⟩] }

def scripted : Session ScriptedHost := { host := { scripts := [("false", { status := 3 })] } }

theorem runPlan_agrees_twoPrograms :
    (scripted.runPlan ScriptedHost.host { twoPrograms with background := false }).1 =
        .ok ⟨.finished 3, []⟩ ∧
      ∃ index job,
        (scripted.runPlan ScriptedHost.host { twoPrograms with background := true }).1 =
          .ok ⟨.background index, []⟩ ∧ job.pids = [1001, 1002] ∧
        (scripted.runPlan ScriptedHost.host { twoPrograms with background := true }).2.jobs.jobs.filter
          (·.index = index) = [job] := by
  have told : ∀ pid answer,
      .waited pid answer ∈ scripted.since
        (scripted.runPlan ScriptedHost.host { twoPrograms with background := false }).2 →
      answer = .ok (if pid = 1002 then 3 else 0) := by
    intro pid answer member
    have events : scripted.since (scripted.runPlan ScriptedHost.host
        { twoPrograms with background := false }).2 =
          [.spawned ⟨["cat"], "", ⟨none, some (.writer 1)⟩⟩ (.ok 1001),
            .spawned ⟨["false"], "", ⟨some (.reader 1), none⟩⟩ (.ok 1002),
            .waited 1001 (.ok 0), .waited 1002 (.ok 3)] := by
      decide +kernel
    rw [events] at member
    simp only [List.mem_cons, reduceCtorEq, Event.waited.injEq, List.not_mem_nil, or_false,
      false_or] at member
    rcases member with ⟨rfl, rfl⟩ | ⟨rfl, rfl⟩ <;> rfl
  have agrees := runPlan_agrees ScriptedHost.host twoPrograms scripted
    (fun pid => if pid = 1002 then 3 else 0) (fun _ _ _ => rfl) told
  have ends : (scripted.runPlan ScriptedHost.host { twoPrograms with background := false }).1 =
      .ok ⟨.finished 3, []⟩ := by decide +kernel
  obtain ⟨index, job, background, one, pids, -⟩ := agrees.2.2.2.2.2.2 3 [] ends
  refine ⟨ends, index, job, background, pids.trans ?_, one⟩
  decide +kernel

end Session
end PipeShell
