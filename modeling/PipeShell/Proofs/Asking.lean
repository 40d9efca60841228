import PipeShell.Proofs.Dealings

/-!
# Asking after jobs

What asking after the jobs does: it asks once after each process that is not known to have ended, in
the order of the jobs, and the process has ended from then on unless the answer was that it still runs
(`reap_spec`).
-/

namespace PipeShell

def Ending.ofAnswer : Except Fault (Option Int) → Option Ending
  | .ok (some code) => some (.status code)
  | .ok none => none
  | .error _ => some .lost

inductive Member.Asked : List Member → List Event → List Member → Prop
  | nil : Asked [] [] []
  | known {m : Member} {ms ms' : List Member} {es : List Event} (ended : m.ending.isSome)
      (rest : Asked ms es ms') : Asked (m :: ms) es (m :: ms')
  | asked {m : Member} {ms ms' : List Member} {es : List Event} (running : m.ending = none)
      (answer : Except Fault (Option Int)) (rest : Asked ms es ms') :
      Asked (m :: ms) (.polled m.pid answer :: es) ({ m with ending := Ending.ofAnswer answer } :: ms')

inductive Job.Asked : List Job → List Event → List Job → Prop
  | nil : Asked [] [] []
  | cons {job : Job} {jobs jobs' : List Job} {ms : List Member} {es fs : List Event}
      (members : Member.Asked job.members es ms) (rest : Asked jobs fs jobs') :
      Asked (job :: jobs) (es ++ fs) ({ job with members := ms } :: jobs')

namespace Session
variable {σ : Type}

def watch (host : Host σ) : Watch (Session σ) := ⟨poll host, fun n s => s.note n⟩

theorem askMembers_spec (host : Host σ) (ms : List Member) (s : Session σ) :
    ∃ es, Member.Asked ms es (Member.askAll (watch host) ms s).1 ∧
      (Member.askAll (watch host) ms s).2.dealings = s.dealings ++ es := by
  induction ms generalizing s with
  | nil => exact ⟨[], .nil, by simp [Member.askAll]⟩
  | cons m ms ih =>
    simp only [Member.askAll]
    cases ending : m.ending with
    | some known =>
      obtain ⟨es, asked, dealings⟩ := ih s
      rw [Member.ask, ending]
      exact ⟨es, .known (by simp [ending]) asked, dealings⟩
    | none =>
      rcases answered : s.poll host m.pid with ⟨answer, s'⟩
      obtain ⟨-, more⟩ := poll_spec answered
      have question : (watch host).ask m.pid s = (answer, s') := answered
      rcases answer with cause | (_ | code)
      · have noted := OnlyReports.note s' (.reapFailed m.pid cause)
        obtain ⟨es, asked, dealings⟩ := ih (s'.note (.reapFailed m.pid cause))
        rw [Member.ask, ending]
        simp only [question]
        refine ⟨_, .asked ending (.error cause) asked, ?_⟩
        rw [← List.singleton_append, ← List.append_assoc, ← more, ← noted.dealings]
        exact dealings
      · obtain ⟨es, asked, dealings⟩ := ih s'
        rw [Member.ask, ending]
        simp only [question]
        have same : m = { m with ending := Ending.ofAnswer (.ok none) } := by
          cases m
          cases ending
          rfl
        refine ⟨.polled m.pid (.ok none) :: es, ?_, ?_⟩
        · have := Member.Asked.asked ending (.ok none) asked
          rwa [← same] at this
        · rw [dealings, more, List.append_assoc, List.singleton_append]
      · obtain ⟨es, asked, dealings⟩ := ih s'
        rw [Member.ask, ending]
        simp only [question]
        refine ⟨_, .asked ending (.ok (some code)) asked, ?_⟩
        rw [dealings, more, List.append_assoc, List.singleton_append]

theorem askJobs_spec (host : Host σ) (jobs : List Job) (s : Session σ) :
    ∃ es, Job.Asked jobs es (Job.askAll (watch host) jobs s).1 ∧
      (Job.askAll (watch host) jobs s).2.dealings = s.dealings ++ es := by
  induction jobs generalizing s with
  | nil => exact ⟨[], .nil, by simp [Job.askAll]⟩
  | cons job jobs ih =>
    obtain ⟨es, members, first⟩ := askMembers_spec host job.members s
    obtain ⟨fs, rest, later⟩ := ih (Member.askAll (watch host) job.members s).2
    refine ⟨es ++ fs, .cons members rest, ?_⟩
    rw [← List.append_assoc, ← first, ← later]
    rfl

theorem reap_spec (host : Host σ) (s : Session σ) :
    ∃ es jobs, Job.Asked s.jobs.jobs es jobs ∧
      (s.reap host).1 = jobs.filter Job.isOver ∧
      (s.reap host).2.jobs = ⟨jobs.filter fun job => !job.isOver⟩ ∧
      (s.reap host).2.dealings = s.dealings ++ es := by
  obtain ⟨es, asked, dealings⟩ := askJobs_spec host s.jobs.jobs s
  exact ⟨es, _, asked, rfl, rfl, dealings⟩

end Session

/-! ## What is known after asking -/

def Job.running (job : Job) : List Pid :=
  (job.members.filter (·.ending.isNone)).map Member.pid

def stillRuns (answer : Except Fault (Option Int)) : Bool := (Ending.ofAnswer answer).isNone

namespace Member.Asked
variable {ms ms' : List Member} {es : List Event}

theorem polls (asked : Asked ms es ms') : ∀ e ∈ es, ∃ pid answer, e = .polled pid answer := by
  induction asked with
  | nil => simp
  | known _ _ ih => exact ih
  | asked _ answer _ ih =>
    rintro e (_ | ⟨_, later⟩)
    · exact ⟨_, _, rfl⟩
    · exact ih e later

theorem pids (asked : Asked ms es ms') : ms'.map Member.pid = ms.map Member.pid := by
  induction asked with
  | nil => rfl
  | known _ _ ih => simp [ih]
  | asked _ _ _ ih => simp [ih]

theorem polled (asked : Asked ms es ms') :
    (es.filterMap Event.polled?).map Prod.fst = (ms.filter (·.ending.isNone)).map Member.pid := by
  induction asked with
  | nil => rfl
  | known ended _ ih =>
    rw [ih, List.filter_cons_of_neg]
    simpa [Option.isSome_iff_ne_none] using ended
  | asked running answer _ ih =>
    rw [List.filter_cons_of_pos (by simp [running])]
    simp [Event.polled?, ih]

theorem running (asked : Asked ms es ms') :
    (ms'.filter (·.ending.isNone)).map Member.pid =
      ((es.filterMap Event.polled?).filter (stillRuns ·.2)).map Prod.fst := by
  induction asked with
  | nil => rfl
  | known ended _ ih =>
    rw [List.filter_cons_of_neg, ih]
    simpa [Option.isSome_iff_ne_none] using ended
  | asked _ answer _ ih =>
    simp only [List.filterMap_cons, Event.polled?, List.filter_cons, stillRuns]
    split <;> simp [ih, stillRuns]

theorem ending (asked : Asked ms es ms') {m' : Member} (member : m' ∈ ms') :
    ∃ m ∈ ms, m'.pid = m.pid ∧ (m' = m ∨
      ∃ answer, Event.polled m.pid answer ∈ es ∧ m'.ending = Ending.ofAnswer answer) := by
  induction asked with
  | nil => cases member
  | known _ _ ih =>
    rcases List.mem_cons.1 member with rfl | later
    · exact ⟨_, List.mem_cons_self, rfl, .inl rfl⟩
    · obtain ⟨m, old, same, known⟩ := ih later
      exact ⟨m, List.mem_cons_of_mem _ old, same, known⟩
  | asked _ answer _ ih =>
    rcases List.mem_cons.1 member with rfl | later
    · exact ⟨_, List.mem_cons_self, rfl, .inr ⟨answer, List.mem_cons_self, rfl⟩⟩
    · obtain ⟨m, old, same, known | ⟨answer, polled, ended⟩⟩ := ih later
      · exact ⟨m, List.mem_cons_of_mem _ old, same, .inl known⟩
      · exact ⟨m, List.mem_cons_of_mem _ old, same,
          .inr ⟨answer, List.mem_cons_of_mem _ polled, ended⟩⟩

end Member.Asked

namespace Job.Asked
variable {jobs jobs' : List Job} {es : List Event}

theorem polls (asked : Asked jobs es jobs') : ∀ e ∈ es, ∃ pid answer, e = .polled pid answer := by
  induction asked with
  | nil => simp
  | cons members _ ih =>
    intro e member
    rcases List.mem_append.1 member with here | later
    · exact members.polls e here
    · exact ih e later

theorem pids (asked : Asked jobs es jobs') : jobs'.map Job.pids = jobs.map Job.pids := by
  induction asked with
  | nil => rfl
  | cons members _ ih => simp [ih, Job.pids, members.pids]

theorem polled (asked : Asked jobs es jobs') :
    (es.filterMap Event.polled?).map Prod.fst = jobs.flatMap Job.running := by
  induction asked with
  | nil => rfl
  | cons members _ ih => simp [ih, members.polled, Job.running]

theorem running (asked : Asked jobs es jobs') :
    jobs'.flatMap Job.running =
      ((es.filterMap Event.polled?).filter (stillRuns ·.2)).map Prod.fst := by
  induction asked with
  | nil => rfl
  | cons members _ ih => simp [ih, members.running, Job.running]

theorem filter_index (asked : Asked jobs es jobs') (index : Nat) :
    ∃ fs ⊆ es, Asked (jobs.filter (·.index = index)) fs (jobs'.filter (·.index = index)) := by
  induction asked with
  | nil => exact ⟨[], List.Subset.refl _, .nil⟩
  | @cons job _ _ _ es _ members _ ih =>
    obtain ⟨fs, within, rest⟩ := ih
    by_cases here : job.index = index
    · refine ⟨es ++ fs, List.append_subset.2 ⟨List.subset_append_left _ _,
        List.Subset.trans within (List.subset_append_right _ _)⟩, ?_⟩
      rw [List.filter_cons_of_pos (by simpa using here),
        List.filter_cons_of_pos (by simpa using here)]
      exact .cons members rest
    · refine ⟨fs, List.Subset.trans within (List.subset_append_right _ _), ?_⟩
      rw [List.filter_cons_of_neg (by simpa using here),
        List.filter_cons_of_neg (by simpa using here)]
      exact rest

theorem singleton {job : Job} (asked : Asked [job] es jobs') :
    ∃ ms, Member.Asked job.members es ms ∧ jobs' = [{ job with members := ms }] := by
  cases asked with
  | cons members rest =>
    cases rest
    exact ⟨_, by simpa using members, rfl⟩

end Job.Asked

theorem Job.running_of_isOver {job : Job} (ended : job.isOver) : job.running = [] := by
  have told : ∀ m ∈ job.members, ¬m.ending.isNone := by
    intro m member
    have := List.all_eq_true.1 ended m member
    simpa [Option.isSome_iff_ne_none] using this
  rw [Job.running, List.filter_eq_nil_iff.2 told, List.map_nil]

end PipeShell
