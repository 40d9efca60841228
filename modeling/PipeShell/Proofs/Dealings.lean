import Mathlib.Data.List.Basic
import PipeShell.Execution

/-!
# Dealings

What the shell does with the processes of its host, function by function: a session deals with a
process when it starts it, waits for it or asks after it. A line that is launched starts the programs
of its stages in order (`launch_spec`), and what happens to the processes then depends on its ending
alone (`runWired_eq`).
-/

namespace PipeShell

/-! ## Events that count -/

deriving instance DecidableEq for Event

namespace Event

def isDealing : Event → Bool
  | spawned .. | waited .. | polled .. | builtin .. => true
  | _ => false

def started? : Event → Option Pid
  | spawned _ (.ok pid) => some pid
  | _ => none

def launch? : Event → Option Launch
  | spawned launch _ => some launch
  | _ => none

def waited? : Event → Option Pid
  | waited pid _ => some pid
  | _ => none

def polled? : Event → Option (Pid × Except Fault (Option Int))
  | polled pid answer => some (pid, answer)
  | _ => none

end Event

def Line.plan? (line : Line) (table : Symbols) : Option Plan :=
  ((line.expand table).bind fun (line, _) => line.assemble.plan).toOption

def Begun.pid? : Begun → Option Pid
  | process pid => some pid
  | _ => none

def Begun.ofAnswer : Except Fault Pid → Begun
  | .ok pid => process pid
  | .error cause => failed cause

def Settled.ofResult : Except Fault Effect → Settled
  | .ok (.status code) => ended code
  | .ok (.exit _) => ended 0
  | .error _ => ended 1

def Settled.status (code : Pid → Int) : Settled → Int
  | process pid => code pid
  | ended status => status

def Fault.ofResult? : Except Fault Effect → Option Fault
  | .error cause => some cause
  | .ok _ => none

def Effect.exit? : Except Fault Effect → Option Int
  | .ok (.exit code) => some code
  | _ => none

@[simp] theorem Settled.pid?_ofResult (result : Except Fault Effect) :
    (ofResult result).pid? = none := by
  rcases result with _ | (_ | _) <;> rfl

inductive Finishes : Except Fault Execution → Prop
  | error (cause : Fault) : Finishes (.error cause)
  | finished (status : Int) (failures : List Fault) : Finishes (.ok ⟨.finished status, failures⟩)

structure Plan.Launched (plan : Plan) (es : List Event) : Prop where
  launches : (es.filterMap Event.launch?).map Launch.argv =
    (plan.stages.filter fun stage => !stage.kind.isBuiltin).map Stage.argv
  only : ∀ e ∈ es, (∃ launch answer, e = .spawned launch answer) ∨ ∃ stage, e = .builtin stage

namespace Session
variable {σ : Type}

def dealings (s : Session σ) : List Event := s.events.filter Event.isDealing

theorem dealings_record (s : Session σ) (es : List Event) :
    (s.record es).dealings = s.dealings ++ es.filter Event.isDealing :=
  List.filter_append ..

theorem filter_notes (ns : List Notice) : (ns.map Event.note).filter Event.isDealing = [] := by
  simp [List.filter_eq_nil_iff, Event.isDealing]

theorem filter_opened (ends : List End) : (ends.map Event.opened).filter Event.isDealing = [] := by
  simp [List.filter_eq_nil_iff, Event.isDealing]

theorem filter_reopened (ends : List End) :
    (ends.flatMap fun e => [Event.opened e, Event.closed e]).filter Event.isDealing = [] := by
  rw [List.filter_flatMap]
  exact List.flatMap_eq_nil_iff.2 fun e _ => rfl

@[simp] theorem dealings_close? (s : Session σ) (e : Option End) :
    (s.close? e).dealings = s.dealings := by
  cases e with
  | none => rfl
  | some e =>
    rw [close?, dealings_record]
    simp [dealings, Event.isDealing]

@[simp] theorem jobs_close? (s : Session σ) (e : Option End) : (s.close? e).jobs = s.jobs := by
  cases e <;> rfl

theorem dealings_receive {α : Type} (s : Session σ) (r : Reply σ α) (event : Except Fault α → Event)
    (counts : (event r.answer).isDealing) :
    (s.receive r event).2.dealings = s.dealings ++ [event r.answer] := by
  have heard : (s.overheard r).filter Event.isDealing = [] := by
    unfold overheard
    split <;> rfl
  simp only [receive, dealings_record, List.filter_cons, List.filter_append, counts, filter_notes,
    heard]
  rfl

section
variable {host : Host σ} {s s' : Session σ}

theorem spawn_spec {launch : Launch} {answer : Except Fault Pid}
    (asked : s.spawn host launch = (answer, s')) :
    s'.jobs = s.jobs ∧ s'.dealings = s.dealings ++ [.spawned launch answer] := by
  obtain ⟨rfl, rfl⟩ := Prod.mk.inj asked
  exact ⟨rfl, dealings_receive s _ _ rfl⟩

theorem wait_spec {pid : Pid} {answer : Except Fault Int}
    (asked : s.wait host pid = (answer, s')) :
    s'.jobs = s.jobs ∧ s'.dealings = s.dealings ++ [.waited pid answer] := by
  obtain ⟨rfl, rfl⟩ := Prod.mk.inj asked
  exact ⟨rfl, dealings_receive s _ _ rfl⟩

theorem poll_spec {pid : Pid} {answer : Except Fault (Option Int)}
    (asked : s.poll host pid = (answer, s')) :
    s'.jobs = s.jobs ∧ s'.dealings = s.dealings ++ [.polled pid answer] := by
  obtain ⟨rfl, rfl⟩ := Prod.mk.inj asked
  exact ⟨rfl, dealings_receive s _ _ rfl⟩

end

/-! ## Talking -/

/-- Between two sessions the shell has only said something. -/
structure OnlyReports (s s' : Session σ) : Prop where
  host : s'.host = s.host
  symbols : s'.symbols = s.symbols
  settings : s'.settings = s.settings
  jobs : s'.jobs = s.jobs
  dealings : s'.dealings = s.dealings
  world : ∃ bytes, s'.world = s.world.writeError bytes

theorem writeError_nil (w : World) : w.writeError [] = w := by
  simp [World.writeError]

namespace OnlyReports
variable {s s' s'' : Session σ}

theorem refl (s : Session σ) : OnlyReports s s where
  host := rfl
  symbols := rfl
  settings := rfl
  jobs := rfl
  dealings := rfl
  world := ⟨[], (writeError_nil _).symm⟩

theorem trans (first : OnlyReports s s') (second : OnlyReports s' s'') : OnlyReports s s'' where
  host := second.host.trans first.host
  symbols := second.symbols.trans first.symbols
  settings := second.settings.trans first.settings
  jobs := second.jobs.trans first.jobs
  dealings := second.dealings.trans first.dealings
  world := by
    obtain ⟨before, said⟩ := first.world
    obtain ⟨after, more⟩ := second.world
    exact ⟨before ++ after, by simp [more, said, World.writeError]⟩

theorem record {es : List Event} (plain : es.filter Event.isDealing = []) :
    OnlyReports s (s.record es) where
  host := rfl
  symbols := rfl
  settings := rfl
  jobs := rfl
  dealings := by rw [dealings_record, plain, List.append_nil]
  world := ⟨[], (writeError_nil _).symm⟩

theorem note (s : Session σ) (n : Notice) : OnlyReports s (s.note n) := record rfl

theorem noteAll (s : Session σ) (ns : List Notice) : OnlyReports s (s.noteAll ns) :=
  record (filter_notes ns)

theorem printError (s : Session σ) (text : String) : OnlyReports s (s.printError text) where
  host := rfl
  symbols := rfl
  settings := rfl
  jobs := rfl
  dealings := by
    rw [Session.printError, dealings_record]
    simp [Session.dealings, Event.isDealing]
  world := ⟨_, rfl⟩

end OnlyReports

/-! ## Starting -/

def showCommand (stage : Stage) (s : Session σ) : Session σ :=
  if s.settings.echo then s.printError ("+ " ++ " ".intercalate stage.argv ++ "\n") else s

def showProcess (pid : Pid) (stage : Stage) (s : Session σ) : Session σ :=
  if s.settings.showChild then
    s.printError ("[" ++ toString pid ++ "] " ++ stage.argv.headD "" ++ "\n")
  else s

theorem onlyReports_showCommand (stage : Stage) (s : Session σ) :
    OnlyReports s (s.showCommand stage) := by
  unfold showCommand
  split
  · exact .printError s _
  · exact .refl s

theorem onlyReports_showProcess (pid : Pid) (stage : Stage) (s : Session σ) :
    OnlyReports s (s.showProcess pid stage) := by
  unfold showProcess
  split
  · exact .printError s _
  · exact .refl s

variable {host : Host σ} {path : String} {stage : Stage} {streams : Streams} {s s' : Session σ}

theorem begin_builtin (builtin : stage.kind.isBuiltin) :
    s.begin host path stage streams =
      (.deferred stage streams.output, (s.showCommand stage).close? streams.input) := by
  simp only [begin, builtin, if_true]
  rfl

theorem begin_process {pid : Pid} (program : ¬stage.kind.isBuiltin)
    (started : (s.showCommand stage).spawn host ⟨stage.argv, path, streams⟩ = (.ok pid, s')) :
    s.begin host path stage streams = (.process pid, s'.showProcess pid stage) := by
  unfold showCommand at started
  simp only [begin, program, started]
  rfl

theorem begin_failed {cause : Fault} (program : ¬stage.kind.isBuiltin)
    (refused : (s.showCommand stage).spawn host ⟨stage.argv, path, streams⟩ = (.error cause, s')) :
    s.begin host path stage streams = (.failed cause, s'.note (.launchFailed cause)) := by
  unfold showCommand at refused
  simp only [begin, program, refused]
  rfl

theorem begin_cases (host : Host σ) (path : String) (stage : Stage) (streams : Streams)
    (s : Session σ) :
    (s.begin host path stage streams).2.jobs = s.jobs ∧
    ((stage.kind.isBuiltin ∧
      (s.begin host path stage streams).1 = .deferred stage streams.output ∧
      (s.begin host path stage streams).2.dealings = s.dealings) ∨
    ¬stage.kind.isBuiltin ∧ ∃ answer,
      (s.begin host path stage streams).1 = .ofAnswer answer ∧
      (s.begin host path stage streams).2.dealings =
        s.dealings ++ [.spawned ⟨stage.argv, path, streams⟩ answer]) := by
  have shown := onlyReports_showCommand stage s
  by_cases builtin : stage.kind.isBuiltin
  · rw [begin_builtin builtin]
    exact ⟨by simp [shown.jobs], .inl ⟨builtin, rfl, by simp [shown.dealings]⟩⟩
  · cases asked : (s.showCommand stage).spawn host ⟨stage.argv, path, streams⟩ with
    | mk answer s' =>
      obtain ⟨jobs, dealings⟩ := spawn_spec asked
      rw [shown.jobs] at jobs
      rw [shown.dealings] at dealings
      cases answer with
      | ok pid =>
        have shown := onlyReports_showProcess pid stage s'
        rw [begin_process builtin asked]
        exact ⟨shown.jobs.trans jobs, .inr ⟨builtin, .ok pid, rfl, shown.dealings.trans dealings⟩⟩
      | error cause =>
        have noted := OnlyReports.note s' (.launchFailed cause)
        rw [begin_failed builtin asked]
        exact ⟨noted.jobs.trans jobs,
          .inr ⟨builtin, .error cause, rfl, noted.dealings.trans dealings⟩⟩

def launches (path : String) (stages : List (Stage × Streams)) : List Launch :=
  (stages.filter fun p => !p.1.kind.isBuiltin).map fun p => ⟨p.1.argv, path, p.2⟩

theorem beginAll_cons (host : Host σ) (path : String) (stage : Stage) (streams : Streams)
    (rest : List (Stage × Streams)) (s : Session σ) :
    s.beginAll host path ((stage, streams) :: rest) =
      ((s.begin host path stage streams).1 ::
          ((s.begin host path stage streams).2.beginAll host path rest).1,
        ((s.begin host path stage streams).2.beginAll host path rest).2) := rfl

theorem beginAll_spec (host : Host σ) (path : String) (stages : List (Stage × Streams))
    (s : Session σ) :
    (s.beginAll host path stages).2.jobs = s.jobs ∧
    ∃ es, (s.beginAll host path stages).2.dealings = s.dealings ++ es ∧
      es.filterMap Event.launch? = launches path stages ∧
      es.filterMap Event.started? = (s.beginAll host path stages).1.filterMap Begun.pid? ∧
      ∀ e ∈ es, ∃ launch answer, e = .spawned launch answer := by
  induction stages generalizing s with
  | nil => exact ⟨rfl, [], by simp [beginAll], rfl, rfl, by simp⟩
  | cons first rest ih =>
    obtain ⟨stage, streams⟩ := first
    obtain ⟨jobs, es, dealings, asked, started, spawned⟩ := ih (s.begin host path stage streams).2
    obtain ⟨kept, begun⟩ := begin_cases host path stage streams s
    rw [beginAll_cons]
    refine ⟨jobs.trans kept, ?_⟩
    rcases begun with ⟨builtin, begun, same⟩ | ⟨program, answer, begun, more⟩
    · refine ⟨es, by rw [dealings, same], ?_, ?_, spawned⟩
      · rw [asked, launches, launches, List.filter_cons_of_neg (by simp [builtin])]
      · rw [begun, started]
        rfl
    · refine ⟨.spawned ⟨stage.argv, path, streams⟩ answer :: es, ?_, ?_, ?_, ?_⟩
      · rw [dealings, more, List.append_assoc, List.singleton_append]
      · rw [launches, List.filter_cons_of_pos (by simp [program]), List.map_cons, ← launches,
          ← asked]
        rfl
      · rw [begun]
        cases answer <;> simp [List.filterMap_cons, Event.started?, Begun.ofAnswer, Begun.pid?, started]
      · rintro e (_ | ⟨_, later⟩)
        · exact ⟨_, _, rfl⟩
        · exact spawned e later

/-! ## Built-in commands -/

theorem runBuiltin_spec (host : Host σ) (stage : Stage) (output : Option End) (s : Session σ) :
    (s.runBuiltin host stage output).2.jobs = s.jobs ∧
    (s.runBuiltin host stage output).2.dealings = s.dealings ++ [.builtin stage] := by
  refine ⟨rfl, ?_⟩
  simp only [runBuiltin]
  rw [dealings_record]
  have noted := (OnlyReports.noteAll (s.record [.builtin stage])
    (stage.act s.surroundings).notices).dealings.trans (dealings_record s [.builtin stage])
  split <;> exact (List.append_nil _).trans noted

theorem runDeferred_cons (host : Host σ) (stage : Stage) (output : Option End)
    (rest : List Begun) (s : Session σ) :
    runDeferred host (.deferred stage output :: rest) s =
      let b := s.runBuiltin host stage output
      let r := runDeferred host rest (b.2.close? output)
      (r.1.cons (.ofResult b.1) (Fault.ofResult? b.1) (Effect.exit? b.1), r.2) := by
  rw [runDeferred]
  rcases s.runBuiltin host stage output with ⟨(_ | (_ | _)), s'⟩ <;> rfl

theorem runDeferred_spec (host : Host σ) (begun : List Begun) (s : Session σ) :
    (runDeferred host begun s).2.jobs = s.jobs ∧
    (runDeferred host begun s).1.settled.filterMap Settled.pid? = begun.filterMap Begun.pid? ∧
    ∃ es, (runDeferred host begun s).2.dealings = s.dealings ++ es ∧
      ∀ e ∈ es, ∃ stage, e = .builtin stage := by
  induction begun generalizing s with
  | nil => exact ⟨rfl, rfl, [], by simp [runDeferred], by simp⟩
  | cons first rest ih =>
    cases first with
    | process pid | failed cause =>
      obtain ⟨jobs, pids, es, dealings, builtins⟩ := ih s
      refine ⟨jobs, ?_, es, dealings, builtins⟩
      simp [runDeferred, BuiltinResults.cons, List.filterMap_cons, Settled.pid?, Begun.pid?, pids]
    | deferred stage output =>
      obtain ⟨kept, more⟩ := runBuiltin_spec host stage output s
      obtain ⟨jobs, pids, es, dealings, builtins⟩ :=
        ih ((s.runBuiltin host stage output).2.close? output)
      rw [runDeferred_cons]
      refine ⟨by simp [jobs, kept], ?_, .builtin stage :: es, by simp [dealings, more], ?_⟩
      · simp [BuiltinResults.cons, List.filterMap_cons, Begun.pid?, pids]
      · rintro e (_ | ⟨_, later⟩)
        · exact ⟨_, rfl⟩
        · exact builtins e later

/-! ## Launching and concluding -/

def launch (host : Host σ) (stages : List Stage) (wiring : Wiring) (s : Session σ) :
    List Fault × BuiltinResults × Session σ :=
  let s := s.note (.phase .assembled .launching)
  let (begun, s) := s.beginAll host s.searchPath (stages.zip wiring.stages)
  let (results, s) := runDeferred host begun s
  (begun.filterMap Begun.fault? ++ results.failures, results, s.note (.phase .launching .running))

def conclude (host : Host σ) (plan : Plan) (failures : List Fault) (results : BuiltinResults)
    (s : Session σ) : Except Fault Execution × Session σ :=
  match results.exit with
  | some code => (.ok ⟨.exit code, failures⟩, s)
  | none =>
    if plan.background then
      let (index, s) := s.addJob plan.describe results.settled
      (.ok ⟨.background index, failures⟩, s.note (.phase .running .collected))
    else
      let (statuses, failure, s) := s.waitAll host results.settled
      let s := s.note (.phase .running .waited)
      match failure with
      | some cause => (.error cause, s)
      | none => (.ok ⟨.finished (statuses.getLast?.getD 0), failures⟩, s)

theorem runWired_eq (host : Host σ) (plan : Plan) (wiring : Wiring) (s : Session σ) :
    s.runWired host plan wiring =
      let launched := s.launch host plan.stages wiring
      launched.2.2.conclude host plan launched.1 launched.2.1 := rfl

theorem launch_eq {host : Host σ} {stages : List Stage} {wiring : Wiring} {s s₁ s₂ : Session σ}
    {begun : List Begun} {results : BuiltinResults}
    (begins : (s.note (.phase .assembled .launching)).beginAll host
      (s.note (.phase .assembled .launching)).searchPath (stages.zip wiring.stages) = (begun, s₁))
    (runs : runDeferred host begun s₁ = (results, s₂)) :
    s.launch host stages wiring =
      (begun.filterMap Begun.fault? ++ results.failures, results,
        s₂.note (.phase .launching .running)) := by
  simp only [launch, begins, runs]

theorem launches_argv (path : String) (stages : List Stage) (streams : List Streams)
    (enough : stages.length = streams.length) :
    (launches path (stages.zip streams)).map Launch.argv =
      (stages.filter fun stage => !stage.kind.isBuiltin).map Stage.argv := by
  induction stages generalizing streams with
  | nil => rfl
  | cons stage stages ih =>
    cases streams with
    | nil => cases enough
    | cons first streams =>
      have rest := ih streams (Nat.succ.inj enough)
      simp only [launches, List.map_map] at rest ⊢
      rw [List.zip_cons_cons, List.filter_cons, List.filter_cons]
      split <;> simp [rest]

theorem launch_spec (host : Host σ) (plan : Plan) {wiring : Wiring}
    (enough : plan.stages.length = wiring.stages.length) (s : Session σ) :
    (s.launch host plan.stages wiring).2.2.jobs = s.jobs ∧
    ∃ es, (s.launch host plan.stages wiring).2.2.dealings = s.dealings ++ es ∧ plan.Launched es ∧
      (s.launch host plan.stages wiring).2.1.settled.filterMap Settled.pid? =
        es.filterMap Event.started? := by
  have noted := OnlyReports.note s (.phase .assembled .launching)
  rcases begins : (s.note (.phase .assembled .launching)).beginAll host
    (s.note (.phase .assembled .launching)).searchPath (plan.stages.zip wiring.stages) with ⟨begun, s₁⟩
  rcases runs : runDeferred host begun s₁ with ⟨results, s₂⟩
  rw [launch_eq begins runs]
  have first := beginAll_spec host (s.note (.phase .assembled .launching)).searchPath
    (plan.stages.zip wiring.stages) (s.note (.phase .assembled .launching))
  have second := runDeferred_spec host begun s₁
  rw [begins] at first
  rw [runs] at second
  obtain ⟨jobs, es, dealings, launches, started, spawned⟩ := first
  obtain ⟨kept, pids, fs, more, builtins⟩ := second
  have ended := OnlyReports.note s₂ (.phase .launching .running)
  have plain : ∀ {β : Type} (f : Event → Option β), (∀ stage, f (.builtin stage) = none) →
      fs.filterMap f = [] := by
    intro β f blind
    rw [List.filterMap_eq_nil_iff]
    intro e member
    obtain ⟨stage, rfl⟩ := builtins e member
    exact blind stage
  refine ⟨(ended.jobs.trans kept).trans (jobs.trans noted.jobs), es ++ fs, ?_, ⟨?_, ?_⟩, ?_⟩
  · rw [ended.dealings, more, dealings, noted.dealings, List.append_assoc]
  · rw [List.filterMap_append, plain _ fun _ => rfl, List.append_nil, launches,
      launches_argv _ _ _ enough]
  · intro e member
    rcases List.mem_append.1 member with first | later
    · exact .inl (spawned e first)
    · exact .inr (builtins e later)
  · rw [List.filterMap_append, plain _ fun _ => rfl, List.append_nil, started, pids]

theorem waitAll_spec (host : Host σ) (stages : List Settled) (s : Session σ) :
    (s.waitAll host stages).2.2.jobs = s.jobs ∧
    ∃ es, (s.waitAll host stages).2.2.dealings = s.dealings ++ es ∧
      es.filterMap Event.waited? = stages.filterMap Settled.pid? ∧
      (∀ e ∈ es, ∃ pid answer, e = .waited pid answer) ∧
      ∀ code, (∀ pid answer, .waited pid answer ∈ es → answer = .ok (code pid)) →
        (s.waitAll host stages).1 = stages.map (Settled.status code) ∧
        (s.waitAll host stages).2.1 = none := by
  induction stages generalizing s with
  | nil => exact ⟨rfl, [], by simp [waitAll], rfl, by simp, by simp [waitAll]⟩
  | cons first rest ih =>
    cases first with
    | ended status =>
      obtain ⟨jobs, es, dealings, waited, waits, statuses⟩ := ih s
      refine ⟨jobs, es, dealings, by simp [List.filterMap_cons, Settled.pid?, waited], waits, ?_⟩
      intro code told
      obtain ⟨rest, unfailed⟩ := statuses code told
      exact ⟨by simp [waitAll, rest, Settled.status], unfailed⟩
    | process pid =>
      rcases asked : s.wait host pid with ⟨answer, s'⟩
      obtain ⟨kept, more⟩ := wait_spec asked
      cases answer with
      | ok status =>
        obtain ⟨jobs, es, dealings, waited, waits, statuses⟩ := ih s'
        simp only [waitAll, asked]
        refine ⟨jobs.trans kept, .waited pid (.ok status) :: es, ?_, ?_, ?_, ?_⟩
        · rw [dealings, more, List.append_assoc, List.singleton_append]
        · simp [Event.waited?, Settled.pid?, waited]
        · rintro e (_ | ⟨_, later⟩)
          · exact ⟨_, _, rfl⟩
          · exact waits e later
        · intro code told
          obtain ⟨rest, unfailed⟩ := statuses code fun pid answer member =>
            told pid answer (List.mem_cons_of_mem _ member)
          have same := Except.ok.inj (told pid _ List.mem_cons_self)
          exact ⟨by simp [rest, Settled.status, same], unfailed⟩
      | error cause =>
        have noted := OnlyReports.note s' (.waitFailed pid cause)
        obtain ⟨jobs, es, dealings, waited, waits, -⟩ := ih (s'.note (.waitFailed pid cause))
        simp only [waitAll, asked]
        refine ⟨(jobs.trans noted.jobs).trans kept, .waited pid (.error cause) :: es, ?_, ?_, ?_, ?_⟩
        · rw [dealings, noted.dealings, more, List.append_assoc, List.singleton_append]
        · simp [Event.waited?, Settled.pid?, waited]
        · rintro e (_ | ⟨_, later⟩)
          · exact ⟨_, _, rfl⟩
          · exact waits e later
        · intro code told
          cases told pid _ List.mem_cons_self

theorem addJob_spec (command : String) (stages : List Settled) (s : Session σ) :
    (s.addJob command stages).1 = s.jobs.freeIndex ∧
    (s.addJob command stages).2.jobs = (s.jobs.add (stages.filterMap Settled.pid?) command
      (stages.getLast?.bind Settled.status?)).2 ∧
    (s.addJob command stages).2.dealings = s.dealings := by
  refine ⟨rfl, rfl, ?_⟩
  simp only [addJob]
  rw [(OnlyReports.note _ _).dealings]
  rfl

/-! ## Lines -/

theorem length_of_wire {plan : Plan} {w : World} {wiring : Wiring}
    (wired : (plan.wire w).wiring = .ok wiring) : wiring.stages.length = plan.stages.length := by
  unfold Plan.wire at wired
  split at wired
  · cases wired
    simp_all
  · split at wired
    · cases wired
    · split at wired
      · cases wired
      · cases wired
        simp

theorem wire_refused {plan : Plan} {w : World} {fault : Fault}
    (refused : (plan.wire w).wiring = .error fault) :
    (plan.wire w).world = w ∧ ∃ path cause, fault = .redirection path cause := by
  have opens : ∀ {how : String → Except SystemError (End × World)} {w : World}
      {path : Option String}, Plan.openEnd how w path = .error fault →
        ∃ path cause, fault = .redirection path cause := by
    intro how w path failed
    unfold Plan.openEnd at failed
    split at failed
    · cases failed
    · split at failed
      · cases failed
      · exact ⟨_, _, (Except.error.inj failed).symm⟩
  unfold Plan.wire at refused ⊢
  split
  · rename_i empty
    rw [if_pos empty] at refused
    cases refused
  · rename_i staged
    rw [if_neg staged] at refused
    cases first : Plan.openEnd w.openFile w plan.input with
    | error cause =>
      simp only [first, Except.error.injEq] at refused
      exact ⟨rfl, opens (refused ▸ first)⟩
    | ok opening =>
      obtain ⟨input, opened⟩ := opening
      simp only [first] at refused ⊢
      cases second : Plan.openEnd opened.createFile opened plan.output with
      | error cause =>
        simp only [second, Except.error.injEq] at refused
        exact ⟨rfl, opens (refused ▸ second)⟩
      | ok creating =>
        rw [second] at refused
        cases refused

theorem runPlan_cases (host : Host σ) (plan : Plan) (s : Session σ) :
    (∃ (fault : Fault) (s' : Session σ),
      (∀ background, s.runPlan host { plan with background } = (.error fault, s')) ∧
      s'.jobs = s.jobs ∧ s'.dealings = s.dealings) ∨
    ∃ (wiring : Wiring) (s' : Session σ), plan.stages.length = wiring.stages.length ∧
      (∀ background, s.runPlan host { plan with background } =
        s'.runWired host { plan with background } wiring) ∧
      s'.jobs = s.jobs ∧ s'.dealings = s.dealings := by
  have same : ∀ background, Plan.wire { plan with background } s.world = plan.wire s.world :=
    fun _ => rfl
  unfold runPlan
  simp only [same]
  cases wired : (plan.wire s.world).wiring with
  | error fault =>
    refine .inl ⟨fault, _, fun _ => rfl, rfl, ?_⟩
    rw [dealings_record, filter_reopened, List.append_nil]
    rfl
  | ok wiring =>
    refine .inr ⟨wiring, _, (length_of_wire wired).symm, fun _ => rfl, rfl, ?_⟩
    rw [(OnlyReports.note _ _).dealings, dealings_record, filter_opened, List.append_nil]
    rfl

theorem execute_cases (host : Host σ) (line : Line) (s : Session σ) :
    (∃ result s', s.execute host line = (result, s') ∧ OnlyReports s s' ∧ Finishes result) ∨
    ∃ (plan : Plan) (s' : Session σ), line.plan? s.symbols = some plan ∧ OnlyReports s s' ∧
      s.execute host line = s'.runPlan host plan := by
  unfold execute Line.plan?
  split
  · exact .inl ⟨_, _, rfl, .refl s, .error _⟩
  · rename_i expanded notices expands
    have noted := (OnlyReports.noteAll s notices).trans (.noteAll _ expanded.assemble.notices)
    rw [expands]
    dsimp only
    split
    · exact .inl ⟨_, _, rfl, noted, .error _⟩
    · rename_i plan ready
      split
      · exact .inl ⟨_, _, rfl, noted, .finished _ _⟩
      · exact .inr ⟨plan, _, by simp [Except.bind, ready, Except.toOption], noted, rfl⟩

end Session
end PipeShell
