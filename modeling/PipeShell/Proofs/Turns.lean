import PipeShell.Proofs.Launching

/-!
# The turns of a line

The course of a line that is launched, step by step. First the stages begin in their order, in the way
that the settings ask for (`Session.Starts`). Then each built-in command has its turn, in the session
that the one before it left (`Session.Turns`). The executor goes through just these steps
(`Session.runPlan_launches`).
-/

namespace PipeShell

/-! ## The place of the shell -/

structure World.Stands (w w' : World) : Prop where
  here : w'.here = w.here
  environment : w'.environment = w.environment
  tilde : w'.tilde = w.tilde

namespace World
variable {w w' w'' : World} {e : End}

theorem Stands.refl (w : World) : Stands w w := ⟨rfl, rfl, rfl⟩

theorem Stands.trans (first : Stands w w') (second : Stands w' w'') : Stands w w'' where
  here := second.here.trans first.here
  environment := second.environment.trans first.environment
  tilde := second.tilde.trans first.tilde

theorem Stands.reopen (w : World) (e : End) (access : Access) : Stands w (w.reopen e access).2 := by
  cases e <;> exact ⟨rfl, rfl, rfl⟩

theorem Stands.openNode {node : Nat} {access : Access}
    (opens : w.openNode node access = .ok (e, w')) : Stands w w' := by
  unfold World.openNode at opens
  split at opens
  · cases opens
  · obtain ⟨-, rfl⟩ := Prod.mk.inj (Except.ok.inj opens)
    exact .reopen w w.input access
  · split at opens
    · cases opens
      exact ⟨rfl, rfl, rfl⟩
    · cases opens
  · cases opens
    exact ⟨rfl, rfl, rfl⟩

theorem Stands.openFile {path : String} (opens : w.openFile path = .ok (e, w')) : Stands w w' := by
  obtain ⟨node, -, opens⟩ := openFile_opens opens
  exact .openNode opens

theorem Stands.createFile {path : String} (opens : w.createFile path = .ok (e, w')) :
    Stands w w' := by
  obtain ⟨node, files, opens⟩ := createFile_opens opens
  have stands : Stands { w with files } w' := .openNode opens
  exact ⟨stands.here, stands.environment, stands.tilde⟩

theorem Stands.openEnd {how : String → Except SystemError (End × World)} {path : Option String}
    {e : Option End} (opens : ∀ path e w', how path = .ok (e, w') → Stands w w')
    (opened : Plan.openEnd how w path = .ok (e, w')) : Stands w w' := by
  unfold Plan.openEnd at opened
  split at opened
  · cases opened
    exact .refl w
  · split at opened
    · rename_i made
      cases opened
      exact opens _ _ _ made
    · cases opened

theorem Stands.wire (plan : Plan) (w : World) : Stands w (plan.wire w).world := by
  unfold Plan.wire
  split
  · exact .refl w
  · split
    · exact .refl w
    · rename_i first
      split
      · exact .refl w
      · rename_i second
        have opened := Stands.openEnd (fun _ _ _ => .openFile) first
        have created := Stands.openEnd (fun _ _ _ => .createFile) second
        exact opened.trans ⟨created.here, created.environment, created.tilde⟩

end World

/-! ## Fates -/

/-- What has become of a stage when all commands of its line have run. -/
inductive Fate where
  | process (pid : Pid)
  | refused (cause : Fault)
  | command (result : Except Fault Effect)

namespace Fate

def refusal? : Fate → Option Fault
  | refused cause => some cause
  | _ => none

def failure? : Fate → Option Fault
  | command (.error cause) => some cause
  | _ => none

def exit? : Fate → Option Int
  | command (.ok (.exit code)) => some code
  | _ => none

def faults (fates : List Fate) : List Fault :=
  fates.filterMap refusal? ++ fates.filterMap failure?

def settled : Fate → Settled
  | process pid => .process pid
  | refused _ => .ended statusNotFound
  | command (.ok _) => .ended 0
  | command (.error _) => .ended 1

def results (fates : List Fate) : Session.BuiltinResults where
  settled := fates.map settled
  failures := fates.filterMap failure?
  exit := (fates.filterMap exit?).getLast?

theorem results_cons (fate : Fate) (fates : List Fate) :
    results (fate :: fates) =
      (results fates).cons fate.settled fate.failure? fate.exit? := by
  have failures : (fate :: fates).filterMap failure? =
      fate.failure?.toList ++ fates.filterMap failure? := by
    cases failed : fate.failure? <;> simp [failed]
  have exit : ((fate :: fates).filterMap exit?).getLast? =
      ((fates.filterMap exit?).getLast? <|> fate.exit?) := by
    cases left : fate.exit? with
    | none => simp [left]
    | some code => simp [left, List.getLast?_cons]
  simp only [results, Session.BuiltinResults.cons, List.map_cons, failures, exit]

end Fate

/-! ## Steps -/

namespace Session
variable {σ : Type}

def trace (echo : Bool) (stage : Stage) (s : Session σ) : Session σ :=
  if echo then s.printError ("+ " ++ " ".intercalate stage.argv ++ "\n") else s

def announce (showChild : Bool) (pid : Pid) (stage : Stage) (s : Session σ) : Session σ :=
  if showChild then s.printError ("[" ++ toString pid ++ "] " ++ stage.argv.headD "" ++ "\n") else s

theorem onlyReports_trace (echo : Bool) (stage : Stage) (s : Session σ) :
    OnlyReports s (s.trace echo stage) := by
  unfold trace
  split
  · exact .printError s _
  · exact .refl s

theorem onlyReports_announce (showChild : Bool) (pid : Pid) (stage : Stage) (s : Session σ) :
    OnlyReports s (s.announce showChild pid stage) := by
  unfold announce
  split
  · exact .printError s _
  · exact .refl s

/-- Stages begin one after another, their programs searched in one path. A built-in command gives up
its input and is put off. -/
inductive Starts (host : Host σ) (echo showChild : Bool) (path : String) :
    Session σ → List (Stage × Streams) → List Begun → Session σ → Prop
  | nil (s : Session σ) : Starts host echo showChild path s [] [] s
  | command {s s' : Session σ} {stage : Stage} {streams : Streams} {rest : List (Stage × Streams)}
      {begun : List Begun} (builtin : stage.kind.isBuiltin)
      (later : Starts host echo showChild path ((s.trace echo stage).close? streams.input) rest
        begun s') :
      Starts host echo showChild path s ((stage, streams) :: rest)
        (.deferred stage streams.output :: begun) s'
  | process {s t s' : Session σ} {stage : Stage} {streams : Streams}
      {rest : List (Stage × Streams)} {begun : List Begun} {pid : Pid}
      (program : ¬stage.kind.isBuiltin)
      (started : (s.trace echo stage).spawn host ⟨stage.argv, path, streams⟩ = (.ok pid, t))
      (later : Starts host echo showChild path (t.announce showChild pid stage) rest begun s') :
      Starts host echo showChild path s ((stage, streams) :: rest) (.process pid :: begun) s'
  | refused {s t s' : Session σ} {stage : Stage} {streams : Streams}
      {rest : List (Stage × Streams)} {begun : List Begun} {cause : Fault}
      (program : ¬stage.kind.isBuiltin)
      (refused : (s.trace echo stage).spawn host ⟨stage.argv, path, streams⟩ = (.error cause, t))
      (later : Starts host echo showChild path (t.note (.launchFailed cause)) rest begun s') :
      Starts host echo showChild path s ((stage, streams) :: rest) (.failed cause :: begun) s'

inductive Turns (host : Host σ) : Session σ → List Begun → List Fate → Session σ → Prop
  | nil (s : Session σ) : Turns host s [] [] s
  | process {s s' : Session σ} {rest : List Begun} {fates : List Fate} (pid : Pid)
      (later : Turns host s rest fates s') :
      Turns host s (.process pid :: rest) (.process pid :: fates) s'
  | refused {s s' : Session σ} {rest : List Begun} {fates : List Fate} (cause : Fault)
      (later : Turns host s rest fates s') :
      Turns host s (.failed cause :: rest) (.refused cause :: fates) s'
  | command {s t s' : Session σ} {rest : List Begun} {fates : List Fate} {stage : Stage}
      {output : Option End} {result : Except Fault Effect}
      (ran : s.runBuiltin host stage output = (result, t))
      (later : Turns host (t.close? output) rest fates s') :
      Turns host s (.deferred stage output :: rest) (.command result :: fates) s'

def Launches (host : Host σ) (plan : Plan) (wiring : Wiring) (s : Session σ) (fates : List Fate)
    (s' : Session σ) : Prop :=
  ∃ begun s₁, Starts host s.settings.echo s.settings.showChild s.searchPath (s.ready plan wiring)
    (plan.stages.zip wiring.stages) begun s₁ ∧ Turns host s₁ begun fates s'

/-! ## The stages begin -/

theorem settings_spawn {host : Host σ} {launch : Launch} {answer : Except Fault Pid}
    {s s' : Session σ} (asked : s.spawn host launch = (answer, s')) : s'.settings = s.settings := by
  obtain ⟨-, rfl⟩ := Prod.mk.inj asked
  rfl

theorem settings_close? (s : Session σ) (e : Option End) : (s.close? e).settings = s.settings := by
  cases e <;> rfl

theorem starts_beginAll (host : Host σ) {echo showChild : Bool} (path : String)
    (stages : List (Stage × Streams)) (s : Session σ) (tells : s.settings.echo = echo)
    (shows : s.settings.showChild = showChild) :
    Starts host echo showChild path s stages (s.beginAll host path stages).1
      (s.beginAll host path stages).2 := by
  induction stages generalizing s with
  | nil => exact .nil s
  | cons first rest ih =>
    obtain ⟨stage, streams⟩ := first
    have traced : s.showCommand stage = s.trace echo stage := by rw [← tells]; rfl
    have kept := (onlyReports_showCommand stage s).settings
    have further : ∀ t : Session σ, t.settings = s.settings →
        Starts host echo showChild path t rest (t.beginAll host path rest).1
          (t.beginAll host path rest).2 :=
      fun t same => ih t (by rw [same, tells]) (by rw [same, shows])
    rw [beginAll_cons]
    by_cases builtin : stage.kind.isBuiltin
    · rw [begin_builtin builtin]
      refine .command builtin ?_
      rw [← traced]
      exact further _ ((settings_close? _ _).trans kept)
    · rcases asked : (s.showCommand stage).spawn host ⟨stage.argv, path, streams⟩ with
        ⟨cause | pid, t⟩
      · rw [begin_failed builtin asked]
        refine .refused builtin (traced ▸ asked) (further _ ?_)
        exact (settings_spawn asked).trans kept
      · have same := (settings_spawn asked).trans kept
        have announced : t.showProcess pid stage = t.announce showChild pid stage := by
          rw [← shows, ← same]
          rfl
        rw [begin_process builtin asked]
        refine .process builtin (traced ▸ asked) ?_
        rw [← announced]
        exact further _ ((onlyReports_showProcess pid stage t).settings.trans same)

end Session

theorem Builtin.act_ok {command : Builtin} {args : List String} {s : Surroundings} {effect : Effect}
    (ended : (command.act args s).result = .ok effect) :
    effect = .status 0 ∨ command = .exit ∧ ∃ code, effect = .exit code := by
  cases command with
  | echo | parsecmd | echocmd | showchild =>
    cases ended
    exact .inl rfl
  | set | setprompt =>
    simp only [act, actSet, actSetprompt] at ended
    split at ended <;> cases ended <;> exact .inl rfl
  | cd =>
    simp only [act, actCd] at ended
    split at ended <;> (try split at ended) <;> cases ended <;> exact .inl rfl
  | exit =>
    simp only [act, actExit] at ended
    split at ended <;> (try split at ended) <;> cases ended <;> exact .inr ⟨rfl, _, rfl⟩

theorem Stage.act_ok {stage : Stage} {s : Surroundings} {effect : Effect}
    (ended : (stage.act s).result = .ok effect) :
    effect = .status 0 ∨ stage.kind = .builtin .exit ∧ ∃ code, effect = .exit code := by
  unfold Stage.act at ended
  cases kind : stage.kind with
  | program => simp [kind] at ended
  | builtin command =>
    simp only [kind] at ended
    exact (Builtin.act_ok ended).imp_right fun ⟨exit, asks⟩ => ⟨by rw [exit], asks⟩

namespace Session
variable {σ : Type}

theorem runBuiltin_ok {host : Host σ} {stage : Stage} {output : Option End} {s : Session σ}
    {effect : Effect} (ran : (s.runBuiltin host stage output).1 = .ok effect) :
    effect = .status 0 ∨ stage.kind = .builtin .exit ∧ ∃ code, effect = .exit code := by
  simp only [runBuiltin, Act.conclude] at ran
  split at ran
  · cases ran
  · exact Stage.act_ok ran

theorem turns_runDeferred (host : Host σ) (begun : List Begun) (s : Session σ) :
    ∃ fates, Turns host s begun fates (runDeferred host begun s).2 ∧
      (runDeferred host begun s).1 = Fate.results fates := by
  induction begun generalizing s with
  | nil => exact ⟨[], .nil s, rfl⟩
  | cons first rest ih =>
    cases first with
    | process pid =>
      obtain ⟨fates, turns, results⟩ := ih s
      refine ⟨.process pid :: fates, .process pid turns, ?_⟩
      rw [Fate.results_cons, ← results]
      rfl
    | failed cause =>
      obtain ⟨fates, turns, results⟩ := ih s
      refine ⟨.refused cause :: fates, .refused cause turns, ?_⟩
      rw [Fate.results_cons, ← results]
      rfl
    | deferred stage output =>
      rcases ran : s.runBuiltin host stage output with ⟨result, t⟩
      obtain ⟨fates, turns, results⟩ := ih (t.close? output)
      -- A command has no status of its own but zero, so that it went well says all.
      have settles : Settled.ofResult result = (Fate.command result).settled := by
        rcases result with cause | ⟨code | code⟩
        · rfl
        · rcases runBuiltin_ok (congrArg Prod.fst ran) with zero | ⟨-, _, left⟩
          · rw [zero]
            rfl
          · cases left
        · rfl
      rw [runDeferred_cons, ran]
      refine ⟨.command result :: fates, .command ran turns, ?_⟩
      rw [Fate.results_cons, ← results, ← settles]
      rcases result with _ | (_ | _) <;> rfl

theorem Turns.refusals {host : Host σ} {s s' : Session σ} {begun : List Begun} {fates : List Fate}
    (turns : Turns host s begun fates s') :
    begun.filterMap Begun.fault? = fates.filterMap Fate.refusal? := by
  induction turns with
  | nil s => rfl
  | process pid _ ih | command _ _ ih => exact ih
  | refused cause _ ih => exact congrArg (cause :: ·) ih

theorem Starts.length {host : Host σ} {echo showChild : Bool} {path : String} {s s' : Session σ}
    {stages : List (Stage × Streams)} {begun : List Begun}
    (starts : Starts host echo showChild path s stages begun s') : begun.length = stages.length := by
  induction starts with
  | nil s => rfl
  | command _ _ ih | process _ _ _ ih | refused _ _ _ ih => exact congrArg (· + 1) ih

theorem Turns.length {host : Host σ} {s s' : Session σ} {begun : List Begun} {fates : List Fate}
    (turns : Turns host s begun fates s') : fates.length = begun.length := by
  induction turns with
  | nil s => rfl
  | process _ _ ih | refused _ _ ih | command _ _ ih => exact congrArg (· + 1) ih

theorem Launches.length {host : Host σ} {plan : Plan} {wiring : Wiring} {s s' : Session σ}
    {fates : List Fate} (launched : s.Launches host plan wiring fates s')
    (wired : (plan.wire s.world).wiring = .ok wiring) : fates.length = plan.stages.length := by
  obtain ⟨begun, s₁, starts, turns⟩ := launched
  rw [turns.length, starts.length, List.length_zip, length_of_wire wired, Nat.min_self]

theorem searchPath_ready (plan : Plan) (wiring : Wiring) (s : Session σ) :
    (s.ready plan wiring).searchPath = s.searchPath := by
  have stands := World.Stands.wire plan s.world
  simp only [searchPath, ready, note, record, stands.environment]

theorem runPlan_launches (host : Host σ) {plan : Plan} {wiring : Wiring} {s : Session σ}
    (wired : (plan.wire s.world).wiring = .ok wiring) :
    ∃ fates s', s.Launches host plan wiring fates s' ∧
      s.runPlan host plan =
        (s'.note (.phase .launching .running)).conclude host plan (Fate.faults fates)
          (Fate.results fates) := by
  have starts := starts_beginAll host s.searchPath (plan.stages.zip wiring.stages)
    (s.ready plan wiring) rfl rfl
  obtain ⟨fates, turns, results⟩ := turns_runDeferred host (s.begun host plan wiring).1
    (s.begun host plan wiring).2
  rw [begun, searchPath_ready] at turns results
  refine ⟨fates, _, ⟨_, _, starts, turns⟩, ?_⟩
  rw [runPlan_wired wired]
  simp only [begun, searchPath_ready, results, turns.refusals]
  rfl

theorem execute_plan (host : Host σ) (line : Line) (s : Session σ) :
    ∃ notices,
      ((∀ plan, line.plan? s.symbols = some plan → plan.stages = []) ∧
        (s.execute host line).2 = s.noteAll notices ∧ Finishes (s.execute host line).1) ∨
      ∃ plan, line.plan? s.symbols = some plan ∧ plan.stages ≠ [] ∧
        s.execute host line = (s.noteAll notices).runPlan host plan := by
  have joined : ∀ first second : List Notice,
      (s.noteAll first).noteAll second = s.noteAll (first ++ second) := by
    intro first second
    simp [noteAll, record]
  unfold execute Line.plan?
  split
  · rename_i cause expands
    rw [expands]
    exact ⟨[], .inl ⟨fun plan ready => (by cases ready), by simp [noteAll, record], .error _⟩⟩
  · rename_i expanded notices expands
    rw [expands]
    simp only [joined, Except.bind]
    refine ⟨notices ++ expanded.assemble.notices, ?_⟩
    cases ready : expanded.assemble.plan with
    | error cause => exact .inl ⟨fun plan ready => (by cases ready), rfl, .error _⟩
    | ok plan =>
      by_cases empty : plan.stages.isEmpty
      · simp only [empty, if_true]
        refine .inl ⟨fun plan' same => ?_, trivial, .finished 0 []⟩
        cases same
        exact List.isEmpty_iff.1 empty
      · refine .inr ⟨plan, rfl, by simpa using empty, ?_⟩
        simp only [empty]
        rfl

end Session
end PipeShell
