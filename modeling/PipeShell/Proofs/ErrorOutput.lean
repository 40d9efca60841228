import Mathlib.Logic.Basic
import PipeShell.Host.Scripted
import PipeShell.Input
import PipeShell.Proofs.Dealings

/-!
# What the error output leaves alone

Much of what a shell does ends in a line on its error output, and nothing that it does later comes from
there. On a host that does not listen to the error output either, two sessions that differ in what was
written there, and in their logs, go on alike (`Session.execute_like`, `Session.reap_like`).
-/

namespace PipeShell

/-! ## Worlds -/

namespace World

def Like (w w' : World) : Prop := ∃ errors, w' = { w with errors }

variable {w w' w'' : World}

theorem Like.refl (w : World) : Like w w := ⟨w.errors, rfl⟩

theorem Like.symm (like : Like w w') : Like w' w := by
  obtain ⟨errors, rfl⟩ := like
  exact ⟨w.errors, rfl⟩

theorem Like.trans (first : Like w w') (second : Like w' w'') : Like w w'' := by
  obtain ⟨_, rfl⟩ := first
  obtain ⟨errors, rfl⟩ := second
  exact ⟨errors, rfl⟩

variable (w : World) (errors : Bytes)

theorem reopen_errors (e : End) (access : Access) :
    World.reopen { w with errors } e access =
      ((w.reopen e access).1, { (w.reopen e access).2 with errors }) := by
  unfold reopen
  cases e <;> rfl

theorem openNode_errors (node : Nat) (access : Access) :
    World.openNode { w with errors } node access =
      (w.openNode node access).map fun r => (r.1, { r.2 with errors }) := by
  unfold openNode
  dsimp only
  split
  · rfl
  · exact congrArg Except.ok (reopen_errors w errors w.input access)
  · split <;> rfl
  · rfl

theorem openFile_errors (path : String) :
    World.openFile { w with errors } path =
      (w.openFile path).map fun r => (r.1, { r.2 with errors }) := by
  unfold openFile
  cases w.files.resolve w.here path with
  | error cause => rfl
  | ok node =>
    cases demanded : w.files.demand node FileTree.readBit with
    | error cause => simp [demanded, bind, Except.bind, Except.map]
    | ok _ => simpa [demanded, bind, Except.bind] using openNode_errors w errors node .reading

theorem createFile_errors (path : String) :
    World.createFile { w with errors } path =
      (w.createFile path).map fun r => (r.1, { r.2 with errors }) := by
  unfold createFile
  cases w.files.make w.here path with
  | error cause => rfl
  | ok made => exact openNode_errors { w with files := made.2.truncate _ } errors made.1 .writing

theorem close?_errors (e : Option End) :
    World.close? e { w with errors } = { w.close? e with errors } := by
  rcases e with _ | (_ | _ | _) <;> rfl

theorem enter_errors (path : String) :
    World.enter { w with errors } path = (w.enter path).map fun w => { w with errors } := by
  unfold enter
  cases w.files.enterFolder w.here path <;> rfl

variable {w}

theorem Like.close? (like : Like w w') (e : Option End) : Like (w.close? e) (w'.close? e) := by
  obtain ⟨errors, rfl⟩ := like
  exact ⟨errors, close?_errors w errors e⟩

end World

theorem Plan.openEnd_errors {how : World → String → Except SystemError (End × World)} {w : World}
    {errors : Bytes} (ignores : ∀ path, how { w with errors } path =
      (how w path).map fun r => (r.1, { r.2 with errors })) (path : Option String) :
    openEnd (how { w with errors }) { w with errors } path =
      (openEnd (how w) w path).map fun r => (r.1, { r.2 with errors }) := by
  cases path with
  | none => rfl
  | some path =>
    rw [openEnd, openEnd, ignores]
    cases how w path <;> rfl

theorem Plan.wire_errors (plan : Plan) (w : World) (errors : Bytes) :
    plan.wire { w with errors } =
      { plan.wire w with world := { (plan.wire w).world with errors } } := by
  unfold wire
  split
  · rfl
  · rw [openEnd_errors (World.openFile_errors w errors)]
    cases openEnd w.openFile w plan.input with
    | error fault => rfl
    | ok opening =>
      obtain ⟨input, opened⟩ := opening
      dsimp only [Except.map]
      rw [openEnd_errors (World.createFile_errors opened errors)]
      cases openEnd opened.createFile opened plan.output with
      | error fault => rfl
      | ok creating => rfl

/-! ## Built-in commands -/

theorem Builtin.act_errors (command : Builtin) (args : List String) (s : Surroundings)
    (errors : Bytes) :
    command.act args { s with world := { s.world with errors } } =
      { command.act args s with
        after := { (command.act args s).after with
          world := { (command.act args s).after.world with errors } } } := by
  have go : ∀ path, actCd [path] { s with world := { s.world with errors } } =
      { actCd [path] s with
        after := { (actCd [path] s).after with
          world := { (actCd [path] s).after.world with errors } } } := by
    intro path
    have meant : World.expandTilde { s.world with errors } path = s.world.expandTilde path := rfl
    simp only [actCd, World.enter_errors, meant]
    cases s.world.enter (s.world.expandTilde path) <;> rfl
  cases command with
  | cd =>
    match args with
    | [] => exact go "~"
    | [path] => exact go path
    | _ :: _ :: _ => rfl
  | set =>
    match args with
    | [] | [_] | [_, _] | _ :: _ :: _ :: _ => rfl
  | exit =>
    match args with
    | [] | _ :: _ :: _ => rfl
    | [argument] =>
      simp only [act, actExit]
      split <;> rfl
  | setprompt =>
    match args with
    | [] | [_] | _ :: _ :: _ => rfl
  | echo | parsecmd | echocmd | showchild => rfl

theorem Stage.act_errors (stage : Stage) (s : Surroundings) (errors : Bytes) :
    stage.act { s with world := { s.world with errors } } =
      { stage.act s with
        after := { (stage.act s).after with
          world := { (stage.act s).after.world with errors } } } := by
  unfold act
  cases stage.kind with
  | program => rfl
  | builtin command => simp only [Builtin.act_errors]

/-! ## Hosts -/

structure Reply.Like {σ α : Type} (r r' : Reply σ α) : Prop where
  answer : r.answer = r'.answer
  host : r.host = r'.host
  world : r.world.Like r'.world

/-- The host goes on alike, whatever stands on the error output. -/
structure Host.IgnoresErrors {σ : Type} (host : Host σ) : Prop where
  spawn : ∀ launch state w w', World.Like w w' →
    (host.spawn launch state w).Like (host.spawn launch state w')
  wait : ∀ pid state w w', World.Like w w' →
    (host.wait pid state w).Like (host.wait pid state w')
  poll : ∀ pid state w w', World.Like w w' →
    (host.poll pid state w).Like (host.poll pid state w')
  write : ∀ target bytes state w w', World.Like w w' →
    (host.write target bytes (state, w)).1 = (host.write target bytes (state, w')).1 ∧
      (host.write target bytes (state, w)).2.1 = (host.write target bytes (state, w')).2.1 ∧
      (host.write target bytes (state, w)).2.2.Like (host.write target bytes (state, w')).2.2

theorem writeAll_like {σ : Type} {host : Host σ} (ignores : host.IgnoresErrors) (target : Option End)
    (texts : List String) (state : σ) {w w' : World} (like : w.Like w') :
    (writeAll (host.write target) texts (state, w)).1 =
        (writeAll (host.write target) texts (state, w')).1 ∧
      (writeAll (host.write target) texts (state, w)).2.1 =
        (writeAll (host.write target) texts (state, w')).2.1 ∧
      (writeAll (host.write target) texts (state, w)).2.2.Like
        (writeAll (host.write target) texts (state, w')).2.2 := by
  induction texts generalizing state w w' with
  | nil => exact ⟨rfl, rfl, like⟩
  | cons text rest ih =>
    obtain ⟨refused, host_eq, after⟩ := ignores.write target (Text.bytes text) state w w' like
    rw [writeAll, writeAll]
    generalize host.write target (Text.bytes text) (state, w) = r at refused host_eq after ⊢
    generalize host.write target (Text.bytes text) (state, w') = r' at refused host_eq after ⊢
    obtain ⟨answer, state₁, w₁⟩ := r
    obtain ⟨answer', state₂, w₂⟩ := r'
    obtain rfl : answer = answer' := refused
    obtain rfl : state₁ = state₂ := host_eq
    cases answer with
    | none => exact ih state₁ after
    | some cause => exact ⟨rfl, rfl, after⟩

/-! ## Sessions -/

namespace Session
variable {σ : Type}

structure Like (s s' : Session σ) : Prop where
  host : s.host = s'.host
  symbols : s.symbols = s'.symbols
  settings : s.settings = s'.settings
  jobs : s.jobs = s'.jobs
  world : s.world.Like s'.world

def Agree {α : Type} (r r' : α × Session σ) : Prop := r.1 = r'.1 ∧ r.2.Like r'.2

namespace Like
variable {s s' s'' : Session σ}

theorem refl (s : Session σ) : Like s s := ⟨rfl, rfl, rfl, rfl, .refl _⟩

theorem symm (like : Like s s') : Like s' s :=
  ⟨like.host.symm, like.symbols.symm, like.settings.symm, like.jobs.symm, like.world.symm⟩

theorem trans (first : Like s s') (second : Like s' s'') : Like s s'' where
  host := first.host.trans second.host
  symbols := first.symbols.trans second.symbols
  settings := first.settings.trans second.settings
  jobs := first.jobs.trans second.jobs
  world := first.world.trans second.world

theorem of_onlyReports (reports : OnlyReports s s') : Like s s' where
  host := reports.host.symm
  symbols := reports.symbols.symm
  settings := reports.settings.symm
  jobs := reports.jobs.symm
  world := by
    obtain ⟨bytes, said⟩ := reports.world
    exact ⟨_, said⟩

theorem around {t t' : Session σ} (before : OnlyReports s t) (like : Like s s')
    (after : OnlyReports s' t') : Like t t' :=
  ((of_onlyReports before).symm.trans like).trans (of_onlyReports after)

theorem record (like : Like s s') (es es' : List Event) : Like (s.record es) (s'.record es') :=
  ⟨like.host, like.symbols, like.settings, like.jobs, like.world⟩

theorem note (like : Like s s') (n : Notice) : Like (s.note n) (s'.note n) := like.record _ _

theorem noteAll (like : Like s s') (ns : List Notice) : Like (s.noteAll ns) (s'.noteAll ns) :=
  like.record _ _

theorem print (like : Like s s') (text : String) : Like (s.print text) (s'.print text) where
  host := like.host
  symbols := like.symbols
  settings := like.settings
  jobs := like.jobs
  world := by
    obtain ⟨errors, same⟩ := like.world
    exact ⟨errors, by simp only [Session.print, World.write, same]⟩

theorem close? (like : Like s s') (e : Option End) : Like (s.close? e) (s'.close? e) := by
  cases e with
  | none => exact like
  | some e =>
    exact ⟨like.host, like.symbols, like.settings, like.jobs, like.world.close? (some e)⟩

theorem receive (like : Like s s') {α : Type} {r r' : Reply σ α} (replies : r.Like r')
    (event : Except Fault α → Event) : Agree (s.receive r event) (s'.receive r' event) :=
  ⟨replies.answer, replies.host, like.symbols, like.settings, like.jobs, replies.world⟩

theorem surroundings (like : Like s s') :
    ∃ errors, s'.surroundings =
      { s.surroundings with world := { s.surroundings.world with errors } } := by
  obtain ⟨errors, same⟩ := like.world
  exact ⟨errors, by simp only [Session.surroundings, ← like.symbols, ← like.settings, same]⟩

theorem searchPath (like : Like s s') : s.searchPath = s'.searchPath := by
  obtain ⟨errors, same⟩ := like.world
  simp only [Session.searchPath, like.symbols, same]

end Like

variable {host : Host σ} {s s' : Session σ}

theorem spawn_like (ignores : host.IgnoresErrors) (launch : Launch) (like : Like s s') :
    Agree (s.spawn host launch) (s'.spawn host launch) := by
  refine like.receive ?_ _
  rw [← like.host]
  exact ignores.spawn launch s.host _ _ like.world

theorem wait_like (ignores : host.IgnoresErrors) (pid : Pid) (like : Like s s') :
    Agree (s.wait host pid) (s'.wait host pid) := by
  refine like.receive ?_ _
  rw [← like.host]
  exact ignores.wait pid s.host _ _ like.world

theorem poll_like (ignores : host.IgnoresErrors) (pid : Pid) (like : Like s s') :
    Agree (s.poll host pid) (s'.poll host pid) := by
  refine like.receive ?_ _
  rw [← like.host]
  exact ignores.poll pid s.host _ _ like.world

/-! ## Lines -/

theorem begin_like (ignores : host.IgnoresErrors) (path : String) (stage : Stage) (streams : Streams)
    (like : Like s s') :
    Agree (s.begin host path stage streams) (s'.begin host path stage streams) := by
  have shown : Like (s.showCommand stage) (s'.showCommand stage) :=
    .around (onlyReports_showCommand stage s) like (onlyReports_showCommand stage s')
  by_cases builtin : stage.kind.isBuiltin
  · rw [begin_builtin builtin, begin_builtin builtin]
    exact ⟨rfl, shown.close? _⟩
  · obtain ⟨answer, after⟩ := spawn_like ignores ⟨stage.argv, path, streams⟩ shown
    rcases asked : (s.showCommand stage).spawn host ⟨stage.argv, path, streams⟩ with
      ⟨cause | pid, s₁⟩ <;>
    rcases asked' : (s'.showCommand stage).spawn host ⟨stage.argv, path, streams⟩ with
      ⟨cause' | pid', s₂⟩ <;>
      rw [asked, asked'] at answer after <;> cases answer
    · rw [begin_failed builtin asked, begin_failed builtin asked']
      exact ⟨rfl, after.note _⟩
    · rw [begin_process builtin asked, begin_process builtin asked']
      exact ⟨rfl, .around (onlyReports_showProcess pid stage s₁) after
        (onlyReports_showProcess pid stage s₂)⟩

theorem beginAll_like (ignores : host.IgnoresErrors) (path : String) (l : List (Stage × Streams))
    (like : Like s s') : Agree (s.beginAll host path l) (s'.beginAll host path l) := by
  induction l generalizing s s' with
  | nil => exact ⟨rfl, like⟩
  | cons p l ih =>
    obtain ⟨first, after⟩ := begin_like ignores path p.1 p.2 like
    obtain ⟨others, last⟩ := ih after
    rw [beginAll_cons, beginAll_cons]
    exact ⟨by rw [first, others], last⟩

theorem runBuiltin_like (ignores : host.IgnoresErrors) (stage : Stage) (output : Option End)
    (like : Like s s') :
    Agree (s.runBuiltin host stage output) (s'.runBuiltin host stage output) := by
  obtain ⟨errors, around⟩ := like.surroundings
  have acts := Stage.act_errors stage s.surroundings errors
  rw [← around] at acts
  have after : (stage.act s.surroundings).after.world.Like (stage.act s'.surroundings).after.world :=
    ⟨errors, by rw [acts]⟩
  have texts : (stage.act s'.surroundings).texts = (stage.act s.surroundings).texts := by rw [acts]
  obtain ⟨refused, state, world⟩ :=
    writeAll_like ignores output (stage.act s.surroundings).texts s.host after
  constructor
  · simp only [runBuiltin, Act.conclude]
    rw [texts, ← like.host, ← refused, acts]
  · constructor
    · simp only [runBuiltin, texts, ← like.host]
      exact state
    · simp only [runBuiltin, record, withSurroundings, acts]
    · simp only [runBuiltin, record, withSurroundings, acts]
    · exact like.jobs
    · simp only [runBuiltin, texts, ← like.host]
      exact world

theorem runDeferred_like (ignores : host.IgnoresErrors) (begun : List Begun) (like : Like s s') :
    Agree (runDeferred host begun s) (runDeferred host begun s') := by
  induction begun generalizing s s' with
  | nil => exact ⟨rfl, like⟩
  | cons first rest ih =>
    cases first with
    | process pid =>
      obtain ⟨results, after⟩ := ih like
      exact ⟨congrArg (BuiltinResults.cons (.process pid) none none) results, after⟩
    | failed cause =>
      obtain ⟨results, after⟩ := ih like
      exact ⟨congrArg (BuiltinResults.cons (.ended statusNotFound) none none) results, after⟩
    | deferred stage output =>
      obtain ⟨result, spoken⟩ := runBuiltin_like ignores stage output like
      obtain ⟨results, after⟩ := ih (spoken.close? output)
      rw [runDeferred_cons, runDeferred_cons]
      exact ⟨by simp only [result, results], after⟩

theorem waitAll_like (ignores : host.IgnoresErrors) (stages : List Settled) (like : Like s s') :
    (s.waitAll host stages).1 = (s'.waitAll host stages).1 ∧
      (s.waitAll host stages).2.1 = (s'.waitAll host stages).2.1 ∧
      (s.waitAll host stages).2.2.Like (s'.waitAll host stages).2.2 := by
  induction stages generalizing s s' with
  | nil => exact ⟨rfl, rfl, like⟩
  | cons first rest ih =>
    cases first with
    | ended status =>
      obtain ⟨statuses, failure, after⟩ := ih like
      exact ⟨congrArg (status :: ·) statuses, failure, after⟩
    | process pid =>
      obtain ⟨answer, waited⟩ := wait_like ignores pid like
      rw [waitAll, waitAll]
      generalize s.wait host pid = r at answer waited ⊢
      generalize s'.wait host pid = r' at answer waited ⊢
      obtain ⟨told, s₁⟩ := r
      obtain ⟨told', s₂⟩ := r'
      obtain rfl : told = told' := answer
      cases told with
      | error cause =>
        obtain ⟨statuses, -, after⟩ := ih (waited.note (.waitFailed pid cause))
        exact ⟨congrArg (statusNotFound :: ·) statuses, rfl, after⟩
      | ok status =>
        obtain ⟨statuses, failure, after⟩ := ih waited
        exact ⟨congrArg (status :: ·) statuses, failure, after⟩

theorem conclude_like (ignores : host.IgnoresErrors) (plan : Plan) (failures : List Fault)
    (results : BuiltinResults) (like : Like s s') :
    Agree (s.conclude host plan failures results) (s'.conclude host plan failures results) := by
  unfold conclude
  split
  · exact ⟨rfl, like⟩
  · split
    · constructor
      · simp only [addJob, like.jobs]
      · refine ⟨like.host, like.symbols, like.settings, ?_, like.world⟩
        simp only [addJob, note, record, like.jobs]
    · obtain ⟨statuses, failure, after⟩ := waitAll_like ignores results.settled like
      generalize s.waitAll host results.settled = r at statuses failure after ⊢
      generalize s'.waitAll host results.settled = r' at statuses failure after ⊢
      obtain ⟨codes, refused, s₁⟩ := r
      obtain ⟨codes', refused', s₂⟩ := r'
      obtain rfl : codes = codes' := statuses
      obtain rfl : refused = refused' := failure
      cases refused with
      | none => exact ⟨rfl, after.note _⟩
      | some cause => exact ⟨rfl, after.note _⟩

theorem launch_like (ignores : host.IgnoresErrors) (stages : List Stage) (wiring : Wiring)
    (like : Like s s') :
    (s.launch host stages wiring).1 = (s'.launch host stages wiring).1 ∧
      (s.launch host stages wiring).2.1 = (s'.launch host stages wiring).2.1 ∧
      (s.launch host stages wiring).2.2.Like (s'.launch host stages wiring).2.2 := by
  have noted := like.note (.phase .assembled .launching)
  rw [launch, launch, ← noted.searchPath]
  obtain ⟨same, started⟩ := beginAll_like ignores
    (s.note (.phase .assembled .launching)).searchPath (stages.zip wiring.stages) noted
  generalize beginAll host _ _ (s.note _) = r at same started ⊢
  generalize beginAll host _ _ (s'.note _) = r' at same started ⊢
  obtain ⟨begun, s₁⟩ := r
  obtain ⟨begun', s₂⟩ := r'
  obtain rfl : begun = begun' := same
  obtain ⟨results, spoken⟩ := runDeferred_like ignores begun started
  exact ⟨congrArg (fun r : BuiltinResults => begun.filterMap Begun.fault? ++ r.failures) results,
    results, spoken.note _⟩

theorem runPlan_like (ignores : host.IgnoresErrors) (plan : Plan) (like : Like s s') :
    Agree (s.runPlan host plan) (s'.runPlan host plan) := by
  obtain ⟨errors, same⟩ := like.world
  have wires := plan.wire_errors s.world errors
  rw [← same] at wires
  have moved : Like { s with world := (plan.wire s.world).world }
      { s' with world := (plan.wire s'.world).world } :=
    ⟨like.host, like.symbols, like.settings, like.jobs, errors, by rw [wires]⟩
  have answers : (plan.wire s'.world).wiring = (plan.wire s.world).wiring := by rw [wires]
  unfold runPlan
  cases wired : (plan.wire s.world).wiring with
  | error fault =>
    simp only [answers, wired]
    exact ⟨rfl, moved.record _ _⟩
  | ok wiring =>
    simp only [answers, wired, runWired_eq]
    have ready := (moved.record (wiring.opened.map .opened) (wiring.opened.map .opened)).note
      (.wired plan.stages.length wiring.pipes)
    obtain ⟨failures, results, launched⟩ := launch_like ignores plan.stages wiring ready
    rw [failures, results]
    exact conclude_like ignores plan _ _ launched

theorem execute_like (ignores : host.IgnoresErrors) (line : Line) (like : Like s s') :
    Agree (s.execute host line) (s'.execute host line) := by
  unfold execute
  rw [← like.symbols]
  split
  · exact ⟨rfl, like⟩
  · have noted := fun ns ns' => (like.noteAll ns).noteAll ns'
    dsimp only
    split
    · exact ⟨rfl, noted _ _⟩
    · split
      · exact ⟨rfl, noted _ _⟩
      · exact runPlan_like ignores _ (noted _ _)

/-! ## Jobs -/

theorem ask_like (ignores : host.IgnoresErrors) (m : Member) (like : Like s s') :
    Agree (m.ask ⟨poll host, fun n s => s.note n⟩ s) (m.ask ⟨poll host, fun n s => s.note n⟩ s') := by
  unfold Member.ask
  split
  · exact ⟨rfl, like⟩
  · obtain ⟨answer, asked⟩ := poll_like ignores m.pid like
    dsimp only
    generalize s.poll host m.pid = r at answer asked ⊢
    generalize s'.poll host m.pid = r' at answer asked ⊢
    obtain ⟨told, s₁⟩ := r
    obtain ⟨told', s₂⟩ := r'
    obtain rfl : told = told' := answer
    rcases told with cause | _ | code
    · exact ⟨rfl, asked.note _⟩
    · exact ⟨rfl, asked⟩
    · exact ⟨rfl, asked⟩

theorem askMembers_like (ignores : host.IgnoresErrors) (members : List Member) (like : Like s s') :
    Agree (Member.askAll ⟨poll host, fun n s => s.note n⟩ members s)
      (Member.askAll ⟨poll host, fun n s => s.note n⟩ members s') := by
  induction members generalizing s s' with
  | nil => exact ⟨rfl, like⟩
  | cons m rest ih =>
    obtain ⟨first, asked⟩ := ask_like ignores m like
    obtain ⟨others, after⟩ := ih asked
    exact ⟨congrArg₂ List.cons first others, after⟩

theorem askJobs_like (ignores : host.IgnoresErrors) (jobs : List Job) (like : Like s s') :
    Agree (Job.askAll ⟨poll host, fun n s => s.note n⟩ jobs s)
      (Job.askAll ⟨poll host, fun n s => s.note n⟩ jobs s') := by
  induction jobs generalizing s s' with
  | nil => exact ⟨rfl, like⟩
  | cons job rest ih =>
    obtain ⟨first, asked⟩ := askMembers_like ignores job.members like
    obtain ⟨others, after⟩ := ih asked
    refine ⟨?_, after⟩
    simp only [Job.askAll, Job.ask]
    rw [first, others]

theorem reap_like (ignores : host.IgnoresErrors) (like : Like s s') :
    Agree (s.reap host) (s'.reap host) := by
  obtain ⟨jobs, asked⟩ := askJobs_like ignores s.jobs.jobs like
  unfold reap JobTable.reap
  rw [← like.jobs]
  dsimp only
  rw [← jobs]
  exact ⟨rfl, asked.host, asked.symbols, asked.settings, rfl, asked.world⟩

end Session

/-! ## Those who do not listen -/

namespace World
variable {w w' : World}

theorem Like.writeOpened (like : Like w w') (id : Nat) (bytes : Bytes) :
    (w.writeOpened id bytes).1 = (w'.writeOpened id bytes).1 ∧
      Like (w.writeOpened id bytes).2 (w'.writeOpened id bytes).2 := by
  obtain ⟨errors, rfl⟩ := like
  unfold World.writeOpened
  dsimp only
  split
  · exact ⟨rfl, errors, rfl⟩
  · split
    · exact ⟨rfl, errors, rfl⟩
    · exact ⟨rfl, errors ++ bytes, rfl⟩
    · exact ⟨rfl, errors, rfl⟩
    · exact ⟨rfl, errors, rfl⟩
    · exact ⟨rfl, errors, rfl⟩

theorem Like.write (like : Like w w') (target : Option End) (bytes : Bytes) :
    (w.write target bytes).1 = (w'.write target bytes).1 ∧
      Like (w.write target bytes).2 (w'.write target bytes).2 := by
  cases target with
  | none =>
    obtain ⟨errors, rfl⟩ := like
    exact ⟨rfl, errors, rfl⟩
  | some e =>
    cases e with
    | file id => exact like.writeOpened id bytes
    | reader id =>
      exact ⟨rfl, like⟩
    | writer id =>
      obtain ⟨errors, rfl⟩ := like
      have same : World.pipe { w with errors } id = w.pipe id := rfl
      rw [World.write, World.write, same]
      by_cases heard : (w.pipe id).hasReader
      · rw [if_pos heard, if_pos heard]
        exact ⟨rfl, errors, rfl⟩
      · rw [if_neg heard, if_neg heard]
        exact ⟨rfl, errors, rfl⟩

theorem Like.read (like : Like w w') (source : End) (most : Nat) :
    (w.read source most).1 = (w'.read source most).1 ∧
      Like (w.read source most).2 (w'.read source most).2 := by
  obtain ⟨errors, rfl⟩ := like
  cases source with
  | reader id => exact ⟨rfl, errors, rfl⟩
  | writer id => exact ⟨rfl, errors, rfl⟩
  | file id =>
    unfold World.read
    dsimp only
    split
    · exact ⟨rfl, errors, rfl⟩
    · split
      · exact ⟨rfl, errors, rfl⟩
      · exact ⟨rfl, errors, rfl⟩

end World

theorem ScriptedHost.ignoresErrors : ScriptedHost.host.IgnoresErrors where
  spawn := by
    intro launch h w w' like
    simp only [host, spawn]
    split
    · exact ⟨rfl, rfl, (like.close? _).close? _⟩
    · have written := (like.write launch.streams.output
        (Text.bytes (h.script (launch.argv.headD "")).writes)).2
      refine ⟨rfl, rfl, World.Like.close? ?_ _⟩
      split
      · exact written
      · exact written.close? _
  wait := fun _ _ _ _ like => ⟨rfl, rfl, like⟩
  poll := fun _ _ _ _ like => ⟨rfl, rfl, like⟩
  write := by
    intro target bytes h w w' like
    obtain ⟨refused, after⟩ := like.write target bytes
    exact ⟨refused, rfl, after⟩

namespace LineSource

def IgnoresErrors {τ : Type} (source : LineSource τ) : Prop :=
  ∀ left w w', World.Like w w' →
    (source.next left w).1 = (source.next left w').1 ∧
      (source.next left w).2.1 = (source.next left w').2.1 ∧
      (source.next left w).2.2.Like (source.next left w').2.2

theorem known_ignoresErrors : known.IgnoresErrors := by
  intro lines w w' like
  cases lines with
  | nil => exact ⟨rfl, rfl, like⟩
  | cons line rest => exact ⟨rfl, rfl, like⟩

theorem fillWithin_like (blocks : Nat) (ahead : Bytes) {w w' : World} (like : w.Like w') :
    (fillWithin blocks ahead w).1 = (fillWithin blocks ahead w').1 ∧
      (fillWithin blocks ahead w).2.Like (fillWithin blocks ahead w').2 := by
  induction blocks generalizing ahead w w' with
  | zero => exact ⟨rfl, like⟩
  | succ blocks ih =>
    rw [fillWithin, fillWithin]
    split
    · exact ⟨rfl, like⟩
    · have same : w'.input = w.input := by
        obtain ⟨errors, rfl⟩ := like
        rfl
      obtain ⟨got, after⟩ := like.read w.input blockSize
      rw [same]
      generalize w.read w.input blockSize = r at got after ⊢
      generalize w'.read w.input blockSize = r' at got after ⊢
      obtain ⟨answer, w₁⟩ := r
      obtain ⟨answer', w₂⟩ := r'
      obtain rfl : answer = answer' := got
      rcases answer with cause | _ | ⟨b, bs⟩
      · exact ⟨rfl, after⟩
      · exact ⟨rfl, after⟩
      · exact ih _ after

theorem ownInput_ignoresErrors : ownInput.IgnoresErrors := by
  intro ahead w w' like
  have filled : (fill ahead w).1 = (fill ahead w').1 ∧ (fill ahead w).2.Like (fill ahead w').2 := by
    have count : w'.available w'.input = w.available w.input := by
      obtain ⟨errors, rfl⟩ := like
      rfl
    rw [fill, fill, count]
    exact fillWithin_like _ ahead like
  obtain ⟨same, after⟩ := filled
  dsimp only [ownInput]
  rw [same]
  exact ⟨rfl, rfl, after⟩

end LineSource
end PipeShell
