import PipeShell.Host.Scripted
import PipeShell.Proofs.Books
import PipeShell.Proofs.FailFast
import PipeShell.Proofs.Turns

/-!
# Lines see what was there before them

Commands may change variables, settings and the folder, but none of them has its turn before all
programs of its line have started. So a line is launched from what was there before it, and what its
commands change, one after another, is there for the next line (`Session.execute_snapshot`).
-/

namespace PipeShell

/-! ## What commands change -/

/-- What a command acts on, but for the files. -/
structure Footing where
  symbols : Symbols
  settings : Settings
  here : Nat
  environment : Environment
  tilde : Environment → String → String

def Surroundings.footing (a : Surroundings) : Footing :=
  ⟨a.symbols, a.settings, a.world.here, a.world.environment, a.world.tilde⟩

theorem Surroundings.footing_eq {a b : Surroundings} (symbols : b.symbols = a.symbols)
    (settings : b.settings = a.settings) (stands : World.Stands a.world b.world) :
    b.footing = a.footing := by
  simp only [footing, symbols, settings, stands.here, stands.environment, stands.tilde]

/-- Commands act one after another, each on the footing that the one before it has left. Programs may
change the files between them. -/
inductive ActInTurn : List Stage → Footing → Footing → Prop
  | nil (f : Footing) : ActInTurn [] f f
  | cons {stage : Stage} {rest : List Stage} {a : Surroundings} {f : Footing}
      (later : ActInTurn rest (stage.act a).after.footing f) : ActInTurn (stage :: rest) a.footing f

/-- Nothing that is done for the shell moves it, changes its environment or the meaning of a tilde. -/
structure Host.Stays {σ : Type} (host : Host σ) : Prop where
  spawn : ∀ launch state w, World.Stands w (host.spawn launch state w).world
  wait : ∀ pid state w, World.Stands w (host.wait pid state w).world
  write : ∀ target bytes state w, World.Stands w (host.write target bytes (state, w)).2.2

def Plan.commands (plan : Plan) : List Stage :=
  plan.stages.filter fun stage => stage.kind.isBuiltin

def Begun.command? : Begun → Option Stage
  | deferred stage _ => some stage
  | _ => none

namespace Session
variable {σ : Type} {host : Host σ} {s s' : Session σ}

def footing (s : Session σ) : Footing := s.surroundings.footing

/-! ## Starting -/

theorem footing_close? (s : Session σ) (e : Option End) : (s.close? e).footing = s.footing := by
  rcases e with _ | _ | _ | _ <;> rfl

theorem footing_receive {α : Type} {r : Reply σ α} (stands : World.Stands s.world r.world)
    (event : Except Fault α → Event) : (s.receive r event).2.footing = s.footing :=
  Surroundings.footing_eq rfl rfl stands

theorem footing_spawn (stays : host.Stays) {launch : Launch} {answer : Except Fault Pid}
    (asked : s.spawn host launch = (answer, s')) : s'.footing = s.footing := by
  obtain ⟨-, rfl⟩ := Prod.mk.inj asked
  exact footing_receive (stays.spawn launch s.host s.world) _

theorem footing_wait (stays : host.Stays) {pid : Pid} {answer : Except Fault Int}
    (asked : s.wait host pid = (answer, s')) : s'.footing = s.footing := by
  obtain ⟨-, rfl⟩ := Prod.mk.inj asked
  exact footing_receive (stays.wait pid s.host s.world) _

theorem footing_trace (echo : Bool) (stage : Stage) (s : Session σ) :
    (s.trace echo stage).footing = s.footing := by
  unfold trace
  split <;> rfl

theorem footing_announce (showChild : Bool) (pid : Pid) (stage : Stage) (s : Session σ) :
    (s.announce showChild pid stage).footing = s.footing := by
  unfold announce
  split <;> rfl

section
variable {echo showChild : Bool} {path : String} {stages : List (Stage × Streams)}
  {begun : List Begun}

theorem Starts.footing_eq (stays : host.Stays)
    (starts : Starts host echo showChild path s stages begun s') : s'.footing = s.footing := by
  induction starts with
  | nil s => rfl
  | command _ _ ih => rw [ih, footing_close?, footing_trace]
  | process _ started _ ih => rw [ih, footing_announce, footing_spawn stays started, footing_trace]
  | refused _ refused _ ih => exact ih.trans ((footing_spawn stays refused).trans (footing_trace ..))

theorem Starts.commands (starts : Starts host echo showChild path s stages begun s') :
    begun.filterMap Begun.command? =
      (stages.map Prod.fst).filter fun stage => stage.kind.isBuiltin := by
  induction starts with
  | nil s => rfl
  | command builtin _ ih => simp [Begun.command?, builtin, ih]
  | process program _ _ ih | refused program _ _ ih =>
    simpa [List.filterMap_cons, Begun.command?, program] using ih

theorem Starts.dealings_eq (starts : Starts host echo showChild path s stages begun s') :
    ∃ es, s'.dealings = s.dealings ++ es ∧ es.filterMap Event.launch? = launches path stages ∧
      ∀ e ∈ es, ∃ launch answer, e = .spawned launch answer := by
  induction starts with
  | nil s => exact ⟨[], by simp, rfl, by simp⟩
  | command builtin _ ih =>
    obtain ⟨es, dealings, asked, only⟩ := ih
    rw [dealings_close?, (onlyReports_trace ..).dealings] at dealings
    exact ⟨es, dealings, by simp [asked, launches, builtin], only⟩
  | process program started _ ih =>
    obtain ⟨es, dealings, asked, only⟩ := ih
    rw [(onlyReports_announce ..).dealings, (spawn_spec started).2, (onlyReports_trace ..).dealings,
      List.append_assoc, List.singleton_append] at dealings
    exact ⟨_, dealings, by simp [asked, launches, program, Event.launch?],
      List.forall_mem_cons.2 ⟨⟨_, _, rfl⟩, only⟩⟩
  | refused program refused _ ih =>
    obtain ⟨es, dealings, asked, only⟩ := ih
    rw [(OnlyReports.note _ _).dealings, (spawn_spec refused).2, (onlyReports_trace ..).dealings,
      List.append_assoc, List.singleton_append] at dealings
    exact ⟨_, dealings, by simp [asked, launches, program, Event.launch?],
      List.forall_mem_cons.2 ⟨⟨_, _, rfl⟩, only⟩⟩

end

/-! ## Turns -/

theorem writeAll_stands (stays : host.Stays) (target : Option End) (texts : List String) (state : σ)
    (w : World) : World.Stands w (writeAll (host.write target) texts (state, w)).2.2 := by
  induction texts generalizing state w with
  | nil => exact .refl w
  | cons text rest ih =>
    have kept := stays.write target (Text.bytes text) state w
    rw [writeAll]
    rcases wrote : host.write target (Text.bytes text) (state, w) with ⟨_ | cause, state', w'⟩
    · rw [wrote] at kept
      exact kept.trans (ih state' w')
    · rw [wrote] at kept
      exact kept

theorem footing_runBuiltin (stays : host.Stays) {stage : Stage} {output : Option End}
    {result : Except Fault Effect} (ran : s.runBuiltin host stage output = (result, s')) :
    s'.footing = (stage.act s.surroundings).after.footing := by
  obtain ⟨-, rfl⟩ := Prod.mk.inj ran
  have stands := writeAll_stands stays output (stage.act s.surroundings).texts s.host
    (stage.act s.surroundings).after.world
  exact Surroundings.footing_eq rfl rfl stands

theorem Turns.inTurn (stays : host.Stays) {begun : List Begun} {fates : List Fate}
    (turns : Turns host s begun fates s') :
    ActInTurn (begun.filterMap Begun.command?) s.footing s'.footing := by
  induction turns with
  | nil s => exact .nil _
  | process pid _ ih | refused cause _ ih => exact ih
  | command ran _ ih =>
    rw [footing_close?, footing_runBuiltin stays ran] at ih
    exact .cons ih

theorem Turns.dealings_eq {begun : List Begun} {fates : List Fate}
    (turns : Turns host s begun fates s') :
    s'.dealings = s.dealings ++ (begun.filterMap Begun.command?).map .builtin := by
  induction turns with
  | nil s => simp
  | process pid _ ih | refused cause _ ih => exact ih
  | @command s t _ _ _ stage output _ ran _ ih =>
    have turn := (runBuiltin_spec host stage output s).2
    rw [ran] at turn
    simp only [ih, dealings_close?, turn, Begun.command?, List.filterMap_cons, List.map_cons,
      List.append_assoc, List.singleton_append]

/-! ## Endings -/

theorem conclude_dealings (host : Host σ) (plan : Plan) (failures : List Fault)
    (results : BuiltinResults) (s : Session σ) :
    ∃ waits, (s.conclude host plan failures results).2.dealings = s.dealings ++ waits ∧
      ∀ e ∈ waits, e.IsWait := by
  unfold conclude
  split
  · exact ⟨[], by simp, by simp⟩
  · split
    · have added := (addJob_spec plan.describe results.settled s).2.2
      refine ⟨[], ?_, by simp⟩
      rw [(OnlyReports.note _ _).dealings, added, List.append_nil]
    · obtain ⟨-, waits, dealings, -, waited, -⟩ := waitAll_spec host results.settled s
      have noted := OnlyReports.note (s.waitAll host results.settled).2.2 (.phase .running .waited)
      refine ⟨waits, ?_, fun e member => ?_⟩
      · dsimp only
        split <;> exact noted.dealings.trans dealings
      · obtain ⟨pid, answer, rfl⟩ := waited e member
        exact .waited pid answer

theorem footing_waitAll (stays : host.Stays) (stages : List Settled) (s : Session σ) :
    (s.waitAll host stages).2.2.footing = s.footing := by
  induction stages generalizing s with
  | nil => rfl
  | cons first rest ih =>
    cases first with
    | ended status => exact ih s
    | process pid =>
      rcases asked : s.wait host pid with ⟨cause | status, t⟩
      · have kept := footing_wait stays asked
        simp only [waitAll, asked]
        exact (ih (t.note (.waitFailed pid cause))).trans kept
      · have kept := footing_wait stays asked
        simp only [waitAll, asked]
        exact (ih t).trans kept

theorem footing_conclude (stays : host.Stays) (plan : Plan) (failures : List Fault)
    (results : BuiltinResults) (s : Session σ) :
    (s.conclude host plan failures results).2.footing = s.footing := by
  unfold conclude
  split
  · rfl
  · split
    · rfl
    · have waited := footing_waitAll stays results.settled s
      dsimp only
      split <;> exact waited

theorem footing_ready (plan : Plan) (wiring : Wiring) (s : Session σ) :
    (s.ready plan wiring).footing = s.footing :=
  Surroundings.footing_eq rfl rfl (World.Stands.wire plan s.world)

/-- Whatever commands a line holds, its arguments, the path in which its programs are searched and
what is shown of them come from what was there before the line. All programs start, in their order,
before the first command has its turn. Then the commands act, each once and in their order, and what
they leave is there after the line. A line that does not come to its launch leaves all as it was. -/
theorem execute_snapshot (host : Host σ) (stays : host.Stays) (line : Line) (s : Session σ) :
    (∀ plan wiring, line.plan? s.symbols = some plan → plan.stages ≠ [] →
      (plan.wire s.world).wiring = .ok wiring →
      ∃ notices begun s₁ fates s₂ starts waits,
        Starts host s.settings.echo s.settings.showChild s.searchPath
          ((s.noteAll notices).ready plan wiring) (plan.stages.zip wiring.stages) begun s₁ ∧
        s₁.footing = s.footing ∧
        Turns host s₁ begun fates s₂ ∧
        ActInTurn plan.commands s.footing s₂.footing ∧
        (s.execute host line).2.footing = s₂.footing ∧
        (s.execute host line).2.dealings =
          s.dealings ++ starts ++ plan.commands.map .builtin ++ waits ∧
        starts.filterMap Event.launch? = launches s.searchPath (plan.stages.zip wiring.stages) ∧
        (∀ e ∈ starts, ∃ launch answer, e = .spawned launch answer) ∧ ∀ e ∈ waits, e.IsWait) ∧
    ((∀ plan wiring, line.plan? s.symbols = some plan → (plan.wire s.world).wiring = .ok wiring →
        plan.stages = []) →
      Untouched s (s.execute host line).2) := by
  obtain ⟨notices, ⟨empty, same, -⟩ | ⟨plan, ready, staged, ran⟩⟩ := execute_plan host line s
  · refine ⟨fun plan _ ready staged => absurd (empty plan ready) staged, fun _ => ?_⟩
    rw [same]
    exact .noteAll s notices
  · cases wired : (plan.wire s.world).wiring with
    | error fault =>
      refine ⟨fun plan' wiring ready' _ wired' => ?_, fun _ => ?_⟩
      · obtain rfl := Option.some.inj (ready.symm.trans ready')
        rw [wired] at wired'
        cases wired'
      · rw [ran]
        have refused := runPlan_refused (s := s.noteAll notices) host wired
        exact (Untouched.noteAll s notices).trans refused.2.2
    | ok wiring =>
      refine ⟨fun plan' wiring' ready' _ wired' => ?_, fun idle =>
        absurd (idle plan wiring ready wired) staged⟩
      obtain rfl := Option.some.inj (ready.symm.trans ready')
      obtain rfl := Except.ok.inj (wired.symm.trans wired')
      obtain ⟨fates, s₂, ⟨begun, s₁, starts, turns⟩, concluded⟩ :=
        runPlan_launches (s := s.noteAll notices) host wired
      have enough := (length_of_wire wired).symm
      have commands : begun.filterMap Begun.command? = plan.commands := by
        rw [starts.commands, List.map_fst_zip enough.le, Plan.commands]
      obtain ⟨es, started, asked, only⟩ := starts.dealings_eq
      obtain ⟨waits, ended, waited⟩ := conclude_dealings host plan (Fate.faults fates)
        (Fate.results fates) (s₂.note (.phase .launching .running))
      -- Nothing has moved when the first command has its turn.
      have unmoved : s₁.footing = s.footing := (starts.footing_eq stays).trans (footing_ready ..)
      have inTurn := turns.inTurn stays
      rw [commands, unmoved] at inTurn
      refine ⟨notices, begun, s₁, fates, s₂, es, waits, starts, unmoved, turns, inTurn, ?_, ?_, asked,
        only, waited⟩
      · rw [ran, concluded]
        exact footing_conclude stays ..
      · rw [ran, concluded, ended, (OnlyReports.note _ _).dealings, turns.dealings_eq, commands, started,
          dealings_ready, (OnlyReports.noteAll s notices).dealings]

end Session

namespace World

theorem Stands.close? (e : Option End) (w : World) : Stands w (w.close? e) := by
  rcases e with _ | _ | _ | _ <;> exact ⟨rfl, rfl, rfl⟩

theorem Stands.write (target : Option End) (bytes : Bytes) (w : World) :
    Stands w (w.write target bytes).2 := by
  rcases target with _ | _ | id | id
  · exact ⟨rfl, rfl, rfl⟩
  · exact ⟨rfl, rfl, rfl⟩
  · simp only [World.write]
    split <;> exact ⟨rfl, rfl, rfl⟩
  · simp only [World.write, writeOpened]
    split
    · exact ⟨rfl, rfl, rfl⟩
    · split <;> exact ⟨rfl, rfl, rfl⟩

end World

theorem ScriptedHost.stays : ScriptedHost.host.Stays where
  spawn launch h w := by
    have written := World.Stands.write launch.streams.output
      (Text.bytes (h.script (launch.argv.headD "")).writes) w
    simp only [host, spawn]
    split
    · exact (World.Stands.close? _ w).trans (.close? _ _)
    · dsimp only
      split
      · exact written.trans (.close? _ _)
      · exact (written.trans (.close? _ _)).trans (.close? _ _)
  wait _ _ w := .refl w
  write target bytes _ w := World.Stands.write target bytes w

namespace Session

def turnabout : Line :=
  ⟨#[{ kind := .builtin .echocmd, text := some "echocmd", nextStage := some 1 },
      { kind := .builtin .set, text := some "set", next := some 2, nextStage := some 4 },
      { text := some "PATH", next := some 3 }, { text := some "/new" },
      { text := some "cat", next := some 5, nextStage := some 6 },
      { origin := .parameter, name := some "PATH" },
      { kind := .builtin .set, text := some "set", next := some 7, nextStage := some 9 },
      { text := some "PATH", next := some 8 }, { text := some "/newer" },
      { text := some "wc" }], some 0, some 9⟩

def turnaboutPlan : Plan :=
  { stages := [⟨.builtin .echocmd, ["echocmd"]⟩, ⟨.builtin .set, ["set", "PATH", "/new"]⟩,
      ⟨.program, ["cat", "/old"]⟩, ⟨.builtin .set, ["set", "PATH", "/newer"]⟩, ⟨.program, ["wc"]⟩] }

def oldWays : Session ScriptedHost :=
  { host := {}, symbols := Symbols.empty.update "PATH" "/old", settings := { showChild := true } }

theorem execute_snapshot_turnabout :
    ScriptedHost.host.Stays ∧ turnabout.plan? oldWays.symbols = some turnaboutPlan ∧
    turnaboutPlan.stages ≠ [] ∧
    (oldWays.execute ScriptedHost.host turnabout).2.symbols.lookup "PATH" = "/newer" ∧
    (oldWays.execute ScriptedHost.host turnabout).2.settings = { echo := true, showChild := true } ∧
    ∃ wiring, (turnaboutPlan.wire oldWays.world).wiring = .ok wiring ∧
      ∃ notices begun s₁, Starts ScriptedHost.host false true "/old"
          ((oldWays.noteAll notices).ready turnaboutPlan wiring)
          (turnaboutPlan.stages.zip wiring.stages) begun s₁ ∧
        ActInTurn turnaboutPlan.commands oldWays.footing
          (oldWays.execute ScriptedHost.host turnabout).2.footing := by
  have stays := ScriptedHost.stays
  have ready : turnabout.plan? oldWays.symbols = some turnaboutPlan := by decide +kernel
  have found := execute_snapshot ScriptedHost.host stays turnabout oldWays
  obtain ⟨notices, begun, s₁, -, s₂, -, -, starts, -, -, inTurn, left, -⟩ :=
    found.1 turnaboutPlan _ ready (by simp [turnaboutPlan]) rfl
  have path : oldWays.searchPath = "/old" := by decide +kernel
  rw [path] at starts
  rw [← left] at inTurn
  exact ⟨stays, ready, by simp [turnaboutPlan], by decide +kernel, by decide +kernel, _, rfl,
    notices, begun, s₁, starts, inTurn⟩

end Session
end PipeShell
