import Mathlib.Logic.Function.Iterate
import PipeShell.Session

/-!
# What built-in commands change

A built-in command changes one thing at most: its own switch, the prompt, one variable or the folder.
So a run of them has turned each switch once for each of its calls, the last prompt stands, and the
variables are those that the calls of `set` have put one after another, whatever was written and
whatever was refused (`BuiltinCall.afterAll_effects`).
-/

namespace PipeShell

/-- A stage that is called as a built-in command, with a writer in some state. -/
structure BuiltinCall where
  stage : Stage
  Sink : Type
  write : Bytes → Sink → Option SystemError × Sink
  sink : Sink

def World.visit (w : World) (path : String) : World :=
  (w.enter (w.expandTilde path)).toOption.getD w

theorem World.visit_frame (w : World) (path : String) :
    w.visit path = { w with here := (w.visit path).here } := by
  unfold World.visit World.enter
  cases w.files.enterFolder w.here (w.expandTilde path) <;> rfl

namespace BuiltinCall

def args (c : BuiltinCall) : List String := c.stage.argv.drop 1

def Runs (c : BuiltinCall) (command : Builtin) : Prop := c.stage.kind = .builtin command

instance (c : BuiltinCall) (command : Builtin) : Decidable (c.Runs command) :=
  inferInstanceAs (Decidable (c.stage.kind = .builtin command))

def after (c : BuiltinCall) (s : Surroundings) : Surroundings := (c.stage.act s).after

def refused (c : BuiltinCall) (s : Surroundings) : Option SystemError :=
  (writeAll c.write (c.stage.act s).texts c.sink).1

def answer (c : BuiltinCall) (s : Surroundings) : Except Fault Effect :=
  (c.stage.act s).conclude c.stage.kind (c.refused s)

def afterAll (calls : List BuiltinCall) (s : Surroundings) : Surroundings :=
  calls.foldl (fun s c => c.after s) s

def prompt? (c : BuiltinCall) : Option String :=
  match c.stage.kind, c.args with
  | .builtin .setprompt, [prompt] => some prompt
  | _, _ => none

def binding? (c : BuiltinCall) : Option (String × String) :=
  match c.stage.kind, c.args with
  | .builtin .set, [name, value] => some (name, value)
  | _, _ => none

def path? (c : BuiltinCall) : Option String :=
  match c.stage.kind, c.args with
  | .builtin .cd, [] => some "~"
  | .builtin .cd, [path] => some path
  | _, _ => none

structure Effects (calls : List BuiltinCall) (s s' : Surroundings) : Prop where
  parse : s'.settings.parse = not^[calls.countP (·.Runs .parsecmd)] s.settings.parse
  echo : s'.settings.echo = not^[calls.countP (·.Runs .echocmd)] s.settings.echo
  showChild : s'.settings.showChild = not^[calls.countP (·.Runs .showchild)] s.settings.showChild
  prompt : s'.settings.prompt = (calls.filterMap prompt?).getLast?.getD s.settings.prompt
  symbols : s'.symbols =
    (calls.filterMap binding?).foldl (fun table b => table.update b.1 b.2) s.symbols
  world : s'.world = (calls.filterMap path?).foldl World.visit s.world
  elsewhere : s'.world = { s.world with here := s'.world.here }

variable {calls more : List BuiltinCall} {s s' s'' : Surroundings}

theorem Effects.nil (s : Surroundings) : Effects [] s s := ⟨rfl, rfl, rfl, rfl, rfl, rfl, rfl⟩

theorem iterate_append (runs : BuiltinCall → Bool) (on : Bool) :
    not^[more.countP runs] (not^[calls.countP runs] on) = not^[(calls ++ more).countP runs] on := by
  rw [← Function.iterate_add_apply, List.countP_append, Nat.add_comm]

theorem Effects.append (first : Effects calls s s') (second : Effects more s' s'') :
    Effects (calls ++ more) s s'' where
  parse := by rw [second.parse, first.parse, iterate_append]
  echo := by rw [second.echo, first.echo, iterate_append]
  showChild := by rw [second.showChild, first.showChild, iterate_append]
  prompt := by
    rw [second.prompt, first.prompt, List.filterMap_append, List.getLast?_append]
    cases (more.filterMap prompt?).getLast? <;> rfl
  symbols := by rw [second.symbols, first.symbols, List.filterMap_append, List.foldl_append]
  world := by rw [second.world, first.world, List.filterMap_append, List.foldl_append]
  elsewhere := by rw [second.elsewhere, first.elsewhere]

theorem actCd_after (path : String) (s : Surroundings) :
    (Builtin.actCd [path] s).after = { s with world := s.world.visit path } := by
  unfold Builtin.actCd World.visit
  cases entered : s.world.enter (s.world.expandTilde path) with
  | ok world => simp [entered, Except.toOption]
  | error cause => simp [entered, Except.toOption, Act.refuse]

theorem act_of_cd {c : BuiltinCall} (cd : c.Runs .cd) (s : Surroundings) :
    (∃ path notices, c.path? = some path ∧
        c.stage.act s = { Builtin.actCd [path] s with notices }) ∨
      ∃ notices, c.path? = none ∧
        c.stage.act s = { Act.refuse s .cd .tooManyArguments with notices } := by
  obtain ⟨⟨kind, argv⟩, Sink, write, sink⟩ := c
  obtain rfl : kind = .builtin .cd := cd
  rcases argv with _ | ⟨_, _ | ⟨path, _ | ⟨_, _⟩⟩⟩
  · exact .inl ⟨"~", _, rfl, rfl⟩
  · exact .inl ⟨"~", _, rfl, rfl⟩
  · exact .inl ⟨path, _, rfl, rfl⟩
  · exact .inr ⟨_, rfl, rfl⟩

theorem actExit_after (args : List String) (s : Surroundings) :
    (Builtin.actExit args s).after = s := by
  unfold Builtin.actExit
  split
  · rfl
  · split <;> rfl
  · rfl

theorem effects_after (c : BuiltinCall) (s : Surroundings) : Effects [c] s (c.after s) := by
  -- Only `cd` asks the world what comes of it. All others are decided by their words alone.
  by_cases cd : c.Runs .cd
  · have others : ∀ command, command ≠ .cd → ¬c.Runs command := by
      intro command other runs
      exact other (Kind.builtin.inj (runs.symm.trans cd))
    have prompt : c.prompt? = none := by simp [prompt?, show c.stage.kind = _ from cd]
    have binding : c.binding? = none := by simp [binding?, show c.stage.kind = _ from cd]
    rcases act_of_cd cd s with ⟨path, notices, goes, acts⟩ | ⟨notices, goes, acts⟩
    · have moved : c.after s = { s with world := s.world.visit path } := by
        rw [after, acts]
        exact actCd_after path s
      have frame := s.world.visit_frame path
      constructor <;> simp [moved, others, prompt, binding, goes, ← frame]
    · have stays : c.after s = s := by
        rw [after, acts]
        rfl
      constructor <;> simp [stays, others, prompt, binding, goes]
  obtain ⟨⟨kind, argv⟩, Sink, write, sink⟩ := c
  cases kind with
  | program => exact ⟨rfl, rfl, rfl, rfl, rfl, rfl, rfl⟩
  | builtin command =>
    cases command with
    | echo | parsecmd | echocmd | showchild => exact ⟨rfl, rfl, rfl, rfl, rfl, rfl, rfl⟩
    | cd => exact absurd rfl cd
    | set =>
      rcases argv with _ | ⟨_, _ | ⟨name, _ | ⟨value, _ | ⟨_, _⟩⟩⟩⟩ <;>
        exact ⟨rfl, rfl, rfl, rfl, rfl, rfl, rfl⟩
    | setprompt =>
      rcases argv with _ | ⟨_, _ | ⟨prompt, _ | ⟨_, _⟩⟩⟩ <;>
        exact ⟨rfl, rfl, rfl, rfl, rfl, rfl, rfl⟩
    | exit =>
      have stays : after ⟨⟨.builtin .exit, argv⟩, Sink, write, sink⟩ s = s := actExit_after _ s
      rw [stays]
      exact ⟨rfl, rfl, rfl, rfl, rfl, rfl, rfl⟩

theorem effects_afterAll (calls : List BuiltinCall) (s : Surroundings) :
    Effects calls s (afterAll calls s) := by
  induction calls generalizing s with
  | nil => exact .nil s
  | cons c rest ih => exact (effects_after c s).append (ih (c.after s))

/-! ## Single calls -/

theorem after_of_refused {c : BuiltinCall} {fault : Fault}
    (refused : (c.stage.act s).result = .error fault) : c.after s = s := by
  by_cases cd : c.Runs .cd
  · rcases act_of_cd cd s with ⟨path, notices, -, acts⟩ | ⟨notices, -, acts⟩
    · rw [after, acts]
      rw [acts] at refused
      unfold Builtin.actCd at refused ⊢
      cases entered : s.world.enter (s.world.expandTilde path) with
      | ok world => simp [entered] at refused
      | error cause => simp [Act.refuse, entered]
    · rw [after, acts]
      rfl
  obtain ⟨⟨kind, argv⟩, Sink, write, sink⟩ := c
  cases kind with
  | program => rfl
  | builtin command =>
    cases command with
    | echo | parsecmd | echocmd | showchild => cases refused
    | cd => exact absurd rfl cd
    | exit => exact actExit_after _ s
    | set =>
      rcases argv with _ | ⟨_, _ | ⟨_, _ | ⟨_, _ | ⟨_, _⟩⟩⟩⟩
      case nil | cons.nil | cons.cons.cons.nil => cases refused
      all_goals rfl
    | setprompt =>
      rcases argv with _ | ⟨_, _ | ⟨_, _ | ⟨_, _⟩⟩⟩
      case cons.cons.nil => cases refused
      all_goals rfl

theorem answer_of_silent {c : BuiltinCall} (silent : (c.stage.act s).texts = []) :
    c.answer s = (c.stage.act s).result := by
  have taken : c.refused s = none := by rw [refused, silent]; rfl
  unfold answer Act.conclude
  rw [taken]
  split
  · cases ‹none = some _›
  · rfl

/-- A call changes no more than it may: only going to another folder changes the world, and a command
that fails has changed nothing, unless it fails because it could not write. -/
structure Confined (c : BuiltinCall) (s : Surroundings) : Prop where
  moves : (c.after s).world ≠ s.world → c.Runs .cd ∧ c.answer s = .ok (.status 0)
  enters : c.Runs .cd → ((∃ effect, c.answer s = .ok effect) ↔
    ∃ path world, c.path? = some path ∧
      s.world.enter (s.world.expandTilde path) = .ok world)
  fails : ∀ fault, c.answer s = .error fault → c.after s = s ∨
    ∃ command cause, c.Runs command ∧ c.refused s = some cause ∧
      fault = .builtin command (.cannotWrite cause)

theorem fails_of_error {c : BuiltinCall} {fault : Fault} (failed : c.answer s = .error fault) :
    c.after s = s ∨ ∃ command cause, c.Runs command ∧ c.refused s = some cause ∧
      fault = .builtin command (.cannotWrite cause) := by
  unfold answer Act.conclude at failed
  split at failed
  · rename_i command cause kind refused
    exact .inr ⟨command, cause, kind, refused, (Except.error.inj failed).symm⟩
  · exact .inl (after_of_refused failed)

theorem confined_of_cd {c : BuiltinCall} (cd : c.Runs .cd) (s : Surroundings) :
    c.Confined s := by
  rcases act_of_cd cd s with ⟨path, notices, goes, acts⟩ | ⟨notices, goes, acts⟩
  · cases entered : s.world.enter (s.world.expandTilde path) with
    | ok world =>
      have answers : c.answer s = .ok (.status 0) := by
        rw [answer_of_silent (by simp [acts, Builtin.actCd, entered]), acts]
        simp [Builtin.actCd, entered]
      refine ⟨fun _ => ⟨cd, answers⟩, fun _ => ?_, fun _ => fails_of_error⟩
      exact ⟨fun _ => ⟨path, world, goes, entered⟩, fun _ => ⟨_, answers⟩⟩
    | error cause =>
      have stays : c.after s = s := by simp [after, acts, Builtin.actCd, entered, Act.refuse]
      have answers : c.answer s = .error (.builtin .cd
          (.cannotEnter (s.world.expandTilde path) cause)) := by
        rw [answer_of_silent (by simp [acts, Builtin.actCd, entered, Act.refuse]), acts]
        simp [Builtin.actCd, entered, Act.refuse]
      refine ⟨fun moved => absurd (by rw [stays]) moved, fun _ => ?_, fun _ => fails_of_error⟩
      constructor
      · rintro ⟨effect, succeeds⟩
        cases answers.symm.trans succeeds
      · rintro ⟨path', world, goes', entered'⟩
        cases goes.symm.trans goes'
        cases entered.symm.trans entered'
  · have stays : c.after s = s := by rw [after, acts]; rfl
    have answers : c.answer s = .error (.builtin .cd .tooManyArguments) := by
      rw [answer_of_silent (by rw [acts]; rfl), acts]
      rfl
    refine ⟨fun moved => absurd (by rw [stays]) moved, fun _ => ?_, fun _ => fails_of_error⟩
    simp [answers, goes]

theorem confined (c : BuiltinCall) (s : Surroundings) : c.Confined s := by
  by_cases cd : c.Runs .cd
  · exact confined_of_cd cd s
  · have stays : c.path? = none := by
      unfold path?
      split
      · exact absurd ‹_› cd
      · exact absurd ‹_› cd
      · rfl
    have same : (c.after s).world = s.world := by simpa [stays] using (effects_after c s).world
    exact ⟨fun moved => absurd same moved, fun runs => absurd runs cd, fun _ => fails_of_error⟩

theorem afterAll_congr {others : List BuiltinCall}
    (same : others.map (·.stage) = calls.map (·.stage)) (s : Surroundings) :
    afterAll others s = afterAll calls s := by
  have staged : ∀ calls : List BuiltinCall,
      afterAll calls s = (calls.map (·.stage)).foldl (fun s stage => (stage.act s).after) s := by
    intro calls
    rw [List.foldl_map]
    rfl
  rw [staged, staged, same]

end BuiltinCall

/-! ## Runs of calls -/

def Session.call {σ : Type} (host : Host σ) (stage : Stage) (output : Option End) (t : Session σ) :
    BuiltinCall :=
  ⟨stage, σ × World, host.write output, (t.host, (stage.act t.surroundings).after.world)⟩

theorem BuiltinCall.afterAll_effects (calls : List BuiltinCall) (s : Surroundings) :
    Effects calls s (afterAll calls s) ∧
      (∀ others : List BuiltinCall, others.map (·.stage) = calls.map (·.stage) →
        afterAll others s = afterAll calls s) ∧
      (∀ before c rest, calls = before ++ c :: rest → c.Confined (afterAll before s)) ∧
      ∀ {σ : Type} (host : Host σ) (stage : Stage) (output : Option End) (t : Session σ),
        (t.runBuiltin host stage output).1 = (t.call host stage output).answer t.surroundings ∧
          (t.runBuiltin host stage output).2.symbols =
            ((t.call host stage output).after t.surroundings).symbols ∧
          (t.runBuiltin host stage output).2.settings =
            ((t.call host stage output).after t.surroundings).settings :=
  ⟨effects_afterAll calls s, fun _ same => afterAll_congr same s, fun _ c _ _ => c.confined _,
    fun _ _ _ _ => ⟨rfl, rfl, rfl⟩⟩

end PipeShell
