import PipeShell.Proofs.Looping
import PipeShell.Proofs.Numerals
import PipeShell.Proofs.Outcome

/-!
# The code to leave with

The command that leaves the shell takes its code from a signed decimal number that fits 32 bits, and
refuses every other argument (`Session.runBuiltin_exit`). What it answers is what becomes of the line: the
shell leaves with the code that was written, and stays if none was (`Shell.exit_leaves`).
-/

namespace PipeShell

structure ExitCode (argument : String) (code : Int) : Prop where
  written : Text.Numeral argument.toList code
  fits : -2 ^ 31 ≤ code ∧ code ≤ 2 ^ 31 - 1

theorem exitCode_iff {argument : String} {code : Int} :
    ExitCode argument code ↔ Text.signed32? argument = some code := by
  rw [Text.signed32?_eq_some]
  exact ⟨fun ⟨written, fits⟩ => ⟨written, fits⟩, fun ⟨written, fits⟩ => ⟨written, fits⟩⟩

theorem ExitCode.unique {argument : String} {code other : Int} (first : ExitCode argument code)
    (second : ExitCode argument other) : code = other :=
  Option.some.inj ((exitCode_iff.1 first).symm.trans (exitCode_iff.1 second))

theorem exitCode_toString {code : Int} (fits : -2 ^ 31 ≤ code ∧ code ≤ 2 ^ 31 - 1) :
    ExitCode (toString code) code := ⟨Text.numeral_toString code, fits⟩

/-! ## The command -/

def Stage.Leaves (stage : Stage) (argument : String) : Prop :=
  stage.kind = .builtin .exit ∧ stage.argv.drop 1 = [argument]

namespace Session
variable {σ : Type} {host : Host σ}

theorem runBuiltin_exit (host : Host σ) {stage : Stage} {argument : String}
    (leaves : stage.Leaves argument) (output : Option End) (s : Session σ) :
    (∀ code, (s.runBuiltin host stage output).1 = .ok (.exit code) ↔ ExitCode argument code) ∧
      ((∀ code, ¬ExitCode argument code) →
        (s.runBuiltin host stage output).1 = .error (.builtin .exit (.notNumeric argument))) := by
  obtain ⟨kind, args⟩ := leaves
  -- the command writes nothing, so no writer can come between
  have answer : (s.runBuiltin host stage output).1 =
      (Builtin.actExit [argument] s.surroundings).result := by
    have silent : (Builtin.actExit [argument] s.surroundings).texts = [] := by
      simp only [Builtin.actExit]
      split <;> rfl
    simp only [runBuiltin, Stage.act, kind, args, Builtin.act, silent, writeAll, Act.conclude]
  rw [answer, Builtin.actExit]
  simp only [exitCode_iff]
  cases Text.signed32? argument with
  | none => simp [Act.refuse]
  | some code => simp

end Session

/-! ## The line -/

def Fate.Of {σ : Type} (host : Host σ) (stage : Stage) : Fate → Prop
  | command result => stage.kind.isBuiltin ∧
      ∃ output s, (Session.runBuiltin host stage output s).1 = result
  | process _ | refused _ => ¬stage.kind.isBuiltin

def Plan.Leaves (plan : Plan) (argument : String) : Prop :=
  ∀ stage ∈ plan.stages, stage.kind = .builtin .exit → stage.Leaves argument

namespace Session
variable {σ : Type} {host : Host σ} {plan : Plan} {argument : String} {s s' : Session σ}

theorem Starts.fates {echo showChild : Bool} {path : String} {s₁ t t' : Session σ}
    {stages : List (Stage × Streams)} {begun : List Begun} {fates : List Fate}
    (starts : Starts host echo showChild path s stages begun s₁) (turns : Turns host t begun fates t') :
    List.Forall₂ (Fate.Of host) (stages.map Prod.fst) fates := by
  induction starts generalizing t fates with
  | nil =>
    cases turns
    exact .nil
  | command builtin _ ih =>
    cases turns with
    | command ran later => exact .cons ⟨builtin, _, _, congrArg Prod.fst ran⟩ (ih later)
  | process program _ _ ih =>
    cases turns with
    | process _ later => exact .cons program (ih later)
  | refused program _ _ ih =>
    cases turns with
    | refused _ later => exact .cons program (ih later)

theorem Launches.fates {wiring : Wiring} {fates : List Fate}
    (launched : s.Launches host plan wiring fates s')
    (wired : (plan.wire s.world).wiring = .ok wiring) :
    List.Forall₂ (Fate.Of host) plan.stages fates := by
  obtain ⟨begun, s₁, starts, turns⟩ := launched
  have given := starts.fates turns
  rwa [List.map_fst_zip (length_of_wire wired).ge] at given

theorem runPlan_fates (host : Host σ) {wiring : Wiring}
    (wired : (plan.wire s.world).wiring = .ok wiring) :
    ∃ fates s', List.Forall₂ (Fate.Of host) plan.stages fates ∧
      Verdict host plan s' fates (s.runPlan host plan) := by
  obtain ⟨fates, s', launched, ran⟩ := runPlan_launches host wired
  have verdict := conclude_verdict host plan fates (s'.note (.phase .launching .running))
  rw [← ran] at verdict
  exact ⟨fates, _, launched.fates wired, verdict⟩

theorem exitCode_of_fate {stage : Stage} {fate : Fate} {code : Int} (of : fate.Of host stage)
    (only : stage.kind = .builtin .exit → stage.Leaves argument) (left : fate.exit? = some code) :
    ExitCode argument code := by
  obtain rfl := Fate.exit?_eq_some left
  obtain ⟨-, output, t, answer⟩ := of
  have kind : stage.kind = .builtin .exit :=
    ((runBuiltin_ok answer).resolve_left (by simp)).1
  exact ((runBuiltin_exit host (only kind) output t).1 code).1 answer

theorem exit?_of_exitCode {stage : Stage} {fate : Fate} {code : Int} (of : fate.Of host stage)
    (leaves : stage.Leaves argument) (asked : ExitCode argument code) : fate.exit? = some code := by
  have builtin : stage.kind.isBuiltin := by rw [leaves.1]; rfl
  cases fate with
  | process | refused => exact absurd builtin of
  | command result =>
    obtain ⟨-, output, t, rfl⟩ := of
    rw [((runBuiltin_exit host leaves output t).1 code).2 asked]
    rfl

theorem exitCode_of_runPlan (only : plan.Leaves argument) {code : Int} {failures : List Fault}
    (left : (s.runPlan host plan).1 = .ok ⟨.exit code, failures⟩) : ExitCode argument code := by
  cases wired : (plan.wire s.world).wiring with
  | error fault =>
    rw [(runPlan_refused host wired).2.1] at left
    cases left
  | ok wiring =>
    obtain ⟨fates, s', given, verdict⟩ := runPlan_fates host wired
    generalize s.runPlan host plan = ended at left verdict
    cases verdict with
    | exit asked =>
      cases left
      have member : .command (.ok (.exit code)) ∈ fates := by simp [asked]
      obtain ⟨i, here⟩ := List.mem_iff_getElem?.1 member
      obtain ⟨stage, there, of⟩ := forall₂_getElem? given here
      exact exitCode_of_fate of (only stage (List.mem_of_getElem? there)) rfl
    | background | finished | lost => cases left

theorem runPlan_of_exitCode (only : plan.Leaves argument) {stage : Stage}
    (member : stage ∈ plan.stages) (kind : stage.kind = .builtin .exit) {wiring : Wiring}
    (wired : (plan.wire s.world).wiring = .ok wiring) {code : Int} (asked : ExitCode argument code) :
    ∃ failures, (s.runPlan host plan).1 = .ok ⟨.exit code, failures⟩ := by
  obtain ⟨fates, s', given, verdict⟩ := runPlan_fates host wired
  have gone : ¬∀ fate ∈ fates, fate.exit? = none := by
    intro stays
    obtain ⟨i, here⟩ := List.mem_iff_getElem?.1 member
    obtain ⟨fate, there, of⟩ := forall₂_getElem? given.flip here
    have left := exit?_of_exitCode of (only stage member kind) asked
    rw [stays fate (List.mem_of_getElem? there)] at left
    cases left
  have same : ∀ other failures, (s.runPlan host plan).1 = .ok ⟨.exit other, failures⟩ →
      other = code := fun other failures ends => (exitCode_of_runPlan only ends).unique asked
  generalize s.runPlan host plan = ended at same verdict ⊢
  cases verdict with
  | exit => exact ⟨_, by rw [same _ _ rfl]⟩
  | background stays | finished stays | lost stays => exact absurd stays gone

end Session

namespace Shell
variable {σ : Type} {host : Host σ} {argument : String}

theorem stays_of_line {sh : Shell σ} {text : String} {line : Line} {plan : Plan}
    (read : Line.parse text = .ok line) (ready : line.plan? sh.session.symbols = some plan)
    (only : plan.Leaves argument) (codeless : ∀ code, ¬ExitCode argument code) :
    (sh.handle host text).1 = .none := by
  refine Option.eq_none_iff_forall_ne_some.2 fun code asked => ?_
  obtain ⟨-, line', execution, read', ran, ends⟩ := (handle_some host text code sh).1 asked
  obtain rfl : line = line' := Except.ok.inj (read.symm.trans read')
  obtain ⟨notices, ⟨-, -, finishes⟩ | ⟨plan', ready', -, same⟩⟩ :=
    Session.execute_plan host line (sh.listed line)
  · rw [ran] at finishes
    cases finishes
    cases ends
  · have symbols : (sh.listed line).symbols = sh.session.symbols := by
      unfold listed
      split <;> rfl
    rw [symbols, ready] at ready'
    obtain rfl := Option.some.inj ready'
    obtain ⟨outcome, failures⟩ := execution
    obtain rfl : outcome = .exit code := ends
    rw [same] at ran
    exact codeless code (Session.exitCode_of_runPlan only ran)

/-- The command for leaving takes a code if the argument is one, and else it is refused. A line leaves the
shell with the code, and without one the shell stays. Every number of 32 bits is a code as it is written. -/
theorem exit_leaves (host : Host σ) (argument : String) :
    (∀ stage output (s : Session σ) code, stage.Leaves argument →
      ((s.runBuiltin host stage output).1 = .ok (.exit code) ↔ ExitCode argument code)) ∧
    ((∀ code, ¬ExitCode argument code) →
      (∀ stage output (s : Session σ), stage.Leaves argument →
        (s.runBuiltin host stage output).1 = .error (.builtin .exit (.notNumeric argument))) ∧
      ∀ (sh : Shell σ) text line plan, Line.parse text = .ok line →
        line.plan? sh.session.symbols = some plan → plan.Leaves argument →
        (sh.handle host text).1 = none) ∧
    (∀ code, ExitCode argument code → ∀ (plan : Plan) (s : Session σ) wiring stage,
      plan.Leaves argument → stage ∈ plan.stages → stage.kind = .builtin .exit →
      (plan.wire s.world).wiring = .ok wiring →
      ∃ failures, (s.runPlan host plan).1 = .ok ⟨.exit code, failures⟩) ∧
    ∀ code : Int, -2 ^ 31 ≤ code ∧ code ≤ 2 ^ 31 - 1 → argument = toString code →
      ∀ stage output (s : Session σ), stage.Leaves argument →
        (s.runBuiltin host stage output).1 = .ok (.exit code) := by
  refine ⟨fun stage output s code leaves => ?_, fun codeless => ⟨fun stage output s leaves => ?_, ?_⟩,
    fun code asked plan s wiring stage only member kind wired => ?_, ?_⟩
  · exact (Session.runBuiltin_exit host leaves output s).1 code
  · exact (Session.runBuiltin_exit host leaves output s).2 codeless
  · exact fun sh text line plan read ready only => stays_of_line read ready only codeless
  · exact Session.runPlan_of_exitCode only member kind wired asked
  · rintro code fits rfl stage output s leaves
    exact ((Session.runBuiltin_exit host leaves output s).1 code).2 (exitCode_toString fits)

def hastyPlan : Plan where
  stages := [⟨.builtin .exit, ["exit", "-0042"]⟩, ⟨.builtin .echo, ["echo", "x"]⟩]
  background := true

def largeLine : Line :=
  ⟨#[{ kind := .builtin .exit, text := some "exit", next := some 1, nextStage := some 2 },
    { text := some "2147483648" }, { text := some "cat" }], some 0, some 2⟩

def largePlan : Plan where
  stages := [⟨.builtin .exit, ["exit", "2147483648"]⟩, ⟨.program, ["cat"]⟩]

theorem exit_leaves_bounds :
    (∃ failures, (newcomer.session.runPlan ScriptedHost.host hastyPlan).1 =
      .ok ⟨.exit (-42), failures⟩) ∧
    (newcomer.session.runBuiltin ScriptedHost.host ⟨.builtin .exit, ["exit", "2147483648"]⟩ none).1 =
      .error (.builtin .exit (.notNumeric "2147483648")) ∧
    (newcomer.handle ScriptedHost.host "exit 2147483648 | cat").1 = none ∧
    (newcomer.session.runBuiltin ScriptedHost.host
      ⟨.builtin .exit, ["exit", toString (-2 ^ 31 : Int)]⟩ none).1 = .ok (.exit (-2 ^ 31)) := by
  have small : ExitCode "-0042" (-42) := exitCode_iff.2 (by decide +kernel)
  have large : ∀ code, ¬ExitCode "2147483648" code := fun code asked => by
    have unread : Text.signed32? "2147483648" = none := by decide +kernel
    rw [exitCode_iff, unread] at asked
    cases asked
  have read : Line.parse "exit 2147483648 | cat" = .ok largeLine := by decide +kernel
  have ready : largeLine.plan? newcomer.session.symbols = some largePlan := by decide +kernel
  obtain ⟨-, -, leaves, -⟩ := exit_leaves ScriptedHost.host "-0042"
  obtain ⟨-, stays, -, -⟩ := exit_leaves ScriptedHost.host "2147483648"
  obtain ⟨-, -, -, written⟩ := exit_leaves ScriptedHost.host (toString (-2 ^ 31 : Int))
  obtain ⟨refuses, remains⟩ := stays large
  refine ⟨?_, refuses _ none newcomer.session ⟨rfl, rfl⟩, ?_, ?_⟩
  · exact leaves (-42) small hastyPlan newcomer.session _ ⟨.builtin .exit, ["exit", "-0042"]⟩
      (by simp [Plan.Leaves, Stage.Leaves, hastyPlan]) (by simp [hastyPlan]) rfl rfl
  · exact remains newcomer _ largeLine largePlan read ready
      (by simp [Plan.Leaves, Stage.Leaves, largePlan])
  · exact written (-2 ^ 31) (by decide) rfl _ none newcomer.session ⟨rfl, rfl⟩

end Shell
end PipeShell
