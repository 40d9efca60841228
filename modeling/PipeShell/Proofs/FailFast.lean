import PipeShell.Host.Scripted
import PipeShell.Proofs.Dealings

/-!
# Lines that are refused

A line that is malformed, or whose files do not open, is refused before anything happens: no program is
started, no file is touched and nothing is said but to the log. Once a line has started, the only
fault that it can end with is that of a wait (`Session.execute_failFast`).
-/

namespace PipeShell

inductive Fault.Early : Fault → Prop
  | malformed (cause : ShapeFault) : Early (.malformed cause)
  | redirection (path : String) (cause : SystemError) : Early (.redirection path cause)

/-! ## The world -/

structure World.Kept (w w' : World) : Prop where
  files : w'.files = w.files
  here : w'.here = w.here
  environment : w'.environment = w.environment
  input : w'.input = w.input
  output : w'.output = w.output
  errors : w'.errors = w.errors
  buffers : w'.pipes.map Pipe.buffer = w.pipes.map Pipe.buffer

namespace World
variable {w w' w'' : World}

theorem Kept.refl (w : World) : Kept w w := ⟨rfl, rfl, rfl, rfl, rfl, rfl, rfl⟩

theorem Kept.trans (first : Kept w w') (second : Kept w' w'') : Kept w w'' where
  files := second.files.trans first.files
  here := second.here.trans first.here
  environment := second.environment.trans first.environment
  input := second.input.trans first.input
  output := second.output.trans first.output
  errors := second.errors.trans first.errors
  buffers := second.buffers.trans first.buffers

end World

namespace Plan

theorem kept_of_wire_error {plan : Plan} {w : World} {fault : Fault}
    (refused : (plan.wire w).wiring = .error fault) :
    fault.Early ∧ World.Kept w (plan.wire w).world := by
  obtain ⟨world, path, cause, rfl⟩ := Session.wire_refused refused
  exact ⟨.redirection path cause, by rw [world]; exact .refl w⟩

end Plan

theorem ScriptedHost.wait_ending (pid : Pid) (h : ScriptedHost) (w : World) (fault : Fault)
    (answered : (host.wait pid h w).answer = .error fault) : ∃ cause, fault = .ending cause := by
  simp only [host, wait] at answered
  split at answered
  · split at answered
    · exact ⟨_, (Except.error.inj answered).symm⟩
    · cases answered
  · exact ⟨_, (Except.error.inj answered).symm⟩

/-! ## Sessions -/

def Event.isQuiet : Event → Bool
  | note _ | opened _ | closed _ => true
  | _ => false

namespace Session
variable {σ : Type} {host : Host σ} {s s' s'' : Session σ}

/-- Between two sessions nothing was done but to open and close files and to write to the log. -/
structure Untouched (s s' : Session σ) : Prop where
  host : s'.host = s.host
  jobs : s'.jobs = s.jobs
  symbols : s'.symbols = s.symbols
  settings : s'.settings = s.settings
  world : World.Kept s.world s'.world
  events : ∃ es, s'.events = s.events ++ es ∧ ∀ e ∈ es, e.isQuiet

namespace Untouched

theorem record {es : List Event} (quiet : ∀ e ∈ es, e.isQuiet) : Untouched s (s.record es) :=
  ⟨rfl, rfl, rfl, rfl, .refl _, es, rfl, quiet⟩

theorem refl (s : Session σ) : Untouched s s :=
  ⟨rfl, rfl, rfl, rfl, .refl _, [], by simp, by simp⟩

theorem trans (first : Untouched s s') (second : Untouched s' s'') : Untouched s s'' where
  host := second.host.trans first.host
  jobs := second.jobs.trans first.jobs
  symbols := second.symbols.trans first.symbols
  settings := second.settings.trans first.settings
  world := first.world.trans second.world
  events := by
    obtain ⟨es, begun, quiet⟩ := first.events
    obtain ⟨fs, more, quiet'⟩ := second.events
    refine ⟨es ++ fs, by rw [more, begun, List.append_assoc], fun e member => ?_⟩
    exact (List.mem_append.1 member).elim (quiet e) (quiet' e)

theorem noteAll (s : Session σ) (ns : List Notice) : Untouched s (s.noteAll ns) := by
  apply record
  intro e member
  obtain ⟨n, -, rfl⟩ := List.mem_map.1 member
  rfl

end Untouched

def WaitFails (host : Host σ) (s s' : Session σ) (fault : Fault) : Prop :=
  ∃ es pid state w, s'.dealings = s.dealings ++ es ∧ .waited pid (.error fault) ∈ es ∧
    (host.wait pid state w).answer = .error fault

theorem WaitFails.after {fault : Fault} {es : List Event} (more : s'.dealings = s.dealings ++ es)
    (fails : WaitFails host s' s'' fault) : WaitFails host s s'' fault := by
  obtain ⟨fs, pid, state, w, later, member, answer⟩ := fails
  exact ⟨es ++ fs, pid, state, w, by rw [later, more, List.append_assoc],
    List.mem_append_right es member, answer⟩

theorem waitAll_fails {stages : List Settled} {fault : Fault}
    (failed : (s.waitAll host stages).2.1 = some fault) :
    WaitFails host s (s.waitAll host stages).2.2 fault := by
  induction stages generalizing s with
  | nil => cases failed
  | cons first rest ih =>
    cases first with
    | ended status => exact ih failed
    | process pid =>
      have answered : (s.wait host pid).1 = (host.wait pid s.host s.world).answer := rfl
      rcases asked : s.wait host pid with ⟨cause | status, s'⟩
      · obtain ⟨-, waited⟩ := wait_spec asked
        have noted := OnlyReports.note s' (.waitFailed pid cause)
        obtain ⟨-, es, later, -⟩ := waitAll_spec host rest (s'.note (.waitFailed pid cause))
        simp only [waitAll, asked] at failed ⊢
        obtain rfl : cause = fault := Option.some.inj failed
        refine ⟨.waited pid (.error cause) :: es, pid, s.host, s.world, ?_, List.mem_cons_self, ?_⟩
        · rw [later, noted.dealings, waited, List.append_assoc, List.singleton_append]
        · rw [← answered, asked]
      · obtain ⟨-, waited⟩ := wait_spec asked
        simp only [waitAll, asked] at failed ⊢
        exact (ih failed).after waited

theorem conclude_fails {plan : Plan} {failures : List Fault} {results : BuiltinResults}
    {fault : Fault} (failed : s.conclude host plan failures results = (.error fault, s')) :
    WaitFails host s s' fault := by
  unfold conclude at failed
  split at failed
  · cases failed
  · split at failed
    · cases failed
    · have noted := OnlyReports.note (s.waitAll host results.settled).2.2 (.phase .running .waited)
      cases failure : (s.waitAll host results.settled).2.1 with
      | none =>
        simp only [failure] at failed
        cases failed
      | some cause =>
        simp only [failure] at failed
        cases failed
        obtain ⟨es, pid, state, w, more, member, answer⟩ := waitAll_fails failure
        exact ⟨es, pid, state, w, noted.dealings.trans more, member, answer⟩

theorem runPlan_refused (host : Host σ) {plan : Plan} {fault : Fault}
    (refused : (plan.wire s.world).wiring = .error fault) :
    fault.Early ∧ (s.runPlan host plan).1 = .error fault ∧ Untouched s (s.runPlan host plan).2 := by
  obtain ⟨early, kept⟩ := Plan.kept_of_wire_error refused
  have opened : Untouched s { s with world := (plan.wire s.world).world } :=
    ⟨rfl, rfl, rfl, rfl, kept, [], by simp, by simp⟩
  simp only [runPlan, refused]
  refine ⟨early, trivial, opened.trans (.record fun e member => ?_)⟩
  simp only [List.mem_flatMap, List.mem_cons, List.not_mem_nil, or_false] at member
  obtain ⟨_, -, rfl | rfl⟩ := member <;> rfl

theorem runPlan_error {plan : Plan} {fault : Fault}
    (failed : s.runPlan host plan = (.error fault, s')) :
    fault.Early ∧ Untouched s s' ∨ WaitFails host s s' fault := by
  cases wired : (plan.wire s.world).wiring with
  | error cause =>
    obtain ⟨early, same, untouched⟩ := runPlan_refused host wired
    rw [failed] at same untouched
    cases same
    exact .inl ⟨early, untouched⟩
  | ok wiring =>
    simp only [runPlan, wired, runWired_eq] at failed
    generalize wires : note _ _ = s₁ at failed
    have begun : s₁.dealings = s.dealings := by
      rw [← wires, (OnlyReports.note _ _).dealings, dealings_record, filter_opened, List.append_nil]
      rfl
    obtain ⟨-, es, launched, -⟩ := launch_spec host plan (length_of_wire wired).symm s₁
    rw [begun] at launched
    exact .inr ((conclude_fails failed).after launched)

theorem execute_error {line : Line} {fault : Fault}
    (failed : s.execute host line = (.error fault, s')) :
    fault.Early ∧ Untouched s s' ∨ WaitFails host s s' fault := by
  unfold execute at failed
  split at failed
  · cases failed
    exact .inl ⟨.malformed _, .refl s⟩
  · rename_i expanded notices expands
    have noted := (Untouched.noteAll s notices).trans (.noteAll _ expanded.assemble.notices)
    have reports := (OnlyReports.noteAll s notices).trans (.noteAll _ expanded.assemble.notices)
    dsimp only at failed
    split at failed
    · cases failed
      exact .inl ⟨.malformed _, noted⟩
    · split at failed
      · cases failed
      · have quiet : _ = s.dealings ++ [] := reports.dealings.trans (List.append_nil _).symm
        exact (runPlan_error failed).imp (fun ⟨early, kept⟩ => ⟨early, noted.trans kept⟩)
          (.after quiet)

/-- A line that is refused for its shape or its files leaves the session as it was, and no other
fault but that of a wait can end a line. -/
theorem execute_failFast (host : Host σ)
    (waits : ∀ pid state w fault, (host.wait pid state w).answer = .error fault →
      ∃ cause, fault = .ending cause)
    (line : Line) (s s' : Session σ) (fault : Fault)
    (failed : s.execute host line = (.error fault, s')) :
    (fault.Early → Untouched s s') ∧ (fault.Early ∨ WaitFails host s s' fault) := by
  rcases execute_error failed with ⟨early, kept⟩ | fails
  · exact ⟨fun _ => kept, .inl early⟩
  · refine ⟨fun early => ?_, .inr fails⟩
    obtain ⟨_, pid, state, w, -, -, answer⟩ := fails
    obtain ⟨cause, rfl⟩ := waits pid state w fault answer
    cases early

def namelessInput : Line :=
  ⟨#[{ text := some "cat", input := some "", output := some "out" }], some 0, some 0⟩

theorem execute_failFast_namelessInput :
    (∀ pid state w fault, (ScriptedHost.host.wait pid state w).answer = .error fault →
      ∃ cause, fault = .ending cause) ∧
    ∃ s', ({ host := {} } : Session ScriptedHost).execute ScriptedHost.host namelessInput =
        (.error (.redirection "" .noEntry), s') ∧
      Untouched { host := {} } s' := by
  have waits := ScriptedHost.wait_ending
  have failed : (({ host := {} } : Session ScriptedHost).execute ScriptedHost.host
      namelessInput).1 = .error (.redirection "" .noEntry) := by
    decide +kernel
  have found := execute_failFast ScriptedHost.host waits namelessInput { host := {} } _ _
    (Prod.ext failed rfl)
  exact ⟨waits, _, Prod.ext failed rfl, found.1 (.redirection _ _)⟩

end Session
end PipeShell
