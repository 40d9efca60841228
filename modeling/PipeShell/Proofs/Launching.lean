import Mathlib.Data.List.Forall2
import PipeShell.Proofs.Roles
import PipeShell.Proofs.Wires

/-!
# Launching a line

From the wiring of a plan to the last deed of its processes: the stages begin, the built-in commands
have their say, and then only processes go on. All that time the pipes of the line are in order
(`runPlan_flow`).
-/

namespace PipeShell
namespace Session
variable {σ : Type} {host : Host σ} {diary : σ → Diary} {plan : Plan} {wiring : Wiring}
  {s : Session σ}

def ready (plan : Plan) (wiring : Wiring) (s : Session σ) : Session σ :=
  (({ s with world := (plan.wire s.world).world }.record (wiring.opened.map .opened)).note
    (.wired plan.stages.length wiring.pipes)).note (.phase .assembled .launching)

theorem dealings_ready (plan : Plan) (wiring : Wiring) (s : Session σ) :
    (s.ready plan wiring).dealings = s.dealings := by
  simp only [ready, (OnlyReports.note _ _).dealings, dealings_record, filter_opened, List.append_nil]
  rfl

def begun (host : Host σ) (plan : Plan) (wiring : Wiring) (s : Session σ) :
    List Begun × Session σ :=
  let s := s.ready plan wiring
  s.beginAll host s.searchPath (plan.stages.zip wiring.stages)

def cast (host : Host σ) (plan : Plan) (wiring : Wiring) (processes : Nat) (s : Session σ) :
    List (Role σ) :=
  roles host processes (s.begun host plan wiring).1 (s.begun host plan wiring).2

theorem runPlan_wired (wired : (plan.wire s.world).wiring = .ok wiring) :
    s.runPlan host plan =
      let b := s.begun host plan wiring
      let r := runDeferred host b.1 b.2
      (r.2.note (.phase .launching .running)).conclude host plan
        (b.1.filterMap Begun.fault? ++ r.1.failures) r.1 := by
  simp only [runPlan, wired]
  rfl

theorem standings_quiet (n : Nat) (begun : List Begun) (j : Nat) :
    ¬(Standing.lineup (Begun.standings n begun) j).spoken := by
  induction begun generalizing n j with
  | nil => simp [Begun.standings, Standing.lineup, Standing.spoken]
  | cons first rest ih =>
    cases j with
    | zero => cases first <;> simp [Begun.standings, Begun.standing, Standing.lineup, Standing.spoken]
    | succ j => exact ih _ j

theorem forall₂_getElem? {α β : Type} {R : α → β → Prop} {l : List α} {l' : List β}
    (all : List.Forall₂ R l l') {i : Nat} {b : β} (here : l'[i]? = some b) :
    ∃ a, l[i]? = some a ∧ R a b := by
  obtain ⟨known, rfl⟩ := List.getElem?_eq_some_iff.1 here
  have within : i < l.length := all.length_eq ▸ known
  exact ⟨l[i], List.getElem?_eq_getElem within, all.get within known⟩

theorem runPlan_flow {f : Frame} (keeps : host.Keeps diary) (sound : (diary s.host).Sound s.world)
    (wired : (plan.wire s.world).wiring = .ok wiring)
    (fits : f.Fits plan wiring (diary s.host) s.world) {d : Diary} {w : World}
    (later : Conducts (diary (s.runPlan host plan).2.host) (s.runPlan host plan).2.world d w) :
    Flow f (Standing.lineup ((s.cast host plan wiring f.first).map Role.standing)) d w ∧
      Words f host 0 (s.cast host plan wiring f.first) (f.line d) := by
  have fresh : Flow f (Standing.lineup []) (diary (s.ready plan wiring).host)
      (s.ready plan wiring).world := Flow.fresh fits sound
  have length : (plan.stages.zip wiring.stages).length = f.count := by
    rw [List.length_zip, fits.length, ← fits.count, Nat.min_self]
  have given : ∀ (i : Nat) (stage : Stage × Streams),
      (plan.stages.zip wiring.stages)[i]? = some stage → stage.2 = f.streams i := fun i stage there =>
    fits.streams_eq (List.getElem?_zip_eq_some.1 there).2
  have begins := beginAll_begins host (s.ready plan wiring).searchPath
    (plan.stages.zip wiring.stages) (s.ready plan wiring)
  have flow := beginAll_flow keeps (s.ready plan wiring).searchPath (plan.stages.zip wiring.stages)
    fresh (by simp) (by simpa using length) (by simpa using given)
  change List.Forall₂ Begins _ (s.begun host plan wiring).1 at begins
  change Flow f (Standing.lineup (Begun.standings (diary s.host).streams.length
    (s.begun host plan wiring).1)) (diary (s.begun host plan wiring).2.host)
    (s.begun host plan wiring).2.world at flow
  rw [← fits.first] at flow
  -- No command has had the word yet, so all that the shell writes comes after this point.
  have quiet := flow.silent (standings_quiet f.first (s.begun host plan wiring).1)
  obtain ⟨e, longer, flow', words⟩ := runDeferred_flow keeps (s.begun host plan wiring).1 f.first
    [] flow (by simpa [begins.length_eq] using length) (by simp) (by
      intro i stage output here
      obtain ⟨pair, there, begin⟩ := forall₂_getElem? begins here
      rcases begin with ⟨-, same⟩ | ⟨-, answer, same⟩
      · cases same
        rw [given i pair there, List.length_nil, Nat.zero_add]
      · cases answer <;> cases same)
  rw [List.nil_append, ← standings_roles host f.first _ (s.begun host plan wiring).2] at flow'
  rw [runPlan_wired wired] at later
  rcases runs : runDeferred host (s.begun host plan wiring).1 (s.begun host plan wiring).2 with
    ⟨results, s'⟩
  rw [runs] at longer flow'
  dsimp only at later longer flow'
  rw [runs] at later
  have concluded : Conducts (diary s'.host) s'.world _ _ :=
    conclude_conducts keeps plan ((s.begun host plan wiring).1.filterMap Begun.fault? ++
      results.failures) results (s'.note (.phase .launching .running)) flow'.sound
  -- From here on there are only the deeds of processes.
  have all := concluded.trans later
  obtain ⟨e', rfl, silent⟩ := all.adds
  refine ⟨flow'.conducts all, ?_⟩
  rw [f.line_append flow'.signed.begun, longer, f.line_append flow.signed.begun]
  exact words.around quiet fun deed member => (silent deed member).2

end Session

end PipeShell
