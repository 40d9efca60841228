import PipeShell.Proofs.Speaking

/-!
# The roles of the stages

A stage becomes a process, or a program that did not start, or a built-in command that waits for its
turn. Here the launching of a line is followed stage by stage: every stage gets its standing
(`beginAll_flow`), and each built-in command has its say in its turn (`runDeferred_flow`).
-/

namespace PipeShell

inductive Role (σ : Type) where
  | process (number : Nat)
  | failed
  | builtin (stage : Stage) (output : Option End) (session : Session σ)

namespace Begun

def standing (processes : Nat) : Begun → Standing
  | process _ => .process processes
  | failed _ => .failed
  | deferred _ _ => .deferred

def next (processes : Nat) : Begun → Nat
  | process _ => processes + 1
  | _ => processes

def standings : Nat → List Begun → List Standing
  | _, [] => []
  | processes, first :: rest => first.standing processes :: standings (first.next processes) rest

end Begun

namespace Standing

def lineup (stages : List Standing) (i : Nat) : Standing := stages.getD i .waiting

theorem lineup_length (done : List Standing) : lineup done done.length = .waiting := by
  simp [lineup]

theorem lineup_middle (done rest : List Standing) (p : Standing) :
    lineup (done ++ p :: rest) done.length = p := by
  simp [lineup]

theorem update_length (done : List Standing) (p : Standing) :
    Function.update (lineup done) done.length p = lineup (done ++ [p]) := by
  funext i
  by_cases here : i = done.length
  · subst here
    rw [Function.update_self, lineup_middle]
  · rw [Function.update_of_ne here]
    simp only [lineup, List.getD_eq_getElem?_getD]
    rcases Nat.lt_or_gt_of_ne here with before | behind
    · rw [List.getElem?_append_left before]
    · rw [List.getElem?_eq_none (Nat.le_of_lt behind), List.getElem?_eq_none]
      rw [List.length_append]
      exact behind

theorem update_middle (done rest : List Standing) (p q : Standing) :
    Function.update (lineup (done ++ p :: rest)) done.length q = lineup (done ++ q :: rest) := by
  funext i
  by_cases here : i = done.length
  · subst here
    rw [Function.update_self, lineup_middle]
  · rw [Function.update_of_ne here]
    simp only [lineup, List.getD_eq_getElem?_getD]
    rcases Nat.lt_or_gt_of_ne here with before | behind
    · rw [List.getElem?_append_left before, List.getElem?_append_left before]
    · obtain ⟨k, later⟩ := Nat.exists_eq_succ_of_ne_zero (Nat.sub_ne_zero_of_lt behind)
      rw [List.getElem?_append_right (Nat.le_of_lt behind),
        List.getElem?_append_right (Nat.le_of_lt behind), later]
      rfl

def settle : Standing → Standing
  | deferred => done
  | p => p

end Standing

def roles {σ : Type} (host : Host σ) : Nat → List Begun → Session σ → List (Role σ)
  | _, [], _ => []
  | n, .process _ :: rest, s => .process n :: roles host (n + 1) rest s
  | n, .failed _ :: rest, s => .failed :: roles host n rest s
  | n, .deferred stage output :: rest, s =>
    .builtin stage output s ::
      roles host n rest ((s.runBuiltin host stage output).2.close? output)

namespace Role
variable {σ : Type}

def standing : Role σ → Standing
  | process k => .process k
  | failed => .failed
  | builtin _ _ _ => .done

def fault? (host : Host σ) : Role σ → Option Fault
  | builtin stage output session =>
    Fault.ofResult? (session.runBuiltin host stage output).1
  | _ => none

end Role

section
variable {σ : Type} (host : Host σ)

theorem standings_roles (n : Nat) (begun : List Begun) (s : Session σ) :
    (roles host n begun s).map Role.standing =
      (Begun.standings n begun).map Standing.settle := by
  induction begun generalizing n s with
  | nil => rfl
  | cons first rest ih =>
    cases first with
    | process pid => exact congrArg _ (ih (n + 1) s)
    | failed cause => exact congrArg _ (ih n s)
    | deferred stage output =>
      exact congrArg _ (ih n ((s.runBuiltin host stage output).2.close? output))

theorem failures_roles (n : Nat) (begun : List Begun) (s : Session σ) :
    (Session.runDeferred host begun s).1.failures =
      (roles host n begun s).filterMap (Role.fault? host) := by
  induction begun generalizing n s with
  | nil => rfl
  | cons first rest ih =>
    cases first with
    | process pid => exact ih (n + 1) s
    | failed cause => exact ih n s
    | deferred stage output =>
      have later := ih n ((s.runBuiltin host stage output).2.close? output)
      rw [Session.runDeferred_cons, roles, List.filterMap_cons]
      dsimp only [Session.BuiltinResults.cons, Role.fault?]
      rw [later]
      cases Fault.ofResult? (s.runBuiltin host stage output).1 <;> rfl

end

namespace Session
variable {σ : Type} {host : Host σ} {diary : σ → Diary} {f : Frame}

theorem host_close? (s : Session σ) (e : Option End) : (s.close? e).host = s.host := by
  cases e <;> rfl

theorem world_close? (s : Session σ) (e : Option End) :
    (s.close? e).world = s.world.close? e := by
  cases e <;> rfl

theorem OnlyReports.alike {s s' : Session σ} (reports : OnlyReports s s') :
    World.Alike s.world s'.world := by
  obtain ⟨bytes, same⟩ := reports.world
  rw [same]
  exact .writeError _ bytes

/-! ## Beginning -/

theorem spawn_reply {launch : Launch} {answer : Except Fault Pid} {s s' : Session σ}
    (asked : s.spawn host launch = (answer, s')) :
    (host.spawn launch s.host s.world).answer = answer ∧
      s'.host = (host.spawn launch s.host s.world).host ∧
      s'.world = (host.spawn launch s.host s.world).world := by
  obtain ⟨answered, rfl⟩ := Prod.mk.inj asked
  exact ⟨answered, rfl, rfl⟩

def Begins (stage : Stage × Streams) (begun : Begun) : Prop :=
  (stage.1.kind.isBuiltin ∧ begun = .deferred stage.1 stage.2.output) ∨
    ¬stage.1.kind.isBuiltin ∧ ∃ answer, begun = .ofAnswer answer

theorem beginAll_begins (host : Host σ) (path : String) (stages : List (Stage × Streams))
    (s : Session σ) : List.Forall₂ Begins stages (s.beginAll host path stages).1 := by
  induction stages generalizing s with
  | nil => exact .nil
  | cons first rest ih =>
    obtain ⟨stage, streams⟩ := first
    rw [beginAll_cons]
    refine .cons ?_ (ih _)
    rcases (begin_cases host path stage streams s).2 with ⟨builtin, begun, -⟩ | ⟨program, answer, begun, -⟩
    · exact .inl ⟨builtin, begun⟩
    · exact .inr ⟨program, answer, begun⟩

theorem begin_flow (keeps : host.Keeps diary) (path : String) (stage : Stage) {s : Session σ}
    {done : List Standing} (flow : Flow f (Standing.lineup done) (diary s.host) s.world)
    (quiet : ∀ p ∈ done, ¬p.spoken) (inside : done.length < f.count) :
    let b := s.begin host path stage (f.streams done.length)
    Flow f (Standing.lineup (done ++ [b.1.standing (diary s.host).streams.length])) (diary b.2.host)
        b.2.world ∧
      (diary b.2.host).streams.length = b.1.next (diary s.host).streams.length := by
  have shown := onlyReports_showCommand stage s
  have flow := flow.alike shown.alike
  have here := Standing.lineup_length done
  have quiet : ∀ j, ¬(Standing.lineup done j).spoken := by
    intro j
    rw [Standing.lineup, List.getD_eq_getElem?_getD]
    cases stands : done[j]? with
    | none => simp [Standing.spoken]
    | some p => exact quiet p (List.mem_of_getElem? stands)
  rw [← shown.host] at flow ⊢
  by_cases builtin : stage.kind.isBuiltin
  · rw [begin_builtin builtin]
    dsimp only
    rw [host_close?, world_close?]
    refine ⟨?_, rfl⟩
    rw [Begun.standing, ← Standing.update_length]
    exact flow.defer here
  · cases asked : (s.showCommand stage).spawn host ⟨stage.argv, path, f.streams done.length⟩ with
    | mk answer s' =>
      obtain ⟨answered, host', world'⟩ := spawn_reply asked
      cases answer with
      | ok pid =>
        obtain ⟨d, w, before, after⟩ := keeps.starts _ _ _ _ flow.sound answered
        have shown' := onlyReports_showProcess pid stage s'
        rw [begin_process builtin asked]
        dsimp only
        rw [shown'.host, host']
        constructor
        · refine Flow.alike ?_ shown'.alike
          rw [world', Begun.standing, ← Standing.update_length, ← before.streams]
          exact ((flow.conducts before).start quiet inside here).conducts after
        · rw [after.streams, Diary.streams_append, before.streams, List.length_append]
          rfl
      | error cause =>
        obtain ⟨d, w, before, after⟩ := keeps.fails _ _ _ _ flow.sound answered
        rw [begin_failed builtin asked]
        change Flow f _ (diary s'.host) s'.world ∧ (diary s'.host).streams.length = _
        rw [host', world']
        constructor
        · rw [Begun.standing, ← Standing.update_length]
          exact ((flow.conducts before).fail here).conducts after
        · exact congrArg List.length (after.streams.trans before.streams)

theorem beginAll_flow (keeps : host.Keeps diary) (path : String) (stages : List (Stage × Streams))
    {s : Session σ} {done : List Standing}
    (flow : Flow f (Standing.lineup done) (diary s.host) s.world) (quiet : ∀ p ∈ done, ¬p.spoken)
    (fits : done.length + stages.length = f.count)
    (given : ∀ i stage, stages[i]? = some stage → stage.2 = f.streams (done.length + i)) :
    let b := s.beginAll host path stages
    Flow f (Standing.lineup (done ++ Begun.standings (diary s.host).streams.length b.1))
      (diary b.2.host) b.2.world := by
  induction stages generalizing s done with
  | nil => simpa [beginAll, Begun.standings] using flow
  | cons first rest ih =>
    obtain ⟨stage, streams⟩ := first
    obtain rfl : streams = f.streams done.length := given 0 _ rfl
    rw [List.length_cons] at fits
    obtain ⟨begun, processes⟩ := begin_flow keeps path stage flow quiet (by omega)
    have quiet' : ∀ p ∈ done ++ [(s.begin host path stage (f.streams done.length)).1.standing
        (diary s.host).streams.length], ¬p.spoken := by
      intro p member
      rw [List.mem_append, List.mem_singleton] at member
      rcases member with old | rfl
      · exact quiet p old
      · cases (s.begin host path stage (f.streams done.length)).1 <;>
          simp [Begun.standing, Standing.spoken]
    have all := ih begun quiet' (by simp; omega) fun i stage member => by
      rw [given (i + 1) stage member, List.length_append, List.length_singleton, Nat.add_assoc,
        Nat.add_comm 1 i]
    rw [beginAll_cons]
    simpa [Begun.standings, processes] using all

/-! ## The built-in commands in their turns -/

theorem runBuiltin_flow (keeps : host.Keeps diary) (stage : Stage) {s : Session σ}
    {done rest : List Standing}
    (flow : Flow f (Standing.lineup (done ++ .deferred :: rest)) (diary s.host) s.world)
    (fits : done.length + (rest.length + 1) = f.count)
    (started : ∀ p ∈ done ++ rest, p ≠ .waiting) {output : Option End}
    (given : output = (f.streams done.length).output) :
    let b := s.runBuiltin host stage output
    ∃ e refused, diary b.2.host = diary s.host ++ e ∧
      Flow f (Standing.lineup (done ++ .done :: rest)) (diary b.2.host) (b.2.world.close? output) ∧
      Told output (stage.act s.surroundings).bytes refused e ∧
      (∀ deed ∈ e, ∀ t, deed.attempt? = some t → t = output) ∧
      b.1 = (stage.act s.surroundings).conclude stage.kind refused := by
  obtain ⟨w, refused, alike, writes, result⟩ := runBuiltin_writes keeps stage output s flow.sound
  obtain ⟨e, longer, told, only⟩ := writes.tells
  refine ⟨e, refused, longer, ?_, told, only, result⟩
  have inside : done.length < f.count := by omega
  have speaking := (flow.alike alike).giveWord (Standing.lineup_middle done rest .deferred)
  rw [Standing.update_middle] at speaking
  have started : ∀ j < f.count, Standing.lineup (done ++ .speaking :: rest) j ≠ .waiting := by
    intro j within
    have known : j < (done ++ Standing.speaking :: rest).length := by simpa using fits ▸ within
    rw [Standing.lineup, List.getD_eq_getElem?_getD, List.getElem?_eq_getElem known,
      Option.getD_some]
    have member := List.getElem_mem known
    rw [List.mem_append, List.mem_cons] at member
    rcases member with before | here | behind
    · exact started _ (List.mem_append_left _ before)
    · simp [here]
    · exact started _ (List.mem_append_right _ behind)
  subst given
  have spoken := speaking.writes started inside (Standing.lineup_middle done rest .speaking) writes
  have dropped := spoken.dropOutput .done
    (.inr ⟨Standing.lineup_middle done rest .speaking, rfl⟩)
  rwa [Standing.update_middle] at dropped

theorem standings_length (n : Nat) (begun : List Begun) :
    (Begun.standings n begun).length = begun.length := by
  induction begun generalizing n with
  | nil => rfl
  | cons first rest ih => exact congrArg (· + 1) (ih _)

theorem standings_started (n : Nat) (begun : List Begun) :
    ∀ p ∈ Begun.standings n begun, p ≠ .waiting := by
  induction begun generalizing n with
  | nil => simp [Begun.standings]
  | cons first rest ih =>
    intro p member
    rw [Begun.standings, List.mem_cons] at member
    rcases member with rfl | later
    · cases first <;> simp [Begun.standing]
    · exact ih _ p later

structure Words (f : Frame) (host : Host σ) (first : Nat) (rs : List (Role σ)) (e : Diary) :
    Prop where
  only : ∀ deed ∈ e, ∀ t, deed.attempt? = some t →
    ∃ i < rs.length, t = (f.streams (first + i)).output
  told : ∀ (i : Nat) (stage : Stage) (output : Option End) (s : Session σ),
    rs[i]? = some (.builtin stage output s) → output = (f.streams (first + i)).output ∧
      ∃ refused, Told output (stage.act s.surroundings).bytes refused e ∧
        (s.runBuiltin host stage output).1 =
          (stage.act s.surroundings).conclude stage.kind refused

namespace Words
variable {first : Nat} {rs : List (Role σ)} {e e' : Diary}

theorem nil : Words f host first [] [] where
  only := by simp
  told := by simp

theorem skip {r : Role σ} (mute : ∀ stage output s, r ≠ .builtin stage output s)
    (words : Words f host (first + 1) rs e) : Words f host first (r :: rs) e where
  only := by
    intro deed member t attempt
    obtain ⟨i, within, same⟩ := words.only deed member t attempt
    exact ⟨i + 1, Nat.succ_lt_succ within, by rw [same, Nat.add_assoc, Nat.add_comm 1 i]⟩
  told := by
    intro i stage output s role
    cases i with
    | zero => exact absurd (Option.some.inj role) (mute stage output s)
    | succ i =>
      rw [← Nat.add_assoc, Nat.add_right_comm]
      exact words.told i stage output s role

theorem cons (words : Words f host (first + 1) rs e') (fits : first + (rs.length + 1) = f.count)
    {stage : Stage} {s : Session σ} {output : Option End} {refused : Option SystemError}
    (given : output = (f.streams first).output)
    (told : Told output (stage.act s.surroundings).bytes refused e)
    (only : ∀ deed ∈ e, ∀ t, deed.attempt? = some t → t = output)
    (result : (s.runBuiltin host stage output).1 =
      (stage.act s.surroundings).conclude stage.kind refused) :
    Words f host first (.builtin stage output s :: rs) (e ++ e') where
  only := by
    intro deed member t attempt
    rcases List.mem_append.1 member with here | later
    · exact ⟨0, Nat.succ_pos _, (only deed here t attempt).trans given⟩
    · obtain ⟨i, within, same⟩ := words.only deed later t attempt
      exact ⟨i + 1, Nat.succ_lt_succ within, by rw [same, Nat.add_assoc, Nat.add_comm 1 i]⟩
  told := by
    intro i stage' output' s' role
    cases i with
    | zero =>
      cases role
      -- No later command writes to this output, since no two stages have the same one.
      refine ⟨given, refused, told.append_right fun deed later attempt => ?_, result⟩
      obtain ⟨i, within, same⟩ := words.only deed later output attempt
      have := f.output_inj (by omega) (by omega) (given.symm.trans same)
      omega
    | succ i =>
      have known : i + 1 < rs.length + 1 := (List.getElem?_eq_some_iff.1 role).1
      obtain ⟨given', refused', told', result'⟩ := words.told i stage' output' s' role
      rw [← Nat.add_assoc, Nat.add_right_comm]
      refine ⟨given', refused', told'.append_left fun deed here attempt => ?_, result'⟩
      have same := only deed here output' attempt
      have := f.output_inj (by omega) (by omega) (given'.symm.trans (same.trans given))
      omega

theorem around (words : Words f host first rs e) {before after : Diary}
    (quiet : ∀ deed ∈ before, deed.attempt? = none) (quiet' : ∀ deed ∈ after, deed.attempt? = none) :
    Words f host first rs (before ++ e ++ after) where
  only := by
    intro deed member t attempt
    rw [List.mem_append, List.mem_append] at member
    rcases member with (early | here) | late
    · rw [quiet deed early] at attempt
      cases attempt
    · exact words.only deed here t attempt
    · rw [quiet' deed late] at attempt
      cases attempt
  told := by
    intro i stage output s role
    obtain ⟨given, refused, told, result⟩ := words.told i stage output s role
    refine ⟨given, refused, (told.append_left ?_).append_right ?_, result⟩
    · intro deed early
      simp [quiet deed early]
    · intro deed late
      simp [quiet' deed late]

end Words

theorem roles_length (host : Host σ) (n : Nat) (begun : List Begun) (s : Session σ) :
    (roles host n begun s).length = begun.length := by
  have same := congrArg List.length (standings_roles host n begun s)
  rwa [List.length_map, List.length_map, standings_length] at same

theorem runDeferred_flow (keeps : host.Keeps diary) (begun : List Begun) (n : Nat) {s : Session σ}
    (done : List Standing)
    (flow : Flow f (Standing.lineup (done ++ Begun.standings n begun)) (diary s.host) s.world)
    (fits : done.length + begun.length = f.count) (started : ∀ p ∈ done, p ≠ .waiting)
    (given : ∀ i stage output, begun[i]? = some (.deferred stage output) →
      output = (f.streams (done.length + i)).output) :
    let b := runDeferred host begun s
    ∃ e, diary b.2.host = diary s.host ++ e ∧
      Flow f (Standing.lineup (done ++ (Begun.standings n begun).map Standing.settle))
        (diary b.2.host) b.2.world ∧
      Words f host done.length (roles host n begun s) e := by
  induction begun generalizing n s done with
  | nil => exact ⟨[], (List.append_nil _).symm, flow, .nil⟩
  | cons first rest ih =>
    rw [List.length_cons] at fits
    -- Once the first stage stands, the rest is a line of its own behind one more stage.
    have further : ∀ p : Standing, p ≠ .waiting →
        (done ++ [p]).length + rest.length = f.count ∧ (∀ q ∈ done ++ [p], q ≠ .waiting) ∧
        ∀ i stage output, rest[i]? = some (.deferred stage output) →
          output = (f.streams ((done ++ [p]).length + i)).output := by
      intro p stands
      refine ⟨by rw [List.length_append, List.length_singleton]; omega, ?_, ?_⟩
      · intro q member
        rcases List.mem_append.1 member with old | new
        · exact started q old
        · rwa [List.mem_singleton.1 new]
      · intro i stage output member
        rw [List.length_append, List.length_singleton, Nat.add_assoc, Nat.add_comm 1 i]
        exact given (i + 1) stage output member
    cases first with
    | process pid =>
      obtain ⟨fits', started', given'⟩ := further (.process n) (by simp)
      obtain ⟨e, longer, flow', words⟩ := ih (n + 1) _
        (by rw [List.append_assoc]; exact flow) fits' started' given'
      rw [List.append_assoc] at flow'
      rw [List.length_append] at words
      exact ⟨e, longer, flow', words.skip (by simp)⟩
    | failed cause =>
      obtain ⟨fits', started', given'⟩ := further .failed (by simp)
      obtain ⟨e, longer, flow', words⟩ := ih n _
        (by rw [List.append_assoc]; exact flow) fits' started' given'
      rw [List.append_assoc] at flow'
      rw [List.length_append] at words
      exact ⟨e, longer, flow', words.skip (by simp)⟩
    | deferred stage output =>
      obtain ⟨e, refused, longer, flow, told, only, result⟩ := runBuiltin_flow keeps stage flow
        (by rw [standings_length]; exact fits)
        (fun p member => (List.mem_append.1 member).elim (started p) (standings_started _ _ p))
        (given 0 stage output rfl)
      obtain ⟨fits', started', given'⟩ := further .done (by simp)
      rw [← host_close? _ output] at longer flow
      rw [← world_close?] at flow
      obtain ⟨e', longer', flow', words⟩ := ih n _
        (by rw [List.append_assoc]; exact flow) fits' started' given'
      rw [List.length_append] at words
      rw [runDeferred_cons]
      refine ⟨e ++ e', ?_, ?_, ?_⟩
      · exact longer'.trans (by rw [longer, List.append_assoc])
      · rw [List.append_assoc] at flow'
        exact flow'
      · exact words.cons (by rw [roles_length]; exact fits) (given 0 stage output rfl) told only result

/-! ## Endings -/

theorem wait_conducts (keeps : host.Keeps diary) {pid : Pid} {answer : Except Fault Int}
    {s s' : Session σ} (sound : (diary s.host).Sound s.world)
    (asked : s.wait host pid = (answer, s')) :
    Conducts (diary s.host) s.world (diary s'.host) s'.world := by
  obtain ⟨-, rfl⟩ := Prod.mk.inj asked
  exact keeps.waits pid s.host s.world sound

theorem waitAll_conducts (keeps : host.Keeps diary) (stages : List Settled) (s : Session σ)
    (sound : (diary s.host).Sound s.world) :
    Conducts (diary s.host) s.world (diary (s.waitAll host stages).2.2.host)
      (s.waitAll host stages).2.2.world := by
  induction stages generalizing s with
  | nil => exact .refl
  | cons first rest ih =>
    cases first with
    | ended status => exact ih s sound
    | process pid =>
      cases asked : s.wait host pid with
      | mk answer s' =>
        have waited := wait_conducts keeps sound asked
        rw [waitAll, asked]
        cases answer with
        | ok status => exact waited.trans (ih s' (waited.sound sound))
        | error cause =>
          exact waited.trans (ih (s'.note (.waitFailed pid cause)) (waited.sound sound))

theorem conclude_conducts (keeps : host.Keeps diary) (plan : Plan) (failures : List Fault)
    (results : BuiltinResults) (s : Session σ) (sound : (diary s.host).Sound s.world) :
    Conducts (diary s.host) s.world (diary (s.conclude host plan failures results).2.host)
      (s.conclude host plan failures results).2.world := by
  unfold conclude
  split
  · exact .refl
  · split
    · exact .refl
    · have waited := waitAll_conducts keeps results.settled s sound
      rcases waits : s.waitAll host results.settled with ⟨statuses, _ | cause, s'⟩ <;>
      · rw [waits] at waited
        exact waited

theorem conclude_failures {plan : Plan} {failures : List Fault} {results : BuiltinResults}
    {s s' : Session σ} {execution : Execution}
    (ends : s.conclude host plan failures results = (.ok execution, s')) :
    execution.failures = failures := by
  unfold conclude at ends
  split at ends
  · cases ends
    rfl
  · split at ends
    · cases ends
      rfl
    · rcases waits : s.waitAll host results.settled with ⟨statuses, _ | cause, s''⟩
      · rw [waits] at ends
        cases ends
        rfl
      · rw [waits] at ends
        cases ends

end Session
end PipeShell
