import PipeShell.Proofs.Launching
import PipeShell.Proofs.Recording

/-!
# The flow of data

Between two neighbours in a pipeline lies one pipe that nobody else has. What a stage writes is what
the next one has read and what the pipe still holds, and the line puts out what its last stage writes
(`runPlan_dataFlow`).
-/

namespace PipeShell

/-! ## What comes of a stage -/

def Deed.bytesOf (first : Nat) (target : Option End) : Deed → Bytes
  | wrote (some k) t bytes => if first ≤ k ∧ t = target then bytes else []
  | wrote none t bytes => if t = target then bytes else []
  | _ => []

namespace Role
variable {σ : Type}

def bytesOut : Role σ → Deed → Bytes
  | process k => Deed.bytesBy k
  | failed => fun _ => []
  | builtin _ output _ => Deed.bytesSaid output

def bytesIn : Role σ → Deed → Bytes
  | process k => Deed.bytesReadBy k
  | _ => fun _ => []

def sent (line : Diary) (role : Role σ) : Bytes := line.flatMap role.bytesOut

def received (line : Diary) (role : Role σ) : Bytes := line.flatMap role.bytesIn

def Plays (d : Diary) (stage : Stage) (streams : Streams) : Role σ → Prop
  | process k => ¬stage.kind.isBuiltin ∧ d.streams[k]? = some streams
  | failed => ¬stage.kind.isBuiltin
  | builtin stage' output _ => stage.kind.isBuiltin ∧ stage' = stage ∧ output = streams.output

/-- When the shell wrote to the pipe before the stage, or tried to, the stage did not read any more. -/
def Shut (line : Diary) (target : Option End) (role : Role σ) : Prop :=
  ∃ before deed, before ++ [deed] <+: line ∧ deed.attempt? = some target ∧
    ∀ k, role = process k → .closedInput k ∈ before

end Role

namespace Flow
variable {σ : Type} {f : Frame} {place : Nat → Standing} {d : Diary} {w : World} {i : Nat}
  {role : Role σ}

theorem sent (flow : Flow f place d w) (inside : i < f.count) (here : place i = role.standing)
    (output : ∀ stage output s, role = .builtin stage output s → output = (f.streams i).output) :
    (f.line d).flatMap (Deed.bytesOf f.first (f.streams i).output) = role.sent (f.line d) := by
  refine List.flatMap_congr fun deed member => ?_
  cases deed with
  | wrote process t b =>
    cases process with
    | some k =>
      obtain ⟨st, own, rfl⟩ := flow.signed.wrote k t b member
      -- Older processes may write to the same file, but not the processes of other stages.
      have mine : f.first ≤ k ∧ st.output = (f.streams i).output ↔ place i = .process k := by
        constructor
        · rintro ⟨new, same⟩
          rcases flow.process_cases own with ⟨old, -⟩ | ⟨j, there, rfl⟩
          · omega
          · rwa [← f.output_inj (flow.numbered.own j k there).1 inside same]
        · intro there
          obtain ⟨-, new, own'⟩ := flow.numbered.own i k there
          exact ⟨new, congrArg Streams.output (Option.some.inj (own.symm.trans own'))⟩
      simp only [Deed.bytesOf, mine, here]
      cases role <;> simp [Role.standing, Role.bytesOut, Deed.bytesBy, Deed.bytesSaid, eq_comm]
    | none =>
      obtain ⟨j, within, spoken, rfl⟩ := flow.signed.spoke _ member t rfl
      have mine : (f.streams j).output = (f.streams i).output ↔ j = i :=
        ⟨f.output_inj within inside, fun same => same ▸ rfl⟩
      cases role with
      | process k | failed =>
        have other : j ≠ i := by
          rintro rfl
          rw [here] at spoken
          simp [Standing.spoken, Role.standing] at spoken
        simp [Deed.bytesOf, mine, other, Role.bytesOut, Deed.bytesBy]
      | builtin stage output' s =>
        rw [output stage output' s rfl]
        rfl
  | _ => cases role <;> rfl

theorem received (flow : Flow f place d w) (here : place (i + 1) = role.standing) :
    (f.line d).flatMap (Deed.bytesFrom (f.reader i)) = role.received (f.line d) := by
  refine List.flatMap_congr fun deed member => ?_
  cases deed with
  | read k e b =>
    obtain ⟨st, own, rfl⟩ := flow.signed.read k e b member
    simp only [Deed.bytesFrom, flow.source_iff own, here]
    cases role <;> simp [Role.standing, Role.bytesIn, Deed.bytesReadBy, eq_comm]
  | _ => cases role <;> rfl

theorem bytesTo_eq (flow : Flow f place d w) (inner : i + 1 < f.count) :
    (f.line d).flatMap (Deed.bytesTo (some (f.writer i))) =
      (f.line d).flatMap (Deed.bytesOf f.first (f.streams i).output) := by
  have output : (f.streams i).output = some (f.writer i) := (f.output_eq_iff inner).2 rfl
  refine List.flatMap_congr fun deed member => ?_
  rw [output]
  cases deed with
  | wrote process t b =>
    cases process with
    | some k =>
      obtain ⟨st, own, rfl⟩ := flow.signed.wrote k t b member
      have new : st.output = some (f.writer i) → f.first ≤ k := fun same =>
        (flow.numbered.own i k ((flow.output_iff own inner).1 same)).2.1
      simp only [Deed.bytesTo, Deed.bytesOf]
      by_cases same : st.output = some (f.writer i)
      · simp [same, new same]
      · simp [same]
    | none => rfl
  | _ => rfl

end Flow

/-! ## Roles -/

namespace Session
variable {σ : Type} {host : Host σ}

theorem plays_roles {stages : List (Stage × Streams)} {begun : List Begun}
    (begins : List.Forall₂ Begins stages begun) (d : Diary) (n : Nat) (s : Session σ)
    (processes : ∀ (i k : Nat) (stage : Stage × Streams),
      (roles host n begun s)[i]? = some (.process k) → stages[i]? = some stage →
        d.streams[k]? = some stage.2) :
    List.Forall₂ (fun stage role => Role.Plays d stage.1 stage.2 role) stages
      (roles host n begun s) := by
  induction begins generalizing n s with
  | nil => exact .nil
  | @cons stage first stages rest begin _ ih =>
    have further := fun n s given => ih n s given
    rcases begin with ⟨builtin, rfl⟩ | ⟨program, answer, rfl⟩
    · refine .cons ⟨builtin, rfl, rfl⟩ (ih _ _ fun i k => ?_)
      exact processes (i + 1) k
    · cases answer with
      | ok pid =>
        refine .cons ⟨program, processes 0 n stage rfl rfl⟩ (ih _ _ fun i k => ?_)
        exact processes (i + 1) k
      | error cause =>
        refine .cons program (ih _ _ fun i k => ?_)
        exact processes (i + 1) k

end Session

/-! ## Data between neighbours -/

structure Wiring.Joins (wiring : Wiring) (base i pipe : Nat) : Prop where
  new : base ≤ pipe
  writer : ∃ st, wiring.stages[i]? = some st ∧ st.output = some (.writer pipe)
  reader : ∃ st, wiring.stages[i + 1]? = some st ∧ st.input = some (.reader pipe)
  apart : ∀ (j : Nat) (st : Streams), wiring.stages[j]? = some st →
    (st.output = some (.writer pipe) → j = i) ∧ (st.input = some (.reader pipe) → j = i + 1) ∧
      st.output ≠ some (.reader pipe) ∧ st.input ≠ some (.writer pipe)

section
variable {σ : Type}

/-- What a stage has sent was received by the next one or is still in the pipe between them, and each
end of the pipe is open as long as its stage keeps it. -/
structure Carries (pipe : Nat) (sender receiver : Role σ) (line : Diary) (w : World) : Prop where
  bytes : sender.sent line = receiver.received line ++ (w.pipe pipe).buffer
  writer : (w.pipe pipe).hasWriter = sender.standing.writes line
  reader : (w.pipe pipe).hasReader = receiver.standing.reads line

structure Delivers (host : Host σ) (stage : Stage) (output : Option End) (s : Session σ)
    (line : Diary) : Prop where
  part : Diary.said output line <+: (stage.act s.surroundings).bytes
  all : ∀ effect, (s.runBuiltin host stage output).1 = .ok effect →
    Diary.said output line = (stage.act s.surroundings).bytes

structure Breaks (host : Host σ) (stage : Stage) (output : Option End) (s : Session σ)
    (next : Role σ) (line : Diary) : Prop where
  shut : next.Shut line output → ∃ command, stage.kind = .builtin command ∧
    (s.runBuiltin host stage output).1 = .error (.builtin command (.cannotWrite .brokenPipe))
  unshut : ¬next.Shut line output → (s.runBuiltin host stage output).1 = .ok (.status 0)
  mute : (∀ k, next ≠ .process k) → next.Shut line output

/-- How data flows in a line whose stages have these roles, when its pipes have the numbers from
`base` on and its processes the numbers from `first` on. -/
structure DataFlow (host : Host σ) (wiring : Wiring) (base first : Nat) (rs : List (Role σ))
    (line : Diary) (w : World) : Prop where
  pipes : ∀ (i : Nat) (sender receiver : Role σ), rs[i]? = some sender →
    rs[i + 1]? = some receiver →
      ∃ pipe, wiring.Joins base i pipe ∧ Carries pipe sender receiver line w
  output : ∀ (last : Role σ) (st : Streams), rs.getLast? = some last →
    wiring.stages.getLast? = some st →
      line.flatMap (Deed.bytesOf first st.output) = last.sent line
  commands : ∀ (i : Nat) (stage : Stage) (output : Option End) (s : Session σ),
    rs[i]? = some (.builtin stage output s) → Delivers host stage output s line
  breaks : ∀ (i : Nat) (stage : Stage) (output : Option End) (s : Session σ) (next : Role σ),
    rs[i]? = some (.builtin stage output s) → rs[i + 1]? = some next →
      (stage.act s.surroundings).bytes ≠ [] → Breaks host stage output s next line

end

/-! ### From the flow -/

theorem Frame.Fits.joins {f : Frame} {plan : Plan} {wiring : Wiring} {d : Diary} {w : World}
    (fits : f.Fits plan wiring d w) {i : Nat} (inner : i + 1 < f.count) :
    wiring.Joins f.base i (f.base + i) where
  new := Nat.le_add_right _ _
  writer := ⟨f.streams i, fits.getElem? (Nat.lt_of_succ_lt inner), (f.output_eq_iff inner).2 rfl⟩
  reader := ⟨f.streams (i + 1), fits.getElem? inner, f.input_eq_iff.2 rfl⟩
  apart := by
    intro j st there
    rw [fits.streams_eq there]
    exact ⟨(f.output_eq_iff inner).1, f.input_eq_iff.1, f.output_ne_reader, f.input_ne_writer⟩

theorem Kind.exists_of_isBuiltin {kind : Kind} (builtin : kind.isBuiltin) :
    ∃ command, kind = .builtin command := by
  cases kind with
  | program => cases builtin
  | builtin command => exact ⟨command, rfl⟩

namespace Flow
variable {σ : Type} {host : Host σ} {f : Frame} {rs : List (Role σ)} {d : Diary} {w : World}

theorem lineup_roles {i : Nat} {role : Role σ} (here : rs[i]? = some role) :
    Standing.lineup (rs.map Role.standing) i = role.standing := by
  simp [Standing.lineup, here]

theorem Role.eq_process {role : Role σ} {k : Nat} (stands : role.standing = .process k) :
    role = .process k := by
  cases role <;> cases stands
  rfl

theorem shut_of_refusal (flow : Flow f (Standing.lineup (rs.map Role.standing)) d w) {i : Nat}
    (inner : i + 1 < f.count) {next : Role σ} (there : rs[i + 1]? = some next)
    (cause : SystemError)
    (refusal : cause ∈ Diary.refusals (some (f.writer i)) (f.line d)) :
    cause = .brokenPipe ∧ next.Shut (f.line d) (some (f.writer i)) := by
  obtain ⟨deed, member, refused⟩ := List.mem_filterMap.1 refusal
  obtain ⟨before, after, line⟩ := List.append_of_mem member
  cases deed with
  | refused target bytes cause' =>
    obtain ⟨rfl, rfl⟩ : target = some (f.writer i) ∧ cause' = cause := by
      simpa [Deed.refusal?] using refused
    have pre : before ++ [.refused (some (f.writer i)) bytes cause'] <+: f.line d :=
      ⟨after, by simp [line]⟩
    obtain ⟨broken, closed⟩ := flow.heard.refused i inner before bytes cause' pre
    refine ⟨broken, before, _, pre, rfl, ?_⟩
    rintro k rfl
    exact closed k (lineup_roles there)
  | _ => cases refused

theorem refusal_of_shut (flow : Flow f (Standing.lineup (rs.map Role.standing)) d w) {i : Nat}
    (inner : i + 1 < f.count) {next : Role σ} (there : rs[i + 1]? = some next)
    (shut : next.Shut (f.line d) (some (f.writer i))) :
    Diary.refusals (some (f.writer i)) (f.line d) ≠ [] := by
  obtain ⟨before, deed, pre, attempt, closed⟩ := shut
  have member : deed ∈ f.line d := pre.subset (by simp)
  cases deed with
  | wrote process target bytes =>
    cases process with
    | some k => cases attempt
    | none =>
      cases attempt
      obtain ⟨k, stands, held⟩ := flow.heard.taken i inner before bytes pre
      rw [lineup_roles there] at stands
      exact absurd (closed k (Role.eq_process stands)) held
  | refused target bytes cause =>
    cases attempt
    have refusal : cause ∈ Diary.refusals (some (f.writer i)) (f.line d) :=
      List.mem_filterMap.2 ⟨_, member, by simp [Deed.refusal?]⟩
    exact List.ne_nil_of_mem refusal
  | _ => cases attempt

theorem breaks (flow : Flow f (Standing.lineup (rs.map Role.standing)) d w) {i : Nat}
    (inner : i + 1 < f.count) {stage : Stage} {output : Option End} {s : Session σ} {next : Role σ}
    (there : rs[i + 1]? = some next) (given : output = (f.streams i).output)
    (builtin : stage.kind.isBuiltin) {refused : Option SystemError}
    (told : Told output (stage.act s.surroundings).bytes refused (f.line d))
    (result : (s.runBuiltin host stage output).1 =
      (stage.act s.surroundings).conclude stage.kind refused)
    (speaks : (stage.act s.surroundings).bytes ≠ []) : Breaks host stage output s next (f.line d) := by
  obtain rfl : output = some (f.writer i) := given.trans ((f.output_eq_iff inner).2 rfl)
  obtain ⟨command, kind⟩ := Kind.exists_of_isBuiltin builtin
  rw [kind] at result
  refine ⟨fun shut => ⟨command, kind, ?_⟩, fun unshut => ?_, fun mute => ?_⟩
  · have refusal := flow.refusal_of_shut inner there shut
    rw [told.refusals] at refusal
    cases refused with
    | none => exact absurd rfl refusal
    | some cause =>
      obtain ⟨rfl, -⟩ := flow.shut_of_refusal inner there cause (by simp [told.refusals])
      exact result
  · cases refused with
    | none => exact result.trans (stage.act_result s.surroundings speaks)
    | some cause =>
      have shut := flow.shut_of_refusal inner there cause (by simp [told.refusals])
      exact absurd shut.2 unshut
  · obtain ⟨deed, member, attempt⟩ := told.tried speaks
    obtain ⟨before, after, line⟩ := List.append_of_mem member
    exact ⟨before, deed, ⟨after, by simp [line]⟩, attempt, fun k same => absurd same (mute k)⟩

theorem dataFlow (flow : Flow f (Standing.lineup (rs.map Role.standing)) d w)
    (words : Session.Words f host 0 rs (f.line d)) {plan : Plan} {wiring : Wiring} {d₀ : Diary}
    {w₀ : World} (fits : f.Fits plan wiring d₀ w₀) (count : rs.length = f.count)
    (builtins : ∀ (i : Nat) (stage : Stage) (output : Option End) (s : Session σ),
      rs[i]? = some (.builtin stage output s) → stage.kind.isBuiltin) :
    DataFlow host wiring f.base f.first rs (f.line d) w := by
  have known : ∀ {i : Nat} {role : Role σ}, rs[i]? = some role → i < f.count := fun here =>
    count ▸ (List.getElem?_eq_some_iff.1 here).1
  have output : ∀ {i : Nat} {role : Role σ}, rs[i]? = some role → ∀ stage output s,
      role = .builtin stage output s → output = (f.streams i).output := by
    rintro i _ here stage output s rfl
    simpa using (words.told i stage output s here).1
  refine ⟨?_, ?_, ?_, ?_⟩
  · intro i sender receiver here there
    have inner := known there
    refine ⟨f.base + i, fits.joins inner, ?_, ?_, ?_⟩
    · rw [← flow.sent (known here) (lineup_roles here) (output here), ← flow.bytesTo_eq inner,
        flow.piped.fifo i inner, flow.received (lineup_roles there)]
    · rw [flow.piped.writer i inner, lineup_roles here]
    · rw [flow.piped.reader i inner, lineup_roles there]
  · intro last st here there
    rw [List.getLast?_eq_getElem?] at here there
    have inside := known here
    rw [fits.length, ← count] at there
    rw [fits.streams_eq there]
    exact flow.sent inside (lineup_roles here) (output here)
  · intro i stage output s here
    obtain ⟨-, refused, told, result⟩ := words.told i stage output s here
    refine ⟨told.said, fun effect ok => told.all ?_⟩
    rw [result] at ok
    obtain ⟨command, kind⟩ := Kind.exists_of_isBuiltin (builtins i stage output s here)
    cases refused with
    | none => rfl
    | some cause =>
      rw [kind] at ok
      cases ok
  · intro i stage output s next here there speaks
    obtain ⟨given, refused, told, result⟩ := words.told i stage output s here
    exact flow.breaks (known there) there (by simpa using given) (builtins i stage output s here)
      told result speaks

end Flow

namespace Session
variable {σ : Type}

structure Conveys (host : Host σ) (diary : σ → Diary) (plan : Plan) (wiring : Wiring)
    (s : Session σ) : Prop where
  target : ∀ st, wiring.stages.getLast? = some st → ∃ input opened created,
    Plan.openEnd s.world.openFile s.world plan.input = .ok (input, opened) ∧
      Plan.openEnd opened.createFile opened plan.output = .ok (st.output, created)
  roles : List.Forall₂
    (fun stage role => Role.Plays (diary (s.runPlan host plan).2.host) stage.1 stage.2 role)
    (plan.stages.zip wiring.stages) (s.cast host plan wiring (diary s.host).streams.length)
  length : wiring.stages.length = plan.stages.length
  data : ∀ d w,
    Conducts (diary (s.runPlan host plan).2.host) (s.runPlan host plan).2.world d w →
      DataFlow host wiring s.world.pipes.size (diary s.host).streams.length
        (s.cast host plan wiring (diary s.host).streams.length) (d.drop (diary s.host).length) w
  failures : ∀ execution, (s.runPlan host plan).1 = .ok execution →
    execution.failures = (s.begun host plan wiring).1.filterMap Begun.fault? ++
      (s.cast host plan wiring (diary s.host).streams.length).filterMap (Role.fault? host)
  sound : (diary (s.runPlan host plan).2.host).Sound (s.runPlan host plan).2.world

/-- Over any host that keeps a diary, and for any mix of programs, built-in commands and programs that
do not start, data goes only between neighbours, and completely. -/
theorem runPlan_dataFlow {host : Host σ} {diary : σ → Diary} (keeps : host.Keeps diary)
    (plan : Plan) (s : Session σ) (sound : (diary s.host).Sound s.world) :
    match (plan.wire s.world).wiring with
    | .ok wiring => s.Conveys host diary plan wiring
    | .error fault =>
      (s.runPlan host plan).1 = .error fault ∧ (s.runPlan host plan).2.host = s.host := by
  cases wired : (plan.wire s.world).wiring with
  | error fault => simp [runPlan, wired, record]
  | ok wiring =>
    obtain ⟨f, fits⟩ := Plan.exists_frame wired sound
    obtain ⟨now, -⟩ := runPlan_flow keeps sound wired fits .refl
    have length : wiring.stages.length = plan.stages.length := length_of_wire wired
    have begins : List.Forall₂ Begins (plan.stages.zip wiring.stages)
        (s.begun host plan wiring).1 :=
      beginAll_begins host (s.ready plan wiring).searchPath _ (s.ready plan wiring)
    have roles : List.Forall₂
        (fun stage role => Role.Plays (diary (s.runPlan host plan).2.host) stage.1 stage.2 role)
        (plan.stages.zip wiring.stages) (s.cast host plan wiring f.first) := by
      refine plays_roles begins _ _ _ fun i k stage here there => ?_
      obtain ⟨-, -, own⟩ := now.numbered.own i k (Flow.lineup_roles here)
      rw [own, fits.streams_eq (List.getElem?_zip_eq_some.1 there).2]
    have count : (s.cast host plan wiring f.first).length = f.count := by
      rw [← roles.length_eq, List.length_zip, length, Nat.min_self, fits.count]
    refine ⟨fun st last => ?_, ?_, length, fun d w later => ?_, fun execution ends => ?_, now.sound⟩
    · have staged : plan.stages ≠ [] := by
        rintro empty
        rw [List.getLast?_eq_getElem?, List.eq_nil_of_length_eq_zero (length.trans (by simp [empty]))]
          at last
        cases last
      have behind : f.count - 1 + 1 = f.count :=
        Nat.sub_add_cancel (fits.count ▸ List.length_pos_of_ne_nil staged)
      obtain ⟨input, opened, created, first, second⟩ := fits.opens staged
      refine ⟨input, opened, created, first, ?_⟩
      rw [List.getLast?_eq_getElem?] at last
      rw [fits.streams_eq last, fits.length]
      simpa [Frame.streams, Wiring.streamsAt, behind] using second
    · rw [← fits.first]
      exact roles
    · obtain ⟨flow, words⟩ := runPlan_flow keeps sound wired fits later
      have data := flow.dataFlow words fits count fun i stage output s' here => by
        obtain ⟨pair, -, builtin, rfl, -⟩ := forall₂_getElem? roles here
        exact builtin
      rwa [fits.base, fits.first, Frame.line, fits.start] at data
    · rw [runPlan_wired wired] at ends
      rw [conclude_failures (Prod.ext ends rfl), failures_roles]
      rfl

def mixture : Plan :=
  { stages := [⟨.program, ["printf"]⟩, ⟨.builtin .echo, ["echo", "x"]⟩, ⟨.program, ["nowhere"]⟩,
      ⟨.builtin .echo, ["echo", "y"]⟩, ⟨.program, ["cat"]⟩] }

def unwritten : Session (ScriptedHost × Diary) :=
  { host := ({ scripts := [("printf", { writes := "z" }), ("nowhere", { refusal := some "lost" })] },
      []) }

theorem runPlan_dataFlow_mixture :
    ScriptedHost.recorded.Keeps Prod.snd ∧ Diary.Sound unwritten.host.2 unwritten.world ∧
      (unwritten.runPlan ScriptedHost.recorded mixture).1 = .ok ⟨.finished 0,
        [.launch "nowhere" (.refused "lost"), .builtin .echo (.cannotWrite .brokenPipe)]⟩ ∧
      ∃ wiring, (mixture.wire unwritten.world).wiring = .ok wiring ∧
        unwritten.Conveys ScriptedHost.recorded Prod.snd mixture wiring := by
  have sound : Diary.Sound unwritten.host.2 unwritten.world := Diary.sound_nil Nat.zero_lt_one
  have ends : (unwritten.runPlan ScriptedHost.recorded mixture).1 = .ok ⟨.finished 0,
      [.launch "nowhere" (.refused "lost"), .builtin .echo (.cannotWrite .brokenPipe)]⟩ := by
    decide +kernel
  exact ⟨ScriptedHost.recorded_keeps, sound, ends, _, rfl,
    runPlan_dataFlow ScriptedHost.recorded_keeps mixture unwritten sound⟩

end Session
end PipeShell
