import PipeShell.Proofs.Dealings
import PipeShell.Proofs.Handover

/-!
# The word of a built-in command

What a built-in command writes reaches its target as far as the writing is not refused, and nothing
else is written for the shell meanwhile (`Writes.tells`). One refusal ends the writing and is the
fault of the command (`Session.runBuiltin_writes`).
-/

namespace PipeShell

/-! ## Longer diaries -/

namespace Conducts
variable {d d' d'' : Diary} {w w' w'' : World}

theorem trans (first : Conducts d w d' w') (second : Conducts d' w' d'' w'') :
    Conducts d w d'' w'' := by
  induction first with
  | refl => exact second
  | step act _ ih => exact .step act (ih second)

end Conducts

theorem Acts.adds {d d' : Diary} {w w' : World} (acts : Acts d w d' w') :
    ∃ e, d' = d ++ e ∧ ∀ deed ∈ e, deed.started? = none ∧ deed.attempt? = none := by
  cases acts with
  | wrote => exact ⟨[_], rfl, by simp [Deed.started?, Deed.attempt?]⟩
  | read => exact ⟨[_], rfl, by simp [Deed.started?, Deed.attempt?]⟩
  | closedInput => exact ⟨[_], rfl, by simp [Deed.started?, Deed.attempt?]⟩
  | closedOutput => exact ⟨[_], rfl, by simp [Deed.started?, Deed.attempt?]⟩
  | aside => exact ⟨[], (List.append_nil _).symm, by simp⟩

namespace Conducts
variable {d d' : Diary} {w w' : World}

theorem adds (conduct : Conducts d w d' w') :
    ∃ e, d' = d ++ e ∧ ∀ deed ∈ e, deed.started? = none ∧ deed.attempt? = none := by
  induction conduct with
  | refl => exact ⟨[], (List.append_nil _).symm, by simp⟩
  | step first _ ih =>
    obtain ⟨e, rfl, silent⟩ := first.adds
    obtain ⟨e', rfl, silent'⟩ := ih
    exact ⟨e ++ e', List.append_assoc .., fun deed member =>
      (List.mem_append.1 member).elim (silent deed) (silent' deed)⟩

theorem streams (conduct : Conducts d w d' w') : d'.streams = d.streams := by
  obtain ⟨e, rfl, silent⟩ := conduct.adds
  rw [Diary.streams_append, List.append_right_eq_self, Diary.streams, List.filterMap_eq_nil_iff]
  exact fun deed member => (silent deed member).1

theorem sound (conduct : Conducts d w d' w') (sound : d.Sound w) : d'.Sound w' := by
  induction conduct with
  | refl => exact sound
  | step first _ ih => exact ih (sound.acts first)

end Conducts

/-! ## Telling -/

namespace Diary

def said (target : Option End) (d : Diary) : Bytes := d.flatMap (Deed.bytesSaid target)

def refusals (target : Option End) (d : Diary) : List SystemError :=
  d.filterMap (Deed.refusal? target)

variable {target : Option End} {d e : Diary}

@[simp] theorem said_append : said target (d ++ e) = said target d ++ said target e :=
  List.flatMap_append ..

@[simp] theorem refusals_append :
    refusals target (d ++ e) = refusals target d ++ refusals target e :=
  List.filterMap_append ..

theorem silent (quiet : ∀ deed ∈ d, deed.attempt? ≠ some target) :
    said target d = [] ∧ refusals target d = [] := by
  constructor
  · rw [said, List.flatMap_eq_nil_iff]
    intro deed member
    have other := quiet deed member
    cases deed with
    | wrote process t bytes => cases process <;> simp_all [Deed.bytesSaid, Deed.attempt?]
    | _ => rfl
  · rw [refusals, List.filterMap_eq_nil_iff]
    intro deed member
    have other := quiet deed member
    cases deed with
    | refused t bytes cause => simp_all [Deed.refusal?, Deed.attempt?]
    | _ => rfl

end Diary

structure Told (target : Option End) (bytes : Bytes) (result : Option SystemError) (e : Diary) :
    Prop where
  said : Diary.said target e <+: bytes
  all : result = none → Diary.said target e = bytes
  refusals : Diary.refusals target e = result.toList
  tried : bytes ≠ [] → ∃ deed ∈ e, deed.attempt? = some target

namespace Told
variable {target : Option End} {bytes : Bytes} {result : Option SystemError} {e e' : Diary}

theorem append_left (told : Told target bytes result e)
    (quiet : ∀ deed ∈ e', deed.attempt? ≠ some target) : Told target bytes result (e' ++ e) := by
  obtain ⟨said, refusals⟩ := Diary.silent quiet
  refine ⟨by simpa [said] using told.said, by simpa [said] using told.all,
    by simpa [refusals] using told.refusals, fun speaks => ?_⟩
  obtain ⟨deed, member, attempt⟩ := told.tried speaks
  exact ⟨deed, List.mem_append_right _ member, attempt⟩

theorem append_right (told : Told target bytes result e)
    (quiet : ∀ deed ∈ e', deed.attempt? ≠ some target) : Told target bytes result (e ++ e') := by
  obtain ⟨said, refusals⟩ := Diary.silent quiet
  refine ⟨by simpa [said] using told.said, by simpa [said] using told.all,
    by simpa [refusals] using told.refusals, fun speaks => ?_⟩
  obtain ⟨deed, member, attempt⟩ := told.tried speaks
  exact ⟨deed, List.mem_append_left _ member, attempt⟩

end Told

namespace Writes
variable {target : Option End} {bytes more : Bytes} {d d₁ d' : Diary} {w w₁ w' : World}
  {result : Option SystemError}

theorem after (meanwhile : Conducts d w d₁ w₁) (writes : Writes target bytes d₁ w₁ result d' w') :
    Writes target bytes d w result d' w' := by
  cases writes with
  | done rest => exact .done (meanwhile.trans rest)
  | piece rest taken more => exact .piece (meanwhile.trans rest) taken more
  | refused rest refused => exact .refused (meanwhile.trans rest) refused

theorem append (first : Writes target bytes d w none d₁ w₁)
    (second : Writes target more d₁ w₁ result d' w') :
    Writes target (bytes ++ more) d w result d' w' := by
  generalize untold : (none : Option SystemError) = r at first
  induction first with
  | done meanwhile => exact second.after meanwhile
  | piece meanwhile taken _ ih =>
    rw [List.append_assoc]
    exact .piece meanwhile taken (ih second untold)
  | refused => cases untold

theorem stop {cause : SystemError} (writes : Writes target bytes d w (some cause) d' w')
    (more : Bytes) : Writes target (bytes ++ more) d w (some cause) d' w' := by
  generalize stopped : some cause = r at writes
  induction writes with
  | done => cases stopped
  | piece meanwhile taken _ ih =>
    rw [List.append_assoc]
    exact .piece meanwhile taken (ih stopped)
  | refused meanwhile refused =>
    rw [List.append_assoc]
    exact .refused meanwhile refused

theorem sound (writes : Writes target bytes d w result d' w') (sound : d.Sound w) :
    d'.Sound w' := by
  induction writes with
  | done meanwhile => exact meanwhile.sound sound
  | piece meanwhile taken _ ih =>
    obtain ⟨size, input, -⟩ := World.write_ok taken
    exact ih ((meanwhile.sound sound).deed rfl (by simp) size input)
  | refused meanwhile refused =>
    exact ((meanwhile.sound sound).deed rfl (by simp) rfl rfl).alike (World.write_refused refused).1

theorem tells (writes : Writes target bytes d w result d' w') :
    ∃ e, d' = d ++ e ∧ Told target bytes result e ∧
      ∀ deed ∈ e, ∀ t, deed.attempt? = some t → t = target := by
  -- What processes do between two pieces is not said by the shell.
  have quiet : ∀ {e : Diary}, (∀ deed ∈ e, deed.started? = none ∧ deed.attempt? = none) →
      ∀ deed ∈ e, deed.attempt? ≠ some target := by
    intro e silent deed member
    simp [(silent deed member).2]
  induction writes with
  | done meanwhile =>
    obtain ⟨e, rfl, silent⟩ := meanwhile.adds
    obtain ⟨said, refusals⟩ := Diary.silent (quiet silent)
    exact ⟨e, rfl, ⟨said ▸ List.prefix_rfl, fun _ => said, refusals, fun speaks => absurd rfl speaks⟩,
      fun deed member => by simp [(silent deed member).2]⟩
  | @piece d _ _ _ _ _ _ piece rest result meanwhile taken _ ih =>
    obtain ⟨e, rfl, silent⟩ := meanwhile.adds
    obtain ⟨e', rfl, told, only⟩ := ih
    have words : Diary.said target (.wrote none target piece :: e') =
        piece ++ Diary.said target e' := by
      simp [Diary.said, Deed.bytesSaid]
    have told : Told target (piece ++ rest) result (.wrote none target piece :: e') := by
      refine ⟨?_, fun taken => ?_, ?_, fun _ => ⟨_, List.mem_cons_self, rfl⟩⟩
      · rw [words]
        exact (List.prefix_append_right_inj _).2 told.said
      · rw [words, told.all taken]
      · exact told.refusals
    refine ⟨e ++ .wrote none target piece :: e', by simp, told.append_left (quiet silent), ?_⟩
    intro deed member
    rw [List.mem_append, List.mem_cons] at member
    rcases member with early | rfl | late
    · simp [(silent deed early).2]
    · exact fun t attempt => (Option.some.inj attempt).symm
    · exact only deed late
  | @refused d _ _ _ _ piece rest cause meanwhile refused =>
    obtain ⟨e, rfl, silent⟩ := meanwhile.adds
    have told : Told target (piece ++ rest) (some cause) [.refused target piece cause] :=
      ⟨List.nil_prefix, by simp, by simp [Diary.refusals, Deed.refusal?],
        fun _ => ⟨_, List.mem_singleton_self _, rfl⟩⟩
    refine ⟨e ++ [.refused target piece cause], by simp, told.append_left (quiet silent), ?_⟩
    intro deed member
    rw [List.mem_append, List.mem_singleton] at member
    rcases member with early | rfl
    · simp [(silent deed early).2]
    · exact fun t attempt => (Option.some.inj attempt).symm

end Writes

/-! ## Built-in commands -/

def Act.bytes (act : Act) : Bytes := act.texts.flatMap Text.bytes

theorem World.Alike.enter {w w' : World} {path : String} (entered : w.enter path = .ok w') :
    Alike w w' := by
  unfold World.enter at entered
  cases there : w.files.enterFolder w.here path with
  | error cause =>
    rw [there] at entered
    cases entered
  | ok here =>
    rw [there] at entered
    cases entered
    exact ⟨rfl, rfl⟩

theorem Builtin.actCd_cases (args : List String) (s : Surroundings) :
    World.Alike s.world (actCd args s).after.world ∧ (actCd args s).texts = [] := by
  have go : ∀ path,
      World.Alike s.world (actCd [path] s).after.world ∧ (actCd [path] s).texts = [] := by
    intro path
    simp only [actCd]
    split
    · rename_i w entered
      exact ⟨.enter entered, rfl⟩
    · exact ⟨.refl _, rfl⟩
  rcases args with _ | ⟨path, _ | _⟩
  · exact go "~"
  · exact go path
  · exact ⟨.refl _, rfl⟩

theorem Builtin.act_cases (command : Builtin) (args : List String) (s : Surroundings) :
    World.Alike s.world (command.act args s).after.world ∧
    ((command.act args s).texts = [] ∨ (command.act args s).result = .ok (.status 0)) := by
  cases command with
  | cd => exact (actCd_cases args s).imp_right .inl
  | echo | parsecmd | echocmd | showchild => exact ⟨.refl _, .inr rfl⟩
  | set =>
    simp only [act, actSet]
    split
    · exact ⟨.refl _, .inr rfl⟩
    · exact ⟨.refl _, .inr rfl⟩
    · exact ⟨.refl _, .inl rfl⟩
  | exit =>
    simp only [act, actExit]
    split
    · exact ⟨.refl _, .inl rfl⟩
    · split
      · exact ⟨.refl _, .inl rfl⟩
      · exact ⟨.refl _, .inl rfl⟩
    · exact ⟨.refl _, .inl rfl⟩
  | setprompt =>
    simp only [act, actSetprompt]
    split
    · exact ⟨.refl _, .inr rfl⟩
    · exact ⟨.refl _, .inl rfl⟩

theorem Stage.act_alike (stage : Stage) (s : Surroundings) :
    World.Alike s.world (stage.act s).after.world := by
  unfold Stage.act
  cases stage.kind with
  | program => exact .refl _
  | builtin command => exact (command.act_cases _ s).1

theorem Stage.act_result (stage : Stage) (s : Surroundings) (speaks : (stage.act s).bytes ≠ []) :
    (stage.act s).result = .ok (.status 0) := by
  unfold Act.bytes at speaks
  unfold Stage.act at speaks ⊢
  cases kind : stage.kind with
  | program =>
    rw [kind] at speaks
    exact absurd rfl speaks
  | builtin command =>
    rw [kind] at speaks
    refine (command.act_cases (stage.argv.drop 1) s).2.resolve_left fun silent => speaks ?_
    dsimp only
    rw [silent, List.flatMap_nil]

theorem writeAll_writes {σ : Type} {host : Host σ} {diary : σ → Diary} (keeps : host.Keeps diary)
    (target : Option End) (texts : List String) (state : σ) (w : World)
    (sound : (diary state).Sound w) :
    Writes target (texts.flatMap Text.bytes) (diary state) w
      (writeAll (host.write target) texts (state, w)).1
      (diary (writeAll (host.write target) texts (state, w)).2.1)
      (writeAll (host.write target) texts (state, w)).2.2 := by
  induction texts generalizing state w with
  | nil => exact .done .refl
  | cons text rest ih =>
    have first := keeps.writes target (Text.bytes text) state w sound
    rw [List.flatMap_cons, writeAll]
    rcases wrote : host.write target (Text.bytes text) (state, w) with ⟨_ | cause, state', w'⟩
    · rw [wrote] at first
      exact first.append (ih state' w' (first.sound sound))
    · rw [wrote] at first
      exact first.stop _

theorem Session.runBuiltin_writes {σ : Type} {host : Host σ} {diary : σ → Diary}
    (keeps : host.Keeps diary) (stage : Stage) (output : Option End) (s : Session σ)
    (sound : (diary s.host).Sound s.world) :
    ∃ (w : World) (refused : Option SystemError), World.Alike s.world w ∧
      Writes output (stage.act s.surroundings).bytes (diary s.host) w refused
        (diary (s.runBuiltin host stage output).2.host) (s.runBuiltin host stage output).2.world ∧
      (s.runBuiltin host stage output).1 =
        (stage.act s.surroundings).conclude stage.kind refused := by
  have alike := stage.act_alike s.surroundings
  exact ⟨_, _, alike, writeAll_writes keeps output _ s.host _ (sound.alike alike), rfl⟩

end PipeShell
