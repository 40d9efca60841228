import PipeShell.Proofs.Places

/-!
# Ends change hands

What the shell itself does to the pipes of a line: it gives the ends of a stage away with its program,
closes those that a stage does not need, and writes for the built-in commands. Each step takes one
stage from one standing to the next, and every pipe stays in order (`Flow.start`, `Flow.shift`,
`Flow.writes`).
-/

namespace PipeShell

namespace Frame
variable {f : Frame} {i j : Nat}

theorem streams_below {n : Nat} (size : f.base + (f.count - 1) ≤ n) (inside : i < f.count) :
    (f.streams i).below n := by
  constructor
  · intro e member
    simp only [streams, Wiring.streamsAt] at member
    split at member
    · exact (f.input_below e member).mono (by omega)
    · cases member
      simp only [End.below]
      omega
  · intro e member
    simp only [streams, Wiring.streamsAt] at member
    split at member
    · exact (f.output_below e member).mono (by omega)
    · cases member
      simp only [End.below]
      omega

theorem output_inj (first : i < f.count) (second : j < f.count)
    (same : (f.streams i).output = (f.streams j).output) : i = j := by
  by_cases inner : i + 1 < f.count
  · exact ((f.output_eq_iff inner).1 (same.symm.trans ((f.output_eq_iff inner).2 rfl))).symm
  · by_cases inner' : j + 1 < f.count
    · exact (f.output_eq_iff inner').1 (same.trans ((f.output_eq_iff inner').2 rfl))
    · omega

end Frame

namespace Flow
variable {f : Frame} {place : Nat → Standing} {d d' : Diary} {w w' : World} {i : Nat}

/-! ## Starting -/

theorem silent (flow : Flow f place d w) (quiet : ∀ j, ¬(place j).spoken) :
    ∀ deed ∈ f.line d, deed.attempt? = none := by
  intro deed member
  cases attempt : deed.attempt? with
  | none => rfl
  | some t =>
    obtain ⟨j, -, spoken, -⟩ := flow.signed.spoke deed member t attempt
    exact absurd spoken (quiet j)

theorem heard_of_silent {line : Diary} (silent : ∀ deed ∈ line, deed.attempt? = none) :
    Heard f place line where
  taken := by
    intro j _ before b pre
    cases silent _ (pre.subset (List.mem_append_right _ List.mem_cons_self))
  refused := by
    intro j _ before b c pre
    cases silent _ (pre.subset (List.mem_append_right _ List.mem_cons_self))

theorem unclosed (flow : Flow f place d w) :
    .closedInput d.streams.length ∉ f.line d ∧ .closedOutput d.streams.length ∉ f.line d :=
  ⟨fun closed => Nat.lt_irrefl _ (flow.sound.closed _ (.inl (List.mem_of_mem_drop closed))),
    fun closed => Nat.lt_irrefl _ (flow.sound.closed _ (.inr (List.mem_of_mem_drop closed)))⟩

theorem started_numbered {processes : List Streams} (numbered : Numbered f place processes)
    (inside : i < f.count) (here : place i = .waiting) :
    Numbered f (Function.update place i (.process processes.length))
      (processes ++ [f.streams i]) := by
  have elsewhere : ∀ {j k}, place j = .process k → j ≠ i := by
    rintro j k there rfl
    cases here.symm.trans there
  refine ⟨?_, ?_, ?_, ?_, ?_⟩
  · intro k st old own
    rw [List.getElem?_append_left (Nat.lt_of_lt_of_le old numbered.known)] at own
    exact numbered.old k st old own
  · rw [List.length_append]
    exact Nat.le_add_right_of_le numbered.known
  · intro j k there
    by_cases same : j = i
    · subst same
      rw [Function.update_self] at there
      cases there
      exact ⟨inside, numbered.known, by simp⟩
    · rw [Function.update_of_ne same] at there
      obtain ⟨within, new, own⟩ := numbered.own j k there
      exact ⟨within, new, List.getElem?_append_left (List.getElem?_eq_some_iff.1 own).1 ▸ own⟩
  · intro k new known
    rw [List.length_append, List.length_singleton, Nat.lt_succ_iff_lt_or_eq] at known
    rcases known with before | rfl
    · obtain ⟨j, there⟩ := numbered.onto k new before
      exact ⟨j, by rw [Function.update_of_ne (elsewhere there), there]⟩
    · exact ⟨i, Function.update_self ..⟩
  · have lt : ∀ {j k}, place j = .process k → k < processes.length := fun there =>
      (List.getElem?_eq_some_iff.1 (numbered.own _ _ there).2.2).1
    intro j j' k there there'
    by_cases first : j = i <;> by_cases second : j' = i
    · exact first.trans second.symm
    · subst first
      rw [Function.update_self] at there
      rw [Function.update_of_ne second] at there'
      cases there
      exact absurd (lt there') (Nat.lt_irrefl _)
    · subst second
      rw [Function.update_self] at there'
      rw [Function.update_of_ne first] at there
      cases there'
      exact absurd (lt there) (Nat.lt_irrefl _)
    · rw [Function.update_of_ne first] at there
      rw [Function.update_of_ne second] at there'
      exact numbered.inj j j' k there there'

theorem start (flow : Flow f place d w) (quiet : ∀ j, ¬(place j).spoken) (inside : i < f.count)
    (here : place i = .waiting) :
    Flow f (Function.update place i (.process d.streams.length)) (d ++ [.started (f.streams i)])
      w := by
  have streams : Diary.streams (d ++ [.started (f.streams i)]) = d.streams ++ [f.streams i] := by
    simp [Diary.streams, Deed.started?]
  -- The new process takes the next number, so the others keep theirs.
  have longer : ∀ {k : Nat} {st : Streams}, d.streams[k]? = some st →
      (Diary.streams (d ++ [.started (f.streams i)]))[k]? = some st := by
    intro k st own
    rw [streams, List.getElem?_append_left (List.getElem?_eq_some_iff.1 own).1, own]
  obtain ⟨unread, unwritten⟩ := flow.unclosed
  have line := f.line_append flow.signed.begun [.started (f.streams i)]
  refine ⟨⟨?_, flow.sound.own, ?_⟩, ?_, ⟨?_, ?_, ?_, ?_⟩,
    flow.piped.deed flow.signed.begun rfl rfl ?_ ?_ ?_, ?_⟩
  · intro st member
    rw [streams, List.mem_append, List.mem_singleton] at member
    rcases member with old | rfl
    · exact flow.sound.ends st old
    · exact f.streams_below flow.piped.size inside
  · intro k closed
    rw [streams, List.length_append]
    simp only [List.mem_append, List.mem_singleton, reduceCtorEq, or_false] at closed
    exact Nat.lt_succ_of_lt (flow.sound.closed k closed)
  · rw [streams]
    exact started_numbered flow.numbered inside here
  · simpa using Nat.le_succ_of_le flow.signed.begun
  · intro k t b member
    rw [line, List.mem_append, List.mem_singleton] at member
    obtain ⟨st, own, same⟩ := flow.signed.wrote k t b (member.resolve_right (by simp))
    exact ⟨st, longer own, same⟩
  · intro k e b member
    rw [line, List.mem_append, List.mem_singleton] at member
    obtain ⟨st, own, same⟩ := flow.signed.read k e b (member.resolve_right (by simp))
    exact ⟨st, longer own, same⟩
  · intro deed member t attempt
    rw [line, List.mem_append, List.mem_singleton] at member
    rcases member with old | rfl
    · rw [flow.silent quiet deed old] at attempt
      cases attempt
    · cases attempt
  · intro j inner
    simp [Deed.bytesTo, Deed.bytesFrom]
  · intro j inner
    rw [Standing.writes_deed _ _ (by simp), flow.piped.writer j inner]
    by_cases same : j = i
    · subst same
      rw [Function.update_self, here]
      simp [Standing.writes, unwritten]
    · rw [Function.update_of_ne same]
  · intro j inner
    rw [Standing.reads_deed _ _ (by simp), flow.piped.reader j inner]
    by_cases same : j + 1 = i
    · subst same
      rw [Function.update_self, here]
      simp [Standing.reads, unread]
    · rw [Function.update_of_ne same]
  · rw [line]
    refine heard_of_silent fun deed member => ?_
    rw [List.mem_append, List.mem_singleton] at member
    rcases member with old | rfl
    · exact flow.silent quiet deed old
    · rfl

/-! ## Closing -/

theorem shift (flow : Flow f place d w) {next : Standing} {e : Option End}
    (idle : ∀ k, place i ≠ .process k) (idle' : ∀ k, next ≠ .process k)
    (spoken : (place i).spoken → next.spoken)
    (writes : i + 1 < f.count → next.writes (f.line d) =
      ((place i).writes (f.line d) && e ≠ some (f.writer i)))
    (reads : ∀ j, j + 1 = i → next.reads (f.line d) =
      ((place i).reads (f.line d) && e ≠ some (f.reader j)))
    (otherWriter : ∀ j, j + 1 < f.count → j ≠ i → e ≠ some (f.writer j))
    (otherReader : ∀ j, j + 1 ≠ i → e ≠ some (f.reader j)) :
    Flow f (Function.update place i next) d (w.close? e) := by
  -- No process comes or goes, so all that speaks of processes stays as it was.
  have process : ∀ j k, Function.update place i next j = .process k ↔ place j = .process k := by
    intro j k
    by_cases same : j = i
    · subst same
      rw [Function.update_self]
      exact iff_of_false (idle' k) (idle k)
    · rw [Function.update_of_ne same]
  obtain ⟨size, input, -⟩ := World.close?_spec w e
  refine ⟨⟨size ▸ flow.sound.ends, ?_, flow.sound.closed⟩, ⟨flow.numbered.old,
    flow.numbered.known, ?_, ?_, ?_⟩, ⟨flow.signed.begun, flow.signed.wrote, flow.signed.read, ?_⟩,
    flow.piped.close? e ?_ ?_, ⟨?_, ?_⟩⟩
  · rw [input, size]
    exact flow.sound.own
  · intro j k there
    exact flow.numbered.own j k ((process j k).1 there)
  · intro k new known
    obtain ⟨j, there⟩ := flow.numbered.onto k new known
    exact ⟨j, (process j k).2 there⟩
  · intro j j' k there there'
    exact flow.numbered.inj j j' k ((process j k).1 there) ((process j' k).1 there')
  · intro deed member t attempt
    obtain ⟨j, within, word, same⟩ := flow.signed.spoke deed member t attempt
    refine ⟨j, within, ?_, same⟩
    by_cases here : j = i
    · subst here
      rw [Function.update_self]
      exact spoken word
    · rwa [Function.update_of_ne here]
  · intro j inner
    by_cases same : j = i
    · subst same
      rw [Function.update_self, writes inner]
    · rw [Function.update_of_ne same]
      simp [otherWriter j inner same]
  · intro j inner
    by_cases same : j + 1 = i
    · rw [same, Function.update_self, reads j same]
    · rw [Function.update_of_ne same]
      simp [otherReader j same]
  · intro j inner before b pre
    obtain ⟨k, there, held⟩ := flow.heard.taken j inner before b pre
    exact ⟨k, (process _ k).2 there, held⟩
  · intro j inner before b c pre
    obtain ⟨cause, closed⟩ := flow.heard.refused j inner before b c pre
    exact ⟨cause, fun k there => closed k ((process _ k).1 there)⟩

theorem defer (flow : Flow f place d w) (here : place i = .waiting) :
    Flow f (Function.update place i .deferred) d (w.close? (f.streams i).input) := by
  refine flow.shift (by simp [here]) (by simp) (by simp [here, Standing.spoken]) ?_ ?_ ?_ ?_
  · intro _
    rw [here]
    simp [Standing.writes, f.input_ne_writer]
  · rintro j rfl
    rw [here]
    simp [Standing.reads, f.input_eq_iff.2 rfl]
  · intro j _ _
    exact f.input_ne_writer
  · intro j other same
    exact other (f.input_eq_iff.1 same).symm

theorem dropOutput (flow : Flow f place d w) (next : Standing)
    (here : place i = .deferred ∧ next = .failed ∨ place i = .speaking ∧ next = .done) :
    Flow f (Function.update place i next) d (w.close? (f.streams i).output) := by
  refine flow.shift ?_ ?_ ?_ ?_ ?_ ?_ ?_
  · rcases here with ⟨here, -⟩ | ⟨here, -⟩ <;> simp [here]
  · rcases here with ⟨-, rfl⟩ | ⟨-, rfl⟩ <;> simp
  · rcases here with ⟨here, rfl⟩ | ⟨here, rfl⟩ <;> simp [here, Standing.spoken]
  · intro inner
    rcases here with ⟨here, rfl⟩ | ⟨here, rfl⟩ <;>
      simp [here, Standing.writes, (f.output_eq_iff inner).2 rfl]
  · intro j _
    rcases here with ⟨here, rfl⟩ | ⟨here, rfl⟩ <;> simp [here, Standing.reads]
  · intro j inner other same
    exact other ((f.output_eq_iff inner).1 same).symm
  · intro j _
    exact f.output_ne_reader

theorem fail (flow : Flow f place d w) (here : place i = .waiting) :
    Flow f (Function.update place i .failed) d
      ((w.close? (f.streams i).input).close? (f.streams i).output) := by
  have dropped := (flow.defer here).dropOutput .failed
    (.inl ⟨Function.update_self .., rfl⟩)
  rwa [Function.update_idem] at dropped

theorem giveWord (flow : Flow f place d w) (here : place i = .deferred) :
    Flow f (Function.update place i .speaking) d w := by
  refine flow.shift (e := none) (by simp [here]) (by simp) (by simp [here, Standing.spoken])
    ?_ ?_ (by simp) (by simp)
  · simp [here, Standing.writes]
  · simp [here, Standing.reads]

/-! ## Writing -/

theorem reader_iff (flow : Flow f place d w) (started : ∀ j < f.count, place j ≠ .waiting)
    (inner : i + 1 < f.count) :
    (w.pipe (f.base + i)).hasReader = true ↔
      ∃ k, place (i + 1) = .process k ∧ .closedInput k ∉ f.line d := by
  rw [flow.piped.reader i inner]
  cases place' : place (i + 1) with
  | waiting => exact absurd place' (started _ inner)
  | process k => simp [Standing.reads]
  | _ => simp [Standing.reads]

theorem say (flow : Flow f place d w) (started : ∀ j < f.count, place j ≠ .waiting) (inside : i < f.count)
    (here : place i = .speaking) {bytes : Bytes}
    (taken : w.write (f.streams i).output bytes = (none, w')) :
    Flow f place (d ++ [.wrote none (f.streams i).output bytes]) w' := by
  obtain ⟨size, input, pipes⟩ := World.write_ok taken
  refine ⟨flow.sound.deed rfl (by simp) size input, ?_, ?_, ?_, ?_⟩
  · rw [d.streams_deed rfl]
    exact flow.numbered
  · refine flow.signed.deed rfl (by simp) (by simp) ?_
    rintro t ⟨⟩
    exact ⟨i, inside, .inl here, rfl⟩
  · refine flow.piped.deed flow.signed.begun size input (fun j inner => ?_) (fun j inner => ?_)
      fun j inner => ?_
    · rw [(pipes _ (flow.piped.inside inner)).1]
      rfl
    · rw [(pipes _ (flow.piped.inside inner)).1, Standing.writes_deed _ _ (by simp)]
      exact flow.piped.writer j inner
    · rw [(pipes _ (flow.piped.inside inner)).1, Standing.reads_deed _ _ (by simp)]
      exact flow.piped.reader j inner
  · rw [f.line_append flow.signed.begun]
    refine flow.heard.deed (fun j inner b same => ?_) (by simp)
    obtain ⟨-, target, -⟩ := Deed.wrote.inj same
    exact (flow.reader_iff started inner).1 ((pipes _ (flow.piped.inside inner)).2 target)

theorem hush (flow : Flow f place d w) (started : ∀ j < f.count, place j ≠ .waiting) (inside : i < f.count)
    (here : place i = .speaking) {bytes : Bytes} {cause : SystemError}
    (refused : w.write (f.streams i).output bytes = (some cause, w')) :
    Flow f place (d ++ [.refused (f.streams i).output bytes cause]) w' := by
  obtain ⟨same, pipes⟩ := World.write_refused refused
  refine Flow.alike ⟨flow.sound.deed rfl (by simp) rfl rfl, ?_, ?_, ?_, ?_⟩ same
  · rw [d.streams_deed rfl]
    exact flow.numbered
  · refine flow.signed.deed rfl (by simp) (by simp) ?_
    rintro t ⟨⟩
    exact ⟨i, inside, .inl here, rfl⟩
  · refine flow.piped.deed flow.signed.begun rfl rfl (fun j inner => ?_) (fun j inner => ?_)
      fun j inner => ?_
    · simp [Deed.bytesTo, Deed.bytesFrom]
    · rw [Standing.writes_deed _ _ (by simp)]
      exact flow.piped.writer j inner
    · rw [Standing.reads_deed _ _ (by simp)]
      exact flow.piped.reader j inner
  · rw [f.line_append flow.signed.begun]
    refine flow.heard.deed (by simp) fun j inner b c same => ?_
    obtain ⟨target, -, rfl⟩ := Deed.refused.inj same
    obtain ⟨broken, closed⟩ := pipes _ target
    refine ⟨broken, fun k there => ?_⟩
    by_contra held
    rw [(flow.reader_iff started inner).2 ⟨k, there, held⟩] at closed
    cases closed

theorem writes (flow : Flow f place d w) (started : ∀ j < f.count, place j ≠ .waiting) (inside : i < f.count)
    (here : place i = .speaking) {bytes : Bytes} {result : Option SystemError}
    (writes : Writes (f.streams i).output bytes d w result d' w') : Flow f place d' w' := by
  generalize target : (f.streams i).output = t at writes
  induction writes with
  | done meanwhile => exact flow.conducts meanwhile
  | piece meanwhile taken more ih =>
    subst target
    exact ih ((flow.conducts meanwhile).say started inside here taken)
  | refused meanwhile refused =>
    subst target
    exact (flow.conducts meanwhile).hush started inside here refused

end Flow
end PipeShell
