import PipeShell.Proofs.ErrorOutput
import PipeShell.Proofs.FailFast
import PipeShell.Shell

/-!
# The shell goes on

A shell handles line after line until one of them asks it to leave or there are no more. Whatever is
wrong with a line, the next one has its turn, and a line that is rejected leaves nothing behind that a
later line could come upon (`Shell.loop_survives`).
-/

namespace PipeShell
open Text (isBlank)

namespace Shell
variable {σ : Type} {host : Host σ}

/-! ## What a line can ask for -/

def listed (line : Line) (sh : Shell σ) : Session σ :=
  if sh.session.settings.parse then
    sh.session.printError (sh.theme.paint sh.theme.listingInk line.listing)
  else sh.session

def Exits (host : Host σ) (text : String) (code : Int) (sh : Shell σ) : Prop :=
  ¬text.toList.all isBlank ∧ ∃ line execution, Line.parse text = .ok line ∧
    ((sh.listed line).execute host line).1 = .ok execution ∧ execution.outcome = .exit code

/-- The line is refused with such a fault before anything starts. -/
inductive Rejects (host : Host σ) (text : String) (sh : Shell σ) : Fault → Prop
  | unreadable {cause : ReadFault} (written : ¬text.toList.all isBlank)
      (unread : Line.parse text = .error (.unreadable cause)) : Rejects host text sh (.unreadable cause)
  | malformed {line : Line} {cause : ShapeFault} (written : ¬text.toList.all isBlank)
      (read : Line.parse text = .ok line)
      (refused : ((sh.listed line).execute host line).1 = .error (.malformed cause)) :
      Rejects host text sh (.malformed cause)
  | unopened {line : Line} {path : String} {cause : SystemError}
      (written : ¬text.toList.all isBlank) (read : Line.parse text = .ok line)
      (refused : ((sh.listed line).execute host line).1 = .error (.redirection path cause)) :
      Rejects host text sh (.redirection path cause)

theorem runLine_eq (host : Host σ) (line : Line) (sh : Shell σ) :
    sh.runLine host line =
      match (sh.listed line).execute host line with
      | (.error fault, session) => (none, { sh with session }.report fault)
      | (.ok execution, session) =>
        (execution.failures.foldl report { sh with session }).conclude execution.outcome := by
  unfold runLine listed
  split <;> rfl

theorem conclude_some {outcome : Outcome} {code : Int} (sh : Shell σ) :
    (sh.conclude outcome).1 = some code ↔ outcome = .exit code := by
  cases outcome <;> simp [conclude]

theorem handle_some (host : Host σ) (text : String) (code : Int) (sh : Shell σ) :
    (sh.handle host text).1 = some code ↔ sh.Exits host text code := by
  unfold handle Exits
  by_cases blank : text.toList.all isBlank
  · simp [blank]
  · cases parsed : Line.parse text with
    | error fault => simp [blank]
    | ok line =>
      have same : listed line { sh with history := sh.history.add text } = sh.listed line := rfl
      simp only [blank, runLine_eq, same, Except.ok.injEq]
      generalize runs : (sh.listed line).execute host line = r
      rcases r with ⟨fault | execution, session⟩
      · simp [runs]
      · simp [conclude_some, runs]

end Shell

/-! ## Lines that are rejected -/

theorem Session.execute_refused {σ : Type} {host : Host σ} {line : Line} {s : Session σ}
    {fault : Fault}
    (waits : ∀ pid state w fault, (host.wait pid state w).answer = .error fault →
      ∃ cause, fault = .ending cause)
    (failed : (s.execute host line).1 = .error fault) (early : fault.Early) :
    s.Like (s.execute host line).2 := by
  rcases execute_cases host line s with ⟨result, s', eq, reports, -⟩ | ⟨plan, s', -, reports, eq⟩
  · rw [eq]
    exact .of_onlyReports reports
  · rw [eq] at failed ⊢
    refine (Like.of_onlyReports reports).trans ?_
    cases wired : (plan.wire s'.world).wiring with
    | error cause =>
      simp only [runPlan, wired, (wire_refused wired).1]
      exact ⟨rfl, rfl, rfl, rfl, .refl _⟩
    | ok wiring =>
      -- the stages have started, and then only a wait can fail
      simp only [runPlan, wired, runWired_eq] at failed
      obtain ⟨_, pid, state, w, -, -, answer⟩ := conclude_fails (Prod.ext failed rfl)
      obtain ⟨cause, rfl⟩ := waits pid state w fault answer
      cases early

namespace Shell
variable {σ : Type} {host : Host σ}

/-- Two shells are alike but for their histories, their logs and what stands on the error output. -/
structure Like (sh sh' : Shell σ) : Prop where
  session : sh.session.Like sh'.session
  theme : sh.theme = sh'.theme
  historyFile : sh.historyFile = sh'.historyFile
  prompts : sh.prompts = sh'.prompts

def Agree {α : Type} (r r' : α × Shell σ) : Prop := r.1 = r'.1 ∧ r.2.Like r'.2

namespace Like
variable {sh sh' sh'' : Shell σ}

theorem refl (sh : Shell σ) : Like sh sh := ⟨.refl _, rfl, rfl, rfl⟩

theorem symm (like : Like sh sh') : Like sh' sh :=
  ⟨like.session.symm, like.theme.symm, like.historyFile.symm, like.prompts.symm⟩

theorem trans (first : Like sh sh') (second : Like sh' sh'') : Like sh sh'' where
  session := first.session.trans second.session
  theme := first.theme.trans second.theme
  historyFile := first.historyFile.trans second.historyFile
  prompts := first.prompts.trans second.prompts

theorem print (like : Like sh sh') (text : String) : Like (sh.print text) (sh'.print text) :=
  ⟨like.session.print text, like.theme, like.historyFile, like.prompts⟩

theorem note (like : Like sh sh') (n : Notice) : Like (sh.note n) (sh'.note n) :=
  ⟨like.session.note n, like.theme, like.historyFile, like.prompts⟩

theorem remember (sh : Shell σ) (text : String) :
    Like sh { sh with history := sh.history.add text } := ⟨.refl _, rfl, rfl, rfl⟩

theorem printError (sh : Shell σ) (text : String) : Like sh (sh.printError text) :=
  ⟨.of_onlyReports (.printError sh.session text), rfl, rfl, rfl⟩

theorem report (sh : Shell σ) (fault : Fault) : Like sh (sh.report fault) :=
  have noted : Like sh (sh.note (.lineFailed fault)) :=
    ⟨.of_onlyReports (.note sh.session _), rfl, rfl, rfl⟩
  noted.trans (printError _ _)

theorem reportAll (sh : Shell σ) (faults : List Fault) : Like sh (faults.foldl Shell.report sh) := by
  induction faults generalizing sh with
  | nil => exact refl sh
  | cons fault rest ih => exact (report sh fault).trans (ih _)

theorem listed (sh : Shell σ) (line : Line) : sh.session.Like (sh.listed line) := by
  unfold Shell.listed
  split
  · exact .of_onlyReports (.printError sh.session _)
  · exact .refl _

end Like

theorem handle_rejected (waits : ∀ pid state w fault, (host.wait pid state w).answer = .error fault →
      ∃ cause, fault = .ending cause) {text : String} {fault : Fault} {sh : Shell σ}
    (rejects : sh.Rejects host text fault) :
    (sh.handle host text).1 = none ∧ sh.Like (sh.handle host text).2 := by
  have remembered := Like.remember sh text
  have run : ∀ line fault, ¬text.toList.all isBlank → Line.parse text = .ok line →
      ((sh.listed line).execute host line).1 = .error fault → fault.Early →
      (sh.handle host text).1 = none ∧ sh.Like (sh.handle host text).2 := by
    intro line fault written read refused early
    have after := Session.execute_refused waits refused early
    simp only [handle, written, read, runLine_eq]
    have same : listed line { sh with history := sh.history.add text } = sh.listed line := rfl
    rw [same]
    generalize (sh.listed line).execute host line = r at refused after
    obtain ⟨result, session⟩ := r
    obtain rfl : result = .error fault := refused
    have left : sh.Like { sh with history := sh.history.add text, session } :=
      ⟨(Like.listed sh line).trans after, rfl, rfl, rfl⟩
    exact ⟨rfl, left.trans (.report _ fault)⟩
  cases rejects with
  | unreadable written unread =>
    simp only [handle, written, unread]
    exact ⟨rfl, remembered.trans (.report _ _)⟩
  | malformed written read refused => exact run _ _ written read refused (.malformed _)
  | unopened written read refused => exact run _ _ written read refused (.redirection _ _)

/-! ## Lines after a rejected one -/

theorem conclude_like {sh sh' : Shell σ} (like : Like sh sh') (outcome : Outcome) :
    Agree (sh.conclude outcome) (sh'.conclude outcome) := by
  cases outcome with
  | exit code => exact ⟨rfl, like⟩
  | background job =>
    refine ⟨rfl, ?_⟩
    simp only [conclude, like.session.jobs]
    exact like.print _
  | finished status =>
    refine ⟨rfl, ?_⟩
    simp only [conclude]
    split
    · exact like
    · exact (Like.printError sh _).symm.trans (like.trans (.printError sh' _))

theorem report_like {sh sh' : Shell σ} (like : Like sh sh') (fault : Fault) :
    Like (sh.report fault) (sh'.report fault) :=
  ((Like.report sh fault).symm.trans like).trans (.report sh' fault)

theorem runLine_like (ignores : host.IgnoresErrors) (line : Line) {sh sh' : Shell σ}
    (like : Like sh sh') :
    Agree (sh.runLine host line) (sh'.runLine host line) := by
  have shown : (sh.listed line).Like (sh'.listed line) :=
    ((Like.listed sh line).symm.trans like.session).trans (Like.listed sh' line)
  have around : ∀ {s s' : Session σ}, s.Like s' →
      Like { sh with session := s } { sh' with session := s' } :=
    fun alike => ⟨alike, like.theme, like.historyFile, like.prompts⟩
  obtain ⟨same, after⟩ := Session.execute_like ignores line shown
  rw [runLine_eq, runLine_eq]
  generalize (sh.listed line).execute host line = r at same after ⊢
  generalize (sh'.listed line).execute host line = r' at same after ⊢
  obtain ⟨result, s⟩ := r
  obtain ⟨result', s'⟩ := r'
  obtain rfl : result = result' := same
  cases result with
  | error fault => exact ⟨rfl, report_like (around after) fault⟩
  | ok execution =>
    have reported := ((Like.reportAll _ execution.failures).symm.trans (around after)).trans
      (.reportAll _ execution.failures)
    exact conclude_like reported execution.outcome

theorem handle_like (ignores : host.IgnoresErrors) (text : String) {sh sh' : Shell σ}
    (like : Like sh sh') :
    Agree (sh.handle host text) (sh'.handle host text) := by
  have kept := ((Like.remember sh text).symm.trans like).trans (.remember sh' text)
  unfold handle
  split
  · exact ⟨rfl, like⟩
  · dsimp only
    cases Line.parse text with
    | error fault => exact ⟨rfl, report_like kept fault⟩
    | ok line => exact runLine_like ignores line kept

theorem reportDone_like (ignores : host.IgnoresErrors) {sh sh' : Shell σ} (like : Like sh sh') :
    Like (sh.reportDone host) (sh'.reportDone host) := by
  have told : ∀ (done : List Job) {sh sh' : Shell σ}, Like sh sh' →
      Like (done.foldl (fun sh job => sh.print (sh.theme.successLine (job.row (some job.status)))) sh)
        (done.foldl (fun sh job => sh.print (sh.theme.successLine (job.row (some job.status))))
          sh') := by
    intro done
    induction done with
    | nil => exact id
    | cons job rest ih =>
      intro sh sh' like
      rw [List.foldl_cons, List.foldl_cons, like.theme]
      exact ih (like.print _)
  obtain ⟨same, after⟩ := Session.reap_like ignores like.session
  simp only [reportDone, same]
  exact told _ ⟨after, like.theme, like.historyFile, like.prompts⟩

theorem showPrompt_like {sh sh' : Shell σ} (like : Like sh sh') :
    Like sh.showPrompt sh'.showPrompt := by
  unfold showPrompt
  rw [← like.prompts, ← like.theme, ← like.session.settings]
  split
  · exact like.print _
  · exact like

theorem nextLine_like {τ : Type} {source : LineSource τ} (ignores : host.IgnoresErrors)
    (sourceIgnores : source.IgnoresErrors) (left : τ) {sh sh' : Shell σ} (like : Like sh sh') :
    (sh.nextLine host source left).1 = (sh'.nextLine host source left).1 ∧
      (sh.nextLine host source left).2.1 = (sh'.nextLine host source left).2.1 ∧
      (sh.nextLine host source left).2.2.Like (sh'.nextLine host source left).2.2 := by
  have ready := showPrompt_like (reportDone_like ignores like)
  obtain ⟨typed, rest, after⟩ := sourceIgnores left _ _ ready.session.world
  have session := ready.session
  exact ⟨typed, rest, ⟨session.host, session.symbols, session.settings, session.jobs, after⟩,
    ready.theme, ready.historyFile, ready.prompts⟩

theorem loop_like {τ : Type} {source : LineSource τ} (ignores : host.IgnoresErrors)
    (sourceIgnores : source.IgnoresErrors) (most : Nat) (left : τ) {sh sh' : Shell σ}
    (like : Like sh sh') :
    Agree (sh.loop host source most left) (sh'.loop host source most left) := by
  induction most generalizing left sh sh' with
  | zero => exact ⟨rfl, like⟩
  | succ most ih =>
    obtain ⟨same, rest, ready⟩ := nextLine_like ignores sourceIgnores left like
    rw [loop, loop]
    generalize sh.nextLine host source left = r at same rest ready ⊢
    generalize sh'.nextLine host source left = r' at same rest ready ⊢
    obtain ⟨typed, left₁, sh₁⟩ := r
    obtain ⟨typed', left₂, sh₂⟩ := r'
    obtain rfl : typed = typed' := same
    obtain rfl : left₁ = left₂ := rest
    cases typed with
    | ended => exact ⟨rfl, ready.note _⟩
    | garbled => exact ⟨rfl, ready.note _⟩
    | line text =>
      obtain ⟨code, after⟩ := handle_like ignores text ready
      dsimp only
      generalize sh₁.handle host text = h at code after ⊢
      generalize sh₂.handle host text = h' at code after ⊢
      obtain ⟨asked, sh₁⟩ := h
      obtain ⟨asked', sh₂⟩ := h'
      obtain rfl : asked = asked' := code
      cases asked with
      | some code => exact ⟨rfl, after⟩
      | none => exact ih left₁ after

/-! ## All lines -/

section
variable {τ : Type} {source : LineSource τ}

/-- Asked for a line after a line, the source gives these, and then it ends. After one that makes the
shell leave it is not asked. -/
def Delivers (host : Host σ) (source : LineSource τ) : List String → τ → Shell σ → Prop
  | [], left, sh => (sh.nextLine host source left).1 = .ended
  | text :: lines, left, sh =>
    (sh.nextLine host source left).1 = .line text ∧
      let next := (sh.nextLine host source left).2
      (next.2.handle host text).1 = none →
        Delivers host source lines next.1 (next.2.handle host text).2

inductive Goes (host : Host σ) (source : LineSource τ) :
    List String → τ → Shell σ → τ → Shell σ → Prop
  | refl (left : τ) (sh : Shell σ) : Goes host source [] left sh left sh
  | step {text : String} {lines : List String} {left next left' : τ} {sh asking handled sh' : Shell σ}
      (asks : sh.nextLine host source left = (.line text, next, asking))
      (stays : ∀ code, ¬asking.Exits host text code)
      (handles : asking.handle host text = (none, handled))
      (rest : Goes host source lines next handled left' sh') :
      Goes host source (text :: lines) left sh left' sh'

/-- The shell goes through the lines up to the first that makes it leave, or to the end of all. -/
inductive Ends (host : Host σ) (source : LineSource τ) (lines : List String) (left : τ) (sh : Shell σ) :
    Except SystemError Int × Shell σ → Prop
  | exit {before after : List String} {text : String} {code : Int} {left' next : τ}
      {sh' asking handled : Shell σ} (split : lines = before ++ text :: after)
      (goes : Goes host source before left sh left' sh')
      (asks : sh'.nextLine host source left' = (.line text, next, asking))
      (leaves : asking.Exits host text code) (handles : asking.handle host text = (some code, handled)) :
      Ends host source lines left sh (.ok code, handled)
  | ended {left' next : τ} {sh' asking : Shell σ} (goes : Goes host source lines left sh left' sh')
      (asks : sh'.nextLine host source left' = (.ended, next, asking)) :
      Ends host source lines left sh (.ok 0, asking.note .endOfInput)

theorem Ends.step {text : String} {lines : List String} {left next : τ}
    {sh asking handled : Shell σ} {result : Except SystemError Int × Shell σ}
    (asks : sh.nextLine host source left = (.line text, next, asking))
    (stays : ∀ code, ¬asking.Exits host text code)
    (handles : asking.handle host text = (none, handled))
    (ends : Ends host source lines next handled result) :
    Ends host source (text :: lines) left sh result := by
  cases ends with
  | exit split goes asks' leaves handles' =>
    exact .exit (congrArg (text :: ·) split) (.step asks stays handles goes) asks' leaves handles'
  | ended goes asks' => exact .ended (.step asks stays handles goes) asks'

theorem loop_ends {lines : List String} {left : τ} {sh : Shell σ}
    (delivers : Delivers host source lines left sh) {most : Nat} (enough : lines.length < most) :
    Ends host source lines left sh (sh.loop host source most left) := by
  -- one round for each line, and one more, in which the source is found at its end
  induction lines generalizing left sh most with
  | nil =>
    obtain ⟨most, rfl⟩ := Nat.exists_eq_add_one.2 enough
    rw [Delivers] at delivers
    rcases asks : sh.nextLine host source left with ⟨typed, next, asking⟩
    rw [asks] at delivers
    obtain rfl : typed = .ended := delivers
    rw [loop, asks]
    exact .ended (.refl left sh) asks
  | cons text lines ih =>
    obtain ⟨most, rfl⟩ := Nat.exists_eq_add_one.2 (Nat.zero_lt_of_lt enough)
    rw [Delivers] at delivers
    obtain ⟨typed, later⟩ := delivers
    rcases asks : sh.nextLine host source left with ⟨typed', next, asking⟩
    rw [asks] at typed later
    obtain rfl : typed' = .line text := typed
    dsimp only at later
    rw [loop, asks]
    dsimp only
    rcases handles : asking.handle host text with ⟨_ | code, handled⟩
    · rw [handles] at later
      have stays : ∀ code, ¬asking.Exits host text code := by
        intro code exits
        rw [← handle_some, handles] at exits
        cases exits
      exact .step asks stays handles (ih (later rfl) (Nat.lt_of_succ_lt_succ enough))
    · have leaves : asking.Exits host text code := by
        rw [← handle_some, handles]
      exact .exit (List.nil_append _).symm (.refl left sh) asks leaves handles

theorem delivers_known (host : Host σ) (lines : List String) (sh : Shell σ) :
    Delivers host .known lines lines sh := by
  induction lines generalizing sh with
  | nil => rfl
  | cons text lines ih => exact ⟨rfl, fun _ => ih _⟩

/-- The shell handles the lines that it gets one by one, up to the first that makes it leave with a
code; no fault ends it. A line of white space alone does nothing. One that is rejected has changed
nothing that counts, and what comes after it comes as if it had not been there. -/
theorem loop_survives (host : Host σ) (source : LineSource τ) (lines : List String) (left : τ)
    (sh : Shell σ) (delivers : Delivers host source lines left sh) (most : Nat)
    (enough : lines.length < most) :
    Ends host source lines left sh (sh.loop host source most left) ∧
    (∀ text (sh : Shell σ), text.toList.all isBlank → sh.handle host text = (none, sh)) ∧
    ((∀ pid state w fault, (host.wait pid state w).answer = .error fault →
        ∃ cause, fault = .ending cause) →
      ∀ text fault (sh : Shell σ), sh.Rejects host text fault →
        ((sh.handle host text).1 = none ∧ sh.Like (sh.handle host text).2) ∧
        (host.IgnoresErrors → source.IgnoresErrors → ∀ most left,
          Agree (sh.loop host source most left)
            ((sh.handle host text).2.loop host source most left))) := by
  refine ⟨loop_ends delivers enough, ?_, ?_⟩
  · intro text sh blank
    rw [handle, if_pos blank]
  · intro waits text fault sh rejects
    obtain ⟨stays, like⟩ := handle_rejected waits rejects
    exact ⟨⟨stays, like⟩, fun ignores sourceIgnores most left =>
      loop_like ignores sourceIgnores most left like⟩

def newcomer : Shell ScriptedHost := { session := { host := {} }, historyFile := "" }

def leaving : Line :=
  ⟨#[{ kind := .builtin .exit, text := some "exit", next := some 1 }, { text := some "3" }],
    some 0, some 0⟩

theorem newcomer_exits : newcomer.Exits ScriptedHost.host "exit 3" 3 := by
  refine ⟨?_, leaving, ⟨.exit 3, []⟩, ?_, ?_, rfl⟩
  · decide +kernel
  · decide +kernel
  · have listed : newcomer.listed leaving = newcomer.session := rfl
    rw [listed]
    decide +kernel

theorem newcomer_rejects :
    newcomer.Rejects ScriptedHost.host "cat <" (.unreadable .missingTarget) := by
  refine .unreadable ?_ ?_
  · decide +kernel
  · decide +kernel

def lateLines : List String := [" ", "exit 3", "echo late"]

theorem loop_survives_lateLines :
    Delivers ScriptedHost.host .known lateLines lateLines newcomer ∧ lateLines.length < 4 ∧
    Ends ScriptedHost.host .known lateLines lateLines newcomer
      (newcomer.loop ScriptedHost.host .known 4 lateLines) ∧
    (newcomer.loop ScriptedHost.host .known 4 lateLines).1 = .ok 3 ∧
    ((newcomer.handle ScriptedHost.host "cat <").2.loop ScriptedHost.host .known 4 lateLines).1 =
      .ok 3 := by
  have delivers := delivers_known ScriptedHost.host lateLines newcomer
  have enough : lateLines.length < 4 := by decide
  obtain ⟨ends, blank, rejected⟩ := loop_survives ScriptedHost.host .known lateLines lateLines
    newcomer delivers 4 enough
  have leaves : (newcomer.loop ScriptedHost.host .known 4 lateLines).1 = .ok 3 := by
    have asks : ∀ text lines, newcomer.nextLine ScriptedHost.host .known (text :: lines) =
        (.line text, lines, newcomer) := fun _ _ => rfl
    have exits := (handle_some ScriptedHost.host "exit 3" 3 newcomer).2 newcomer_exits
    rw [lateLines, loop, asks]
    dsimp only
    rw [blank " " newcomer (by decide +kernel)]
    dsimp only
    rw [loop, asks]
    dsimp only
    generalize newcomer.handle ScriptedHost.host "exit 3" = handled at exits ⊢
    obtain ⟨asked, sh⟩ := handled
    obtain rfl : asked = some 3 := exits
    rfl
  obtain ⟨-, alike⟩ := rejected ScriptedHost.wait_ending "cat <" _ newcomer newcomer_rejects
  obtain ⟨same, -⟩ := alike ScriptedHost.ignoresErrors LineSource.known_ignoresErrors 4 lateLines
  exact ⟨delivers, enough, ends, leaves, same ▸ leaves⟩

end

end Shell
end PipeShell
