import PipeShell.Proofs.Cutting
import PipeShell.Proofs.Reading

/-!
# Where reading stops

A text that cannot be read is refused at the leftmost place where no line of the grammar can go on. The
reader is followed as a machine with five states (`Ready`), which say what may come next; looking one
token ahead does not let a fault of the lexer overtake a token that does not fit (`fault_ahead`). The
tokens that the machine takes are just those with which a line can begin (`viable_iff`), so the place is
that behind the longest such beginning, and what is said there hangs on its last token alone
(`Line.parse_refuses`).
-/

namespace PipeShell

/-- A line of the grammar begins with these tokens. -/
def Viable (ts : List Token) : Prop := ∃ us, LineTokens (ts ++ us)

/-- What is amiss when nothing that fits comes behind these tokens. -/
inductive Complaint : List Token → String → Prop
  | start : Complaint [] "expected a command"
  | pipe (ts : List Token) : Complaint (ts ++ [.pipe]) "expected a command"
  | input (ts : List Token) :
      Complaint (ts ++ [.input]) "expected filename after redirection operator"
  | output (ts : List Token) :
      Complaint (ts ++ [.output]) "expected filename after redirection operator"
  | background (ts : List Token) :
      Complaint (ts ++ [.background]) "'&' must end the command line"

/-! ## The reader as a machine -/

inductive Ready where
  | line | command | target | item | close

namespace Ready

def take : Ready → Token → Option Ready
  | line, t | command, t => t.arg?.map fun _ => item
  | target, t => t.target?.map fun _ => item
  | item, .pipe => some command
  | item, .input | item, .output => some target
  | item, .background => some close
  | item, _ => some item
  | close, _ => none

def takeAll (r : Ready) : List Token → Option Ready
  | [] => some r
  | t :: ts => (r.take t).bind (takeAll · ts)

def fault : Ready → ReadFault
  | line | command | item => .missingCommand
  | target => .missingTarget
  | close => .textAfterBackground

def endFault? : Ready → Option ReadFault
  | command => some .missingCommand
  | target => some .missingTarget
  | line | item | close => none

def refusal (stop : Option ReadFault) (r : Ready) : List Token → Option ReadFault
  | [] => stop.or r.endFault?
  | t :: ts =>
    match r.take t with
    | some next => refusal stop next ts
    | none => some r.fault

theorem takeAll_append (r : Ready) (ts us : List Token) :
    r.takeAll (ts ++ us) = (r.takeAll ts).bind (takeAll · us) := by
  induction ts generalizing r with
  | nil => rfl
  | cons t ts ih =>
    cases taken : r.take t with
    | none => simp [takeAll, taken]
    | some next => simpa [takeAll, taken] using ih next

theorem takeAll_concat {r last : Ready} {ts : List Token} {t : Token}
    (taken : r.takeAll (ts ++ [t]) = some last) : ∃ q, r.takeAll ts = some q ∧ q.take t = some last := by
  rw [takeAll_append, Option.bind_eq_some_iff] at taken
  obtain ⟨q, before, step⟩ := taken
  refine ⟨q, before, ?_⟩
  cases next : q.take t <;> simp_all [takeAll]

theorem refusal_takeAll {r last : Ready} {ts : List Token} (taken : r.takeAll ts = some last)
    (stop : Option ReadFault) (us : List Token) :
    refusal stop r (ts ++ us) = refusal stop last us := by
  induction ts generalizing r with
  | nil => simp_all [takeAll]
  | cons t ts ih =>
    rw [takeAll, Option.bind_eq_some_iff] at taken
    obtain ⟨next, step, rest⟩ := taken
    rw [List.cons_append, refusal, step]
    exact ih rest

theorem takeAll_cases (r : Ready) (ts : List Token) :
    (∃ last, r.takeAll ts = some last) ∨
      ∃ before t after last, ts = before ++ t :: after ∧ r.takeAll before = some last ∧
        last.take t = none := by
  induction ts generalizing r with
  | nil => exact .inl ⟨r, rfl⟩
  | cons t ts ih =>
    cases step : r.take t with
    | none => exact .inr ⟨[], t, ts, r, rfl, rfl, step⟩
    | some next =>
      rcases ih next with ⟨last, rest⟩ | ⟨before, u, after, last, rfl, taken, stuck⟩
      · exact .inl ⟨last, by rw [takeAll, step]; exact rest⟩
      · exact .inr ⟨t :: before, u, after, last, rfl, by rw [takeAll, step]; exact taken, stuck⟩

end Ready

/-! ## The reader follows the machine -/

namespace Pipeline
open Ready (refusal)

def fault? : Except ReadFault Pipeline → Option ReadFault
  | .ok _ => none
  | .error fault => some fault

@[simp] theorem fault?_map (f : Pipeline → Pipeline) (e : Except ReadFault Pipeline) :
    fault? (e.map f) = fault? e := by
  cases e <;> rfl

theorem fault_ahead {stop : Option ReadFault} {ts : List Token} {r : Ready}
    {next : Except ReadFault Pipeline}
    (rest : (ts = [] → stop = none) → fault? next = refusal stop r ts) :
    fault? (do reach stop ts; next) = refusal stop r ts := by
  cases ts with
  | cons t ts => exact rest fun empty => by cases empty
  | nil =>
    cases stop with
    | none => exact rest fun _ => rfl
    | some fault => rfl

theorem fault_continueFrom {stop : Option ReadFault} {s : Segment} {ts : List Token}
    (clear : ts = [] → stop = none) : fault? (continueFrom stop s ts) = refusal stop .item ts := by
  induction len : ts.length using Nat.strongRecOn generalizing s ts with
  | ind n ih =>
    subst len
    cases ts with
    | nil =>
      obtain rfl := clear rfl
      rw [continueFrom]
      rfl
    | cons t us =>
      have later : ∀ {s : Segment} {vs : List Token}, vs.length < (t :: us).length →
          (vs = [] → stop = none) → fault? (continueFrom stop s vs) = refusal stop .item vs :=
        fun shorter clear => ih _ shorter clear rfl
      cases t with
      | word text | quoted text | parameter name =>
        rw [continueFrom]
        exact fault_ahead (later (Nat.lt_succ_self _))
      | background =>
        cases us with
        | nil =>
          rw [continueFrom]
          exact fault_ahead (r := .close) fun clear => by
            obtain rfl := clear rfl
            rfl
        | cons u us => rw [continueFrom]; rfl
      | pipe =>
        rw [continueFrom.eq_def]
        refine fault_ahead (r := .command) fun clear => ?_
        cases us with
        | nil =>
          obtain rfl := clear rfl
          rfl
        | cons u us =>
          cases arg : u.arg? with
          | none => simp [arg, refusal, Ready.take, fault?, Ready.fault]
          | some a =>
            simp only [arg, refusal, Ready.take, Option.map_some]
            refine fault_ahead fun clear => ?_
            rw [fault?_map]
            exact later (by grind) clear
      | input | output =>
        rw [continueFrom.eq_def]
        refine fault_ahead (r := .target) fun clear => ?_
        cases us with
        | nil =>
          obtain rfl := clear rfl
          rfl
        | cons u us =>
          cases target : u.target? with
          | none => simp [target, refusal, Ready.take, fault?, Ready.fault]
          | some path =>
            simp only [target, refusal, Ready.take, Option.map_some]
            exact fault_ahead (later (by grind))

theorem fault_ofLexed (l : Lexed) : fault? (ofLexed l) = refusal l.fault .line l.tokens := by
  obtain ⟨ts, stop⟩ := l
  refine fault_ahead fun clear => ?_
  cases ts with
  | nil =>
    obtain rfl : stop = none := clear rfl
    rfl
  | cons t ts =>
    cases arg : t.arg? with
    | none => simp [arg, refusal, Ready.take, fault?, Ready.fault]
    | some a =>
      simp only [arg, refusal, Ready.take, Option.map_some]
      exact fault_ahead fault_continueFrom

theorem ofLexed_error {l : Lexed} {cause : ReadFault} :
    ofLexed l = .error cause ↔ refusal l.fault .line l.tokens = some cause := by
  rw [← fault_ofLexed]
  cases ofLexed l <;> simp [fault?]

theorem lineTokens_of_end {ts : List Token} {last : Ready} (taken : Ready.takeAll .line ts = some last)
    (ended : last.endFault? = none) : ts = [] ∨ LineTokens ts := by
  have faultless : fault? (ofLexed ⟨ts, none⟩) = none := by
    rw [fault_ofLexed, ← List.append_nil ts, Ready.refusal_takeAll taken]
    exact ended
  cases read : ofLexed ⟨ts, .none⟩ with
  | error => rw [read] at faultless; cases faultless
  | ok p => exact (ofLexed_ok_iff.1 ⟨p, read⟩).2

theorem taken_of_lineTokens {ts : List Token} (line : LineTokens ts) :
    ∃ last, Ready.takeAll .line ts = some last := by
  obtain ⟨p, read⟩ := (ofLexed_ok_iff (l := ⟨ts, none⟩)).2 ⟨rfl, .inr line⟩
  have faultless : refusal none .line ts = none := by rw [← fault_ofLexed ⟨ts, none⟩, read]; rfl
  rcases Ready.takeAll_cases .line ts with taken | ⟨before, t, after, last, rfl, taken, stuck⟩
  · exact taken
  · rw [Ready.refusal_takeAll taken, refusal, stuck] at faultless
    cases faultless

end Pipeline

/-! ## How a line can begin -/

theorem Ready.exists_end (r : Ready) :
    ∃ us last, r.takeAll us = some last ∧ last.endFault? = none ∧ (us ≠ [] ∨ r = .item ∨ r = .close) := by
  cases r with
  | line | command | target => exact ⟨[.word ""], .item, rfl, rfl, .inl (List.cons_ne_nil _ _)⟩
  | item | close => exact ⟨[], _, rfl, rfl, by simp⟩

theorem viable_iff {ts : List Token} : Viable ts ↔ ∃ last, Ready.takeAll .line ts = some last := by
  constructor
  · rintro ⟨us, line⟩
    obtain ⟨last, taken⟩ := Pipeline.taken_of_lineTokens line
    rw [Ready.takeAll_append, Option.bind_eq_some_iff] at taken
    obtain ⟨middle, taken, -⟩ := taken
    exact ⟨middle, taken⟩
  · rintro ⟨last, taken⟩
    obtain ⟨us, final, rest, ended, nonempty⟩ := last.exists_end
    have whole : Ready.takeAll .line (ts ++ us) = .some final := by
      rw [Ready.takeAll_append, taken]
      exact rest
    refine ⟨us, (Pipeline.lineTokens_of_end whole ended).resolve_left fun empty => ?_⟩
    obtain ⟨rfl, rfl⟩ := List.append_eq_nil_iff.1 empty
    cases taken
    simp at nonempty

theorem Viable.of_append {ts us : List Token} (viable : Viable (ts ++ us)) : Viable ts := by
  obtain ⟨vs, line⟩ := viable
  exact ⟨us ++ vs, by rwa [← List.append_assoc]⟩

theorem viable_prefix_iff {before after : List Token} {t : Token} (viable : Viable before)
    (stuck : ¬Viable (before ++ [t])) {us : List Token} (part : us <+: before ++ t :: after) :
    Viable us ↔ us <+: before := by
  constructor
  · intro begun
    rcases List.prefix_or_prefix_of_prefix part (List.prefix_append before (t :: after)) with
      shorter | ⟨vs, rfl⟩
    · exact shorter
    · have rest : vs <+: t :: after := (List.prefix_append_right_inj before).1 part
      cases vs with
      | nil => simp
      | cons u vs =>
        obtain rfl : u = t := (List.cons_prefix_cons.1 rest).1
        rw [List.append_cons] at begun
        exact absurd begun.of_append stuck
  · rintro ⟨vs, rfl⟩
    exact viable.of_append

/-! ## Complaints -/

theorem complaint_of_taken {ts : List Token} {last : Ready} (taken : Ready.takeAll .line ts = some last)
    (waits : last ≠ .item) : Complaint ts last.fault.message := by
  rcases List.eq_nil_or_concat ts with rfl | ⟨ts, t, rfl⟩
  · cases taken
    exact .start
  · rw [List.concat_eq_append] at taken ⊢
    obtain ⟨before, -, step⟩ := Ready.takeAll_concat taken
    -- a token that is no operator leads to the inside of a stage, whatever came before it
    cases t <;> cases before <;> cases step <;> first | constructor | exact absurd rfl waits

theorem waits_of_stuck {r : Ready} {t : Token} (stuck : r.take t = none) : r ≠ .item := by
  rintro rfl
  cases t <;> cases stuck

theorem waits_of_endFault {r : Ready} {cause : ReadFault} (unended : r.endFault? = some cause) :
    r ≠ .item ∧ r.fault = cause := by
  cases r <;> cases unended <;> exact ⟨by rintro ⟨⟩, rfl⟩

namespace Line

theorem parse_eq_error {text : String} {fault : Fault} : parse text = .error fault ↔
    ∃ cause, fault = .unreadable cause ∧ Pipeline.ofLexed (Token.lex text.toList) = .error cause := by
  unfold parse
  rw [Pipeline.parse]
  cases Pipeline.ofLexed (Token.lex text.toList) <;> simp [eq_comm]

theorem refusal_of_stuck {before after : List Token} {t : Token} {last : Ready}
    (taken : Ready.takeAll .line before = some last) (stuck : last.take t = none)
    (stop : Option ReadFault) :
    Ready.refusal stop .line (before ++ t :: after) = some last.fault := by
  rw [Ready.refusal_takeAll taken, Ready.refusal, stuck]

theorem parse_of_stuck {text : String} {before : List Token} {t : Token} {last : Ready}
    (taken : Ready.takeAll .line before = some last) (stuck : last.take t = none)
    (begun : before ++ [t] <+: (Token.lex text.toList).tokens) :
    parse text = .error (.unreadable last.fault) := by
  obtain ⟨after, split⟩ := begun
  rw [List.append_assoc, List.singleton_append] at split
  refine parse_eq_error.2 ⟨last.fault, rfl, Pipeline.ofLexed_error.2 ?_⟩
  rw [← split]
  exact refusal_of_stuck taken stuck _

theorem not_viable_of_stuck {before : List Token} {t : Token} {last : Ready}
    (taken : Ready.takeAll .line before = some last) (stuck : last.take t = none) :
    ¬Viable (before ++ [t]) := by
  intro viable
  obtain ⟨final, whole⟩ := viable_iff.1 viable
  obtain ⟨same, middle, step⟩ := Ready.takeAll_concat whole
  obtain rfl : last = same := Option.some.inj (taken.symm.trans middle)
  rw [stuck] at step
  cases step

/-- Reading fails at the leftmost place. If the tokens can begin a line, it is the lexer that has
failed behind them, or the text has come to its end too early. Otherwise there is a longest beginning of
a line, what is said hangs on it alone, and nothing behind the token that comes after it counts. -/
theorem parse_refuses (text : String) (fault : Fault) (refused : parse text = .error fault) :
    ∃ ts stop cause, Token.lex text.toList = ⟨ts, stop⟩ ∧ fault = .unreadable cause ∧
      (Viable ts → ∀ unclosed, stop = some unclosed → cause = unclosed ∧
        ∃ quote ∈ ['"', '\x27'], unclosed = .unterminatedQuote quote) ∧
      (Viable ts → stop = none → Complaint ts cause.message) ∧
      (¬Viable ts → ∃ before t after, ts = before ++ t :: after ∧
        (∀ us, us <+: ts → (Viable us ↔ us <+: before)) ∧ Complaint before cause.message ∧
        ∀ text' : String, before ++ [t] <+: (Token.lex text'.toList).tokens →
          parse text' = .error fault) := by
  obtain ⟨cause, rfl, failed⟩ := parse_eq_error.1 refused
  rw [Pipeline.ofLexed_error] at failed
  rcases lexed : Token.lex text.toList with ⟨ts, stop⟩
  rw [lexed] at failed
  dsimp only at failed
  refine ⟨ts, stop, cause, rfl, rfl, fun viable unclosed same => ?_, fun viable clean => ?_,
    fun stray => ?_⟩
  · subst same
    obtain ⟨last, taken⟩ := viable_iff.1 viable
    obtain ⟨before, quote, after, -, -, isQuote, -, rfl⟩ := Token.lex_fault_iff.1 lexed
    rw [← List.append_nil ts, Ready.refusal_takeAll taken] at failed
    exact ⟨(Option.some.inj failed).symm, quote, isQuote, rfl⟩
  · subst clean
    obtain ⟨last, taken⟩ := viable_iff.1 viable
    rw [← List.append_nil ts, Ready.refusal_takeAll taken] at failed
    obtain ⟨waits, rfl⟩ := waits_of_endFault failed
    exact complaint_of_taken taken waits
  · rcases Ready.takeAll_cases .line ts with taken | ⟨before, t, after, last, rfl, taken, stuck⟩
    · exact absurd (viable_iff.2 taken) stray
    · rw [refusal_of_stuck taken stuck] at failed
      obtain rfl : last.fault = cause := Option.some.inj failed
      have longest : ∀ us, us <+: before ++ t :: after → (Viable us ↔ us <+: before) := fun us =>
        viable_prefix_iff (viable_iff.2 ⟨last, taken⟩) (not_viable_of_stuck taken stuck)
      exact ⟨before, t, after, rfl, longest, complaint_of_taken taken (waits_of_stuck stuck),
        fun text' => parse_of_stuck taken stuck⟩

theorem parse_refuses_secondBar :
    parse "ls | | \"x" = .error (.unreadable .missingCommand) ∧
      ∀ text : String, [.word "ls", .pipe, .pipe] <+: (Token.lex text.toList).tokens →
        parse text = .error (.unreadable .missingCommand) := by
  have refused : parse "ls | | \"x" = .error (.unreadable .missingCommand) := by decide +kernel
  have lexed : Token.lex "ls | | \"x".toList =
      ⟨[.word "ls", .pipe, .pipe], some (.unterminatedQuote '"')⟩ := by decide +kernel
  obtain ⟨ts, stop, cause, same, reason, unclosed, -, stray⟩ := parse_refuses _ _ refused
  rw [lexed] at same
  cases same
  cases reason
  have unviable : ¬Viable [.word "ls", .pipe, .pipe] := fun viable => by
    obtain ⟨absurd, -⟩ := unclosed viable _ rfl
    cases absurd
  obtain ⟨before, t, after, split, longest, -, whatever⟩ := stray unviable
  have viable : Viable [.word "ls", .pipe] := viable_iff.2 ⟨.command, rfl⟩
  obtain ⟨more, rfl⟩ := (longest _ ⟨[.pipe], rfl⟩).1 viable
  obtain ⟨rfl, rfl⟩ : more = [] ∧ t = .pipe := by
    cases more <;> simp_all
  exact ⟨refused, whatever⟩

end Line
end PipeShell
