import PipeShell.Pipeline

/-!
# The grammar of a line

The grammar of a line over its tokens, said without the reader. A line is

    line  := stage ('|' stage)* '&'?
    stage := arg item*
    item  := arg | ('<' | '>') target

where an argument is a word, a quoted text or a parameter, and a target a word or a quoted text. The
reader goes through exactly the lines of the grammar (`ofLexed_ok_iff`).
-/

namespace PipeShell

/-! ## Lines as tokens -/

inductive ArgToken : Token → Prop
  | word (text : String) : ArgToken (.word text)
  | quoted (text : String) : ArgToken (.quoted text)
  | parameter (name : String) : ArgToken (.parameter name)

inductive TargetToken : Token → Prop
  | word (text : String) : TargetToken (.word text)
  | quoted (text : String) : TargetToken (.quoted text)

inductive ItemTokens : List Token → Prop
  | arg {t : Token} (arg : ArgToken t) : ItemTokens [t]
  | input {t : Token} (target : TargetToken t) : ItemTokens [.input, t]
  | output {t : Token} (target : TargetToken t) : ItemTokens [.output, t]

inductive ItemsTokens : List Token → Prop
  | nil : ItemsTokens []
  | cons {ts us : List Token} (item : ItemTokens ts) (rest : ItemsTokens us) :
      ItemsTokens (ts ++ us)

inductive StageTokens : List Token → Prop
  | mk {t : Token} {ts : List Token} (head : ArgToken t) (items : ItemsTokens ts) :
      StageTokens (t :: ts)

inductive StagesTokens : List Token → Prop
  | last {ts : List Token} (stage : StageTokens ts) : StagesTokens ts
  | bar {ts us : List Token} (stage : StageTokens ts) (rest : StagesTokens us) :
      StagesTokens (ts ++ .pipe :: us)

inductive LineTokens : List Token → Prop
  | foreground {ts : List Token} (stages : StagesTokens ts) : LineTokens ts
  | background {ts : List Token} (stages : StagesTokens ts) : LineTokens (ts ++ [.background])

/-! ## What may follow a stage that has been begun -/

inductive RestTokens : List Token → Prop
  | done : RestTokens []
  | background : RestTokens [.background]
  | bar {t : Token} {ts : List Token} (head : ArgToken t) (rest : RestTokens ts) :
      RestTokens (.pipe :: t :: ts)
  | item {ts us : List Token} (item : ItemTokens ts) (rest : RestTokens us) :
      RestTokens (ts ++ us)

theorem ItemsTokens.rest {ts us : List Token} (items : ItemsTokens ts) (rest : RestTokens us) :
    RestTokens (ts ++ us) := by
  induction items with
  | nil => exact rest
  | cons item _ ih =>
    rw [List.append_assoc]
    exact .item item ih

theorem StagesTokens.rest {ts us : List Token} (stages : StagesTokens ts)
    (rest : RestTokens us) :
    ∃ t vs, ts = t :: vs ∧ ArgToken t ∧ RestTokens (vs ++ us) := by
  induction stages with
  | last stage =>
    obtain ⟨head, items⟩ := stage
    exact ⟨_, _, rfl, head, items.rest rest⟩
  | bar stage _ ih =>
    obtain ⟨head, items⟩ := stage
    obtain ⟨t, vs, rfl, next, more⟩ := ih
    refine ⟨_, _, rfl, head, ?_⟩
    simpa using items.rest (.bar next more)

def EndsStage (ts : List Token) : Prop :=
  ts = [] ∨ ts = [.background] ∨ ∃ us, ts = .pipe :: us ∧ LineTokens us

theorem StageTokens.line {ts us : List Token} (stage : StageTokens ts) (ending : EndsStage us) :
    LineTokens (ts ++ us) := by
  rcases ending with rfl | rfl | ⟨us, rfl, line⟩
  · rw [List.append_nil]
    exact .foreground (.last stage)
  · exact .background (.last stage)
  · cases line with
    | foreground stages => exact .foreground (.bar stage stages)
    | background stages =>
      rw [← List.cons_append, ← List.append_assoc]
      exact .background (.bar stage stages)

theorem RestTokens.items {ts : List Token} (rest : RestTokens ts) :
    ∃ us vs, ts = us ++ vs ∧ ItemsTokens us ∧ EndsStage vs := by
  induction rest with
  | done => exact ⟨[], [], rfl, .nil, .inl rfl⟩
  | background => exact ⟨[], _, rfl, .nil, .inr (.inl rfl)⟩
  | bar head _ ih =>
    obtain ⟨us, vs, rfl, items, ending⟩ := ih
    exact ⟨[], _, rfl, .nil, .inr (.inr ⟨_, rfl, (StageTokens.mk head items).line ending⟩)⟩
  | item item _ ih =>
    obtain ⟨us, vs, rfl, items, ending⟩ := ih
    exact ⟨_, vs, (List.append_assoc ..).symm, .cons item items, ending⟩

theorem lineTokens_iff {ts : List Token} :
    LineTokens ts ↔ ∃ t us, ts = t :: us ∧ ArgToken t ∧ RestTokens us := by
  constructor
  · rintro (stages | stages)
    · simpa using stages.rest .done
    · obtain ⟨t, vs, rfl, head, rest⟩ := stages.rest .background
      exact ⟨t, _, rfl, head, rest⟩
  · rintro ⟨t, us, rfl, head, rest⟩
    obtain ⟨vs, ws, rfl, items, ending⟩ := rest.items
    exact (StageTokens.mk head items).line ending

/-! ## The reader -/

inductive Item.Reads : Item → List Token → Prop
  | arg {t : Token} {a : Arg} (eq : t.arg? = some a) : Item.Reads (.arg a) [t]
  | input {t : Token} {path : String} (eq : t.target? = some path) :
      Item.Reads (.input path) [.input, t]
  | output {t : Token} {path : String} (eq : t.target? = some path) :
      Item.Reads (.output path) [.output, t]

theorem argToken_iff {t : Token} : ArgToken t ↔ ∃ a, t.arg? = some a := by
  constructor
  · rintro (_ | _ | _) <;> exact ⟨_, rfl⟩
  · rintro ⟨a, eq⟩
    cases t <;> first | constructor | cases eq

theorem targetToken_iff {t : Token} : TargetToken t ↔ ∃ path, t.target? = some path := by
  constructor
  · rintro (_ | _) <;> exact ⟨_, rfl⟩
  · rintro ⟨path, eq⟩
    cases t <;> first | constructor | cases eq

theorem itemTokens_iff {ts : List Token} : ItemTokens ts ↔ ∃ item : Item, item.Reads ts := by
  constructor
  · rintro (arg | target | target)
    · obtain ⟨a, eq⟩ := argToken_iff.1 arg
      exact ⟨_, .arg eq⟩
    · obtain ⟨path, eq⟩ := targetToken_iff.1 target
      exact ⟨_, .input eq⟩
    · obtain ⟨path, eq⟩ := targetToken_iff.1 target
      exact ⟨_, .output eq⟩
  · rintro ⟨item, eq | eq | eq⟩
    · exact .arg (argToken_iff.2 ⟨_, eq⟩)
    · exact .input (targetToken_iff.2 ⟨_, eq⟩)
    · exact .output (targetToken_iff.2 ⟨_, eq⟩)

namespace Pipeline

@[simp] theorem reach_none (ts : List Token) : reach none ts = .ok () := by
  cases ts <;> rfl

theorem continueFrom_item {item : Item} {ts : List Token} (reads : item.Reads ts) (s : Segment)
    (us : List Token) :
    continueFrom none s (ts ++ us) = continueFrom none (s.push item) us := by
  cases reads with
  | @arg t a eq =>
    cases t <;> cases eq <;> simp [continueFrom, bind, Except.bind]
  | @input t path eq =>
    cases t <;> cases eq <;> simp [continueFrom, bind, Except.bind, Token.target?]
  | @output t path eq =>
    cases t <;> cases eq <;> simp [continueFrom, bind, Except.bind, Token.target?]

theorem continueFrom_pipe {t : Token} {a : Arg} (eq : t.arg? = some a) (s : Segment)
    (ts : List Token) : continueFrom none s (.pipe :: t :: ts) =
      (continueFrom none ⟨a, []⟩ ts).map (cons s) := by
  simp [continueFrom, bind, Except.bind, eq]

theorem continueFrom_ok {s : Segment} {ts : List Token} {p : Pipeline}
    (found : continueFrom none s ts = .ok p) :
    (ts = [] ∧ p = ⟨[s], false⟩) ∨ (ts = [.background] ∧ p = ⟨[s], true⟩) ∨
      (∃ t a us rest, ts = .pipe :: t :: us ∧ t.arg? = some a ∧
        continueFrom none ⟨a, []⟩ us = .ok rest ∧ p = cons s rest) ∨
      ∃ item us vs, ts = us ++ vs ∧ Item.Reads item us ∧
        continueFrom none (s.push item) vs = .ok p := by
  cases ts with
  | nil => simp_all [continueFrom]
  | cons t us =>
    have item : ∀ {i} vs {ws}, t :: us = vs ++ ws → Item.Reads i vs →
        ∃ i us' vs, t :: us = us' ++ vs ∧ Item.Reads i us' ∧
          continueFrom none (s.push i) vs = .ok p := by
      intro i vs ws eq reads
      refine ⟨i, vs, ws, eq, reads, ?_⟩
      rwa [eq, continueFrom_item reads] at found
    cases t with
    | word text => exact .inr (.inr (.inr (item [_] rfl (.arg rfl))))
    | quoted text => exact .inr (.inr (.inr (item [_] rfl (.arg rfl))))
    | parameter name => exact .inr (.inr (.inr (item [_] rfl (.arg rfl))))
    | background =>
      cases us with
      | nil => simp_all [continueFrom, bind, Except.bind]
      | cons => cases found
    | pipe =>
      cases us with
      | nil => simp [continueFrom, bind, Except.bind] at found
      | cons t us =>
        cases arg : t.arg? with
        | none => simp [continueFrom, bind, Except.bind, arg] at found
        | some a =>
          rw [continueFrom_pipe arg] at found
          cases rest : continueFrom none ⟨a, []⟩ us with
          | error fault => rw [rest] at found; cases found
          | ok later =>
            rw [rest] at found
            cases found
            exact .inr (.inr (.inl ⟨t, a, us, later, rfl, arg, rest, rfl⟩))
    | input =>
      cases us with
      | nil => simp [continueFrom, bind, Except.bind] at found
      | cons t us =>
        cases target : t.target? with
        | none => simp [continueFrom, bind, Except.bind, target] at found
        | some path => exact .inr (.inr (.inr (item [_, _] rfl (.input target))))
    | output =>
      cases us with
      | nil => simp [continueFrom, bind, Except.bind] at found
      | cons t us =>
        cases target : t.target? with
        | none => simp [continueFrom, bind, Except.bind, target] at found
        | some path => exact .inr (.inr (.inr (item [_, _] rfl (.output target))))

theorem restTokens_of_ok {s : Segment} {ts : List Token} {p : Pipeline}
    (found : continueFrom none s ts = .ok p) : RestTokens ts := by
  induction len : ts.length using Nat.strongRecOn generalizing s ts p with
  | ind n ih =>
    subst len
    rcases continueFrom_ok found with ⟨rfl, -⟩ | ⟨rfl, -⟩ | ⟨t, a, us, rest, rfl, arg, later, -⟩ |
      ⟨item, us, vs, rfl, reads, later⟩
    · exact .done
    · exact .background
    · exact .bar (argToken_iff.2 ⟨a, arg⟩) (ih _ (by grind) later rfl)
    · refine .item (itemTokens_iff.2 ⟨item, reads⟩) (ih _ ?_ later rfl)
      cases reads <;> grind

theorem ok_of_restTokens {ts : List Token} (rest : RestTokens ts) (s : Segment) :
    ∃ p, continueFrom none s ts = .ok p := by
  induction rest generalizing s with
  | done => exact ⟨_, by rw [continueFrom]⟩
  | background => exact ⟨_, by rw [continueFrom, reach_none]; rfl⟩
  | bar head _ ih =>
    obtain ⟨a, arg⟩ := argToken_iff.1 head
    obtain ⟨p, later⟩ := ih ⟨a, []⟩
    exact ⟨cons s p, by rw [continueFrom_pipe arg, later]; rfl⟩
  | item item _ ih =>
    obtain ⟨i, reads⟩ := itemTokens_iff.1 item
    obtain ⟨p, later⟩ := ih (s.push i)
    exact ⟨p, by rw [continueFrom_item reads, later]⟩

theorem ahead_of_ok {α : Type} {fault : ReadFault} {ts : List Token} {more : Except ReadFault α}
    {a : α} (found : (do reach (some fault) ts; more) = .ok a) : ts ≠ [] ∧ more = .ok a := by
  cases ts with
  | nil => cases found
  | cons => exact ⟨List.cons_ne_nil _ _, found⟩

theorem continueFrom_fault {fault : ReadFault} {s : Segment} {ts : List Token} {p : Pipeline}
    (found : continueFrom (some fault) s ts = .ok p) : ts = [] := by
  induction len : ts.length using Nat.strongRecOn generalizing s ts p with
  | ind n ih =>
    subst len
    cases ts with
    | nil => rfl
    | cons t us =>
      cases t with
      | word text | quoted text | parameter name =>
        rw [continueFrom] at found
        obtain ⟨more, later⟩ := ahead_of_ok found
        exact absurd (ih _ (Nat.lt_succ_self _) later rfl) more
      | background =>
        cases us with
        | nil => cases found
        | cons => cases found
      | pipe =>
        cases us with
        | nil => cases found
        | cons t us =>
          rw [continueFrom] at found
          obtain ⟨-, found⟩ := ahead_of_ok found
          cases arg : t.arg? with
          | none => simp [arg] at found
          | some a =>
            simp only [arg] at found
            obtain ⟨more, later⟩ := ahead_of_ok found
            cases rest : continueFrom (some fault) ⟨a, []⟩ us with
            | error => rw [rest] at later; cases later
            | ok => exact absurd (ih _ (by grind) rest rfl) more
      | input | output =>
        cases us with
        | nil => cases found
        | cons t us =>
          rw [continueFrom] at found
          obtain ⟨-, found⟩ := ahead_of_ok found
          cases target : t.target? with
          | none => simp [target] at found
          | some path =>
            simp only [target] at found
            obtain ⟨more, later⟩ := ahead_of_ok found
            exact absurd (ih _ (by grind) later rfl) more

theorem ofLexed_cons {t : Token} {a : Arg} (arg : t.arg? = some a) (ts : List Token) :
    ofLexed ⟨t :: ts, none⟩ = continueFrom none ⟨a, []⟩ ts := by
  simp [ofLexed, arg, bind, Except.bind]

theorem ofLexed_ok_iff {l : Lexed} :
    (∃ p, ofLexed l = .ok p) ↔ l.fault = none ∧ (l.tokens = [] ∨ LineTokens l.tokens) := by
  obtain ⟨ts, fault⟩ := l
  constructor
  · rintro ⟨p, found⟩
    cases fault with
    | some fault =>
      obtain ⟨begun, found⟩ := ahead_of_ok found
      cases ts with
      | nil => exact absurd rfl begun
      | cons t ts =>
        cases arg : t.arg? with
        | none => simp [arg] at found
        | some a =>
          simp only [arg] at found
          obtain ⟨more, later⟩ := ahead_of_ok found
          exact absurd (continueFrom_fault later) more
    | none =>
      refine ⟨rfl, ?_⟩
      cases ts with
      | nil => exact .inl rfl
      | cons t ts =>
        cases arg : t.arg? with
        | none => simp [ofLexed, arg, bind, Except.bind] at found
        | some a =>
          rw [ofLexed_cons arg] at found
          exact .inr (lineTokens_iff.2 ⟨t, ts, rfl, argToken_iff.2 ⟨a, arg⟩, restTokens_of_ok found⟩)
  · rintro ⟨rfl, rfl | line⟩
    · exact ⟨_, rfl⟩
    · obtain ⟨t, us, rfl, head, rest⟩ := lineTokens_iff.1 line
      obtain ⟨a, arg⟩ := argToken_iff.1 head
      rw [ofLexed_cons arg]
      exact ok_of_restTokens rest _

end Pipeline

end PipeShell
