import PipeShell.Proofs.Lexing

/-!
# Cutting a text into tokens

A text is cut in one way only: white space and the spelling of a token in turn, up to a rest that is
blank, or that opens with a quote that nobody closes. The lexer gives the tokens of this cut, and a
fault just in the second case (`lex_cuts`).
-/

namespace PipeShell.Token
open Text (isBlank)

/-! ## Cuts -/

def Boundary (c : Char) : Prop := isBlank c ∨ c ∈ ['<', '>', '|', '&', '"', '\x27']

def Named (c : Char) : Prop :=
  ('A' ≤ c ∧ c ≤ 'Z') ∨ ('a' ≤ c ∧ c ≤ 'z') ∨ ('0' ≤ c ∧ c ≤ '9') ∨ c = '_'

/-- The token is written with these characters, and with no more of those behind them. -/
def Fits (spelling rest : List Char) : Token → Prop
  | word text =>
    spelling = text.toList ∧ spelling ≠ [] ∧ (∀ c ∈ spelling, ¬Boundary c) ∧
      (∀ c ∈ rest.head?, Boundary c) ∧
      ∀ cs, spelling = '$' :: cs → ∀ c ∈ (cs ++ rest).head?, ¬Named c
  | parameter name =>
    spelling = '$' :: name.toList ∧ name.toList ≠ [] ∧ (∀ c ∈ name.toList, Named c) ∧
      ∀ c ∈ rest.head?, ¬Named c
  | quoted text =>
    ∃ quote ∈ ['"', '\x27'], ∃ body, spelling = quote :: body ++ [quote] ∧
      Escaped quote body text.toList
  | pipe => spelling = ['|']
  | background => spelling = ['&']
  | input => spelling = ['<']
  | output => spelling = ['>']

structure Lexeme where
  blanks : List Char
  spelling : List Char
  token : Token

def Lexeme.text (l : Lexeme) : List Char := l.blanks ++ l.spelling

/-- A text is written as these lexemes one after another, and then this rest. -/
inductive Cut : List Char → List Lexeme → List Char → Prop
  | nil (rest : List Char) : Cut rest [] rest
  | cons {l : Lexeme} {ls : List Lexeme} {cs rest : List Char} (blank : ∀ c ∈ l.blanks, isBlank c)
      (fits : Fits l.spelling cs l.token) (more : Cut cs ls rest) :
      Cut (l.text ++ cs) (l :: ls) rest

inductive Stops : List Char → Option ReadFault → Prop
  | blank {rest : List Char} (blank : ∀ c ∈ rest, isBlank c) : Stops rest none
  | unclosed {blanks body : List Char} {quote : Char} (blank : ∀ c ∈ blanks, isBlank c)
      (isQuote : quote ∈ ['"', '\x27']) (unclosed : Unclosed quote body) :
      Stops (blanks ++ quote :: body) (some (.unterminatedQuote quote))

/-! ## Characters -/

theorem isNameChar_iff {c : Char} : isNameChar c ↔ Named c := by
  have ranges : isNameChar c = (decide ('A' ≤ c ∧ c ≤ 'Z') || (decide ('a' ≤ c) && decide (c ≤ 'z')) ||
      (decide ('0' ≤ c) && decide (c ≤ '9')) || c == '_') := rfl
  simp only [ranges, Named, Bool.or_eq_true, Bool.and_eq_true, decide_eq_true_eq, beq_iff_eq, or_assoc]

theorem not_isNameChar_of_isBlank {c : Char} (blank : isBlank c) : ¬isNameChar c := by
  intro name
  have outside : c.toNat ≤ 32 ∨ 133 ≤ c.toNat := by
    simp only [isBlank, Bool.or_eq_true, Bool.and_eq_true, decide_eq_true_eq, beq_iff_eq] at blank
    omega
  have inside : 48 ≤ c.toNat ∧ c.toNat ≤ 122 := by
    rcases isNameChar_iff.1 name with upper | lower | digit | rfl
    · exact ⟨Nat.le_trans (by decide) upper.1, Nat.le_trans upper.2 (by decide)⟩
    · exact ⟨Nat.le_trans (by decide) lower.1, Nat.le_trans lower.2 (by decide)⟩
    · exact ⟨Nat.le_trans (by decide) digit.1, Nat.le_trans digit.2 (by decide)⟩
    · decide
  omega

theorem isQuote_iff {c : Char} : isQuote c ↔ c ∈ ['"', '\x27'] := by
  simp [isQuote]

theorem Boundary.unnamed {c : Char} (boundary : Boundary c) : ¬Named c := by
  rw [← isNameChar_iff]
  rcases boundary with blank | mark
  · exact not_isNameChar_of_isBlank blank
  · simp only [List.mem_cons, List.not_mem_nil, or_false] at mark
    rcases mark with rfl | rfl | rfl | rfl | rfl | rfl <;> decide

theorem fits_iff {t : Token} {spelling rest : List Char} :
    Fits spelling rest t ↔ Spelling t spelling rest := by
  constructor
  · intro fits
    cases t with
    | word text =>
      obtain ⟨same, nonempty, made, ended, unnamed⟩ := fits
      obtain ⟨c, cs, rfl⟩ := List.exists_cons_of_ne_nil nonempty
      have spells : Spelling (.word (String.ofList (c :: cs))) (c :: cs) rest :=
        .word (fun d member => mt endsWord_iff.1 (made d member))
          (fun dollar d first => mt isNameChar_iff.1 (unnamed cs (by rw [dollar]) d first))
          (fun d first => endsWord_iff.2 (ended d first))
      rw [same] at spells ⊢
      rwa [String.ofList_toList] at spells
    | parameter name =>
      obtain ⟨rfl, nonempty, made, ended⟩ := fits
      have spells : Spelling (.parameter (String.ofList name.toList)) ('$' :: name.toList) rest :=
        .parameter nonempty (fun d member => isNameChar_iff.2 (made d member))
          (fun d first => mt isNameChar_iff.1 (ended d first))
      rwa [String.ofList_toList] at spells
    | quoted text =>
      obtain ⟨quote, isQuote, body, rfl, escaped⟩ := fits
      have spells := Spelling.quoted (isQuote_iff.2 isQuote) escaped rest
      rwa [String.ofList_toList] at spells
    | pipe | background | input | output =>
      cases fits
      exact .operator rfl rest
  · intro spells
    cases spells with
    | operator eq =>
      unfold operator? at eq
      split at eq <;> cases eq <;> rfl
    | quoted isQuote escaped =>
      exact ⟨_, isQuote_iff.1 isQuote, _, rfl, by rwa [String.toList_ofList]⟩
    | parameter named made ended =>
      simp only [Fits, String.toList_ofList]
      exact ⟨trivial, named, fun d member => isNameChar_iff.1 (made d member),
        fun d first => mt isNameChar_iff.2 (ended d first)⟩
    | word made unnamed ended =>
      simp only [Fits, String.toList_ofList]
      refine ⟨trivial, by simp, fun d member => mt endsWord_iff.2 (made d member),
        fun d first => endsWord_iff.1 (ended d first), ?_⟩
      intro cs same d first
      obtain ⟨dollar, rfl⟩ := List.cons.inj same
      exact mt isNameChar_iff.2 (unnamed dollar d first)

/-! ## Other texts behind a token -/

theorem mem_head?_append {cs more : List Char} {d : Char} (first : d ∈ cs.head?) :
    d ∈ (cs ++ more).head? := by
  cases cs with
  | nil => cases first
  | cons => exact first

theorem Fits.shorten {t : Token} {spelling cs more : List Char}
    (fits : Fits spelling (cs ++ more) t) : Fits spelling cs t := by
  cases t with
  | word text =>
    obtain ⟨same, nonempty, made, ended, unnamed⟩ := fits
    refine ⟨same, nonempty, made, fun d first => ended d (mem_head?_append first), ?_⟩
    intro ds dollar d first
    refine unnamed ds dollar d ?_
    rw [← List.append_assoc]
    exact mem_head?_append first
  | parameter name =>
    obtain ⟨same, nonempty, made, ended⟩ := fits
    exact ⟨same, nonempty, made, fun d first => ended d (mem_head?_append first)⟩
  | quoted | pipe | background | input | output => exact fits

theorem Fits.extend {t : Token} {spelling cs more : List Char} {c : Char} (boundary : Boundary c)
    (fits : Fits spelling cs t) : Fits spelling (cs ++ c :: more) t := by
  have first_or : ∀ {ds : List Char} {d : Char}, d ∈ (ds ++ c :: more).head? →
      d ∈ ds.head? ∨ d = c := by
    rintro (_ | ⟨e, ds⟩) d first
    · exact .inr (Option.some.inj first).symm
    · exact .inl first
  cases t with
  | word text =>
    obtain ⟨same, nonempty, made, ended, unnamed⟩ := fits
    refine ⟨same, nonempty, made, ?_, ?_⟩
    · intro d first
      rcases first_or first with old | rfl
      · exact ended d old
      · exact boundary
    · intro ds dollar d first
      rw [← List.append_assoc] at first
      rcases first_or first with old | rfl
      · exact unnamed ds dollar d old
      · exact boundary.unnamed
  | parameter name =>
    obtain ⟨same, nonempty, made, ended⟩ := fits
    refine ⟨same, nonempty, made, ?_⟩
    intro d first
    rcases first_or first with old | rfl
    · exact ended d old
    · exact boundary.unnamed
  | quoted | pipe | background | input | output => exact fits

namespace Cut
variable {cs rest : List Char} {ls : List Lexeme}

theorem flatten (cut : Cut cs ls rest) : cs = ls.flatMap Lexeme.text ++ rest := by
  induction cut with
  | nil => rfl
  | cons _ _ _ ih => rw [List.flatMap_cons, List.append_assoc, ← ih]

theorem shorten {more : List Char} (cut : Cut cs ls (rest ++ more)) :
    Cut (ls.flatMap Lexeme.text ++ rest) ls rest := by
  generalize eq : rest ++ more = rest' at cut
  induction cut with
  | nil => exact .nil rest
  | @cons l ls cs rest' blank fits cut ih =>
    subst eq
    rw [cut.flatten, ← List.append_assoc] at fits
    rw [List.flatMap_cons, List.append_assoc]
    exact .cons blank fits.shorten (ih rfl)

theorem extend {c : Char} (boundary : Boundary c) (more : List Char) (cut : Cut cs ls rest) :
    Cut (cs ++ c :: more) ls (rest ++ c :: more) := by
  induction cut with
  | nil => exact .nil _
  | cons blank fits _ ih =>
    rw [List.append_assoc]
    exact .cons blank (fits.extend boundary) ih

end Cut

/-! ## The cut that the lexer makes -/

theorem next_lexeme {l : Lexeme} {cs : List Char} (blank : ∀ c ∈ l.blanks, isBlank c)
    (fits : Fits l.spelling cs l.token) : next (l.text ++ cs) = .ok (some (l.token, cs)) := by
  rw [Lexeme.text, List.append_assoc, next_blanks blank, next_spelling (fits_iff.1 fits)]

theorem Stops.next_eq {rest : List Char} {fault : Option ReadFault} (stops : Stops rest fault) :
    next rest = match fault with
      | none => .ok none
      | some fault => .error fault := by
  cases stops with
  | blank blank => exact next_eq_iff.2 (.blank blank)
  | unclosed blank isQuote unclosed =>
    exact next_eq_iff.2 (.unclosed blank (isQuote_iff.2 isQuote) unclosed)

theorem Stops.not_next {rest cs : List Char} {fault : Option ReadFault} {t : Token}
    (stops : Stops rest fault) : next rest ≠ .ok (some (t, cs)) := by
  rw [stops.next_eq]
  cases fault <;> simp

theorem Cut.lex_eq {cs rest : List Char} {ls : List Lexeme} {fault : Option ReadFault}
    (cut : Cut cs ls rest) (stops : Stops rest fault) :
    lex cs = ⟨ls.map Lexeme.token, fault⟩ := by
  induction cut with
  | nil =>
    rw [lex_next, stops.next_eq]
    cases fault <;> rfl
  | cons blank fits _ ih =>
    rw [lex_next, next_lexeme blank fits]
    simp only [ih stops]
    rfl

theorem exists_cut (cs : List Char) : ∃ ls rest fault, Cut cs ls rest ∧ Stops rest fault := by
  have opens := opens_next cs
  generalize found : next cs = r at opens
  cases opens with
  | blank blank => exact ⟨[], cs, none, .nil cs, .blank blank⟩
  | unclosed blank isQuote unclosed =>
    exact ⟨[], _, _, .nil _, .unclosed blank (isQuote_iff.1 isQuote) unclosed⟩
  | @token blanks ds rest t blank spelling =>
    have shorter : rest.length < (blanks ++ (ds ++ rest)).length := length_of_next found
    obtain ⟨ls, rest', fault, cut, stops⟩ := exists_cut rest
    refine ⟨⟨blanks, ds, t⟩ :: ls, rest', fault, ?_, stops⟩
    rw [← List.append_assoc]
    exact @Cut.cons ⟨blanks, ds, t⟩ ls rest rest' blank (fits_iff.2 spelling) cut
termination_by cs.length
decreasing_by exact shorter

theorem Lexeme.unique {l l' : Lexeme} {cs cs' : List Char} (blank : ∀ c ∈ l.blanks, isBlank c)
    (fits : Fits l.spelling cs l.token) (blank' : ∀ c ∈ l'.blanks, isBlank c)
    (fits' : Fits l'.spelling cs' l'.token) (same : l.text ++ cs = l'.text ++ cs') :
    l = l' ∧ cs = cs' := by
  have found := next_lexeme blank fits
  rw [same, next_lexeme blank' fits'] at found
  simp only [Except.ok.injEq, Option.some.injEq, Prod.mk.injEq] at found
  obtain ⟨token, rfl⟩ := found
  have text := List.append_cancel_right same
  obtain ⟨blanks, spelling⟩ := takeWhile_made blank (fits_iff.1 fits).solid
  obtain ⟨blanks', spelling'⟩ := takeWhile_made blank' (fits_iff.1 fits').solid
  rw [← Lexeme.text, text, Lexeme.text, blanks'] at blanks
  rw [← Lexeme.text, text, Lexeme.text, spelling'] at spelling
  obtain ⟨_, _, _⟩ := l
  obtain ⟨_, _, _⟩ := l'
  dsimp only at blanks spelling token
  rw [blanks, spelling, token]
  exact ⟨rfl, rfl⟩

theorem Cut.unique {cs rest rest' : List Char} {ls ls' : List Lexeme}
    {fault fault' : Option ReadFault} (cut : Cut cs ls rest) (stops : Stops rest fault)
    (cut' : Cut cs ls' rest') (stops' : Stops rest' fault') : ls = ls' ∧ rest = rest' := by
  induction cut generalizing ls' with
  | nil rest =>
    cases cut' with
    | nil => exact ⟨rfl, rfl⟩
    | cons blank fits => exact absurd (next_lexeme blank fits) stops.not_next
  | @cons l ls cs rest blank fits _ ih =>
    generalize same : l.text ++ cs = text at cut'
    cases cut' with
    | nil =>
      rw [← same] at stops'
      exact absurd (next_lexeme blank fits) stops'.not_next
    | cons blank' fits' more =>
      obtain ⟨rfl, rfl⟩ := Lexeme.unique blank fits blank' fits' same
      obtain ⟨rfl, rfl⟩ := ih stops more
      exact ⟨rfl, rfl⟩

theorem lex_fault_iff {cs : List Char} {ts : List Token} {fault : ReadFault} :
    lex cs = ⟨ts, some fault⟩ ↔ ∃ before quote after, cs = before ++ quote :: after ∧
      lex before = ⟨ts, none⟩ ∧ quote ∈ ['"', '\x27'] ∧ Unclosed quote after ∧
      fault = .unterminatedQuote quote := by
  constructor
  · intro failed
    obtain ⟨ls, rest, fault', cut, stops⟩ := exists_cut cs
    rw [cut.lex_eq stops, Lexed.mk.injEq] at failed
    obtain ⟨rfl, rfl⟩ := failed
    cases stops with
    | @unclosed blanks body quote blank isQuote unclosed =>
      refine ⟨ls.flatMap Lexeme.text ++ blanks, quote, body, ?_, ?_, isQuote, unclosed, rfl⟩
      · rw [cut.flatten, List.append_assoc]
      · exact cut.shorten.lex_eq (.blank blank)
  · rintro ⟨before, quote, after, rfl, clean, isQuote, unclosed, rfl⟩
    obtain ⟨ls, rest, fault', cut, stops⟩ := exists_cut before
    rw [cut.lex_eq stops, Lexed.mk.injEq] at clean
    obtain ⟨rfl, rfl⟩ := clean
    cases stops with
    | blank blank =>
      have boundary : Boundary quote := by
        simp only [List.mem_cons, List.not_mem_nil, or_false] at isQuote
        rcases isQuote with rfl | rfl <;> simp [Boundary]
      exact (cut.extend boundary after).lex_eq (.unclosed blank isQuote unclosed)

/-- The lexer takes token after token from the front of the text that is left, which gets shorter each
time. In this way it makes the only cut of a text that there is. It fails just where the text has a
part without a fault and then a quote that is not closed, and the tokens are those of that part. -/
theorem lex_cuts (cs : List Char) :
    (lex cs = match next cs with
      | .ok none => ⟨[], none⟩
      | .ok (some (t, rest)) => (lex rest).cons t
      | .error fault => ⟨[], some fault⟩) ∧
    (∀ t rest, next cs = .ok (some (t, rest)) → rest.length < cs.length) ∧
    (∃ ls rest, Cut cs ls rest ∧ Stops rest (lex cs).fault ∧
      cs = ls.flatMap Lexeme.text ++ rest ∧ (lex cs).tokens = ls.map Lexeme.token ∧
      ∀ ls' rest' fault, Cut cs ls' rest' → Stops rest' fault → ls' = ls ∧ rest' = rest) ∧
    ∀ ts fault, lex cs = ⟨ts, some fault⟩ ↔ ∃ before quote after, cs = before ++ quote :: after ∧
      lex before = ⟨ts, none⟩ ∧ quote ∈ ['"', '\x27'] ∧ Unclosed quote after ∧
      fault = .unterminatedQuote quote := by
  refine ⟨lex_next cs, fun _ _ => length_of_next, ?_, fun _ _ => lex_fault_iff⟩
  obtain ⟨ls, rest, fault, cut, stops⟩ := exists_cut cs
  have lexed := cut.lex_eq stops
  refine ⟨ls, rest, cut, by rwa [lexed], cut.flatten, by rw [lexed], ?_⟩
  intro ls' rest' fault' cut' stops'
  exact cut'.unique stops' cut stops

end PipeShell.Token
