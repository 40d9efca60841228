import Mathlib.Logic.Relation
import PipeShell.Proofs.Cutting

/-!
# Texts put together

A token never goes over a boundary. So a text that lexes without a fault gives its tokens whatever
stands behind it, if only a boundary comes first, and behind it lexing begins anew; and white space
between the tokens of a text can be put in anywhere, in any amount (`lex_joins`).
-/

namespace PipeShell.Token
open Text (isBlank)

/-- One text comes from another by white space put in at one place: before the first token, between
two tokens or behind the last one, where white space may stand already. -/
inductive Widened : List Char → List Char → Prop
  | mk {cs blanks gap rest : List Char} {ls : List Lexeme} (cut : Cut cs ls (blanks ++ rest))
      (blank : ∀ c ∈ blanks, isBlank c) (space : ∀ c ∈ gap, isBlank c) :
      Widened cs (ls.flatMap Lexeme.text ++ blanks ++ gap ++ rest)

theorem lex_blanks {blanks : List Char} (blank : ∀ c ∈ blanks, isBlank c) (cs : List Char) :
    lex (blanks ++ cs) = lex cs := by
  rw [lex_next, next_blanks blank, ← lex_next]

namespace Cut
variable {cs rest : List Char} {ls : List Lexeme}

theorem lex_rest (cut : Cut cs ls rest) :
    lex cs = ⟨ls.map Lexeme.token ++ (lex rest).tokens, (lex rest).fault⟩ := by
  induction cut with
  | nil => rfl
  | @cons l ls cs rest blank fits _ ih =>
    have first : next (l.text ++ cs) = .ok (some (l.token, cs)) := next_lexeme blank fits
    rw [lex_next, first]
    simp only [ih]
    rfl

theorem replace {c : Char} (boundary : Boundary c) (more : List Char) (cut : Cut cs ls rest) :
    Cut (ls.flatMap Lexeme.text ++ c :: more) ls (c :: more) := by
  have alone : Cut (ls.flatMap Lexeme.text ++ []) ls [] := cut.shorten
  rw [List.append_nil] at alone
  exact alone.extend boundary more

end Cut

theorem lex_append {a : List Char} (clean : (lex a).fault = none) {c : Char}
    (boundary : Boundary c) (b : List Char) :
    lex (a ++ c :: b) = ⟨(lex a).tokens ++ (lex (c :: b)).tokens, (lex (c :: b)).fault⟩ := by
  obtain ⟨ls, rest, fault, cut, stops⟩ := exists_cut a
  have lexed : lex a = ⟨ls.map Lexeme.token, fault⟩ := cut.lex_eq stops
  rw [lexed] at clean
  obtain rfl : fault = none := clean
  cases stops with
  | blank blank =>
    have whole := (cut.extend boundary b).lex_rest
    rw [lex_blanks blank] at whole
    rw [whole, lexed]

theorem Cut.lex_widen {cs blanks gap rest : List Char} {ls : List Lexeme}
    (cut : Cut cs ls (blanks ++ rest)) (blank : ∀ c ∈ blanks, isBlank c) (space : ∀ c ∈ gap, isBlank c) :
    lex (ls.flatMap Lexeme.text ++ blanks ++ gap ++ rest) = lex cs := by
  have old := cut.lex_rest
  rw [lex_blanks blank] at old
  have all : ∀ c ∈ blanks ++ gap, isBlank c := fun c member =>
    (List.mem_append.1 member).elim (blank c) (space c)
  rw [List.append_assoc, List.append_assoc, ← List.append_assoc blanks]
  cases joined : blanks ++ gap with
  | nil =>
    -- nothing is put in, and nothing stood there
    obtain ⟨rfl, rfl⟩ := List.append_eq_nil_iff.1 joined
    rw [List.nil_append, ← List.nil_append rest, ← cut.flatten]
  | cons c more =>
    rw [joined] at all
    have boundary : Boundary c := .inl (all c List.mem_cons_self)
    have new := (cut.replace boundary (more ++ rest)).lex_rest
    rw [← List.cons_append, lex_blanks all] at new
    rw [new, old]

theorem Widened.lex_eq {cs cs' : List Char} (widened : Widened cs cs') : lex cs' = lex cs := by
  cases widened with
  | mk cut blank space => exact cut.lex_widen blank space

/-- Before a boundary the lexer has got over whatever stood there: what follows is lexed as if it stood
alone. White space put in between the tokens of a text, at any number of places, goes unnoticed. -/
theorem lex_joins :
    (∀ (a : List Char) (c : Char) (b : List Char), (lex a).fault = none → Boundary c →
      lex (a ++ c :: b) =
        ⟨(lex a).tokens ++ (lex (c :: b)).tokens, (lex (c :: b)).fault⟩) ∧
    ∀ cs cs', Relation.ReflTransGen Widened cs cs' → lex cs' = lex cs := by
  refine ⟨fun a c b clean boundary => lex_append clean boundary b, fun cs cs' widened => ?_⟩
  induction widened with
  | refl => rfl
  | tail _ last ih => rw [last.lex_eq, ih]

end PipeShell.Token
