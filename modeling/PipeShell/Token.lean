import PipeShell.Fault
import PipeShell.Text.Blank

/-!
# Tokens

The tokens of a line. White space separates tokens, the four operators and the two quotes end a word,
and `$` before a letter, a digit or an underscore begins the name of a variable. Lexing takes the
longest token each time, and goes on until the text ends or a quote is not closed.
-/

namespace PipeShell
open Text (isBlank)

inductive Token where
  | word (text : String)
  | parameter (name : String)
  | quoted (text : String)
  | pipe
  | input
  | output
  | background
deriving DecidableEq, Repr

structure Lexed where
  tokens : List Token
  fault : Option ReadFault
deriving DecidableEq, Repr

namespace Lexed

def cons (t : Token) (l : Lexed) : Lexed :=
  { l with tokens := t :: l.tokens }

@[simp] theorem tokens_cons (t : Token) (l : Lexed) : (l.cons t).tokens = t :: l.tokens := rfl

@[simp] theorem fault_cons (t : Token) (l : Lexed) : (l.cons t).fault = l.fault := rfl

end Lexed

namespace Token

def isQuote (c : Char) : Bool := c == '"' || c == '\x27'

def operator? : Char → Option Token
  | '|' => some pipe
  | '&' => some background
  | '<' => some input
  | '>' => some output
  | _ => none

def endsWord (c : Char) : Bool := isBlank c || (operator? c).isSome || isQuote c

def isNameChar (c : Char) : Bool := c.isAlphanum || c == '_'

/-- Reads up to the closing quote. A backslash gives way to the character after it. -/
def unquote (quote : Char) : List Char → Option (List Char × List Char)
  | [] => none
  | ['\\'] => none
  | '\\' :: c :: cs => (unquote quote cs).map fun (text, rest) => (c :: text, rest)
  | c :: cs =>
    if c = quote then some ([], cs)
    else (unquote quote cs).map fun (text, rest) => (c :: text, rest)

theorem length_of_unquote {quote : Char} {cs text rest : List Char}
    (h : unquote quote cs = some (text, rest)) : rest.length < cs.length := by
  fun_induction unquote quote cs generalizing text with
  | case1 => simp at h
  | case2 => simp at h
  | case3 c cs ih =>
    obtain ⟨⟨t, r⟩, ht, he⟩ := Option.map_eq_some_iff.1 h
    cases he
    exact Nat.lt_trans (ih ht) (Nat.lt_succ_of_lt (Nat.lt_succ_self _))
  | case4 c cs => simp_all
  | case5 c cs _ _ _ ih =>
    obtain ⟨⟨t, r⟩, ht, he⟩ := Option.map_eq_some_iff.1 h
    cases he
    exact Nat.lt_succ_of_lt (ih ht)

theorem length_dropWhile_le (p : Char → Bool) (cs : List Char) :
    (cs.dropWhile p).length ≤ cs.length :=
  (List.dropWhile_suffix p).length_le

def lex : List Char → Lexed
  | [] => ⟨[], none⟩
  | c :: cs =>
    if isBlank c then lex cs
    else
      match operator? c with
      | some t => (lex cs).cons t
      | none =>
        if isQuote c then
          match _h : unquote c cs with
          | none => ⟨[], some (.unterminatedQuote c)⟩
          | some (text, rest) => (lex rest).cons (quoted (String.ofList text))
        else
          let name := cs.takeWhile isNameChar
          if c = '$' ∧ name ≠ [] then
            (lex (cs.dropWhile isNameChar)).cons (parameter (String.ofList name))
          else
            (lex (cs.dropWhile (!endsWord ·))).cons
              (word (String.ofList (c :: cs.takeWhile (!endsWord ·))))
termination_by cs => cs.length
decreasing_by
  · simp
  · simp
  · exact Nat.lt_succ_of_lt (length_of_unquote _h)
  · exact Nat.lt_succ_of_le (length_dropWhile_le _ _)
  · exact Nat.lt_succ_of_le (length_dropWhile_le _ _)

end Token
end PipeShell
