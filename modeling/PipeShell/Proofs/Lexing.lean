import Mathlib.Data.List.TakeWhile
import PipeShell.Token

/-!
# How tokens are spelled

The spelling of a line, said without the lexer: the spellings of its tokens one after the other, with
nothing but white space before, between and after them, and no word or name shorter than it could
be. The lexer takes one token after another (`lex_next`), each the only one that the text can open
with (`next_eq_iff`). So it gets through exactly the texts that are spelled, with the tokens that they
spell (`lex_eq_iff`).
-/

namespace PipeShell.Token
open Text (isBlank)

/-! ## Spellings -/

inductive Escaped (quote : Char) : List Char → List Char → Prop
  | nil : Escaped quote [] []
  | escape {c : Char} {body text : List Char} (rest : Escaped quote body text) :
      Escaped quote ('\\' :: c :: body) (c :: text)
  | plain {c : Char} {body text : List Char} (other : c ≠ quote) (unescaped : c ≠ '\\')
      (rest : Escaped quote body text) : Escaped quote (c :: body) (c :: text)

/-- The ways to write a token, and what may be written behind it. -/
inductive Spelling : Token → List Char → List Char → Prop
  | operator {c : Char} {t : Token} (eq : operator? c = some t) (rest : List Char) :
      Spelling t [c] rest
  | quoted {quote : Char} {body text : List Char} (isQuote : isQuote quote)
      (escaped : Escaped quote body text) (rest : List Char) :
      Spelling (.quoted (String.ofList text)) (quote :: body ++ [quote]) rest
  | parameter {name rest : List Char} (named : name ≠ []) (made : ∀ c ∈ name, isNameChar c)
      (ended : ∀ c ∈ rest.head?, ¬isNameChar c) :
      Spelling (.parameter (String.ofList name)) ('$' :: name) rest
  | word {c : Char} {cs rest : List Char} (made : ∀ d ∈ c :: cs, ¬endsWord d)
      (unnamed : c = '$' → ∀ d ∈ (cs ++ rest).head?, ¬isNameChar d)
      (ended : ∀ d ∈ rest.head?, endsWord d) :
      Spelling (.word (String.ofList (c :: cs))) (c :: cs) rest

/-- A text that spells tokens. Only white space stands between them. -/
inductive Spelled : List Token → List Char → Prop
  | nil : Spelled [] []
  | blank {ts : List Token} {c : Char} {cs : List Char} (blank : isBlank c)
      (rest : Spelled ts cs) : Spelled ts (c :: cs)
  | token {t : Token} {ts : List Token} {ds cs : List Char} (spelling : Spelling t ds cs)
      (rest : Spelled ts cs) : Spelled (t :: ts) (ds ++ cs)

/-! ## Quotes -/

theorem unquote_plain {quote c : Char} (unescaped : c ≠ '\\') (cs : List Char) :
    unquote quote (c :: cs) =
      if c = quote then some ([], cs)
      else (unquote quote cs).map fun (text, rest) => (c :: text, rest) := by
  rw [unquote]
  · exact fun same => absurd same unescaped
  · exact fun _ _ same => absurd same unescaped

theorem unquote_eq_some {quote : Char} (plain : quote ≠ '\\') {cs text rest : List Char} :
    unquote quote cs = some (text, rest) ↔
      ∃ body, cs = body ++ quote :: rest ∧ Escaped quote body text := by
  constructor
  · intro found
    fun_induction unquote quote cs generalizing text with
    | case1 => cases found
    | case2 => cases found
    | case3 c cs ih =>
      obtain ⟨⟨t, r⟩, inner, eq⟩ := Option.map_eq_some_iff.1 found
      cases eq
      obtain ⟨body, rfl, escaped⟩ := ih inner
      exact ⟨_, rfl, .escape escaped⟩
    | case4 cs =>
      cases found
      exact ⟨[], rfl, .nil⟩
    | case5 c cs last inside other ih =>
      obtain ⟨⟨t, r⟩, inner, eq⟩ := Option.map_eq_some_iff.1 found
      cases eq
      obtain ⟨body, rfl, escaped⟩ := ih inner
      refine ⟨_, rfl, .plain other (fun same => ?_) escaped⟩
      cases tail : body ++ quote :: rest with
      | nil => exact absurd tail (by simp)
      | cons d ds => exact inside d ds same tail
  · rintro ⟨body, rfl, escaped⟩
    induction escaped with
    | nil => simp [unquote_plain plain]
    | escape _ ih => simp [unquote, ih]
    | plain other unescaped _ ih => simp [unquote_plain unescaped, other, ih]

/-! ## Words and names -/

theorem ended_dropWhile {p : Char → Bool} {cs : List Char} : ∀ d ∈ (cs.dropWhile p).head?, ¬p d := by
  intro d first
  have stop := List.head?_dropWhile_not p cs
  rw [Option.mem_def.1 first] at stop
  simpa using stop

theorem takeWhile_head?_nil {p : Char → Bool} {rest : List Char} (ended : ∀ d ∈ rest.head?, ¬p d) :
    rest.takeWhile p = [] ∧ rest.dropWhile p = rest := by
  cases rest with
  | nil => simp
  | cons d rest => simp [ended d rfl]

theorem takeWhile_made {p : Char → Bool} {cs rest : List Char} (made : ∀ d ∈ cs, p d)
    (ended : ∀ d ∈ rest.head?, ¬p d) :
    (cs ++ rest).takeWhile p = cs ∧ (cs ++ rest).dropWhile p = rest := by
  obtain ⟨stopped, all⟩ := takeWhile_head?_nil ended
  rw [List.takeWhile_append_of_pos made, List.dropWhile_append_of_pos made, stopped, all]
  simp

theorem endsWord_false {c : Char} :
    ¬endsWord c ↔ ¬isBlank c ∧ operator? c = none ∧ ¬isQuote c := by
  simp [endsWord, and_assoc]

theorem endsWord_iff {c : Char} :
    endsWord c ↔ isBlank c ∨ c ∈ ['<', '>', '|', '&', '"', '\x27'] := by
  have marks : ((operator? c).isSome || isQuote c) ↔ c ∈ ['<', '>', '|', '&', '"', '\x27'] := by
    unfold operator?
    split <;> simp_all [isQuote]
  rw [endsWord, Bool.or_assoc, Bool.or_eq_true, marks]

theorem quote_eq {c : Char} (quote : isQuote c) : c = '"' ∨ c = '\x27' := by
  simpa [isQuote] using quote

/-! ## The next token -/

def next : List Char → Except ReadFault (Option (Token × List Char))
  | [] => .ok none
  | c :: cs =>
    if isBlank c then next cs
    else
      match operator? c with
      | some t => .ok (some (t, cs))
      | none =>
        if isQuote c then
          match unquote c cs with
          | none => .error (.unterminatedQuote c)
          | some (text, rest) => .ok (some (quoted (String.ofList text), rest))
        else
          let name := cs.takeWhile isNameChar
          if c = '$' ∧ name ≠ [] then
            .ok (some (parameter (String.ofList name), cs.dropWhile isNameChar))
          else
            .ok (some (word (String.ofList (c :: cs.takeWhile (!endsWord ·))),
              cs.dropWhile (!endsWord ·)))

def Unclosed (quote : Char) (cs : List Char) : Prop :=
  ∀ body text rest, Escaped quote body text → cs ≠ body ++ quote :: rest

inductive Opens : List Char → Except ReadFault (Option (Token × List Char)) → Prop
  | blank {cs : List Char} (blank : ∀ c ∈ cs, isBlank c) : Opens cs (.ok none)
  | token {blanks ds rest : List Char} {t : Token} (blank : ∀ c ∈ blanks, isBlank c)
      (spelling : Spelling t ds rest) : Opens (blanks ++ (ds ++ rest)) (.ok (some (t, rest)))
  | unclosed {blanks body : List Char} {quote : Char} (blank : ∀ c ∈ blanks, isBlank c)
      (isQuote : isQuote quote) (unclosed : Unclosed quote body) :
      Opens (blanks ++ quote :: body) (.error (.unterminatedQuote quote))

theorem plain_of_isQuote {quote : Char} (isQuote : isQuote quote) :
    ¬isBlank quote ∧ operator? quote = none ∧ quote ≠ '\\' := by
  rcases quote_eq isQuote with rfl | rfl <;> decide

theorem unquote_eq_none {quote : Char} (isQuote : isQuote quote) {cs : List Char} :
    unquote quote cs = none ↔ Unclosed quote cs := by
  have plain := (plain_of_isQuote isQuote).2.2
  rw [Option.eq_none_iff_forall_not_mem]
  constructor
  · intro unclosed body text rest escaped same
    exact unclosed (text, rest) ((unquote_eq_some plain).2 ⟨body, same, escaped⟩)
  · rintro unclosed ⟨text, rest⟩ found
    obtain ⟨body, same, escaped⟩ := (unquote_eq_some plain).1 found
    exact unclosed body text rest escaped same

theorem Opens.cons {c : Char} {cs : List Char} {r : Except ReadFault (Option (Token × List Char))}
    (blank : isBlank c) (opens : Opens cs r) : Opens (c :: cs) r := by
  have more : ∀ {bs : List Char}, (∀ d ∈ bs, isBlank d) → ∀ d ∈ c :: bs, isBlank d :=
    fun all => List.forall_mem_cons.2 ⟨blank, all⟩
  cases opens with
  | blank all => exact .blank (more all)
  | token all spelling => exact .token (more all) spelling
  | unclosed all isQuote unclosed => exact .unclosed (more all) isQuote unclosed

theorem Opens.spelling {t : Token} {ds rest : List Char} (spelling : Spelling t ds rest) :
    Opens (ds ++ rest) (.ok (some (t, rest))) :=
  @Opens.token [] ds rest t (by simp) spelling

theorem opens_next (cs : List Char) : Opens cs (next cs) := by
  fun_induction next cs with
  | case1 => exact .blank (by simp)
  | case2 c cs blank ih => exact ih.cons blank
  | case3 c cs solid t eq => exact .spelling (.operator eq cs)
  | case4 c cs solid eq quote left =>
    exact @Opens.unclosed [] cs c (by simp) quote ((unquote_eq_none quote).1 left)
  | case5 c cs solid eq quote text rest closed =>
    obtain ⟨body, rfl, escaped⟩ := (unquote_eq_some (plain_of_isQuote quote).2.2).1 closed
    simpa using Opens.spelling (.quoted quote escaped rest)
  | case6 c cs solid eq plain name named =>
    obtain ⟨rfl, nonempty⟩ := named
    have made : ∀ d ∈ name, isNameChar d := fun d mem => List.mem_takeWhile_imp mem
    have spelling : Spelling (.parameter (String.ofList name)) ('$' :: name)
        (cs.dropWhile isNameChar) := .parameter nonempty made ended_dropWhile
    have := Opens.spelling spelling
    rwa [List.cons_append, List.takeWhile_append_dropWhile] at this
  | case7 c cs solid eq plain name unnamed =>
    have made : ∀ d ∈ c :: cs.takeWhile (!endsWord ·), ¬endsWord d := by
      intro d mem
      rcases List.mem_cons.1 mem with rfl | mem
      · exact endsWord_false.2 ⟨solid, eq, plain⟩
      · simpa using List.mem_takeWhile_imp mem
    have unnamed : c = '$' → ∀ d ∈ (cs.takeWhile (!endsWord ·) ++ cs.dropWhile (!endsWord ·)).head?,
        ¬isNameChar d := by
      rw [List.takeWhile_append_dropWhile]
      intro dollar d first named
      refine unnamed ⟨dollar, ?_⟩
      obtain ⟨ds, rfl⟩ := List.head?_eq_some_iff.1 (Option.mem_def.1 first)
      simp [name, named]
    have := Opens.spelling (.word made unnamed fun d first => by simpa using ended_dropWhile d first)
    rwa [List.cons_append, List.takeWhile_append_dropWhile] at this

theorem next_blanks {blanks : List Char} (blank : ∀ c ∈ blanks, isBlank c) (cs : List Char) :
    next (blanks ++ cs) = next cs := by
  induction blanks with
  | nil => rfl
  | cons c blanks ih =>
    rw [List.cons_append, next, if_pos (blank c (by simp)), ih fun d mem => blank d (by simp [mem])]

theorem next_spelling {t : Token} {ds cs : List Char} (spelling : Spelling t ds cs) :
    next (ds ++ cs) = .ok (some (t, cs)) := by
  cases spelling with
  | @operator c t eq =>
    have solid : ¬isBlank c := by
      unfold operator? at eq
      split at eq <;> first | decide | cases eq
    rw [List.singleton_append, next, if_neg solid, eq]
  | @quoted quote body text isQuote escaped =>
    obtain ⟨solid, eq, plain⟩ := plain_of_isQuote isQuote
    have closed : unquote quote (body ++ quote :: cs) = some (text, cs) :=
      (unquote_eq_some plain).2 ⟨body, rfl, escaped⟩
    have shape : quote :: body ++ [quote] ++ cs = quote :: (body ++ quote :: cs) := by simp
    rw [shape, next, if_neg solid, eq]
    simp only [isQuote, if_true, closed]
  | @parameter name rest named made ended =>
    have solid : ¬isBlank '$' ∧ operator? '$' = none ∧ ¬isQuote '$' := by decide
    obtain ⟨taken, dropped⟩ := takeWhile_made made ended
    rw [List.cons_append, next, if_neg solid.1, solid.2.1]
    simp only [solid.2.2, taken, dropped, named, ne_eq, not_false_eq_true, and_true, if_true]
    rfl
  | @word c ds rest made unnamed ended =>
    obtain ⟨solid, eq, plain⟩ := endsWord_false.1 (made c List.mem_cons_self)
    obtain ⟨taken, dropped⟩ := takeWhile_made (p := (!endsWord ·))
      (fun d mem => by simpa using made d (List.mem_cons_of_mem _ mem))
      (fun d first => by simpa using ended d first)
    have unnamed : ¬(c = '$' ∧ (ds ++ cs).takeWhile isNameChar ≠ []) := by
      rintro ⟨dollar, named⟩
      exact named (takeWhile_head?_nil (unnamed dollar)).1
    rw [List.cons_append, next, if_neg solid, eq]
    simp only [plain, unnamed, taken, dropped, if_false]
    rfl

theorem next_eq_iff {cs : List Char} {r : Except ReadFault (Option (Token × List Char))} :
    next cs = r ↔ Opens cs r := by
  constructor
  · rintro rfl
    exact opens_next cs
  · intro opens
    cases opens with
    | blank blank =>
      have all := next_blanks blank []
      rwa [List.append_nil] at all
    | token blank spelling => rw [next_blanks blank, next_spelling spelling]
    | unclosed blank isQuote unclosed =>
      obtain ⟨solid, eq, -⟩ := plain_of_isQuote isQuote
      rw [next_blanks blank, next, if_neg solid, eq]
      simp only [isQuote, if_true, (unquote_eq_none isQuote).2 unclosed]

theorem Spelling.ne_nil {t : Token} {ds rest : List Char} (spelling : Spelling t ds rest) :
    ds ≠ [] := by
  cases spelling <;> simp

theorem Spelling.solid {t : Token} {ds rest : List Char} (spelling : Spelling t ds rest) :
    ∀ d ∈ ds.head?, ¬isBlank d := by
  cases spelling with
  | operator eq =>
    rintro d ⟨⟩
    unfold operator? at eq
    split at eq <;> first | decide | cases eq
  | quoted isQuote =>
    rintro d ⟨⟩
    exact (plain_of_isQuote isQuote).1
  | parameter =>
    rintro d ⟨⟩
    decide
  | word made =>
    rintro d ⟨⟩
    exact (endsWord_false.1 (made _ List.mem_cons_self)).1

theorem length_of_next {cs rest : List Char} {t : Token}
    (found : next cs = .ok (some (t, rest))) : rest.length < cs.length := by
  cases next_eq_iff.1 found with
  | token _ spelling =>
    have nonempty := List.length_pos_iff.2 spelling.ne_nil
    simp only [List.length_append]
    omega

/-! ## The lexer -/

theorem Spelled.blanks {ts : List Token} {gap cs : List Char} (blank : ∀ c ∈ gap, isBlank c)
    (rest : Spelled ts cs) : Spelled ts (gap ++ cs) := by
  induction gap with
  | nil => exact rest
  | cons c gap ih =>
    exact .blank (blank c (by simp)) (ih fun d mem => blank d (by simp [mem]))

theorem spelled_nil_iff {cs : List Char} : Spelled [] cs ↔ ∀ c ∈ cs, isBlank c := by
  constructor
  · intro spelled
    generalize empty : ([] : List Token) = ts at spelled
    induction spelled with
    | nil => simp
    | blank blank _ ih => simpa [blank] using ih empty
    | token => cases empty
  · intro blank
    induction cs with
    | nil => exact .nil
    | cons c cs ih => exact .blank (blank c (by simp)) (ih fun d mem => blank d (by simp [mem]))

theorem lex_next (cs : List Char) :
    lex cs = match next cs with
      | .ok none => ⟨[], none⟩
      | .ok (some (t, rest)) => (lex rest).cons t
      | .error fault => ⟨[], some fault⟩ := by
  fun_induction next cs with
  | case1 => rw [lex]
  | case2 c cs blank ih => rw [lex, if_pos blank, ih]
  | case3 c cs solid t eq => rw [lex, if_neg solid, eq]
  | case4 c cs solid eq quote left =>
    rw [lex, if_neg solid, eq]
    simp only [quote, if_true]
    split <;> simp_all
  | case5 c cs solid eq quote text rest closed =>
    rw [lex, if_neg solid, eq]
    simp only [quote, if_true]
    split <;> simp_all
  | case6 c cs solid eq plain name named =>
    rw [lex, if_neg solid, eq]
    simp only [plain]
    rw [if_pos named]
    rfl
  | case7 c cs solid eq plain name unnamed =>
    rw [lex, if_neg solid, eq]
    simp only [plain]
    rw [if_neg unnamed]
    rfl

theorem lex_spelling {t : Token} {ds cs : List Char} (spelling : Spelling t ds cs) :
    lex (ds ++ cs) = (lex cs).cons t := by
  rw [lex_next, next_spelling spelling]

theorem spelled_lex {cs : List Char} (clean : (lex cs).fault = none) :
    Spelled (lex cs).tokens cs := by
  rw [lex_next] at clean ⊢
  have opens := opens_next cs
  generalize found : next cs = r at clean opens ⊢
  cases opens with
  | blank blank => exact spelled_nil_iff.2 blank
  | @token blanks ds rest t blank spelling =>
    have shorter : rest.length < (blanks ++ (ds ++ rest)).length := length_of_next found
    exact .blanks blank (.token spelling (spelled_lex clean))
  | unclosed => cases clean
termination_by cs.length

theorem lex_eq_iff {cs : List Char} {ts : List Token} : lex cs = ⟨ts, none⟩ ↔ Spelled ts cs := by
  constructor
  · intro found
    have spelled : Spelled (lex cs).tokens cs := spelled_lex (by rw [found])
    rwa [found] at spelled
  · intro spelled
    induction spelled with
    | nil => rw [lex]
    | blank blank _ ih => rw [lex, if_pos blank, ih]
    | token spelling _ ih =>
      rw [lex_spelling spelling, ih]
      rfl

end PipeShell.Token
