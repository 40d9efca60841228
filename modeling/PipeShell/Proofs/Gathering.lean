import PipeShell.Proofs.Offences
import PipeShell.Proofs.Rendering

/-!
# Where redirections stand

A stage is a row of words and redirections. Behind its first word the redirections may stand anywhere:
the words in their order and the last target of each direction are all that counts. In front of its first
word none may stand, and such a line is refused as if the stage had no command (`Line.parse_gathers`).
So the reader takes less than stages that are any rows of words and redirections (`Line.parse_misses`).
-/

namespace PipeShell

/-! ## Rows of words and redirections -/

/-- The first word of the row is the head, and of the targets the last ones count. -/
structure Phrase.Gathers (p : Phrase) (items : List Item) : Prop where
  words : items.filterMap Item.arg? = p.head :: p.args
  input : (items.filterMap Item.input?).getLast? = p.input
  output : (items.filterMap Item.output?).getLast? = p.output

namespace Item

def WordFirst (items : List Item) : Prop := ∃ a rest, items = .arg a :: rest

inductive RowsRead : List (List Item) → List Token → Prop
  | last {items : List Item} {ts : List Token} (all : AllRead items ts) : RowsRead [items] ts
  | bar {items : List Item} {rows : List (List Item)} {ts us : List Token} (all : AllRead items ts)
      (more : RowsRead rows us) : RowsRead (items :: rows) (ts ++ .pipe :: us)

end Item

theorem Phrase.exists_gathers {items : List Item} (word : ∃ a, .arg a ∈ items) :
    ∃ p : Phrase, p.Gathers items := by
  obtain ⟨a, member⟩ := word
  have word : a ∈ items.filterMap Item.arg? := List.mem_filterMap.2 ⟨.arg a, member, rfl⟩
  obtain ⟨head, args, words⟩ := List.exists_cons_of_ne_nil (List.ne_nil_of_mem word)
  exact ⟨⟨head, args, _, _⟩, words, rfl, rfl⟩

theorem Phrase.exists_allGathers {rows : List (List Item)}
    (worded : ∀ items ∈ rows, ∃ a, .arg a ∈ items) : ∃ phrases, List.Forall₂ Gathers phrases rows := by
  induction rows with
  | nil => exact ⟨[], .nil⟩
  | cons items rows ih =>
    obtain ⟨p, here⟩ := exists_gathers (worded items List.mem_cons_self)
    obtain ⟨phrases, rest⟩ := ih fun row member => worded row (List.mem_cons_of_mem items member)
    exact ⟨p :: phrases, .cons here rest⟩

theorem Phrase.Gathers.unique {p q : Phrase} {items : List Item} (first : p.Gathers items)
    (second : q.Gathers items) : p = q := by
  obtain ⟨head, args⟩ := List.cons.inj (first.words.symm.trans second.words)
  have input := first.input.symm.trans second.input
  have output := first.output.symm.trans second.output
  cases p
  cases q
  simp_all

/-! ## Rows that begin with a word -/

def Segment.row (s : Segment) : List Item := .arg s.head :: s.items

theorem Phrase.Gathers.phrase_eq {p : Phrase} {s : Segment} (gathers : p.Gathers s.row) :
    s.phrase = p := by
  have own : s.phrase.Gathers s.row := ⟨rfl, rfl, rfl⟩
  exact own.unique gathers

theorem Phrase.phrases_of_gathers {phrases : List Phrase} {segments : List Segment}
    (gathers : List.Forall₂ Gathers phrases (segments.map Segment.row)) :
    segments.map Segment.phrase = phrases := by
  induction segments generalizing phrases with
  | nil =>
    cases gathers
    rfl
  | cons s segments ih =>
    cases gathers with
    | cons here rest => rw [List.map_cons, here.phrase_eq, ih rest]

namespace Item

theorem AllRead.segment {items : List Item} {ts : List Token} (all : AllRead items ts)
    (first : WordFirst items) : ∃ s : Segment, s.Reads ts ∧ items = s.row := by
  obtain ⟨a, rest, rfl⟩ := first
  cases all with
  | cons reads more =>
    cases reads with
    | arg eq => exact ⟨⟨a, rest⟩, .mk eq more, rfl⟩

theorem RowsRead.segments {rows : List (List Item)} {us : List Token} (reads : RowsRead rows us)
    (first : ∀ items ∈ rows, WordFirst items) :
    ∃ segments, Segment.AllRead segments us ∧ rows = segments.map Segment.row := by
  induction reads with
  | last all =>
    obtain ⟨s, here, rfl⟩ := all.segment (first _ List.mem_cons_self)
    exact ⟨[s], .last here, rfl⟩
  | bar all _ ih =>
    obtain ⟨s, here, rfl⟩ := all.segment (first _ List.mem_cons_self)
    obtain ⟨segments, later, rfl⟩ := ih fun items member => first items (List.mem_cons_of_mem _ member)
    exact ⟨s :: segments, .bar here later, rfl⟩

/-! ## Rows that begin with a redirection -/

theorem Reads.taken {item : Item} {ts : List Token} (reads : item.Reads ts) :
    Ready.takeAll .item ts = some .item := by
  cases reads with
  | @arg t a eq => cases t <;> cases eq <;> rfl
  | @input t path eq => simp [Ready.takeAll, Ready.take, eq]
  | @output t path eq => simp [Ready.takeAll, Ready.take, eq]

theorem AllRead.taken {items : List Item} {ts : List Token} (all : AllRead items ts) :
    Ready.takeAll .item ts = some .item := by
  induction all with
  | nil => rfl
  | cons reads _ ih =>
    rw [Ready.takeAll_append, reads.taken]
    exact ih

theorem AllRead.begun {items : List Item} {ts : List Token} (all : AllRead items ts)
    (first : WordFirst items) {r : Ready} (begins : r = .line ∨ r = .command) :
    r.takeAll ts = some .item := by
  obtain ⟨a, rest, rfl⟩ := first
  cases all with
  | cons reads more =>
    cases reads with
    | @arg t _ eq =>
      have taken : r.take t = some .item := by
        rcases begins with rfl | rfl <;> simp [Ready.take, eq]
      rw [List.singleton_append, Ready.takeAll, taken]
      exact more.taken

theorem AllRead.refused {items : List Item} {ts : List Token} (all : AllRead items ts)
    (worded : ∃ a, .arg a ∈ items) (stray : ¬WordFirst items) {r : Ready}
    (begins : r = .line ∨ r = .command) (us : List Token) :
    Ready.refusal none r (ts ++ us) = .some .missingCommand := by
  cases all with
  | nil => simp at worded
  | cons reads more =>
    cases reads with
    | arg => exact absurd ⟨_, _, rfl⟩ stray
    | input | output => rcases begins with rfl | rfl <;> rfl

theorem RowsRead.refused {rows : List (List Item)} {us : List Token} (reads : RowsRead rows us)
    (worded : ∀ items ∈ rows, ∃ a, .arg a ∈ items) (stray : ∃ items ∈ rows, ¬WordFirst items)
    {r : Ready} (begins : r = .line ∨ r = .command) (vs : List Token) :
    Ready.refusal none r (us ++ vs) = .some .missingCommand := by
  induction reads generalizing r with
  | last all =>
    obtain ⟨items, member, stray⟩ := stray
    obtain rfl := List.mem_singleton.1 member
    exact all.refused (worded _ List.mem_cons_self) stray begins vs
  | @bar items rows ts us all _ ih =>
    rw [List.append_assoc]
    by_cases first : WordFirst items
    · have later : ∃ items ∈ rows, ¬WordFirst items := by
        obtain ⟨other, member, stray⟩ := stray
        rcases List.mem_cons.1 member with rfl | member
        · exact absurd first stray
        · exact ⟨other, member, stray⟩
      rw [Ready.refusal_takeAll (all.begun first begins)]
      exact ih (fun row member => worded row (List.mem_cons_of_mem items member)) later (.inr rfl)
    · exact all.refused (worded _ List.mem_cons_self) first begins _

end Item

namespace Line

/-- A line of rows that have a word each. If each begins with a word, the line is read, and each stage is
what gathers its row; where the redirections stand makes no difference. If one begins with a redirection,
the line is refused. -/
theorem parse_gathers {rows : List (List Item)} {us : List Token} {background : Bool} {text : String}
    (worded : ∀ items ∈ rows, ∃ a, .arg a ∈ items) (reads : Item.RowsRead rows us)
    (lexed : Token.lex text.toList = ⟨us ++ Token.mark background, none⟩) :
    ∃ phrases, List.Forall₂ Phrase.Gathers phrases rows ∧
      ((∀ items ∈ rows, Item.WordFirst items) → ∃ line stages, parse text = .ok line ∧
        line.layout = .ok stages ∧
        stages.map line.words = Description.nodes ⟨phrases, background⟩) ∧
      ((∃ items ∈ rows, ¬Item.WordFirst items) →
        parse text = .error (.unreadable .missingCommand)) := by
  obtain ⟨phrases, gathers⟩ := Phrase.exists_allGathers worded
  refine ⟨phrases, gathers, fun first => ?_, fun stray => ?_⟩
  · obtain ⟨segments, all, rfl⟩ := reads.segments first
    obtain ⟨line, found⟩ := parse_ok_iff.2 ⟨_, lexed, .inr (all.lineTokens background)⟩
    obtain ⟨stages, threaded, words⟩ := holds_of_parse found lexed
    refine ⟨line, stages, found, threaded.layout_eq, ?_⟩
    rw [words, all.lineNodes, Segment.allNodes_phrase, Phrase.phrases_of_gathers gathers]
    rfl
  · have refused := reads.refused worded stray (.inl rfl) (Token.mark background)
    refine parse_eq_error.2 ⟨.missingCommand, rfl, Pipeline.ofLexed_error.2 ?_⟩
    rw [lexed]
    exact refused

def mixedRows : List (List Item) :=
  [[.arg (.word "sort"), .input "a", .arg (.word "-r"), .input "b"],
    [.arg (.parameter "x"), .output "c", .arg (.quoted ">")]]

def mixedTokens : List Token :=
  [.word "sort", .input, .word "a", .word "-r", .input, .word "b", .pipe,
    .parameter "x", .output, .word "c", .quoted ">"]

def strayRows : List (List Item) := [[.arg (.word "ls")], [.input "in", .arg (.word "cat")]]

def strayTokens : List Token := [.word "ls", .pipe, .input, .word "in", .word "cat"]

theorem mixedRows_read : Item.RowsRead mixedRows mixedTokens :=
  .bar (.cons (.arg rfl) (.cons (.input rfl) (.cons (.arg rfl) (.cons (.input rfl) .nil))))
    (.last (.cons (.arg rfl) (.cons (.output rfl) (.cons (.arg rfl) .nil))))

theorem strayRows_read : Item.RowsRead strayRows strayTokens :=
  .bar (.cons (.arg rfl) .nil) (.last (.cons (.input rfl) (.cons (.arg rfl) .nil)))

theorem parse_gathers_rows :
    (Item.RowsRead mixedRows mixedTokens ∧ ∃ line stages,
      parse "sort <a -r <b | $x >c '>' &" = .ok line ∧ line.layout = .ok stages ∧
        stages.map line.words =
          Description.nodes
            ⟨[⟨.word "sort", [.word "-r"], some "b", none⟩,
              ⟨.parameter "x", [.quoted ">"], none, some "c"⟩], true⟩) ∧
    Item.RowsRead strayRows strayTokens ∧
      parse "ls | <in cat" = .error (.unreadable .missingCommand) := by
  have mixedLexed : Token.lex "sort <a -r <b | $x >c '>' &".toList =
      ⟨mixedTokens ++ Token.mark true, none⟩ := by decide +kernel
  have strayLexed : Token.lex "ls | <in cat".toList =
      ⟨strayTokens ++ Token.mark false, none⟩ := by decide +kernel
  obtain ⟨phrases, gathers, read, -⟩ :=
    parse_gathers (by simp [mixedRows]) mixedRows_read mixedLexed
  obtain ⟨-, -, -, refused⟩ := parse_gathers (by simp [strayRows]) strayRows_read strayLexed
  have sorts : Phrase.Gathers ⟨.word "sort", [.word "-r"], some "b", none⟩
      [.arg (.word "sort"), .input "a", .arg (.word "-r"), .input "b"] := ⟨rfl, rfl, rfl⟩
  have asks : Phrase.Gathers ⟨.parameter "x", [.quoted ">"], none, some "c"⟩
      [.arg (.parameter "x"), .output "c", .arg (.quoted ">")] := ⟨rfl, rfl, rfl⟩
  have meant : phrases = [⟨.word "sort", [.word "-r"], some "b", none⟩,
      ⟨.parameter "x", [.quoted ">"], none, some "c"⟩] := by
    cases gathers with
    | cons first rest =>
      cases rest with
      | cons second rest =>
        cases rest
        rw [first.unique sorts, second.unique asks]
  rw [meant] at read
  exact ⟨⟨mixedRows_read, read (by simp [mixedRows, Item.WordFirst])⟩, strayRows_read,
    refused (by simp [strayRows, Item.WordFirst])⟩

/-- A stage is not always what gathers its row: one that begins with a redirection is not read at all. -/
theorem parse_misses :
    ¬∀ (rows : List (List Item)) (us : List Token) (background : Bool) (text : String),
      (∀ items ∈ rows, ∃ a, .arg a ∈ items) → Item.RowsRead rows us →
      Token.lex text.toList = ⟨us ++ Token.mark background, none⟩ →
      ∃ phrases line stages, List.Forall₂ Phrase.Gathers phrases rows ∧ parse text = .ok line ∧
        line.layout = .ok stages ∧
        stages.map line.words = Description.nodes ⟨phrases, background⟩ := by
  intro all
  have lexed : Token.lex "< in cat".toList =
      ⟨[Token.input, .word "in", .word "cat"] ++ Token.mark false, none⟩ := by decide +kernel
  have reads : Item.RowsRead [[.input "in", .arg (.word "cat")]] [.input, .word "in", .word "cat"] :=
    .last (.cons (.input rfl) (.cons (.arg rfl) .nil))
  obtain ⟨-, line, -, -, found, -⟩ := all _ _ _ _ (by simp) reads lexed
  have refused : parse "< in cat" = .error (.unreadable .missingCommand) := by decide +kernel
  rw [refused] at found
  cases found

end Line
end PipeShell
