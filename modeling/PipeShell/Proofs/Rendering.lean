import PipeShell.Proofs.Cutting
import PipeShell.Proofs.Reading

/-!
# Writing a line

How a line is written, said without the reader: any word can be put in quotes, a plain one needs none,
and redirections may stand anywhere behind the head of their stage. Reading gives back what was
written, and every line that can be read could have been written so (`Line.parse_renders`).
-/

namespace PipeShell
open Text (isBlank)

/-! ## Descriptions -/

/-- A stage as it is meant. Where its redirections stand is left open. -/
structure Phrase where
  head : Arg
  args : List Arg
  input : Option String
  output : Option String
deriving DecidableEq, Repr

structure Description where
  stages : List Phrase
  background : Bool
deriving DecidableEq, Repr

structure PlainText (cs : List Char) : Prop where
  nonempty : cs ≠ []
  free : ∀ c ∈ cs, ¬isBlank c ∧ c ∉ ['<', '>', '|', '&', '"', '\x27']
  unnamed : ∀ c rest, cs = '$' :: c :: rest → ¬Token.isNameChar c

structure NameText (cs : List Char) : Prop where
  nonempty : cs ≠ []
  made : ∀ c ∈ cs, Token.isNameChar c

namespace Arg

def Sound : Arg → Prop
  | word text => PlainText text.toList
  | parameter name => NameText name.toList
  | quoted _ => True

def node : Arg → Node
  | word text => { origin := .word, text := some text }
  | quoted text => { origin := .quoted, text := some text }
  | parameter name => { origin := .parameter, name := some name }

def calls : Arg → Kind
  | word text => .ofWord text
  | _ => .program

def token : Arg → Token
  | word text => .word text
  | quoted text => .quoted text
  | parameter name => .parameter name

@[simp] theorem arg?_token (a : Arg) : a.token.arg? = some a := by
  cases a <;> rfl

end Arg

def Phrase.nodes (background : Bool) (p : Phrase) : List Node :=
  { p.head.node with kind := p.head.calls, input := p.input, output := p.output, background } ::
    p.args.map Arg.node

def Phrase.allNodes (background : Bool) : List Phrase → List (List Node)
  | [] => []
  | [p] => [p.nodes background]
  | p :: rest => p.nodes false :: allNodes background rest

namespace Description

def nodes (d : Description) : List (List Node) := Phrase.allNodes d.background d.stages

structure Sound (d : Description) : Prop where
  staged : d.stages ≠ []
  args : ∀ p ∈ d.stages, ∀ a ∈ p.head :: p.args, a.Sound

end Description

/-! ## How it is written -/

namespace Token

def escape (quote : Char) (text : List Char) : List Char :=
  text.flatMap fun c => if c = quote ∨ c = '\\' then ['\\', c] else [c]

inductive Written : Token → List Char → Prop
  | operator {c : Char} {t : Token} (eq : operator? c = some t) : Written t [c]
  | word {cs : List Char} (plain : PlainText cs) : Written (.word (String.ofList cs)) cs
  | parameter {cs : List Char} (name : NameText cs) :
      Written (.parameter (String.ofList cs)) ('$' :: cs)
  | quoted {quote : Char} (isQuote : isQuote quote) (text : List Char) :
      Written (.quoted (String.ofList text)) (quote :: escape quote text ++ [quote])

inductive Spaced : List Token → List Char → Prop
  | last {t : Token} {cs : List Char} (written : Written t cs) : Spaced [t] cs
  | cons {t : Token} {ts : List Token} {cs gap text : List Char} (written : Written t cs)
      (nonempty : gap ≠ []) (blank : ∀ c ∈ gap, isBlank c) (rest : Spaced ts text) :
      Spaced (t :: ts) (cs ++ (gap ++ text))

def mark (background : Bool) : List Token := if background then [.background] else []

end Token

inductive Segment.AllRead : List Segment → List Token → Prop
  | last {s : Segment} {ts : List Token} (reads : s.Reads ts) : AllRead [s] ts
  | bar {s : Segment} {rest : List Segment} {ts us : List Token} (reads : s.Reads ts)
      (more : AllRead rest us) : AllRead (s :: rest) (ts ++ .pipe :: us)

structure Phrase.Arranged (p : Phrase) (s : Segment) : Prop where
  head : s.head = p.head
  args : s.args = p.args
  inputs : s.items.filterMap Item.input? = p.input.toList
  outputs : s.items.filterMap Item.output? = p.output.toList

def Description.Tokens (d : Description) (ts : List Token) : Prop :=
  ∃ segments us, List.Forall₂ Phrase.Arranged d.stages segments ∧ Segment.AllRead segments us ∧
    ts = us ++ Token.mark d.background

def Description.Renders (d : Description) (text : String) : Prop :=
  ∃ ts, d.Tokens ts ∧ Token.Spaced ts text.toList

/-! ## What is written is spelled -/

namespace Token

theorem escaped_escape {quote : Char} (text : List Char) :
    Escaped quote (escape quote text) text := by
  induction text with
  | nil => exact .nil
  | cons c text ih =>
    rw [escape, List.flatMap_cons]
    by_cases special : c = quote ∨ c = '\\'
    · rw [if_pos special]
      exact .escape ih
    · rw [if_neg special]
      rw [not_or] at special
      exact .plain special.1 special.2 ih

theorem Written.spelling {t : Token} {cs rest : List Char} (written : Written t cs)
    (ended : ∀ c ∈ rest.head?, isBlank c) : Spelling t cs rest := by
  cases written with
  | operator eq => exact .operator eq rest
  | word plain =>
    obtain ⟨nonempty, free, unnamed⟩ := plain
    obtain ⟨c, cs, rfl⟩ := List.exists_cons_of_ne_nil nonempty
    refine .word (fun d member ends => ?_) (fun dollar d first => ?_) fun d first => ?_
    · exact (endsWord_iff.1 ends).elim (free d member).1 (free d member).2
    · subst dollar
      cases cs with
      | nil => exact not_isNameChar_of_isBlank (ended d first)
      | cons e cs =>
        obtain rfl : e = d := by simpa using first
        exact unnamed e cs rfl
    · exact endsWord_iff.2 (.inl (ended d first))
  | parameter name =>
    exact .parameter name.nonempty name.made fun c first => not_isNameChar_of_isBlank (ended c first)
  | quoted isQuote text => exact .quoted isQuote (escaped_escape text) rest

theorem Spaced.spelled {ts : List Token} {cs : List Char} (spaced : Spaced ts cs) :
    Spelled ts cs := by
  induction spaced with
  | @last t cs written =>
    have spelling : Spelling t cs [] := written.spelling (by simp)
    have spelled := Spelled.token spelling .nil
    rwa [List.append_nil] at spelled
  | @cons t ts cs gap text written nonempty blank _ ih =>
    refine .token (written.spelling fun c first => ?_) (ih.blanks blank)
    obtain ⟨d, gap, rfl⟩ := List.exists_cons_of_ne_nil nonempty
    obtain rfl : d = c := by simpa using first
    exact blank d List.mem_cons_self

end Token

/-! ## What is written can be read -/

namespace Segment

def phrase (s : Segment) : Phrase := ⟨s.head, s.args, s.input, s.output⟩

theorem nodes_phrase (s : Segment) (background : Bool) :
    s.nodes background = s.phrase.nodes background := by
  have args : s.args.map Node.ofArg = s.args.map Arg.node :=
    List.map_congr_left fun a _ => by cases a <;> rfl
  rw [nodes, Phrase.nodes, phrase, args]
  cases s.head <;> rfl

theorem allNodes_phrase (segments : List Segment) (background : Bool) :
    Pipeline.nodes background segments = Phrase.allNodes background (segments.map phrase) := by
  induction segments with
  | nil => rfl
  | cons s rest ih =>
    cases rest with
    | nil => simp [Pipeline.nodes, Phrase.allNodes, nodes_phrase]
    | cons next rest =>
      rw [Pipeline.nodes, ih, nodes_phrase]
      · rfl
      · exact List.cons_ne_nil next rest

theorem Reads.stageTokens {s : Segment} {ts : List Token} (reads : s.Reads ts) : StageTokens ts := by
  obtain ⟨head, all⟩ := reads
  refine .mk (argToken_iff.2 ⟨_, head⟩) ?_
  induction all with
  | nil => exact .nil
  | cons reads _ ih => exact .cons (itemTokens_iff.2 ⟨_, reads⟩) ih

namespace AllRead
variable {segments : List Segment} {us : List Token}

theorem ne_nil (all : AllRead segments us) : segments ≠ [] ∧ us ≠ [] := by
  cases all with
  | last reads => exact ⟨List.cons_ne_nil _ _, reads.ne_nil⟩
  | bar => exact ⟨List.cons_ne_nil _ _, by simp⟩

theorem lineTokens (all : AllRead segments us) (background : Bool) :
    LineTokens (us ++ Token.mark background) := by
  have stages : StagesTokens us := by
    induction all with
    | last reads => exact .last reads.stageTokens
    | bar reads _ ih => exact .bar reads.stageTokens ih
  cases background with
  | false => simpa [Token.mark] using LineTokens.foreground stages
  | true => exact .background stages

theorem lineNodes (all : AllRead segments us) (background : Bool) :
    Token.lineNodes (us ++ Token.mark background) = Pipeline.nodes background segments := by
  induction all with
  | last reads =>
    cases background with
    | false =>
      rw [Token.mark, if_neg Bool.false_ne_true, List.append_nil,
        Token.lineNodes_single reads.ne_nil reads.plain.1 reads.plain.2, reads.stageNodes]
      rfl
    | true =>
      rw [Token.mark, if_pos rfl, Token.lineNodes_marked reads.plain.1, reads.stageNodes]
      rfl
  | @bar s rest ts us reads more ih =>
    obtain ⟨nonempty, begun⟩ := more.ne_nil
    rw [List.append_assoc, List.cons_append, Token.lineNodes_bar reads.plain.1 (by simp [begun]),
      reads.stageNodes, ih]
    cases rest with
    | nil => exact absurd rfl nonempty
    | cons => rfl

end AllRead
end Segment

theorem Phrase.Arranged.phrase_eq {p : Phrase} {s : Segment} (arranged : p.Arranged s) :
    s.phrase = p := by
  obtain ⟨head, args, input, output⟩ := p
  obtain ⟨rfl, rfl, inputs, outputs⟩ := arranged
  have last (o : Option String) : o.toList.getLast? = o := by cases o <;> rfl
  simp only [Segment.phrase, Segment.input, Segment.output, inputs, outputs, last]

theorem Phrase.phrases_of_arranged {phrases : List Phrase} {segments : List Segment}
    (arranged : List.Forall₂ Phrase.Arranged phrases segments) :
    segments.map Segment.phrase = phrases := by
  induction arranged with
  | nil => rfl
  | cons first _ ih => rw [List.map_cons, first.phrase_eq, ih]

theorem Description.Tokens.read {d : Description} {ts : List Token} (tokens : d.Tokens ts) :
    LineTokens ts ∧ Token.lineNodes ts = d.nodes := by
  obtain ⟨segments, us, arranged, all, rfl⟩ := tokens
  refine ⟨all.lineTokens d.background, ?_⟩
  rw [all.lineNodes, Segment.allNodes_phrase, Phrase.phrases_of_arranged arranged]
  rfl

theorem Description.Renders.parse {d : Description} {text : String} (renders : d.Renders text) :
    ∃ line stages, Line.parse text = .ok line ∧ line.layout = .ok stages ∧
      stages.map line.words = d.nodes := by
  obtain ⟨ts, tokens, spaced⟩ := renders
  obtain ⟨derived, nodes⟩ := tokens.read
  have lexed : Token.lex text.toList = ⟨ts, none⟩ := Token.lex_eq_iff.2 spaced.spelled
  obtain ⟨line, found⟩ := Line.parse_ok_iff.2 ⟨ts, lexed, .inr derived⟩
  obtain ⟨stages, threaded, words⟩ := Line.holds_of_parse found lexed
  exact ⟨line, stages, found, threaded.layout_eq, words.trans nodes⟩

/-! ## No text has two meanings -/

theorem Arg.node_inj {a b : Arg} (origin : a.node.origin = b.node.origin)
    (text : a.node.text = b.node.text) (name : a.node.name = b.node.name) : a = b := by
  cases a <;> cases b <;> simp_all [Arg.node]

theorem Phrase.nodes_inj {p q : Phrase} {background other : Bool}
    (same : p.nodes background = q.nodes other) : p = q ∧ background = other := by
  simp only [nodes, List.cons.injEq, Node.mk.injEq] at same
  obtain ⟨⟨-, origin, text, name, -, mark, input, output, -⟩, rest⟩ := same
  have head : p.head = q.head := Arg.node_inj origin text name
  have args : p.args = q.args := by
    refine List.map_injective_iff.2 (fun a b eq => ?_) rest
    exact Arg.node_inj (congrArg Node.origin eq) (congrArg Node.text eq) (congrArg Node.name eq)
  cases p
  cases q
  exact ⟨by simp_all, mark⟩

theorem Phrase.allNodes_eq_nil {background : Bool} {phrases : List Phrase} :
    allNodes background phrases = [] ↔ phrases = [] := by
  cases phrases with
  | nil => simp [allNodes]
  | cons p phrases => cases phrases <;> simp [allNodes]

theorem Phrase.allNodes_inj {ps qs : List Phrase} {background other : Bool}
    (same : allNodes background ps = allNodes other qs) (nonempty : ps ≠ []) :
    ps = qs ∧ background = other := by
  induction ps generalizing qs with
  | nil => exact absurd rfl nonempty
  | cons p ps ih =>
    cases qs with
    | nil => exact absurd (allNodes_eq_nil.1 same) nonempty
    | cons q qs =>
      cases ps with
      | nil =>
        cases qs with
        | nil =>
          obtain ⟨rfl, mark⟩ := nodes_inj (List.cons.inj same).1
          exact ⟨rfl, mark⟩
        | cons =>
          have empty := (List.cons.inj same).2.symm
          exact absurd (allNodes_eq_nil.1 empty) (List.cons_ne_nil _ _)
      | cons next ps =>
        cases qs with
        | nil =>
          have empty := (List.cons.inj same).2
          exact absurd (allNodes_eq_nil.1 empty) (List.cons_ne_nil _ _)
        | cons =>
          obtain ⟨first, rest⟩ := List.cons.inj same
          obtain ⟨rfl, -⟩ := nodes_inj first
          obtain ⟨eq, mark⟩ := ih rest (List.cons_ne_nil _ _)
          exact ⟨by rw [eq], mark⟩

theorem Description.Renders.unique {d e : Description} {text : String} (first : d.Renders text)
    (second : e.Renders text) : d = e := by
  obtain ⟨line, stages, found, layout, words⟩ := first.parse
  obtain ⟨line', stages', found', layout', words'⟩ := second.parse
  obtain rfl : line = line' := Except.ok.inj (found.symm.trans found')
  obtain rfl : stages = stages' := Except.ok.inj (layout.symm.trans layout')
  have nonempty : d.stages ≠ [] := by
    obtain ⟨ts, ⟨segments, us, arranged, all, -⟩, -⟩ := first
    rintro empty
    rw [empty] at arranged
    cases arranged
    exact all.ne_nil.1 rfl
  obtain ⟨phrases, mark⟩ := Phrase.allNodes_inj (words.symm.trans words') nonempty
  cases d
  cases e
  simp_all

/-! ## What is described can be written -/

namespace Token

def Writable (t : Token) : Prop := ∃ cs, Written t cs

theorem writable_operators :
    Writable .pipe ∧ Writable .input ∧ Writable .output ∧ Writable .background :=
  ⟨⟨['|'], .operator rfl⟩, ⟨['<'], .operator rfl⟩, ⟨['>'], .operator rfl⟩, ⟨['&'], .operator rfl⟩⟩

theorem writable_quoted (text : String) : Writable (.quoted text) := by
  have isQuote : isQuote '"' := rfl
  have written := Written.quoted isQuote text.toList
  rw [String.ofList_toList] at written
  exact ⟨_, written⟩

theorem writable_token {a : Arg} (sound : a.Sound) : Writable a.token := by
  cases a with
  | word text =>
    have written := Written.word sound
    rw [String.ofList_toList] at written
    exact ⟨_, written⟩
  | quoted text => exact writable_quoted text
  | parameter name =>
    have written := Written.parameter sound
    rw [String.ofList_toList] at written
    exact ⟨_, written⟩

theorem exists_spaced {ts : List Token} (nonempty : ts ≠ []) (writable : ∀ t ∈ ts, Writable t) :
    ∃ cs, Spaced ts cs := by
  induction ts with
  | nil => exact absurd rfl nonempty
  | cons t ts ih =>
    obtain ⟨cs, written⟩ := writable t List.mem_cons_self
    cases ts with
    | nil => exact ⟨cs, .last written⟩
    | cons u ts =>
      obtain ⟨text, rest⟩ := ih (List.cons_ne_nil u ts) fun v member =>
        writable v (List.mem_cons_of_mem t member)
      have blank : ∀ c ∈ [' '], isBlank c := List.forall_mem_singleton.2 rfl
      exact ⟨_, .cons written (List.cons_ne_nil _ _) blank rest⟩

end Token

theorem Item.exists_reads (items : List Item) (sound : ∀ a ∈ items.filterMap arg?, a.Sound) :
    ∃ ts, AllRead items ts ∧ ∀ t ∈ ts, t.Writable := by
  induction items with
  | nil => exact ⟨[], .nil, by simp⟩
  | cons item items ih =>
    obtain ⟨ts, all, writable⟩ := ih fun a member =>
      sound a ((List.sublist_cons_self item items).filterMap arg? |>.subset member)
    obtain ⟨-, input, output, -⟩ := Token.writable_operators
    cases item with
    | arg a =>
      have here := Token.writable_token (sound a List.mem_cons_self)
      exact ⟨_, .cons (.arg a.arg?_token) all, List.forall_mem_cons.2 ⟨here, writable⟩⟩
    | input path =>
      have here := Token.writable_quoted path
      exact ⟨_, .cons (.input (t := .quoted path) rfl) all,
        List.forall_mem_cons.2 ⟨input, List.forall_mem_cons.2 ⟨here, writable⟩⟩⟩
    | output path =>
      have here := Token.writable_quoted path
      exact ⟨_, .cons (.output (t := .quoted path) rfl) all,
        List.forall_mem_cons.2 ⟨output, List.forall_mem_cons.2 ⟨here, writable⟩⟩⟩

theorem Phrase.exists_arranged (p : Phrase) (sound : ∀ a ∈ p.head :: p.args, a.Sound) :
    ∃ s ts, p.Arranged s ∧ s.Reads ts ∧ ∀ t ∈ ts, t.Writable := by
  let items := p.args.map Item.arg ++ p.input.toList.map .input ++ p.output.toList.map .output
  have args : items.filterMap Item.arg? = p.args := by
    simp only [items, List.filterMap_append, List.filterMap_map]
    cases p.input <;> cases p.output <;> simp [Function.comp_def, Item.arg?]
  have arranged : p.Arranged ⟨p.head, items⟩ := by
    refine ⟨rfl, args, ?_, ?_⟩
    · simp only [items, List.filterMap_append, List.filterMap_map]
      cases p.input <;> cases p.output <;> simp [Function.comp_def, Item.input?]
    · simp only [items, List.filterMap_append, List.filterMap_map]
      cases p.input <;> cases p.output <;> simp [Function.comp_def, Item.output?]
  obtain ⟨ts, all, writable⟩ := Item.exists_reads items fun a member =>
    sound a (List.mem_cons_of_mem p.head (args ▸ member))
  have head := Token.writable_token (sound p.head List.mem_cons_self)
  exact ⟨_, _, arranged, .mk p.head.arg?_token all, List.forall_mem_cons.2 ⟨head, writable⟩⟩

theorem Phrase.exists_allRead {phrases : List Phrase} (nonempty : phrases ≠ [])
    (sound : ∀ p ∈ phrases, ∀ a ∈ p.head :: p.args, a.Sound) :
    ∃ segments us, List.Forall₂ Phrase.Arranged phrases segments ∧ Segment.AllRead segments us ∧
      ∀ t ∈ us, t.Writable := by
  induction phrases with
  | nil => exact absurd rfl nonempty
  | cons p phrases ih =>
    obtain ⟨s, ts, arranged, reads, writable⟩ := p.exists_arranged (sound p List.mem_cons_self)
    cases phrases with
    | nil => exact ⟨[s], ts, .cons arranged .nil, .last reads, writable⟩
    | cons q phrases =>
      obtain ⟨segments, us, more, all, others⟩ := ih (List.cons_ne_nil q phrases) fun r member =>
        sound r (List.mem_cons_of_mem p member)
      refine ⟨s :: segments, _, .cons arranged more, .bar reads all, fun t member => ?_⟩
      rcases List.mem_append.1 member with here | later
      · exact writable t here
      · rcases List.mem_cons.1 later with rfl | later
        · exact Token.writable_operators.1
        · exact others t later

theorem Description.Sound.renders {d : Description} (sound : d.Sound) : ∃ text, d.Renders text := by
  obtain ⟨segments, us, arranged, all, writable⟩ := Phrase.exists_allRead sound.staged sound.args
  have begun : us ++ Token.mark d.background ≠ [] := by simp [all.ne_nil.2]
  have marked : ∀ t ∈ us ++ Token.mark d.background, t.Writable := by
    intro t member
    rcases List.mem_append.1 member with here | final
    · exact writable t here
    · obtain rfl : t = .background := by
        unfold Token.mark at final
        split at final <;> simp_all
      exact Token.writable_operators.2.2.2
  obtain ⟨cs, spaced⟩ := Token.exists_spaced begun marked
  refine ⟨String.ofList cs, _, ⟨segments, us, arranged, all, rfl⟩, ?_⟩
  rwa [String.toList_ofList]

/-! ## What is read was described -/

namespace Token

theorem Spelling.sound {t : Token} {cs rest : List Char} {a : Arg} (spelling : Spelling t cs rest)
    (arg : t.arg? = some a) : a.Sound := by
  cases spelling with
  | operator eq =>
    unfold operator? at eq
    split at eq <;> cases eq <;> cases arg
  | quoted =>
    cases arg
    trivial
  | parameter named made =>
    cases arg
    rw [Arg.Sound, String.toList_ofList]
    exact ⟨named, made⟩
  | @word c cs rest made unnamed =>
    cases arg
    rw [Arg.Sound, String.toList_ofList]
    refine ⟨List.cons_ne_nil c cs, fun d member => ?_, fun d later eq => ?_⟩
    · exact not_or.1 fun ends => made d member (endsWord_iff.2 ends)
    · obtain ⟨rfl, rfl⟩ := List.cons.inj eq
      exact unnamed rfl d rfl

theorem Spelled.sound {ts : List Token} {cs : List Char} (spelled : Spelled ts cs) :
    ∀ t ∈ ts, ∀ a, t.arg? = some a → a.Sound := by
  induction spelled with
  | nil => simp
  | blank _ _ ih => exact ih
  | token spelling _ ih => exact List.forall_mem_cons.2 ⟨fun _ => spelling.sound, ih⟩

end Token

theorem ItemsTokens.exists_allRead {ts : List Token} (derived : ItemsTokens ts) :
    ∃ items, Item.AllRead items ts := by
  induction derived with
  | nil => exact ⟨[], .nil⟩
  | cons item _ ih =>
    obtain ⟨i, reads⟩ := itemTokens_iff.1 item
    obtain ⟨items, all⟩ := ih
    exact ⟨i :: items, .cons reads all⟩

theorem StageTokens.exists_reads {ts : List Token} (derived : StageTokens ts) :
    ∃ s : Segment, s.Reads ts := by
  obtain ⟨head, items⟩ := derived
  obtain ⟨a, arg⟩ := argToken_iff.1 head
  obtain ⟨items, all⟩ := items.exists_allRead
  exact ⟨⟨a, items⟩, .mk arg all⟩

theorem StagesTokens.exists_allRead {ts : List Token} (derived : StagesTokens ts) :
    ∃ segments, Segment.AllRead segments ts := by
  induction derived with
  | last stage =>
    obtain ⟨s, reads⟩ := stage.exists_reads
    exact ⟨[s], .last reads⟩
  | bar stage _ ih =>
    obtain ⟨s, reads⟩ := stage.exists_reads
    obtain ⟨segments, all⟩ := ih
    exact ⟨s :: segments, .bar reads all⟩

theorem LineTokens.exists_allRead {ts : List Token} (derived : LineTokens ts) :
    ∃ segments us background, Segment.AllRead segments us ∧ ts = us ++ Token.mark background := by
  cases derived with
  | foreground stages =>
    obtain ⟨segments, all⟩ := stages.exists_allRead
    exact ⟨segments, ts, false, all, (List.append_nil ts).symm⟩
  | @background us stages =>
    obtain ⟨segments, all⟩ := stages.exists_allRead
    exact ⟨segments, us, true, all, rfl⟩

theorem Item.AllRead.args {items : List Item} {ts : List Token} (all : AllRead items ts) :
    ∀ a ∈ items.filterMap arg?, ∃ t ∈ ts, t.arg? = some a := by
  induction all with
  | nil => simp
  | @cons item items ts us reads _ ih =>
    intro a member
    obtain ⟨other, listed, arg⟩ := List.mem_filterMap.1 member
    rcases List.mem_cons.1 listed with rfl | listed
    · cases reads <;> cases arg
      exact ⟨_, List.mem_cons_self, by assumption⟩
    · obtain ⟨t, there, same⟩ := ih a (List.mem_filterMap.2 ⟨other, listed, arg⟩)
      exact ⟨t, List.mem_append_right ts there, same⟩

theorem Segment.Reads.args {s : Segment} {ts : List Token} (reads : s.Reads ts) :
    ∀ a ∈ s.head :: s.args, ∃ t ∈ ts, t.arg? = some a := by
  obtain @⟨t, b, items, ts, head, all⟩ := reads
  intro a member
  rcases List.mem_cons.1 member with rfl | member
  · exact ⟨t, List.mem_cons_self, head⟩
  · obtain ⟨u, there, arg⟩ := all.args a member
    exact ⟨u, List.mem_cons_of_mem t there, arg⟩

theorem Segment.AllRead.args {segments : List Segment} {us : List Token}
    (all : AllRead segments us) :
    ∀ s ∈ segments, ∀ a ∈ s.head :: s.args, ∃ t ∈ us, t.arg? = some a := by
  induction all with
  | last reads => simpa using reads.args
  | @bar s rest ts us reads _ ih =>
    intro other member a listed
    rcases List.mem_cons.1 member with rfl | member
    · obtain ⟨t, there, arg⟩ := reads.args a listed
      exact ⟨t, List.mem_append_left _ there, arg⟩
    · obtain ⟨t, there, arg⟩ := ih other member a listed
      exact ⟨t, List.mem_append_right ts (List.mem_cons_of_mem _ there), arg⟩

namespace Line

theorem description_of_parse {text : String} {line : Line} (found : parse text = .ok line)
    (begun : ¬line.isEmpty) : ∃ (d : Description) (stages : List (List Nat)),
      d.Sound ∧ line.layout = .ok stages ∧ stages.map line.words = d.nodes := by
  obtain ⟨ts, lexed, derived⟩ := parse_ok_iff.1 ⟨line, found⟩
  have holds := holds_of_parse found lexed
  have nonempty : ts ≠ [] := fun empty => begun (holds.isEmpty_iff.2 (Token.lineNodes_eq_nil.2 empty))
  obtain ⟨segments, us, background, all, rfl⟩ := (derived.resolve_left nonempty).exists_allRead
  obtain ⟨stages, threaded, words⟩ := holds
  refine ⟨⟨segments.map Segment.phrase, background⟩, stages, ⟨?_, ?_⟩, threaded.layout_eq, ?_⟩
  · simp [all.ne_nil.1]
  · intro p member a listed
    obtain ⟨s, there, rfl⟩ := List.mem_map.1 member
    obtain ⟨t, among, arg⟩ := all.args s there a listed
    exact (Token.lex_eq_iff.1 lexed).sound t (List.mem_append_left _ among) a arg
  · rw [words, all.lineNodes, Segment.allNodes_phrase]
    rfl

/-- However a description is written, it is read as what it says. A sound description can be written,
no text can be written for two, and a line that was read and is not empty comes from a sound one. -/
theorem parse_renders :
    (∀ (d : Description) (text : String), d.Renders text → ∃ line stages,
      parse text = .ok line ∧ line.layout = .ok stages ∧ stages.map line.words = d.nodes) ∧
    (∀ d : Description, d.Sound → ∃ text, d.Renders text) ∧
    (∀ (d e : Description) (text : String), d.Renders text → e.Renders text → d = e) ∧
    ∀ text line, parse text = .ok line → ¬line.isEmpty →
      ∃ (d : Description) (stages : List (List Nat)),
        d.Sound ∧ line.layout = .ok stages ∧ stages.map line.words = d.nodes := by
  refine ⟨fun d text renders => renders.parse, fun d sound => sound.renders,
    fun d e text first second => first.unique second,
    fun text line found begun => description_of_parse found begun⟩

end Line
end PipeShell
