import PipeShell.Proofs.Denotation
import PipeShell.Proofs.Lexing

/-!
# Reading a line

What reading a line of text gives, from its characters to its linked nodes: just the spelled lines of
the grammar are read (`parse_ok_iff`), and the layout of a line that was read is made of the nodes that
its tokens stand for (`layout_of_parse`).
-/

namespace PipeShell.Line
open Text (isBlank)

theorem parse_eq_ok {text : String} {line : Line} :
    parse text = .ok line ↔ ∃ p, Pipeline.parse text = .ok p ∧ line = ofPipeline p := by
  unfold parse
  cases found : Pipeline.parse text <;> simp [eq_comm]

theorem parse_ok_iff {text : String} :
    (∃ line, parse text = .ok line) ↔
      ∃ ts, Token.lex text.toList = ⟨ts, none⟩ ∧ (ts = [] ∨ LineTokens ts) := by
  have read : (∃ line, parse text = .ok line) ↔ ∃ p, Pipeline.parse text = .ok p := by
    simp only [parse_eq_ok]
    exact ⟨fun ⟨_, p, found, _⟩ => ⟨p, found⟩, fun ⟨p, found⟩ => ⟨_, p, found, rfl⟩⟩
  rw [read, Pipeline.parse, Pipeline.ofLexed_ok_iff]
  obtain ⟨ts, fault⟩ := Token.lex text.toList
  constructor
  · rintro ⟨rfl, line⟩
    exact ⟨ts, rfl, line⟩
  · rintro ⟨_, eq, line⟩
    cases eq
    exact ⟨rfl, line⟩

theorem holds_of_parse {text : String} {line : Line} {ts : List Token} {fault : Option ReadFault}
    (found : parse text = .ok line) (lexed : Token.lex text.toList = ⟨ts, fault⟩) :
    line.Holds (Token.lineNodes ts) := by
  obtain ⟨p, read, rfl⟩ := parse_eq_ok.1 found
  have same := Pipeline.nodes_of_ofLexed read
  rw [lexed] at same
  rw [← same]
  exact holds_ofPipeline p

theorem layout_of_parse {text : String} {line : Line} (found : parse text = .ok line) :
    ∃ ts stages, Token.lex text.toList = ⟨ts, none⟩ ∧ line.layout = .ok stages ∧
      stages.map line.words = Token.lineNodes ts ∧
      stages.flatten.Perm (List.range line.nodes.size) := by
  obtain ⟨ts, lexed, -⟩ := parse_ok_iff.1 ⟨line, found⟩
  obtain ⟨stages, threaded, words⟩ := holds_of_parse found lexed
  refine ⟨ts, stages, lexed, threaded.layout_eq, words, ?_⟩
  rw [List.perm_ext_iff_of_nodup threaded.nodup List.nodup_range]
  simpa using threaded.member

theorem Holds.isEmpty_iff {line : Line} {nodes : List (List Node)} (holds : line.Holds nodes) :
    line.isEmpty ↔ nodes = [] := by
  obtain ⟨stages, threaded, rfl⟩ := holds
  cases stages with
  | nil => simpa [isEmpty] using tour_nil.1 threaded.tour
  | cons stage stages =>
    obtain ⟨id, head, -⟩ := tour_cons.1 threaded.tour
    simp [isEmpty, head]

theorem isEmpty_of_parse_iff {text : String} :
    (∃ line, parse text = .ok line ∧ line.isEmpty) ↔ ∀ c ∈ text.toList, isBlank c := by
  rw [← Token.spelled_nil_iff, ← Token.lex_eq_iff]
  constructor
  · rintro ⟨line, found, empty⟩
    obtain ⟨ts, lexed, -⟩ := parse_ok_iff.1 ⟨line, found⟩
    have nodeless := (holds_of_parse found lexed).isEmpty_iff.1 empty
    rw [lexed, Token.lineNodes_eq_nil.1 nodeless]
  · intro lexed
    obtain ⟨line, found⟩ := parse_ok_iff.2 ⟨_, lexed, .inl rfl⟩
    exact ⟨line, found, (holds_of_parse found lexed).isEmpty_iff.2 rfl⟩

theorem unreadable_of_parse {text : String} {fault : Fault} (refused : parse text = .error fault) :
    ∃ cause, fault = .unreadable cause := by
  unfold parse at refused
  split at refused
  · cases refused
  · exact ⟨_, (Except.error.inj refused).symm⟩

/-- A text is read when it is spelled from its first to its last character as a line of the grammar;
the layout is then what its tokens stand for, and a text that is not read is unreadable. -/
theorem parse_total_correct (text : String) :
    ((∃ line, parse text = .ok line) ↔
      ∃ ts, Token.lex text.toList = ⟨ts, none⟩ ∧ (ts = [] ∨ LineTokens ts)) ∧
    (∀ line, parse text = .ok line → ∃ ts stages, Token.lex text.toList = ⟨ts, none⟩ ∧
      Token.Spelled ts text.toList ∧ line.layout = .ok stages ∧
      stages.map line.words = Token.lineNodes ts ∧
      stages.flatten.Perm (List.range line.nodes.size)) ∧
    ((∃ line, parse text = .ok line ∧ line.isEmpty) ↔ ∀ c ∈ text.toList, isBlank c) ∧
    ∀ fault, parse text = .error fault → ∃ cause, fault = .unreadable cause := by
  refine ⟨parse_ok_iff, fun line found => ?_, isEmpty_of_parse_iff,
    fun fault refused => unreadable_of_parse refused⟩
  obtain ⟨ts, stages, lexed, layout, words, all⟩ := layout_of_parse found
  exact ⟨ts, stages, lexed, Token.lex_eq_iff.1 lexed, layout, words, all⟩

end PipeShell.Line
