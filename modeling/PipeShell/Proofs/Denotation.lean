import PipeShell.Proofs.Construction
import PipeShell.Proofs.Grammar

/-!
# What tokens stand for

The nodes that the tokens of a line stand for, said without the reader: a stage for each part between
bars, its words in order, and on its head the last target of each direction. The pipeline that the
reader gives becomes just these nodes (`nodes_of_ofLexed`).
-/

namespace PipeShell

namespace Token

def node? : Token → Option Node
  | word text => some { origin := .word, text := some text }
  | quoted text => some { origin := .quoted, text := some text }
  | parameter name => some { origin := .parameter, name := some name }
  | _ => none

def wordNodes : List Token → List Node
  | .input :: _ :: ts => wordNodes ts
  | .output :: _ :: ts => wordNodes ts
  | t :: ts => t.node?.toList ++ wordNodes ts
  | [] => []

def targets (operator : Token) : List Token → List String
  | t :: u :: ts => if t = operator then u.target?.toList ++ targets operator ts
      else targets operator (u :: ts)
  | _ => []

def headKind : List Token → Kind
  | .word text :: _ => .ofWord text
  | _ => .program

def stageNodes (background : Bool) (ts : List Token) : List Node :=
  match wordNodes ts with
  | [] => []
  | head :: args =>
    { head with
      kind := headKind ts
      input := (targets .input ts).getLast?
      output := (targets .output ts).getLast?
      background } :: args

def stagesNodes (background : Bool) : List (List Token) → List (List Node)
  | [] => []
  | [ts] => [stageNodes background ts]
  | ts :: rest => stageNodes false ts :: stagesNodes background rest

def marked (ts : List Token) : Bool := ts.getLast? = some .background

def unmarked (ts : List Token) : List Token := if marked ts then ts.dropLast else ts

/-- The nodes that the tokens of a line stand for, stage by stage. -/
def lineNodes : List Token → List (List Node)
  | [] => []
  | ts => stagesNodes (marked ts) ((unmarked ts).splitOn .pipe)

end Token

/-! ## Items -/

inductive Item.AllRead : List Item → List Token → Prop
  | nil : AllRead [] []
  | cons {item : Item} {items : List Item} {ts us : List Token} (reads : item.Reads ts)
      (rest : AllRead items us) : AllRead (item :: items) (ts ++ us)

namespace Item
variable {item : Item} {items : List Item} {ts us : List Token}

theorem AllRead.concat (all : AllRead items ts) (reads : item.Reads us) :
    AllRead (items ++ [item]) (ts ++ us) := by
  induction all with
  | nil => simpa using AllRead.cons reads .nil
  | cons first _ ih =>
    rw [List.append_assoc]
    exact .cons first ih

theorem Reads.wordNodes (reads : item.Reads ts) :
    Token.wordNodes (ts ++ us) = (item.arg?.map Node.ofArg).toList ++ Token.wordNodes us := by
  cases reads with
  | @arg t a eq => cases t <;> cases eq <;> rfl
  | input => rfl
  | output => rfl

theorem Reads.inputs (reads : item.Reads ts) :
    Token.targets .input (ts ++ us) = item.input?.toList ++ Token.targets .input us := by
  cases reads with
  | @arg t a eq => cases us <;> cases t <;> cases eq <;> simp [Token.targets, Item.input?]
  | @input t path eq => simp [Token.targets, Item.input?, eq]
  | @output t path eq =>
    cases us <;> cases t <;> cases eq <;> simp [Token.targets, Item.input?]

theorem Reads.outputs (reads : item.Reads ts) :
    Token.targets .output (ts ++ us) = item.output?.toList ++ Token.targets .output us := by
  cases reads with
  | @arg t a eq => cases us <;> cases t <;> cases eq <;> simp [Token.targets, Item.output?]
  | @output t path eq => simp [Token.targets, Item.output?, eq]
  | @input t path eq =>
    cases us <;> cases t <;> cases eq <;> simp [Token.targets, Item.output?]

theorem Reads.plain (reads : item.Reads ts) : .pipe ∉ ts ∧ .background ∉ ts := by
  cases reads with
  | @arg t a eq => cases t <;> cases eq <;> simp
  | @input t path eq => cases t <;> cases eq <;> simp
  | @output t path eq => cases t <;> cases eq <;> simp

theorem AllRead.plain (all : AllRead items ts) : .pipe ∉ ts ∧ .background ∉ ts := by
  induction all with
  | nil => simp
  | cons first _ ih => simp [first.plain, ih]

theorem AllRead.wordNodes (all : AllRead items ts) :
    Token.wordNodes ts = (items.filterMap Item.arg?).map Node.ofArg := by
  induction all with
  | nil => rfl
  | @cons item _ _ _ reads _ ih => rw [reads.wordNodes, ih]; cases item <;> rfl

theorem AllRead.inputs (all : AllRead items ts) :
    Token.targets .input ts = items.filterMap Item.input? := by
  induction all with
  | nil => rfl
  | @cons item _ _ _ reads _ ih => rw [reads.inputs, ih]; cases item <;> rfl

theorem AllRead.outputs (all : AllRead items ts) :
    Token.targets .output ts = items.filterMap Item.output? := by
  induction all with
  | nil => rfl
  | @cons item _ _ _ reads _ ih => rw [reads.outputs, ih]; cases item <;> rfl

end Item

/-! ## Stages -/

inductive Segment.Reads : Segment → List Token → Prop
  | mk {t : Token} {a : Arg} {items : List Item} {ts : List Token} (head : t.arg? = some a)
      (all : Item.AllRead items ts) : Reads ⟨a, items⟩ (t :: ts)

namespace Segment.Reads
variable {s : Segment} {ts : List Token}

theorem push {item : Item} {us : List Token} (reads : s.Reads ts) (more : item.Reads us) :
    (s.push item).Reads (ts ++ us) := by
  obtain ⟨head, all⟩ := reads
  exact .mk head (all.concat more)

theorem plain (reads : s.Reads ts) : .pipe ∉ ts ∧ .background ∉ ts := by
  obtain ⟨head, all⟩ := reads
  simpa [all.plain] using (Item.Reads.arg head).plain

theorem ne_nil (reads : s.Reads ts) : ts ≠ [] := by
  cases reads
  exact List.cons_ne_nil _ _

theorem stageNodes (reads : s.Reads ts) (background : Bool) :
    Token.stageNodes background ts = s.nodes background := by
  obtain @⟨t, a, items, ts, head, all⟩ := reads
  have first := Item.Reads.arg head
  have words : Token.wordNodes (t :: ts) =
      Node.ofArg a :: (items.filterMap Item.arg?).map Node.ofArg := by
    rw [← List.singleton_append, first.wordNodes, all.wordNodes]
    rfl
  have inputs : Token.targets .input (t :: ts) = items.filterMap Item.input? := by
    rw [← List.singleton_append, first.inputs, all.inputs]
    rfl
  have outputs : Token.targets .output (t :: ts) = items.filterMap Item.output? := by
    rw [← List.singleton_append, first.outputs, all.outputs]
    rfl
  rw [Token.stageNodes, words, inputs, outputs]
  cases t <;> cases head <;> rfl

end Segment.Reads

/-! ## Lines -/

namespace Token

theorem lineNodes_single {ts : List Token} (begun : ts ≠ []) (bars : .pipe ∉ ts)
    (marks : .background ∉ ts) : lineNodes ts = [stageNodes false ts] := by
  have unmarked : marked ts = false :=
    decide_eq_false fun final => marks (List.mem_of_getLast? final)
  rw [lineNodes, Token.unmarked, unmarked]
  · simp [List.splitOn_eq_singleton bars, stagesNodes]
  · exact begun

theorem lineNodes_marked {ts : List Token} (bars : .pipe ∉ ts) :
    lineNodes (ts ++ [.background]) = [stageNodes true ts] := by
  have marked : marked (ts ++ [.background]) = true := by simp [marked]
  rw [lineNodes, Token.unmarked, marked]
  · simp [List.splitOn_eq_singleton bars, stagesNodes]
  · simp

theorem lineNodes_bar {ts us : List Token} (bars : .pipe ∉ ts) (more : us ≠ []) :
    lineNodes (ts ++ .pipe :: us) = stageNodes false ts :: lineNodes us := by
  have same : marked (ts ++ .pipe :: us) = marked us := by
    cases us with
    | nil => exact absurd rfl more
    | cons => simp [marked, List.getLast?_append, List.getLast?_cons]
  have rest : unmarked (ts ++ .pipe :: us) = ts ++ .pipe :: unmarked us := by
    rw [unmarked, unmarked, same]
    split
    · rw [List.dropLast_append_of_ne_nil (by simp), List.dropLast_cons_of_ne_nil more]
    · rfl
  rw [lineNodes, lineNodes, same, rest, List.splitOn_append_cons_self_of_not_mem bars]
  · cases later : (unmarked us).splitOn .pipe with
    | nil => exact absurd later (List.splitOn_ne_nil _ _)
    | cons => rfl
  · exact more
  · simp

theorem lineNodes_eq_nil {ts : List Token} : lineNodes ts = [] ↔ ts = [] := by
  cases ts with
  | nil => simp [lineNodes]
  | cons t ts =>
    rw [lineNodes]
    · cases parts : (unmarked (t :: ts)).splitOn .pipe with
      | nil => exact absurd parts (List.splitOn_ne_nil _ _)
      | cons part rest => cases rest <;> simp [stagesNodes]
    · simp

end Token

namespace Pipeline

theorem nodes_of_continueFrom {s : Segment} {before ts : List Token} {p : Pipeline}
    (reads : s.Reads before) (found : continueFrom none s ts = .ok p) :
    p.stages ≠ [] ∧ nodes p.background p.stages = Token.lineNodes (before ++ ts) := by
  induction len : ts.length using Nat.strongRecOn generalizing s before ts p with
  | ind n ih =>
    subst len
    rcases continueFrom_ok found with ⟨rfl, rfl⟩ | ⟨rfl, rfl⟩ |
      ⟨t, a, us, rest, rfl, arg, later, rfl⟩ | ⟨item, us, vs, rfl, more, later⟩
    · refine ⟨List.cons_ne_nil _ _, ?_⟩
      rw [List.append_nil, Token.lineNodes_single reads.ne_nil reads.plain.1 reads.plain.2,
        reads.stageNodes]
      rfl
    · refine ⟨List.cons_ne_nil _ _, ?_⟩
      rw [Token.lineNodes_marked reads.plain.1, reads.stageNodes]
      rfl
    · obtain ⟨begun, same⟩ := ih _ (by grind) (.mk arg .nil) later rfl
      rw [List.singleton_append] at same
      refine ⟨List.cons_ne_nil _ _, ?_⟩
      rw [Token.lineNodes_bar reads.plain.1 (List.cons_ne_nil _ _), reads.stageNodes, ← same]
      cases stages : rest.stages with
      | nil => exact absurd stages begun
      | cons => simp [cons, stages, nodes]
    · rw [← List.append_assoc]
      refine ih _ ?_ (reads.push more) later rfl
      cases more <;> grind

theorem nodes_of_ofLexed {l : Lexed} {p : Pipeline} (found : ofLexed l = .ok p) :
    nodes p.background p.stages = Token.lineNodes l.tokens := by
  obtain ⟨clean, -⟩ := ofLexed_ok_iff.1 ⟨p, found⟩
  obtain ⟨ts, fault⟩ := l
  obtain rfl : fault = none := clean
  cases ts with
  | nil =>
    cases found
    rfl
  | cons t ts =>
    cases arg : t.arg? with
    | none => simp [ofLexed, arg, bind, Except.bind] at found
    | some a =>
      rw [ofLexed_cons arg] at found
      exact (nodes_of_continueFrom (.mk arg .nil) found).2

end Pipeline
end PipeShell
