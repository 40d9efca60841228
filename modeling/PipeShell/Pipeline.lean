import PipeShell.Token

/-!
# Written pipelines

A line as it is written: stages between bars, each a command word followed by arguments and
redirections, and perhaps a final ampersand. Reading goes through the tokens from left to right and
reports the first place where no such line can go on. A fault of the lexer counts at the place after
the last token.
-/

namespace PipeShell

inductive Arg where
  | word (text : String)
  | quoted (text : String)
  | parameter (name : String)
deriving DecidableEq, Repr

inductive Item where
  | arg (a : Arg)
  | input (path : String)
  | output (path : String)
deriving DecidableEq, Repr

def Item.arg? : Item → Option Arg
  | arg a => some a
  | _ => none

def Item.input? : Item → Option String
  | input path => some path
  | _ => none

def Item.output? : Item → Option String
  | output path => some path
  | _ => none

structure Segment where
  head : Arg
  items : List Item
deriving DecidableEq, Repr

namespace Segment

def push (s : Segment) (item : Item) : Segment :=
  { s with items := s.items ++ [item] }

def args (s : Segment) : List Arg := s.items.filterMap Item.arg?

/-- Of several redirections in one direction the last one counts. -/
def input (s : Segment) : Option String := (s.items.filterMap Item.input?).getLast?

def output (s : Segment) : Option String := (s.items.filterMap Item.output?).getLast?

end Segment

structure Pipeline where
  stages : List Segment
  background : Bool
deriving DecidableEq, Repr

namespace Token

def arg? : Token → Option Arg
  | word text => some (.word text)
  | quoted text => some (.quoted text)
  | parameter name => some (.parameter name)
  | _ => none

def target? : Token → Option String
  | word text => some text
  | quoted text => some text
  | _ => none

end Token

namespace Pipeline

/-- Looking at the next token fails if the lexer stopped there with a fault. -/
def reach (fault : Option ReadFault) (ts : List Token) : Except ReadFault Unit :=
  match ts, fault with
  | [], some f => .error f
  | _, _ => .ok ()

def cons (stage : Segment) (p : Pipeline) : Pipeline :=
  { p with stages := stage :: p.stages }

def continueFrom (fault : Option ReadFault) (stage : Segment) :
    List Token → Except ReadFault Pipeline
  | [] => .ok ⟨[stage], false⟩
  | [.background] => do
    reach fault []
    .ok ⟨[stage], true⟩
  | .background :: _ :: _ => .error .textAfterBackground
  | .pipe :: ts => do
    reach fault ts
    match ts with
    | [] => .error .missingCommand
    | t :: ts =>
      match t.arg? with
      | none => .error .missingCommand
      | some a => do
        reach fault ts
        (continueFrom fault ⟨a, []⟩ ts).map (cons stage)
  | .input :: ts => do
    reach fault ts
    match ts with
    | [] => .error .missingTarget
    | t :: ts =>
      match t.target? with
      | none => .error .missingTarget
      | some path => do
        reach fault ts
        continueFrom fault (stage.push (.input path)) ts
  | .output :: ts => do
    reach fault ts
    match ts with
    | [] => .error .missingTarget
    | t :: ts =>
      match t.target? with
      | none => .error .missingTarget
      | some path => do
        reach fault ts
        continueFrom fault (stage.push (.output path)) ts
  | .word text :: ts => do
    reach fault ts
    continueFrom fault (stage.push (.arg (.word text))) ts
  | .quoted text :: ts => do
    reach fault ts
    continueFrom fault (stage.push (.arg (.quoted text))) ts
  | .parameter name :: ts => do
    reach fault ts
    continueFrom fault (stage.push (.arg (.parameter name))) ts

def ofLexed (l : Lexed) : Except ReadFault Pipeline := do
  reach l.fault l.tokens
  match l.tokens with
  | [] => .ok ⟨[], false⟩
  | t :: ts =>
    match t.arg? with
    | none => .error .missingCommand
    | some a => do
      reach l.fault ts
      continueFrom l.fault ⟨a, []⟩ ts

def parse (text : String) : Except ReadFault Pipeline :=
  ofLexed (Token.lex text.toList)

end Pipeline
end PipeShell
