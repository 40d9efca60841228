import PipeShell.Machine.Octets

/-!
# Scripts

What a script is made of: words, which are to be expanded, and commands. A missing command does
nothing. The text of a document that stands in a script itself is kept apart, under a number.
-/

namespace PipeShell.Machine.Script

/-! ## Names -/

def isNameStart (c : Char) : Bool := c.isAlpha || c = '_'

def isNameChar (c : Char) : Bool := c.isAlphanum || c = '_'

def isName (s : Octets) : Bool :=
  match s.toList with
  | c :: cs => isNameStart c && cs.all isNameChar
  | [] => false

def isSpecialParameter (c : Char) : Bool := "#?$!-*@".contains c

def assignment? (s : Octets) : Option (Octets × Octets) :=
  let name := s.toList.takeWhile isNameChar
  match s.toList.drop name.length with
  | '=' :: value =>
    if isName (String.ofList name) then some (String.ofList name, String.ofList value) else none
  | _ => none

/-! ## Words and commands -/

inductive Side where
  | front | back
deriving DecidableEq, Repr

inductive Treatment where
  | plain
  | length
  | orElse
  | andThen
  | orFail
  | orAssign
  | trim (side : Side) (longest : Bool)
  | bad
deriving DecidableEq, Repr, Inhabited

inductive FileUse where
  | read | write | clobber | append | readWrite
deriving DecidableEq, Repr, Inhabited

mutual

inductive Part where
  | char (c : Char) (quoted : Bool)
  /-- The place of a quotation mark. A word with one is there even if it is empty. -/
  | mark
  | parameter (name : Octets) (treatment : Treatment) (nonempty quoted : Bool) (word : List Part)
  | command (body : Option Tree) (quoted : Bool)
  | arithmetic (word : List Part) (quoted : Bool)

inductive Redirection where
  | file (fd : Nat) (use : FileUse) (name : List Part)
  | copy (fd : Nat) (source : Option Nat)
  | copyOf (fd : Nat) (source : List Part)
  | document (fd : Nat) (number : Nat) (expanded : Bool)

inductive Tree where
  | simple (line : Nat) (assignments args : List (List Part)) (redirections : List Redirection)
  | pipeline (background : Bool) (stages : List Tree)
  | redirected (line : Nat) (body : Tree) (redirections : List Redirection)
  | background (line : Nat) (body : Tree) (redirections : List Redirection)
  | subshell (line : Nat) (body : Option Tree) (redirections : List Redirection)
  | not (body : Tree)
  | and (first second : Tree)
  | or (first second : Tree)
  | sequence (first second : Tree)
  | branch (test thenPart elsePart : Option Tree)
  | loop (positive : Bool) (test body : Option Tree)
  | each (line : Nat) (name : Octets) (words : List (List Part)) (body : Option Tree)
  | choice (line : Nat) (word : List Part) (cases : List (List (List Part) × Option Tree))
  | define (name : Octets) (body : Tree)

end

instance : Inhabited Part := ⟨.mark⟩

instance : Inhabited Redirection := ⟨.copy 0 none⟩

instance : Inhabited Tree := ⟨.pipeline false []⟩

abbrev Word := List Part

def plainText? : Word → Option Octets
  | [] => some ""
  | .char c false :: rest => (plainText? rest).map (c.toString ++ ·)
  | _ => none

def literalText (w : Word) : Octets :=
  String.ofList (w.filterMap fun part => match part with | .char c _ => some c | _ => none)

def isAssignment (w : Word) : Bool :=
  let name := w.takeWhile fun part => match part with | .char c false => isNameChar c | _ => false
  match w.drop name.length with
  | .char '=' false :: _ => isName (literalText name)
  | _ => false

/-! ## Tokens -/

inductive Keyword where
  | not | case | do | done | elif | else | esac | fi | for | if | in | then | until | while | begin
  | end
deriving DecidableEq, Repr, Inhabited

inductive Token where
  | eof | newline | semicolon | ampersand | and | or | bar | open | close | endCase | redirection
  | word
  | keyword (k : Keyword)
deriving DecidableEq, Repr, Inhabited

def keywords : List (String × Keyword) :=
  [("!", .not), ("case", .case), ("do", .do), ("done", .done), ("elif", .elif), ("else", .else),
    ("esac", .esac), ("fi", .fi), ("for", .for), ("if", .if), ("in", .in), ("then", .then),
    ("until", .until), ("while", .while), ("\x7b", .begin), ("\x7d", .end)]

def Keyword.text (k : Keyword) : String :=
  ((keywords.find? (·.2 = k)).map Prod.fst).getD ""

def Token.text : Token → String
  | .eof => "end of file"
  | .newline => "newline"
  | .semicolon => "\";\""
  | .ampersand => "\"&\""
  | .and => "\"&&\""
  | .or => "\"||\""
  | .bar => "\"|\""
  | .open => "\"(\""
  | .close => "\")\""
  | .endCase => "\";;\""
  | .redirection => "redirection"
  | .word => "word"
  | .keyword k => "\"" ++ k.text ++ "\""

def Token.endsList : Token → Bool
  | .eof | .close | .endCase => true
  | .keyword k => k ∈ [.do, .done, .elif, .else, .esac, .fi, .then, .end]
  | _ => false

end PipeShell.Machine.Script
