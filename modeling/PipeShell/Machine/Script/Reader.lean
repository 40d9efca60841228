import PipeShell.Machine.Script.Words

/-!
# Reading commands

A script is read one complete command at a time. A command ends at a line feed, or at the end of the
text.
-/

namespace PipeShell.Machine.Script
open Reading

/-! ## Tokens -/

def given (token : Token) : Reading Token := do
  modify fun s => { s with token }
  return token

def readAgain : Reading Unit := modify fun s => { s with again := true }

def readRedirection (mark : Char) (fd : Option Nat) : Reading Token := do
  let file (usual : Nat) (use : FileUse) : Redirection := .file (fd.getD usual) use []
  let redirection ←
    if mark = '>' then
      match ← nextJoined with
      | some '>' => pure (file 1 .append)
      | some '|' => pure (file 1 .clobber)
      | some '&' => pure (.copyOf (fd.getD 1) [])
      | c => unread c; pure (file 1 .write)
    else
      match ← nextJoined with
      | some '<' => do
        let c ← nextJoined
        if c ≠ some '-' then unread c
        let number := (← get).documents.size
        let document : Awaited := ⟨number, [], c = some '-', true⟩
        modify fun s => { s with document := some document, documents := s.documents.push [] }
        pure (.document (fd.getD 0) number true)
      | some '&' => pure (.copyOf (fd.getD 0) [])
      | some '>' => pure (file 0 .readWrite)
      | c => unread c; pure (file 0 .read)
  modify fun s => { s with redirection := some redirection }
  given .redirection

def readWord (inner : Reading (Option Tree)) : Reading Token := do
  modify fun s => { s with quoted := false }
  let word := (← openText inner (4 * (← get).rest.length + 4) false []).reverse
  let quoted := (← get).quoted
  let c ← next
  let fd? : Option (Option Nat) := match plainText? word with
    | some "" => some none
    | some text => if text.length = 1 then (Octets.decimal? text).map some else none
    | none => none
  match c, fd?, quoted with
  | some '>', some fd, false => readRedirection '>' fd
  | some '<', some fd, false => readRedirection '<' fd
  | _, _, _ =>
    unread c
    modify fun s => { s with word }
    given .word

def skipComment : Nat → Reading Unit
  | 0 => pure ()
  | steps + 1 => do
    match ← next with
    | none => pure ()
    | some '\n' => unread (some '\n')
    | some _ => skipComment steps

def bareTokenWithin (inner : Reading (Option Tree)) : Nat → Reading Token
  | 0 => given .eof
  | steps + 1 => do
    -- One of two tokens, by whether a character stands there twice.
    let either (c : Char) (twice once : Token) : Reading Token := do
      match ← nextJoined with
      | some d => if d = c then given twice else unread (some d); given once
      | none => given once
    match ← nextJoined with
    | none => given .eof
    | some ' ' | some '\t' => bareTokenWithin inner steps
    | some '#' => do
      skipComment ((← get).rest.length + 1)
      bareTokenWithin inner steps
    | some '\n' => do
      countLine
      given .newline
    | some '&' => either '&' .and .ampersand
    | some '|' => either '|' .or .bar
    | some ';' => either ';' .endCase .semicolon
    | some '(' => given .open
    | some ')' => given .close
    | some c => do
      unread (some c)
      readWord inner

def bareToken (inner : Reading (Option Tree)) : Reading Token := do
  let s ← get
  if s.again then
    set { s with again := false }
    return s.token
  else bareTokenWithin inner (s.rest.length + 2)

def tokenBehindNewlines (inner : Reading (Option Tree)) : Nat → Token → Reading Token
  | 0, token => return token
  | times + 1, token => do
    if token = .newline then
      readDocuments inner
      tokenBehindNewlines inner times (← bareToken inner)
    else return token

def replaceAlias (word : Word) : Reading Bool := do
  let s ← get
  let active := s.active.filter (·.behind ≤ s.rest.length)
  match plainText? word with
  | none => return false
  | some name =>
    match s.aliases.lookup name with
    | none => return false
    | some value =>
      if active.any (·.name == name) then return false
      else
        let goesOn := value.endsWith " " || value.endsWith "\t"
        let entry : ActiveAlias := { name, behind := s.rest.length, goesOn }
        set { s with rest := value.toList ++ s.rest, active := entry :: active }
        return true

def readTokenWithin (inner : Reading (Option Tree)) : Nat → Reading Token
  | 0 => given .eof
  | times + 1 => do
    let asked ← get
    let token ← bareToken inner
    let token ←
      if asked.skipsNewlines then tokenBehindNewlines inner (asked.rest.length + 1) token
      else pure token
    let s ← get
    let passed := asked.active.any fun a =>
      a.goesOn && a.behind ≤ asked.rest.length && s.rest.length < a.behind
    set { s with wantsKeyword := false, skipsNewlines := false, wantsAlias := false,
                 wantsEnding := false }
    if token ≠ .word || s.quoted then return token
    let found := if asked.wantsKeyword then (plainText? s.word).bind fun t => keywords.lookup t else none
    match found with
    | some k => given (.keyword k)
    | none =>
      if asked.wantsAlias || passed then
        if ← replaceAlias s.word then
          modify fun s => { s with wantsKeyword := asked.wantsKeyword,
                                   skipsNewlines := asked.skipsNewlines, wantsAlias := true }
          return ← readTokenWithin inner times
      return token

def readToken (inner : Reading (Option Tree)) : Reading Token := do
  readTokenWithin inner ((← get).aliases.length + 2)

def expectCommand (newlines : Bool) : Reading Unit :=
  modify fun s => { s with wantsKeyword := true, wantsAlias := true, skipsNewlines := newlines }

/-! ## Redirections -/

def readTarget (inner : Reading (Option Tree)) : Reading Redirection := do
  let redirection := (← get).redirection.getD default
  let document := (← get).document
  let isDocument : Bool := match redirection with
    | .document _ _ _ => true
    | _ => false
  modify fun s => { s with wantsEnding := isDocument }
  if (← readToken inner) ≠ .word then unexpected none
  let s ← get
  match redirection with
  | .file fd use _ => return .file fd use s.word
  | .copyOf fd _ =>
    match plainText? s.word with
    | some "-" => return .copy fd none
    | some text =>
      match if text.length = 1 then Octets.decimal? text else none with
      | some source => return .copy fd (some source)
      | none => return .copyOf fd s.word
    | none => return .copyOf fd s.word
  | .document fd number _ =>
    let ending := (literalText s.word).toList
    let awaited := { document.getD default with ending, expanded := !s.quoted }
    set { s with awaited := s.awaited ++ [awaited] }
    return .document fd number (!s.quoted)
  | other => return other

/-! ## Commands -/

inductive Extent where
  | line
  | some
  | any
deriving DecidableEq

def specialNames : List String :=
  [".", ":", "break", "continue", "eval", "exec", "exit", "export", "readonly", "return", "set",
    "shift", "times", "trap", "unset"]

def withRedirections (line : Nat) (body : Tree) (redirections : List Redirection) : Tree :=
  if redirections.isEmpty then body
  else
    match body with
    | .subshell line body [] => .subshell line body redirections
    | body => .redirected line body redirections

def inBackground (line : Nat) : Tree → Tree
  | .pipeline _ stages => .pipeline true stages
  | .redirected line body redirections => .background line body redirections
  | .subshell line body redirections => .background line (.subshell line body []) redirections
  | body => .background line body []

def trailing (inner : Reading (Option Tree)) : Nat → List Redirection → Reading (List Redirection)
  | 0, done => return done.reverse
  | steps + 1, done => do
    match ← readToken inner with
    | .redirection => trailing inner steps ((← readTarget inner) :: done)
    | _ =>
      readAgain
      return done.reverse

def loopWords (inner : Reading (Option Tree)) : Nat → List Word → Reading (List Word)
  | 0, done => return done.reverse
  | steps + 1, done => do
    match ← readToken inner with
    | .word => loopWords inner steps ((← get).word :: done)
    | .newline | .semicolon => return done.reverse
    | _ => unexpected none

def casePatterns (inner : Reading (Option Tree)) : Nat → List Word → Reading (List Word)
  | 0, done => return done.reverse
  | steps + 1, done => do
    let word := (← get).word
    match ← readToken inner with
    | .bar =>
      let _ ← readToken inner
      casePatterns inner steps (word :: done)
    | .close => return (word :: done).reverse
    | _ => unexpected (some .close)

structure Gathered where
  assignments : List Word := []
  args : List Word := []
  redirections : List Redirection := []

def allParameters : Word := [.mark, .parameter "@" .plain false true [], .mark]

mutual

def readList : Nat → Extent → Reading (Option Tree)
  | 0, _ => return none
  | steps + 1, extent => listBehind steps extent (extent = .any) none

/-- A list of commands behind one that has been read. The flag tells whether it may end here. -/
def listBehind : Nat → Extent → Bool → Option Tree → Reading (Option Tree)
  | 0, _, _, done => return done
  | steps + 1, extent, mayEnd, done => do
    let inner := readList steps .any
    expectCommand (extent ≠ .line)
    let token ← readToken inner
    match token with
    | .newline =>
      readDocuments inner
      return done
    | .eof =>
      readDocuments inner
      readAgain
      modify fun s => { s with token := .eof }
      return done
    | _ =>
      readAgain
      if extent ≠ .line && mayEnd && token.endsList then return done
      let line := (← get).line
      let command ← readAndOr steps
      let token ← readToken inner
      let command := if token = .ampersand then inBackground line command else command
      let done := match done with
        | some before => Tree.sequence before command
        | none => command
      match token with
      | .eof =>
        readDocuments inner
        readAgain
        modify fun s => { s with token := .eof }
        return some done
      | .newline =>
        readAgain
        listBehind steps extent true (some done)
      | .ampersand | .semicolon => listBehind steps extent true (some done)
      | _ =>
        if extent = .line then unexpected none
        readAgain
        return some done

def readAndOr : Nat → Reading Tree
  | 0 => return default
  | steps + 1 => do
    andOrBehind steps (← readPipeline steps)

def andOrBehind : Nat → Tree → Reading Tree
  | 0, done => return done
  | steps + 1, done => do
    let inner := readList steps .any
    match ← readToken inner with
    | .and =>
      expectCommand true
      andOrBehind steps (.and done (← readPipeline steps))
    | .or =>
      expectCommand true
      andOrBehind steps (.or done (← readPipeline steps))
    | _ =>
      readAgain
      return done

def readPipeline : Nat → Reading Tree
  | 0 => return default
  | steps + 1 => do
    let inner := readList steps .any
    let negated := (← readToken inner) = .keyword .not
    if negated then modify fun s => { s with wantsKeyword := true, wantsAlias := true }
    else readAgain
    let first ← readCommand steps
    let stages ← stagesBehind steps [first]
    readAgain
    let body := if stages.length = 1 then first else Tree.pipeline false stages
    return if negated then .not body else body

def stagesBehind : Nat → List Tree → Reading (List Tree)
  | 0, done => return done.reverse
  | steps + 1, done => do
    let inner := readList steps .any
    match ← readToken inner with
    | .bar =>
      expectCommand true
      stagesBehind steps ((← readCommand steps) :: done)
    | _ => return done.reverse

def readCommand : Nat → Reading Tree
  | 0 => return default
  | steps + 1 => do
    let inner := readList steps .any
    let line := (← get).line
    let expect (k : Keyword) : Reading Unit := do
      if (← readToken inner) ≠ .keyword k then unexpected (some (.keyword k))
    let redirected (body : Tree) : Reading Tree := do
      modify fun s => { s with wantsKeyword := true, wantsAlias := true }
      return withRedirections line body (← trailing inner steps [])
    match ← readToken inner with
    | .keyword .if =>
      let test ← readList steps .some
      expect .then
      let thenPart ← readList steps .some
      let elsePart ← readElse steps
      expect .fi
      redirected (.branch test thenPart elsePart)
    | .keyword .while =>
      let test ← readList steps .some
      expect .do
      let body ← readList steps .some
      expect .done
      redirected (.loop true test body)
    | .keyword .until =>
      let test ← readList steps .some
      expect .do
      let body ← readList steps .some
      expect .done
      redirected (.loop false test body)
    | .keyword .for =>
      let token ← readToken inner
      let s ← get
      let name := (plainText? s.word).getD ""
      if token ≠ .word || s.quoted || !isName name then refuse "Syntax error: Bad for loop variable"
      expectCommand true
      let words ← match ← readToken inner with
        | .keyword .in => loopWords inner steps []
        | .semicolon => pure [allParameters]
        | _ => do
          readAgain
          pure [allParameters]
      expectCommand true
      expect .do
      let body ← readList steps .some
      expect .done
      redirected (.each line name words body)
    | .keyword .case =>
      if (← readToken inner) ≠ .word then unexpected (some .word)
      let word := (← get).word
      expectCommand true
      expect .in
      let cases ← readCases steps []
      redirected (.choice line word cases)
    | .open =>
      let body ← readList steps .some
      if (← readToken inner) ≠ .close then unexpected (some .close)
      redirected (.subshell line body [])
    | .keyword .begin =>
      let body ← readList steps .some
      expect .end
      match body with
      | some body => redirected body
      | none => redirected default
    | .word | .redirection =>
      readAgain
      readSimple steps (← get).line {} true
    | _ => unexpected none

def readElse : Nat → Reading (Option Tree)
  | 0 => return none
  | steps + 1 => do
    let inner := readList steps .any
    match ← readToken inner with
    | .keyword .elif =>
      let test ← readList steps .some
      if (← readToken inner) ≠ .keyword .then then unexpected (some (.keyword .then))
      let thenPart ← readList steps .some
      let elsePart ← readElse steps
      return some (.branch test thenPart elsePart)
    | .keyword .else => readList steps .some
    | _ =>
      readAgain
      return none

def readCases : Nat → List (List Word × Option Tree) → Reading (List (List Word × Option Tree))
  | 0, done => return done.reverse
  | steps + 1, done => do
    let inner := readList steps .any
    let wantPattern : Reading Unit :=
      modify fun s => { s with wantsKeyword := true, skipsNewlines := true }
    wantPattern
    match ← readToken inner with
    | .keyword .esac => return done.reverse
    | token =>
      if token = .open then
        let _ ← readToken inner
      let patterns ← casePatterns inner steps []
      let body ← readList steps .any
      let done := (patterns, body) :: done
      wantPattern
      match ← readToken inner with
      | .keyword .esac => return done.reverse
      | .endCase => readCases steps done
      | _ => unexpected (some .endCase)

def readSimple : Nat → Nat → Gathered → Bool → Reading Tree
  | 0, _, _, _ => return default
  | steps + 1, line, g, leading => do
    let inner := readList steps .any
    modify fun s => { s with wantsAlias := leading }
    match ← readToken inner with
    | .word =>
      let word := (← get).word
      if leading && isAssignment word then
        readSimple steps line { g with assignments := word :: g.assignments } true
      else readSimple steps line { g with args := word :: g.args } false
    | .redirection =>
      let redirection ← readTarget inner
      readSimple steps line { g with redirections := redirection :: g.redirections } leading
    | token =>
      match token, g with
      | .open, ⟨[], [word], []⟩ =>
        if (← readToken inner) ≠ .close then unexpected (some .close)
        let name := (plainText? word).getD ""
        if !isName name || specialNames.contains name then refuse "Syntax error: Bad function name"
        expectCommand true
        return .define name (← readCommand steps)
      | _, _ =>
        readAgain
        return .simple line g.assignments.reverse g.args.reverse g.redirections.reverse

end

/-! ## Scripts -/

inductive Next where
  | command (body : Option Tree) (last : Bool)
  | finished
  | refused (line : Nat) (text : Octets)
  | more

structure Source where
  rest : List Char
  complete : Bool
  line : Nat := 1

def readQuoted? (text : Octets) (aliases : List (Octets × Octets)) (documents : Array Word) :
    Option (Word × Array Word) :=
  let start : ReaderState := { rest := text.toList, complete := true, aliases, documents }
  let steps := 20 * text.length + 100
  match StateT.run (quotedText (readList steps .any) steps .document false []) start with
  | .ok (word, after) => some (word.reverse, after.documents)
  | .error _ => none

def Source.next (s : Source) (aliases : List (Octets × Octets)) (documents : Array Word) :
    Next × Source × Array Word :=
  let start : ReaderState :=
    { rest := s.rest, complete := s.complete, line := s.line, aliases, documents }
  if s.rest.isEmpty && s.complete then (.finished, s, documents)
  else
    match StateT.run (readList (20 * s.rest.length + 100) .line) start with
    | .ok (body, after) =>
      let ended := after.again && after.token = .eof
      let left := { s with rest := after.rest, line := after.line }
      if body.isNone && ended then (.finished, left, after.documents)
      else (.command body ended, left, after.documents)
    | .error .more => (.more, s, documents)
    | .error (.refused line text) => (.refused line text, s, documents)

end PipeShell.Machine.Script
