import PipeShell.Machine.Script.Syntax

/-!
# Reading words

The text of a script is read character by character. It may come in pieces: when a piece does not
suffice, reading stops and begins again with a longer one. In front of most characters a backslash and
the line feed behind it are passed over.

What stands in a command substitution is read by the reader of commands, which is given here as
`inner`.
-/

namespace PipeShell.Machine.Script

/-- A document that is still to be read: its number, the line that ends it, whether tabs in front of
its lines are dropped, and whether it is expanded. -/
structure Awaited where
  number : Nat
  ending : List Char
  dropsTabs : Bool
  expanded : Bool
deriving Inhabited

inductive Halt where
  | more
  | refused (line : Nat) (text : Octets)

/-- An alias whose value is being read, so that it is not replaced again. -/
structure ActiveAlias where
  name : Octets
  behind : Nat
  goesOn : Bool
deriving Inhabited

structure ReaderState where
  rest : List Char
  complete : Bool
  line : Nat := 1
  token : Token := .eof
  again : Bool := false
  word : Word := []
  quoted : Bool := false
  redirection : Option Redirection := none
  document : Option Awaited := none
  wantsKeyword : Bool := false
  skipsNewlines : Bool := false
  wantsAlias : Bool := false
  wantsEnding : Bool := false
  awaited : List Awaited := []
  inside : Option Awaited := none
  documents : Array Word := #[]
  aliases : List (Octets × Octets) := []
  active : List ActiveAlias := []

abbrev Reading (α : Type) := StateT ReaderState (Except Halt) α

namespace Reading

def refuse {α : Type} (text : Octets) : Reading α := do
  throw (.refused (← get).line text)

def countLine : Reading Unit := modify fun s => { s with line := s.line + 1 }

def next : Reading (Option Char) := do
  let s ← get
  match s.rest with
  | c :: rest => set { s with rest }; return some c
  | [] => if s.complete then return none else throw .more

def unread (c : Option Char) : Reading Unit :=
  modify fun s => { s with rest := c.toList ++ s.rest }

def nextJoinedWithin : Nat → Reading (Option Char)
  | 0 => next
  | times + 1 => do
    match ← next with
    | some '\\' =>
      match ← next with
      | some '\n' => countLine; nextJoinedWithin times
      | c => unread c; return some '\\'
    | c => return c

def nextJoined : Reading (Option Char) := do nextJoinedWithin (← get).rest.length

def run (holds : Char → Bool) : Nat → List Char → Reading (List Char)
  | 0, done => return done.reverse
  | steps + 1, done => do
    match ← nextJoined with
    | some c => if holds c then run holds steps (c :: done) else unread (some c); return done.reverse
    | none => return done.reverse

end Reading

open Reading

/-! ## Documents -/

def atEnding? (ending : List Char) (s : ReaderState) : Option (Option (List Char)) :=
  if ending.isPrefixOf s.rest then
    match s.rest.drop ending.length with
    | '\n' :: rest => some (some rest)
    | _ :: _ => some none
    | [] => if s.complete then some (some []) else none
  else if s.rest.length ≤ ending.length && s.rest.isPrefixOf ending && !s.complete then none
  else some none

def lineStart (a : Awaited) : Reading Bool := do
  if a.dropsTabs then
    modify fun s => { s with rest := s.rest.dropWhile (· = '\t') }
  let s ← get
  if s.rest.isEmpty && s.complete then return true
  match atEnding? a.ending s with
  | none => throw .more
  | some (some rest) => set { s with rest, line := s.line + 1 }; return true
  | some none => return false

/-- Goes to the next line. The flag tells that a document whose text is read ends there. -/
def crossLine : Reading Bool := do
  countLine
  match (← get).inside with
  | some a => lineStart a
  | none => return false

def plainDocument (a : Awaited) : Nat → Bool → Word → Reading Word
  | 0, _, done => return done
  | steps + 1, isStart, done => do
    if isStart then
      if ← lineStart a then return done
    match ← next with
    | none => return done
    | some '\n' => countLine; plainDocument a steps true (.char '\n' true :: done)
    | some c => plainDocument a steps false (.char c true :: done)

/-! ## Words -/

inductive QuotedEnd where
  | quote
  | brace
  | document
deriving DecidableEq

def missingBrace : Octets := "Syntax error: Missing \x27\x7d\x27"

def missingParentheses : Octets := "Syntax error: Missing \x27))\x27"

def endsWord (c : Char) : Bool := " \t\n;&|<>()".contains c

def singleQuoted : Nat → Word → Reading Word
  | 0, done => return done
  | steps + 1, done => do
    match ← next with
    | none => refuse "Syntax error: Unterminated quoted string"
    | some '\x27' => return done
    | some c =>
      if c = '\n' then
        if ← crossLine then refuse missingBrace
      singleQuoted steps (.char c true :: done)

def backquotedText (quoted : Bool) : Nat → List Char → Reading (List Char)
  | 0, done => return done
  | steps + 1, done => do
    match ← nextJoined with
    | none => refuse "Syntax error: EOF in backquote substitution"
    | some '`' => return done
    | some '\\' =>
      match ← next with
      | none => refuse "Syntax error: EOF in backquote substitution"
      | some c =>
        let dropped := c = '\\' || c = '`' || c = '$' || (quoted && c = '"')
        backquotedText quoted steps (if dropped then c :: done else c :: '\\' :: done)
    | some c =>
      if c = '\n' then countLine
      backquotedText quoted steps (c :: done)

def backquoted (inner : Reading (Option Tree)) (quoted : Bool) : Reading Part := do
  let text := (← backquotedText quoted (2 * (← get).rest.length + 2) []).reverse
  let s ← get
  set { s with rest := text, complete := true, line := 1, again := false, awaited := [], inside := none }
  let body ← inner
  let documents := (← get).documents
  set { s with documents, again := false }
  return .command body quoted

def unexpected {α : Type} (expected : Option Token) : Reading α := do
  let found := (← get).token.text ++ " unexpected"
  match expected with
  | some token => refuse ("Syntax error: " ++ found ++ " (expecting " ++ token.text ++ ")")
  | none => refuse ("Syntax error: " ++ found)

def parenthesized (inner : Reading (Option Tree)) (quoted : Bool) : Reading Part := do
  let outside ← get
  set { outside with again := false, awaited := [], inside := none }
  let body ← inner
  if (← get).token ≠ .close then unexpected (some .close)
  modify fun s =>
    { s with again := false, awaited := outside.awaited, inside := outside.inside,
             quoted := outside.quoted }
  return .command body quoted

def readTreatment (first : Option Char) : Reading (Treatment × Bool) := do
  let byMark (c : Option Char) : Option Treatment :=
    match c with
    | some '-' => some .orElse
    | some '+' => some .andThen
    | some '?' => some .orFail
    | some '=' => some .orAssign
    | _ => none
  match first with
  | some '\x7d' => return (.plain, false)
  | some ':' =>
    let c ← nextJoined
    return ((byMark c).getD .bad, true)
  | some c =>
    if c = '%' || c = '#' then
      let second ← nextJoined
      if second ≠ some c then unread second
      return (.trim (if c = '#' then .front else .back) (second = some c), false)
    else return ((byMark first).getD .bad, false)
  | none => return (.bad, false)

def readParameter (steps : Nat) : Reading (Octets × Treatment × Bool) := do
  let name (c : Char) : Reading Octets := do
    let holds := if c.isDigit then Char.isDigit else isNameChar
    return String.ofList (← run holds steps [c])
  let treated (name : Octets) : Reading (Octets × Treatment × Bool) := do
    let (treatment, nonempty) ← readTreatment (← nextJoined)
    return (name, treatment, nonempty)
  let c ← nextJoined
  match c with
  | none => return ("", .bad, false)
  | some '\x7d' => unread c; return ("", .bad, false)
  | some '#' =>
    let second ← nextJoined
    match second with
    | some d =>
      let measured (name : Octets) : Reading (Octets × Treatment × Bool) := do
        let third ← nextJoined
        if third = some '\x7d' then return (name, .length, false)
        else unread third; return (name, .bad, false)
      if isNameChar d then measured (← name d)
      else
        let third ← nextJoined
        if d = '\x7d' || third ≠ some '\x7d' then
          unread third
          -- The number of parameters, with what follows.
          let (treatment, nonempty) ← readTreatment second
          return ("#", treatment, nonempty)
        else if isSpecialParameter d then return (d.toString, .length, false)
        else unread third; return ("", .bad, false)
    | none => return ("", .bad, false)
  | some c =>
    if isNameChar c then treated (← name c)
    else if isSpecialParameter c then treated c.toString
    else return ("", .bad, false)

mutual

def openText (inner : Reading (Option Tree)) : Nat → Bool → Word → Reading Word
  | 0, _, done => return done
  | steps + 1, inBrace, done => do
    let c ← nextJoined
    match c with
    | none => if inBrace then refuse missingBrace else return done
    | some '\\' =>
      modify fun s => { s with quoted := true }
      match ← next with
      | none => openText inner steps inBrace (.char '\\' true :: done)
      | some c => openText inner steps inBrace (.char c true :: done)
    | some '\x27' =>
      modify fun s => { s with quoted := true }
      let done ← singleQuoted (← get).rest.length.succ (.mark :: done)
      openText inner steps inBrace (.mark :: done)
    | some '"' =>
      modify fun s => { s with quoted := true }
      let done ← quotedText inner steps .quote false (.mark :: done)
      openText inner steps inBrace (.mark :: done)
    | some '$' =>
      let part ← substitution inner steps false
      openText inner steps inBrace (part :: done)
    | some '`' =>
      if (← get).wantsEnding then
        modify fun s => { s with quoted := true }
        openText inner steps inBrace (.char '`' false :: done)
      else
        let part ← backquoted inner false
        openText inner steps inBrace (part :: done)
    | some c =>
      if inBrace then
        if c = '\x7d' then return done
        if c = '\n' then
          if ← crossLine then refuse missingBrace
        openText inner steps inBrace (.char c false :: done)
      else if endsWord c then unread (some c); return done
      else openText inner steps inBrace (.char c false :: done)

def quotedText (inner : Reading (Option Tree)) : Nat → QuotedEnd → Bool → Word → Reading Word
  | 0, _, _, done => return done
  | steps + 1, ending, inside, done => do
    let c ← nextJoined
    match c with
    | none =>
      match ending with
      | .document => return done
      | _ =>
        refuse (if (← get).inside.isSome then missingBrace
                else "Syntax error: Unterminated quoted string")
    | some '\\' =>
      match ← next with
      | none => quotedText inner steps ending inside (.char '\\' true :: done)
      | some c =>
        let dropped := match c, ending with
          | '\\', _ | '`', _ | '$', _ => true
          | '"', .document => false
          | '"', _ => true
          | '\x7d', .brace => true
          | _, _ => false
        let done := if dropped then done else .char '\\' true :: done
        quotedText inner steps ending inside (.char c true :: done)
    | some '"' =>
      match ending with
      | .quote => return done
      | .document => quotedText inner steps ending inside (.char '"' true :: done)
      | .brace =>
        let done := if (← get).inside.isSome then done else .mark :: done
        quotedText inner steps ending (!inside) done
    | some '$' =>
      let part ← substitution inner steps true
      quotedText inner steps ending inside (part :: done)
    | some '`' =>
      let part ← backquoted inner true
      quotedText inner steps ending inside (part :: done)
    | some '\n' =>
      let done : Word := .char '\n' true :: done
      if ← crossLine then
        if ending = .document then return done else refuse missingBrace
      quotedText inner steps ending inside done
    | some c =>
      match ending with
      | .brace =>
        if c = '\x7d' && !inside then return done
        quotedText inner steps ending inside (.char c true :: done)
      | _ => quotedText inner steps ending inside (.char c true :: done)

def arithmeticText (inner : Reading (Option Tree)) : Nat → Nat → Word → Reading Word
  | 0, _, done => return done
  | steps + 1, depth, done => do
    let c ← nextJoined
    match c with
    | none => refuse missingParentheses
    | some '\\' =>
      match ← next with
      | none => arithmeticText inner steps depth (.char '\\' true :: done)
      | some c =>
        let dropped := c = '\\' || c = '`' || c = '$' || c = '"'
        let done := if dropped then done else .char '\\' true :: done
        arithmeticText inner steps depth (.char c true :: done)
    | some '$' =>
      let part ← substitution inner steps true
      arithmeticText inner steps depth (part :: done)
    | some '`' =>
      let part ← backquoted inner true
      arithmeticText inner steps depth (part :: done)
    | some '(' => arithmeticText inner steps (depth + 1) (.char '(' true :: done)
    | some ')' =>
      if 0 < depth then arithmeticText inner steps (depth - 1) (.char ')' true :: done)
      else
        match ← nextJoined with
        | some ')' => return done
        | c =>
          unread c
          arithmeticText inner steps depth (.char ')' true :: done)
    | some c =>
      if c = '\n' then
        if ← crossLine then refuse missingParentheses
      arithmeticText inner steps depth (.char c true :: done)

def substitution (inner : Reading (Option Tree)) : Nat → Bool → Reading Part
  | 0, _ => return .mark
  | steps + 1, quoted => do
    let c ← nextJoined
    let dollar : Reading Part := do
      unread c
      return .char '$' quoted
    if (← get).wantsEnding then dollar
    else
      match c with
      | none => dollar
      | some '(' =>
        match ← nextJoined with
        | some '(' =>
          return .arithmetic (← arithmeticText inner steps 0 []).reverse quoted
        | c =>
          unread c
          parenthesized inner quoted
      | some '\x7b' =>
        let (name, treatment, nonempty) ← readParameter (2 * (← get).rest.length)
        let outer ← get
        let word ← match treatment with
          | .plain | .length => pure []
          | .trim _ _ => openText inner steps true []
          | _ => if quoted then quotedText inner steps .brace false []
                 else openText inner steps true []
        modify fun s => { s with quoted := outer.quoted || s.quoted }
        return .parameter name treatment nonempty quoted word.reverse
      | some c =>
        if isNameStart c then
          let name ← run isNameChar (2 * (← get).rest.length) [c]
          return .parameter (String.ofList name) .plain false quoted []
        else if c.isDigit || isSpecialParameter c then
          return .parameter c.toString .plain false quoted []
        else dollar

end

def readDocuments (inner : Reading (Option Tree)) : Reading Unit := do
  let awaited := (← get).awaited
  modify fun s => { s with awaited := [] }
  for a in awaited do
    let steps := 2 * (← get).rest.length + 2
    let word ←
      if !a.expanded then plainDocument a steps true []
      else if ← lineStart a then pure []
      else do
        modify fun s => { s with inside := some a }
        let word ← quotedText inner steps .document false []
        modify fun s => { s with inside := none }
        pure word
    modify fun s => { s with documents := s.documents.setIfInBounds a.number word.reverse }

end PipeShell.Machine.Script
