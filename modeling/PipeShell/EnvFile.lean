import PipeShell.Environment
import PipeShell.Text.Alphanumeric
import PipeShell.Text.Blank

/-!
# Files of settings

Files that hold settings for the environment, one to a line: a name, an equals sign and a value. The
word `export` may stand before the name. Empty lines and those that begin with a number sign say
nothing.

Inside a value single quotes keep everything, and double quotes keep blanks. A backslash stands
before a quote, a backslash, a dollar sign or a blank, and before `n` for a line feed. A dollar sign
asks for the value of a name in the environment as it is by then; the name may stand between braces.
After a blank outside of quotes only a comment may follow.
-/

namespace PipeShell.EnvFile
open Text (isBlank isAlphanumeric)

inductive Quote where
  | none | single | double
deriving DecidableEq, Repr

inductive Expecting where
  | text
  | escaped
  | name (begun : String)
  | braced (begun : String)
  | blank
  | comment
deriving DecidableEq, Repr

structure Reading where
  value : String := ""
  quote : Quote := .none
  expecting : Expecting := .text
deriving DecidableEq, Repr

namespace Reading

def add (r : Reading) (text : String) : Reading := { r with value := r.value ++ text }

def expect (r : Reading) (e : Expecting) : Reading := { r with expecting := e }

def substitute (env : Environment) (r : Reading) (name : String) : Reading :=
  (r.add (env.search name)).expect .text

def unescape (c : Char) : Option String :=
  if c ∈ ['\\', '\x27', '"', '$', ' '] then some c.toString
  else if c = 'n' then some "\n"
  else none

def step (env : Environment) (r : Reading) (c : Char) : Option Reading :=
  match r.expecting with
  | .comment => some r
  | .blank =>
    if c = ' ' || c = '\t' then some r
    else if c = '#' then some (r.expect .comment)
    else none
  | .escaped => (unescape c).map fun text => (r.add text).expect .text
  | .name begun =>
    if isAlphanumeric c then some (r.expect (.name (begun.push c)))
    else if c = '\x7b' && begun = "" then some (r.expect (.braced ""))
    else
      let r := r.substitute env begun
      if c = '$' then some (r.expect (.name "")) else some (r.add c.toString)
  | .braced begun =>
    if c = '\x7d' then some (r.substitute env begun)
    else some (r.expect (.braced (begun.push c)))
  | .text =>
    match r.quote with
    | .single => if c = '\x27' then some { r with quote := .none } else some (r.add c.toString)
    | .double =>
      if c = '$' then some (r.expect (.name ""))
      else if c = '"' then some { r with quote := .none }
      else if c = '\\' then some (r.expect .escaped)
      else some (r.add c.toString)
    | .none =>
      if c = '$' then some (r.expect (.name ""))
      else if c = '\x27' then some { r with quote := .single }
      else if c = '"' then some { r with quote := .double }
      else if c = '\\' then some (r.expect .escaped)
      else if c = ' ' || c = '\t' then some (r.expect .blank)
      else some (r.add c.toString)

def finish (env : Environment) (r : Reading) : Option String :=
  if r.quote ≠ .none then none
  else
    match r.expecting with
    | .braced _ => none
    | .name begun => some (r.substitute env begun).value
    | _ => some r.value

end Reading

def parseValue (env : Environment) (cs : List Char) : Option String :=
  (cs.foldlM (Reading.step env) {}).bind (Reading.finish env)

def isNameStart (c : Char) : Bool := c.isAlpha || c == '_'

def isNamePart (c : Char) : Bool := c.isAlphanum || c == '_' || c == '.'

def parseName (cs : List Char) : Option (String × List Char) :=
  match cs with
  | c :: _ =>
    if isNameStart c then
      some (String.ofList (cs.takeWhile isNamePart),
        (cs.dropWhile isNamePart).dropWhile isBlank)
    else none
  | [] => none

def afterEquals : List Char → Option (List Char)
  | '=' :: cs => some (cs.dropWhile isBlank)
  | _ => none

inductive Entry where
  | nothing
  | setting (name value : String)
deriving DecidableEq, Repr

def isSilent (cs : List Char) : Bool := cs.isEmpty || cs.head? == some '#'

def parseSetting (env : Environment) (cs : List Char) : Option Entry := do
  let (name, rest) ← parseName cs
  let (name, rest) ← match afterEquals rest with
    | some rest => some (name, rest)
    | none =>
      if name = "export" then do
        let (name, rest) ← parseName rest
        some (name, ← afterEquals rest)
      else none
  let value ← if isSilent rest then some "" else parseValue env rest
  some (.setting name value)

def parseLine (env : Environment) (line : String) : Option Entry :=
  let cs := (line.toList.reverse.dropWhile isBlank).reverse.dropWhile isBlank
  if isSilent cs then some .nothing else parseSetting env cs

/-- Adds the settings of lines to an environment, up to the first line that is malformed or no text.
What the environment has already is kept. -/
def load : List (Option String) → Environment → Environment
  | [], env => env
  | none :: _, env => env
  | some line :: rest, env =>
    match parseLine env line with
    | none => env
    | some .nothing => load rest env
    | some (.setting name value) =>
      load rest (if (env.get? name).isSome then env else env.set name value)

end PipeShell.EnvFile
