import PipeShell.Machine.Tool.Size
import PipeShell.Machine.Tool.Source
import PipeShell.Text.Lines

/-!
# Beginnings

The tool that shows the beginning of each of its sources: so many lines or bytes, or all but so many
at the end. What it has read of a file beyond that it puts back.
-/

namespace PipeShell.Machine.Head

inductive Titles where
  | ifSeveral | never | always
deriving DecidableEq, Repr

structure Form where
  ofLines : Bool := true
  leavesOut : Bool := false
  count : Nat := 10
  titles : Titles := .ifSeveral
  lineEnd : UInt8 := Text.lineFeed
deriving DecidableEq, Repr

/-! ## Options -/

def optionSet : OptionSet where
  short := [('c', .value), ('n', .value)] ++ "qvz0123456789".toList.map fun c => (c, .nothing)
  long := [("bytes", 'c', .value), ("lines", 'n', .value), ("-presume-input-pipe", '\x03', .nothing),
    ("quiet", 'q', .nothing), ("silent", 'q', .nothing), ("verbose", 'v', .nothing),
    ("zero-terminated", 'z', .nothing)]

def parseCount (k : Conventions) (ofLines : Bool) (text : Octets) : Except Refusal Nat :=
  let what := "invalid number of " ++ (if ofLines then "lines" else "bytes") ++ ": " ++ k.quoted text
  match Size.parse text with
  | .ok n => .ok n
  | .error .malformed | .error .badUnit => .error { text := what }
  | .error .tooLarge => .error { text := what ++ ": Value too large for defined data type" }

def Form.add (k : Conventions) (f : Form) (option : Char × Octets) : Except Refusal Form :=
  match option with
  | ('q', _) => .ok { f with titles := .never }
  | ('v', _) => .ok { f with titles := .always }
  | ('z', _) => .ok { f with lineEnd := 0 }
  | ('\x03', _) => .ok f
  | (letter, value) =>
    if letter.isDigit then .error ⟨"invalid trailing option -- " ++ letter.toString, true⟩
    else
      let ofLines : Bool := letter = 'n'
      let leavesOut := value.startsWith "-"
      (parseCount k ofLines (if leavesOut then (value.drop 1).toString else value)).map fun count =>
        { f with ofLines, leavesOut, count }

def Form.refusal? (k : Conventions) (f : Form) : Option Octets :=
  if !f.ofLines && f.leavesOut && Nat.pow 2 63 ≤ f.count then
    some ("invalid number of bytes: " ++ k.quoted (toString f.count)
      ++ ": Value too large for defined data type")
  else none

def trailing (digits : Octets) : List Char → Form → Octets → Except Refusal (Form × Octets)
  | [], f, unit => .ok (f, digits ++ unit)
  | c :: cs, f, unit =>
    match c with
    | 'c' => trailing digits cs { f with ofLines := false } ""
    | 'l' => trailing digits cs { f with ofLines := true } unit
    | 'q' => trailing digits cs { f with titles := .never } unit
    | 'v' => trailing digits cs { f with titles := .always } unit
    | 'z' => trailing digits cs { f with lineEnd := 0 } unit
    | c =>
      if c = 'b' || c = 'k' || c = 'm' then trailing digits cs { f with ofLines := false } c.toString
      else .error ⟨"invalid trailing option -- " ++ c.toString, true⟩

def leadingCount? (k : Conventions) (arg : Octets) : Option (Except Refusal Form) :=
  match arg.toList with
  | '-' :: c :: cs =>
    if c.isDigit then
      let digits := (c :: cs).takeWhile Char.isDigit
      let rest := (c :: cs).drop digits.length
      some do
        let (f, text) ← trailing (String.ofList digits) rest {} ""
        let count ← parseCount k f.ofLines text
        .ok { f with count }
    else none
  | _ => none

/-! ## What is shown -/

def allBut (f : Form) (bs : Bytes) : Bytes :=
  if f.ofLines then
    let lines := Text.piecesBy f.lineEnd bs
    (lines.take (lines.length - f.count)).flatten
  else bs.take (bs.length - f.count)

def firstLines (lineEnd : UInt8) : Nat → Bytes → Bytes → Bytes × Nat
  | 0, _, done => (done.reverse, 0)
  | n, [], done => (done.reverse, n)
  | n + 1, b :: bs, done =>
    firstLines lineEnd (if b = lineEnd then n else n + 1) bs (b :: done)

def title (first : Bool) (source : Octets) : Bytes :=
  Octets.bytes ((if first then "" else "\n") ++ "==> "
    ++ (if source = "-" then "standard input" else source) ++ " <==\n")

/-! ## The tool -/

structure Progress where
  waiting : Prog.Waiting := {}
  titled : Bool := false
  status : Nat := 0

def blockSize : Nat := 4096

def readSize : Nat := 8192

def put (c : Call) (bytes : Bytes) (p : Progress) : Prog Progress := do
  let waiting := p.waiting.add bytes
  if waiting.bytes.length < blockSize then return { p with waiting }
  match ← Prog.ask (.write Prog.output waiting.bytes) with
  | none => return { p with waiting := { waiting with bytes := [] } }
  | some cause => c.fail ("error writing \x27standard output\x27: " ++ cause.text)

def showFirst (c : Call) (f : Form) (fd : Nat) (p : Progress) :
    Prog (Progress × Option SystemError) :=
  Prog.iterate (fun (p, left) => do
    if left = 0 then return .inr (p, none)
    match ← Prog.ask (.read fd (if f.ofLines then readSize else min left readSize)) with
    | .error cause => return .inr (p, some cause)
    | .ok [] => return .inr (p, none)
    | .ok bytes => do
      let (wanted, left) :=
        if f.ofLines then firstLines f.lineEnd left bytes []
        else (bytes, left - bytes.length)
      let p ← put c wanted p
      if wanted.length < bytes.length then
        let _ ← Prog.ask (.putBack fd (bytes.drop wanted.length))
      return .inl (p, left)) (p, f.count)

def showAllBut (c : Call) (f : Form) (fd : Nat) (p : Progress) :
    Prog (Progress × Option SystemError) := do
  let before ← Prog.ask (.statusOf fd)
  let (bytes, fault) ← Prog.readAll fd
  let wanted := allBut f bytes
  let p ← put c wanted p
  if before.any (fun s => s.kind = .regular && blockSize < s.size) then
    let _ ← Prog.ask (.putBack fd (bytes.drop wanted.length))
  return (p, fault)

/-- What the arguments ask for, and the operands. The first argument may be a count by itself. -/
def readForm (c : Call) : Prog (Form × List Octets) := do
  let k := c.conventions
  match c.args.head?.bind (leadingCount? k) with
  | none => c.readOptions optionSet (Form.add k) {}
  | some (.ok form) => ({ c with args := c.args.tail } : Call).readOptions optionSet (Form.add k) form
  | some (.error r) => if r.hint then c.misused r.text else c.fail r.text

def run (c : Call) : Prog Nat := do
  let k := c.conventions
  let (form, operands) ← readForm c
  if let some text := form.refusal? k then c.fail text
  let sources := sourcesOf operands
  let titled := form.titles = .always || (form.titles = .ifSeveral && 1 < sources.length)
  let blame (text : Octets) (p : Progress) : Prog Progress := do
    let waiting ← Prog.flush p.waiting
    c.complain text
    return { p with waiting, status := 1 }
  let refuse (source : Octets) (cause : SystemError) (p : Progress) : Prog Progress :=
    blame ("cannot open " ++ k.shellQuoted source ++ " for reading: " ++ cause.text) p
  let use (source : Octets) (fd : Nat) (p : Progress) : Prog Progress := do
    let p ← if titled then put c (title (!p.titled) source) { p with titled := true } else pure p
    let (p, fault) ← if form.leavesOut then showAllBut c form fd p else showFirst c form fd p
    match fault with
    | none => return p
    | some cause => do
      let shown := if source = "-" then "standard input" else source
      blame ("error reading " ++ k.shellQuoted shown ++ ": " ++ cause.text) p
  let p ← Prog.forSources refuse use sources {}
  let p ←
    if ← Prog.canCloseInput sources then pure p
    else blame ("-: " ++ SystemError.text .badDescriptor) p
  c.finish p.waiting p.status

end PipeShell.Machine.Head
