import PipeShell.Machine.Tool.Source
import PipeShell.Text.Lines

/-!
# Counts

The tool that counts the lines, words, characters and bytes of its sources, and the columns of the
longest line. A word is a run of characters that are no white space with something printable in it. The
names of the sources may themselves be read from a source.
-/

namespace PipeShell.Machine.Wc

structure Counts where
  lines : Nat := 0
  words : Nat := 0
  characters : Nat := 0
  bytes : Nat := 0
  longest : Nat := 0
deriving DecidableEq, Repr

def Counts.plus (a b : Counts) : Counts :=
  ⟨a.lines + b.lines, a.words + b.words, a.characters + b.characters, a.bytes + b.bytes,
    max a.longest b.longest⟩

structure Progress where
  counts : Counts := {}
  column : Nat := 0
  inWord : Bool := false
  begun : List Char := []

namespace Progress

/-! ## Characters -/

def pass (p : Progress) (code : Nat) (columns : Option Nat) (isBlank : Bool) : Progress :=
  let endsLine := code = 10 || code = 12 || code = 13
  let isSpace := isBlank || code = 32 || (9 ≤ code && code ≤ 13)
  let starts := columns.isSome && !isSpace && !p.inWord
  let counts := { p.counts with
    characters := p.counts.characters + 1
    lines := if code = 10 then p.counts.lines + 1 else p.counts.lines
    words := if starts then p.counts.words + 1 else p.counts.words
    longest := if endsLine then max p.counts.longest p.column else p.counts.longest }
  let column :=
    if endsLine then 0
    else if code = 9 then p.column + 8 - p.column % 8
    else p.column + columns.getD 0
  { p with counts, column, inWord := !isSpace && (p.inWord || columns.isSome) }

def passByte (p : Progress) (b : UInt8) : Progress :=
  p.pass b.toNat (if 32 ≤ b.toNat && b.toNat < 127 then some 1 else none) false

def passOctetsWithin (isStrict : Bool) : Nat → Progress → List Char → Progress
  | 0, p, _ => p
  | steps + 1, p, cs =>
    match cs with
    | [] => { p with begun := [] }
    | _ :: rest =>
      match Conventions.start cs with
      | .cut => { p with begun := cs }
      | .stray => passOctetsWithin isStrict steps p rest
      | .character code length =>
        let columns := Conventions.columnsOf? code
        let isBlank := columns.isSome
          && (Conventions.isSpace code || (Conventions.isFirmSpace code && !isStrict))
        passOctetsWithin isStrict steps (p.pass code columns isBlank) (cs.drop length)

def add (k : Conventions) (p : Progress) (bytes : Bytes) : Progress :=
  let passed :=
    if k.isUnicode then
      let cs := p.begun ++ bytes.map fun b => Char.ofNat b.toNat
      passOctetsWithin k.isStrict (cs.length + 1) p cs
    else bytes.foldl passByte p
  { passed with counts := { passed.counts with bytes := p.counts.bytes + bytes.length } }

def finish (p : Progress) : Counts := { p.counts with longest := max p.counts.longest p.column }

end Progress

/-! ## Rows -/

structure Columns where
  lines : Bool
  words : Bool
  characters : Bool
  bytes : Bool
  longest : Bool

namespace Columns

def flags (c : Columns) : List Bool := [c.lines, c.words, c.characters, c.bytes, c.longest]

def number (c : Columns) : Nat := c.flags.countP id

def hasOnlyLines (c : Columns) (k : Conventions) : Bool :=
  c.lines && !c.words && !c.longest && !(c.characters && k.isUnicode)

def cell (width n : Nat) : String :=
  let digits := toString n
  String.ofList (List.replicate (width - digits.length) ' ') ++ digits

def row (c : Columns) (k : Conventions) (width : Nat) (counts : Counts) (name : Option Octets) :
    Octets :=
  let values := [counts.lines, counts.words, counts.characters, counts.bytes, counts.longest]
  let cells := ((c.flags.zip values).filter Prod.fst).map fun v => cell width v.2
  let label := match name with
    | some name => " " ++ if name.contains '\n' then k.shellWord name else name
    | none => ""
  " ".intercalate cells ++ label ++ "\n"

end Columns

/-- How wide the counts of sources are shown, by what is known of the sources. -/
def width (statuses : List (Option FileStatus)) : Nat :=
  let known := statuses.filterMap id
  let total := (known.filter (·.kind = .regular)).foldl (fun n s => n + s.size) 0
  let digits := (toString total).length
  if known.any (·.kind ≠ .regular) then max 7 digits else digits

/-! ## The sources -/

def optionSet : OptionSet where
  short := "clmwL".toList.map fun c => (c, .nothing)
  long := [("bytes", 'c', .nothing), ("chars", 'm', .nothing), ("lines", 'l', .nothing),
    ("words", 'w', .nothing), ("debug", 'D', .nothing), ("files0-from", 'F', .value),
    ("max-line-length", 'L', .nothing)]

def columnsOf (o : Options) : Columns :=
  let all := !"clmwL".toList.any o.has
  { lines := all || o.has 'l'
    words := all || o.has 'w'
    characters := o.has 'm'
    bytes := all || o.has 'c'
    longest := o.has 'L' }

structure Sources where
  list : Option Octets := none
  names : List Octets
  inAdvance : Bool := true
  fault : Option SystemError := none

def extraOperand (k : Conventions) (operand : Octets) : Octets :=
  "extra operand " ++ k.shellQuoted operand
    ++ "\nfile operands cannot be combined with --files0-from"

def sources (c : Call) (o : Options) : Prog Sources := do
  match o.value? 'F' with
  | none => return { names := sourcesOf o.operands }
  | some list =>
    let k := c.conventions
    if let extra :: _ := o.operands then c.misused (extraOperand k extra)
    match ← Prog.openSource list with
    | .error cause => c.fail ("cannot open " ++ k.shellQuoted list ++ " for reading: " ++ cause.text)
    | .ok fd => do
      let status ← Prog.ask (.statusOf fd)
      let (names, fault) ← Prog.readNames fd
      if list ≠ "-" then Prog.closeSource list fd
      return { list, names, inAdvance := status.any (·.kind = .regular), fault }

def Sources.refusal? (s : Sources) (k : Conventions) (index : Nat) (name : Octets) : Option Octets :=
  if s.list = some "-" && name = "-" then
    some ("when reading file names from stdin, no file name of " ++ k.shellQuoted name ++ " allowed")
  else if name = "" then
    let place := match s.list with
      | some list => k.shellWord list ++ ":" ++ toString (index + 1) ++ ": "
      | none => ""
    some (place ++ "invalid zero-length file name")
  else none

def statusOfSource (source : Octets) : Prog (Option FileStatus) := do
  if source = "-" then Prog.ask (.statusOf Prog.input)
  else return (← Prog.ask (.status source true)).toOption

/-! ## The tool -/

structure Result where
  rows : Prog.Waiting := {}
  total : Counts := {}
  status : Nat := 0

def run (c : Call) : Prog Nat := do
  let k := c.conventions
  let o ← c.options optionSet
  let columns := columnsOf o
  let s ← sources c o
  let statuses ←
    if !s.inAdvance || (s.names.length = 1 && columns.number = 1) then pure []
    else s.names.mapM statusOfSource
  let width := width statuses
  let isUnnamed := o.operands.isEmpty && s.list.isNone
  let shownName (source : Octets) : Option Octets := if isUnnamed then none else some source
  let blame (text : Octets) (r : Result) : Prog Result := do
    let rows ← Prog.flush r.rows
    c.complain text
    return { r with rows, status := 1 }
  let refuse (source : Octets) (cause : SystemError) (r : Result) : Prog Result :=
    blame (k.shellWord source ++ ": " ++ cause.text) r
  let addRow (counts : Counts) (label : Option Octets) (r : Result) : Result :=
    { r with rows := r.rows.add (Octets.bytes (columns.row k width counts label)) }
  let use (source : Octets) (fd : Nat) (r : Result) : Prog Result := do
    if o.has 'D' && columns.hasOnlyLines k then c.complain "using avx2 hardware support"
    let (p, fault) ← Prog.forPieces (fun bytes p => pure (p.add k bytes)) fd ({} : Progress)
    let counts := p.finish
    let r := { r with total := r.total.plus counts }
    let r ← match fault with
      | none => pure r
      | some cause => refuse ((shownName source).getD "standard input") cause r
    return addRow counts (shownName source) r
  let r ← s.names.zipIdx.foldlM (fun r (name, i) =>
    match s.refusal? k i name with
    | some text => blame text r
    | none => Prog.forSources refuse use [name] r) ({} : Result)
  let r ← match s.fault with
    | none => pure r
    | some cause => blame (k.shellWord (s.list.getD "-") ++ ": read error: " ++ cause.text) r
  let r := if 1 < s.names.length then addRow r.total (some "total") r else r
  let rows ← Prog.flush r.rows
  let readsInput := (s.names.zipIdx.filter fun (name, i) => (s.refusal? k i name).isNone).map Prod.fst
  if !(← Prog.canCloseInput readsInput) then
    c.complain ("-: " ++ SystemError.text .badDescriptor)
    return ← c.finish rows 1
  c.finish rows r.status

end PipeShell.Machine.Wc
