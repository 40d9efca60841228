import PipeShell.Machine.Tool.Source
import PipeShell.Text.Lines

/-!
# Copying

The tool that copies its sources to its output. It can number the lines, leave out repeated blank
lines, and show what is not printable.
-/

namespace PipeShell.Machine.Cat

structure Form where
  numbers : Bool := false
  sparesBlank : Bool := false
  squeezes : Bool := false
  showsEnds : Bool := false
  showsTabs : Bool := false
  showsControls : Bool := false
deriving DecidableEq, Repr

def Form.isPlain (f : Form) : Bool := f = {}

def optionSet : OptionSet where
  short := "AbensutvET".toList.map fun c => (c, .nothing)
  long := [("number-nonblank", 'b', .nothing), ("number", 'n', .nothing),
    ("squeeze-blank", 's', .nothing), ("show-nonprinting", 'v', .nothing),
    ("show-ends", 'E', .nothing), ("show-tabs", 'T', .nothing), ("show-all", 'A', .nothing)]

def formOf (o : Options) : Form where
  numbers := o.has 'n' || o.has 'b'
  sparesBlank := o.has 'b'
  squeezes := o.has 's'
  showsEnds := o.has 'A' || o.has 'e' || o.has 'E'
  showsTabs := o.has 'A' || o.has 't' || o.has 'T'
  showsControls := o.has 'A' || o.has 'e' || o.has 't' || o.has 'v'

/-! ## Shown bytes -/

def shownLow (b : Nat) : Octets :=
  if b < 32 then "^" ++ (Char.ofNat (b + 64)).toString
  else if b = 127 then "^?"
  else (Char.ofNat b).toString

def shown (f : Form) (b : UInt8) : Bytes :=
  let n := b.toNat
  if n = 9 then if f.showsTabs then Octets.bytes "^I" else [b]
  else if !f.showsControls then [b]
  else if n < 128 then Octets.bytes (shownLow n)
  else Octets.bytes ("M-" ++ shownLow (n - 128))

/-! ## Lines -/

structure Progress where
  number : Nat := 0
  ends : Option Nat := some 0
  holdsReturn : Bool := false

def label (n : Nat) : Bytes :=
  let digits := toString n
  Octets.bytes (String.ofList (List.replicate (6 - digits.length) ' ') ++ digits ++ "\t")

def copyOnto (f : Form) : Bytes → Bytes → Progress → Bytes × Progress
  | done, [], p => (done, p)
  | done, b :: bs, p =>
    if b = Text.lineFeed then
      let blanks := match p.ends with
        | none => 0
        | some n => n + 1
      if f.squeezes && 2 ≤ blanks then copyOnto f done bs { p with ends := some 2 }
      else
        let numbered := 1 ≤ blanks && f.numbers && !f.sparesBlank
        let number := if numbered then p.number + 1 else p.number
        let done := if numbered then (label number).reverse ++ done else done
        let done := if p.holdsReturn then (Octets.bytes "^M").reverse ++ done else done
        let done := if f.showsEnds then '$'.toNat.toUInt8 :: done else done
        copyOnto f (b :: done) bs { number, ends := some blanks }
    else
      let done := if p.holdsReturn then Text.carriageReturn :: done else done
      let numbered := p.ends.isSome && f.numbers
      let number := if numbered then p.number + 1 else p.number
      let done := if numbered then (label number).reverse ++ done else done
      if b = Text.carriageReturn && f.showsEnds && !f.showsControls then
        copyOnto f done bs { number, ends := none, holdsReturn := true }
      else copyOnto f ((shown f b).reverse ++ done) bs { number, ends := none }

def copy (f : Form) (bs : Bytes) (p : Progress) : Bytes × Progress :=
  let (done, p) := copyOnto f [] bs p
  (done.reverse, p)

/-! ## The tool -/

/-- Is the source the file to which it would be copied, with bytes left in it? -/
def isOwnOutput (source output : Option FileStatus) : Bool :=
  match source, output with
  | some s, some o =>
    o.kind = .regular && s.number ≠ 0 && s.number = o.number && s.offset < s.size
  | _, _ => false

def run (c : Call) : Prog Nat := do
  let o ← c.options optionSet
  let form := formOf o
  let shownName := c.conventions.shellWord
  let refuse (source : Octets) (cause : SystemError) (s : Progress × Nat) : Prog (Progress × Nat) := do
    c.complain (shownName source ++ ": " ++ cause.text)
    return (s.1, 1)
  let write (bytes : Bytes) : Prog Unit := do
    if let some cause ← Prog.ask (.write Prog.output bytes) then c.fail ("write error: " ++ cause.text)
  let put (bytes : Bytes) (p : Progress) : Prog Progress := do
    let (bytes, p) := if form.isPlain then (bytes, p) else copy form bytes p
    write bytes
    return p
  let use (source : Octets) (fd : Nat) (s : Progress × Nat) : Prog (Progress × Nat) := do
    if isOwnOutput (← Prog.ask (.statusOf fd)) (← Prog.ask (.statusOf Prog.output)) then
      c.complain (shownName source ++ ": input file is output file")
      return (s.1, 1)
    match ← Prog.forPieces put fd s.1 with
    | (p, none) => return (p, s.2)
    | (p, some cause) => refuse source cause (p, s.2)
  if (← Prog.ask (.statusOf Prog.output)).isNone then
    c.fail ("standard output: " ++ SystemError.text .badDescriptor)
  let sources := sourcesOf o.operands
  let (p, status) ← Prog.forSources refuse use sources ({}, 0)
  if p.holdsReturn then write [Text.carriageReturn]
  if !(← Prog.canCloseInput sources) then
    c.fail ("closing standard input: " ++ SystemError.text .badDescriptor)
  return status

end PipeShell.Machine.Cat
