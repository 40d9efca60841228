import PipeShell.Machine.Tool.Source
import PipeShell.Machine.Tool.SortNotes

/-!
# Sorting

The tool that sorts the lines of its sources, merges sources that are sorted, or finds out whether a
source is.
-/

namespace PipeShell.Machine.Sort
open SortKey

def faultStatus : Nat := 2

/-! ## Lines -/

def Form.lines (f : Form) (bs : Bytes) : List Bytes :=
  (Text.piecesBy f.lineEnd bs).map fun line =>
    if line.getLast? = some f.lineEnd then line.dropLast else line

def Form.distinct (f : Form) : List Bytes → List Bytes
  | [] => []
  | line :: rest =>
    let step (kept : List Bytes) (next : Bytes) : List Bytes :=
      match kept with
      | last :: _ => if f.compare last next = .eq then kept else next :: kept
      | [] => [next]
    (rest.foldl step [line]).reverse

def Form.leastHead (f : Form) (lists : List (List Bytes)) : Option (Nat × Bytes) :=
  (lists.zipIdx.filterMap fun (lines, i) => lines.head?.map fun line => (i, line)).foldl
    (fun (best : Option (Nat × Bytes)) next =>
      match best with
      | some (_, line) => if f.compare line next.2 = .gt then some next else best
      | none => some next)
    none

def Form.mergeWithin (f : Form) : Nat → List (List Bytes) → List Bytes
  | 0, _ => []
  | steps + 1, lists =>
    match f.leastHead lists with
    | some (i, line) => line :: f.mergeWithin steps (lists.modify i List.tail)
    | none => []

def Form.merge (f : Form) (lists : List (List Bytes)) : List Bytes :=
  f.mergeWithin (lists.foldl (fun n list => n + list.length) 0) lists

def Form.disorder? (f : Form) (lines : List Bytes) : Option (Nat × Bytes) :=
  ((lines.zip lines.tail).zipIdx.find? fun ((a, b), _) =>
    let o := f.compare a b
    o = .gt || (f.unique && o = .eq)).map fun ((_, b), i) => (i + 2, b)

/-! ## The tool -/

def failAt {α : Type} (c : Call) (what path : Octets) (cause : SystemError) : Prog α :=
  c.fail (what ++ " failed: " ++ c.conventions.shellWord path ++ ": " ++ cause.text)

def readLines (c : Call) (f : Form) (source : Octets) : Prog (List Bytes) := do
  match ← Prog.openSource source with
  | .error cause => failAt c "open" source cause
  | .ok fd => do
    if f.checks.isNone && !f.merges && (← Prog.ask (.statusOf fd)).isNone then
      failAt c "stat" source .badDescriptor
    let (bytes, fault) ← Prog.readAll fd
    Prog.closeSource source fd
    match fault with
    | some cause => failAt c "read" source cause
    | none => return f.lines bytes

def checkSource (c : Call) (f : Form) (source : Octets) : Prog Nat := do
  match f.disorder? (← readLines c f source) with
  | none => return 0
  | some (number, line) => do
    if f.checks = some 'c' then
      Prog.complain (c.name ++ ": " ++ c.conventions.shellWord source ++ ":" ++ toString number
        ++ ": disorder: " ++ Octets.ofBytes (line ++ [f.lineEnd]))
    return 1

def writeLines (c : Call) (f : Form) (lines : List Bytes) : Prog Nat := do
  let text :=
    if f.marks then lines.flatMap (marked c.conventions f) else lines.flatMap (· ++ [f.lineEnd])
  match f.output with
  | none =>
    if text.isEmpty then return 0
    match ← Prog.ask (.write Prog.output text) with
    | none => return 0
    | some cause => do
      c.complain ("fflush failed: \x27standard output\x27: " ++ cause.text)
      c.fail "write error"
  | some path =>
    match ← Prog.ask (.open path .write) with
    | .error cause => failAt c "open" path cause
    | .ok fd => do
      match ← Prog.ask (.write fd text) with
      | none => return 0
      | some cause => c.fail ("fflush failed: " ++ c.conventions.shellQuoted path ++ ": " ++ cause.text)

def tryReading (c : Call) (source : Octets) : Prog Unit := do
  match ← Prog.openSource source with
  | .ok fd => Prog.closeSource source fd
  | .error cause => c.fail ("cannot read: " ++ c.conventions.shellWord source ++ ": " ++ cause.text)

def tryWriting (c : Call) (path : Octets) : Prog Unit := do
  match ← Prog.ask (.open path .append) with
  | .ok fd => Prog.ask (.close fd)
  | .error cause => failAt c "open" path cause

def sourceNames (c : Call) (f : Form) (operands : List Octets) : Prog (List Octets) := do
  match f.list with
  | none => return sourcesOf operands
  | some list =>
    let k := c.conventions
    if let extra :: _ := operands then
      c.misused ("extra operand " ++ k.shellQuoted extra
        ++ "\nfile operands cannot be combined with --files0-from")
    match ← Prog.openSource list with
    | .error cause => failAt c "open" list cause
    | .ok fd => do
      let (names, fault) ← Prog.readNames fd
      Prog.closeSource list fd
      if fault.isSome then c.fail ("cannot read file names from " ++ k.shellQuoted list)
      if names.isEmpty then c.fail ("no input from " ++ k.shellQuoted list)
      match names.zipIdx.find? fun (name, _) => name = "" || name = "-" with
      | none => return names
      | some ("", i) =>
        c.fail (k.shellWord list ++ ":" ++ toString (i + 1) ++ ": invalid zero-length file name")
      | some (name, _) =>
        c.fail ("when reading file names from stdin, no file name of " ++ k.shellQuoted name ++ " allowed")

def saltSize : Nat := 16

def readChance (c : Call) (f : Form) : Prog Chance := do
  let endsTexts := c.conventions.order.isSome
  match f.random with
  | none => return { endsTexts }
  | some source =>
    match ← Prog.ask (.open source .read) with
    | .error cause => failAt c "open" source cause
    | .ok fd => do
      let (salt, fault) ← Prog.iterate (fun (sofar : Bytes) => do
        if saltSize ≤ sofar.length then return .inr (sofar, none)
        match ← Prog.ask (.read fd (saltSize - sofar.length)) with
        | .ok [] => return .inr (sofar, none)
        | .ok bytes => return .inl (sofar ++ bytes)
        | .error cause => return .inr (sofar, some cause)) []
      Prog.ask (.close fd)
      let shown := c.conventions.quoted source
      match fault with
      | some cause => c.fail (shown ++ ": read error: " ++ cause.text)
      | none =>
        if salt.length < saltSize then c.fail (shown ++ ": end of file")
        return { salt, endsTexts }

def incompatible {α : Type} (c : Call) (options : Octets) : Prog α :=
  c.fail ("options \x27-" ++ options ++ "\x27 are incompatible")

def giveNotes (c : Call) (f : Form) : Prog Unit := do
  if !f.marks then return
  if let some letter := f.checks.or (f.output.map fun _ => 'o') then
    incompatible c (letter.toString ++ " --debug")
  for text in notes c.conventions f do c.complain text

def work (c : Call) : Prog Nat := do
  let openFiles := match ← Prog.ask (.limit 'n' none) with
    | .ok limit => limit.soft.getD (Nat.pow 2 32)
    | .error _ => Nat.pow 2 32
  let (f, operands) ← c.readOptions (optionSet c.conventions) (Form.add c openFiles) {}
  let sources ← sourceNames c f operands
  if let some text := f.clash? then c.fail text
  giveNotes c f
  let f ← if f.isRandom then pure { f with chance := ← readChance c f } else pure f
  match f.checks with
  | some letter =>
    if let _ :: extra :: _ := sources then
      c.fail ("extra operand " ++ c.conventions.shellQuoted extra ++ " not allowed with -"
        ++ letter.toString)
    if f.output.isSome then incompatible c (letter.toString ++ "o")
    checkSource c f (sources.headD "-")
  | none =>
    for source in sources do tryReading c source
    if let some path := f.output then tryWriting c path
    let read ← sources.mapM (readLines c f)
    let lines :=
      if f.merges then f.merge read
      else read.flatten.mergeSort fun a b => f.compare a b ≠ .gt
    writeLines c f (if f.unique then f.distinct lines else lines)

def run (c : Call) : Prog Nat := work { c with faultStatus }

end PipeShell.Machine.Sort
