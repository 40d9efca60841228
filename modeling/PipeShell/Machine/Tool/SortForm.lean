import PipeShell.Machine.Options
import PipeShell.Machine.Tool.Size
import PipeShell.Machine.Tool.SortKey
import PipeShell.Text.Lines

/-!
# Forms of sorting

What the arguments of the tool that sorts ask for: keys and rules, whether sources are sorted, merged or
only checked, and what the tool may use for its work.
-/

namespace PipeShell.Machine.Sort
open SortKey

structure Form where
  merges : Bool := false
  checks : Option Char := none
  keys : List Key := []
  rules : Rules := {}
  unique : Bool := false
  stable : Bool := false
  separator : Option UInt8 := none
  lineEnd : UInt8 := Text.lineFeed
  output : Option Octets := none
  list : Option Octets := none
  random : Option Octets := none
  compressor : Option Octets := none
  marks : Bool := false
  chance : Chance := {}

/-! ## Options -/

def addLetter (c : Char) (atStart atEnd : Bool) (r : Rules) : Option Rules :=
  match c with
  | 'b' => some { r with skipsStart := r.skipsStart || atStart, skipsEnd := r.skipsEnd || atEnd }
  | 'd' => some { r with dictionary := true }
  | 'f' => some { r with folds := true }
  | 'g' => some { r with general := true }
  | 'h' => some { r with human := true }
  | 'i' => some { r with printable := true }
  | 'M' => some { r with month := true }
  | 'n' => some { r with numeric := true }
  | 'r' => some { r with reversed := true }
  | 'V' => some { r with version := true }
  | 'R' => some { r with random := true }
  | _ => none

def addLetters (atStart atEnd : Bool) : List Char → Rules → Rules × List Char
  | [], r => (r, [])
  | c :: cs, r =>
    match addLetter c atStart atEnd r with
    | some r => addLetters atStart atEnd cs r
    | none => (r, c :: cs)

def countIn (k : Conventions) (what : Octets) (cs : List Char) : Except Refusal (Nat × List Char) :=
  match Size.leading? cs with
  | some found => .ok found
  | none => .error { text := what ++ ": invalid count at start of " ++ k.quoted (String.ofList cs) }

def badKey {α : Type} (k : Conventions) (spec what : Octets) : Except Refusal α :=
  .error { text := what ++ ": invalid field specification " ++ k.quoted spec }

def parseKey (k : Conventions) (spec : Octets) : Except Refusal Key := do
  let bad {α : Type} (what : Octets) : Except Refusal α := badKey k spec what
  let countIn := countIn k
  let (field, cs) ← countIn "invalid number at field start" spec.toList
  if field = 0 then bad "field number is zero"
  let (offset, cs) ←
    if cs.head? = some '.' then countIn "invalid number after \x27.\x27" (cs.drop 1) else .ok (1, cs)
  if offset = 0 then bad "character offset is zero"
  let (rules, cs) := addLetters true false cs {}
  if cs.head? = some ',' then
    let (last, cs) ← countIn "invalid number after \x27,\x27" (cs.drop 1)
    if last = 0 then bad "field number is zero"
    let (lastOffset, cs) ←
      if cs.head? = some '.' then countIn "invalid number after \x27.\x27" (cs.drop 1) else .ok (0, cs)
    let (rules, cs) := addLetters false true cs rules
    if !cs.isEmpty then bad "stray character in field spec"
    .ok { field := field - 1, offset := offset - 1, last := some (last - 1, lastOffset), rules }
  else
    if !cs.isEmpty then bad "stray character in field spec"
    .ok { field := field - 1, offset := offset - 1, rules }

/-- An operand that is a key in an older way to write one: it counts the fields and bytes that are
passed over. -/
def olderKey? (spec : Octets) : Option Key :=
  match spec.toList with
  | '+' :: cs =>
    let found : Option (Key × List Char) := do
      let (field, cs) ← Size.leading? cs
      let (offset, cs) ← if cs.head? = some '.' then Size.leading? (cs.drop 1) else some (0, cs)
      let (rules, cs) := addLetters true false cs {}
      return ({ field, offset, rules, isOlder := true }, cs)
    match found with
    | some (key, []) => some key
    | _ => none
  | _ => none

def endKeyAt (k : Conventions) (key : Key) (spec : Octets) : Except Refusal Key := do
  let countIn := countIn k
  let (field, cs) ← countIn "invalid number after \x27-\x27" (spec.toList.drop 1)
  let (offset, cs) ←
    if cs.head? = some '.' then countIn "invalid number after \x27.\x27" (cs.drop 1) else .ok (0, cs)
  let (rules, cs) := addLetters false true cs key.rules
  if !cs.isEmpty then badKey k spec "stray character in field spec"
  let last := if offset = 0 then (field - 1, 0) else (field, offset)
  .ok { key with last := some last, rules }

def isOlderEnd (arg : Octets) : Bool :=
  match arg.toList with
  | '-' :: c :: _ => c.isDigit
  | _ => false

/-- Are keys in the older way known even without an end? Only one edition of the standard forbids it. -/
def knowsOlderKeys (k : Conventions) : Bool := k.edition < 200112 || 200809 ≤ k.edition

def special (k : Conventions) (operand : Octets) (next : Option Octets) : Option Bool :=
  let hasEnd := next.any isOlderEnd
  if knowsOlderKeys k || (hasEnd && !k.isStrict) then (olderKey? operand).map fun _ => hasEnd else none

def optionSet (k : Conventions) : OptionSet where
  special := special k
  late c := c = 'o' && knowsOlderKeys k
  short := ("bcCdfghiMmnrRsuVz".toList.map fun c => (c, .nothing))
    ++ ("kotST".toList.map fun c => (c, .value)) ++ [('y', .number)]
  long := [("ignore-leading-blanks", 'b', .nothing), ("check", '\x03', .perhaps "diagnose-first"),
    ("compress-program", '\x06', .value), ("debug", '\x07', .nothing),
    ("dictionary-order", 'd', .nothing), ("ignore-case", 'f', .nothing),
    ("files0-from", '\x08', .value), ("general-numeric-sort", 'g', .nothing),
    ("human-numeric-sort", 'h', .nothing), ("ignore-nonprinting", 'i', .nothing),
    ("key", 'k', .value), ("merge", 'm', .nothing), ("month-sort", 'M', .nothing),
    ("numeric-sort", 'n', .nothing), ("version-sort", 'V', .nothing), ("random-sort", 'R', .nothing),
    ("random-source", '\x0b', .value), ("sort", '\x04', .value), ("output", 'o', .value),
    ("reverse", 'r', .nothing), ("stable", 's', .nothing), ("batch-size", '\x0c', .value),
    ("buffer-size", '\x0e', .value), ("field-separator", 't', .value),
    ("temporary-directory", 'T', .value), ("unique", 'u', .nothing),
    ("zero-terminated", 'z', .nothing), ("parallel", '\x05', .value)]

def separatorOf (k : Conventions) (value : Octets) : Except Refusal UInt8 :=
  match value.toList with
  | [] => .error { text := "empty tab" }
  | [c] => .ok (UInt8.ofNat c.toNat)
  | ['\\', '0'] => .ok 0
  | _ => .error { text := "multi-character tab " ++ k.quoted value }

def orderWords : List (String × Char) :=
  [("general-numeric", 'g'), ("human-numeric", 'h'), ("month", 'M'), ("numeric", 'n'),
    ("random", 'R'), ("version", 'V')]

def checkWords : List (String × Char) := [("quiet", 'C'), ("silent", 'C'), ("diagnose-first", 'c')]

def numberRefusal (option value : Octets) (fault : Size.Fault) : Refusal :=
  let shown := option ++ " argument \x27" ++ value ++ "\x27"
  match fault with
  | .malformed => { text := "invalid " ++ shown }
  | .badUnit => { text := "invalid suffix in " ++ shown }
  | .tooLarge => { text := shown ++ " too large" }

def machineMemory : Nat := Nat.pow 2 34

def memoryFault? (value : Octets) : Option Size.Fault :=
  let tooLarge (bytes : Nat) : Option Size.Fault := if Size.largest < bytes then some .tooLarge else none
  let exponent? (unit : Char) : Option Nat :=
    if "gmt".toList.contains unit then Size.exponent? unit.toUpper else Size.exponent? unit
  match Size.leading? value.toList with
  | none =>
    match value.toList with
    | [] => some .malformed
    | unit :: rest =>
      if (exponent? unit).isNone then some .malformed
      else if rest.isEmpty then none
      else some .badUnit
  | some (n, []) => tooLarge (n * 1024)
  | some (n, [unit]) =>
    if (unit = 'b' || unit = '%') && Size.largest < n then some .badUnit
    else if unit = 'b' then none
    else if unit = '%' then tooLarge (machineMemory * n / 100)
    else
      match exponent? unit with
      | some e => tooLarge (n * Nat.pow 1024 e)
      | none => some .badUnit
  | some _ => some .badUnit

def plainNumber (value : Octets) : Except Size.Fault Nat :=
  match Size.leading? value.toList with
  | none => .error .malformed
  | some (n, []) => .ok n
  | some _ => .error .badUnit

def batchRefusal? (c : Call) (openFiles : Nat) (value : Octets) : Option Refusal :=
  let option : Octets := "--batch-size"
  let shown := option ++ " argument " ++ c.conventions.quoted value
  match plainNumber value with
  | .error fault => some (numberRefusal option value fault)
  | .ok n =>
    if n < 2 then
      some { text := "invalid " ++ shown ++ "\n" ++ c.name ++ ": minimum " ++ option ++ " argument is "
              ++ c.conventions.quoted "2" }
    else if openFiles - 3 < n then
      some { text := shown ++ " too large\n" ++ c.name ++ ": maximum " ++ option
              ++ " argument with current rlimit is " ++ toString (openFiles - 3) }
    else none

def single (what value : Octets) (before : Option Octets) : Except Refusal (Option Octets) :=
  if before.any (· ≠ value) then .error { text := "multiple " ++ what ++ " specified" }
  else .ok (some value)

def Form.withCheck (f : Form) (letter : Char) : Except Refusal Form :=
  if f.checks.any (· ≠ letter) then .error { text := "options \x27-cC\x27 are incompatible" }
  else .ok { f with checks := some letter }

def Form.add (c : Call) (openFiles : Nat) (f : Form) (option : Char × Octets) : Except Refusal Form :=
  let k := c.conventions
  let (letter, value) := option
  let withLetter (c : Char) : Form := { f with rules := (addLetter c true true f.rules).getD f.rules }
  if letter = Options.operandLetter then
    .ok { f with keys := f.keys ++ (olderKey? value).toList }
  else if letter = Options.companionLetter then do
    let key ← endKeyAt k (f.keys.getLastD {}) value
    .ok { f with keys := f.keys.dropLast ++ [key] }
  else
    match letter with
    | 'c' | 'C' => f.withCheck letter
    | '\x03' => (Options.choose k "--check" value checkWords).bind f.withCheck
    | '\x04' => (Options.choose k "--sort" value orderWords).map withLetter
    | '\x05' =>
      match plainNumber value with
      | .ok n => if n = 0 then .error { text := "number in parallel must be nonzero" } else .ok f
      | .error fault => .error (numberRefusal "--parallel" value fault)
    | '\x06' => (single "compress programs" value f.compressor).map fun p => { f with compressor := p }
    | '\x07' => .ok { f with marks := true }
    | '\x08' => .ok { f with list := some value }
    | '\x0b' => (single "random sources" value f.random).map fun p => { f with random := p }
    | '\x0c' =>
      match batchRefusal? c openFiles value with
      | some r => .error r
      | none => .ok f
    | 'S' | '\x0e' =>
      match memoryFault? value with
      | some fault => .error (numberRefusal (if letter = 'S' then "-S" else "--buffer-size") value fault)
      | none => .ok f
    | 'k' => (parseKey k value).map fun key => { f with keys := f.keys ++ [key] }
    | 'm' => .ok { f with merges := true }
    | 'o' => (single "output files" value f.output).map fun path => { f with output := path }
    | 's' => .ok { f with stable := true }
    | 't' => do
      let s ← separatorOf k value
      if f.separator.any (· ≠ s) then .error { text := "incompatible tabs" }
      .ok { f with separator := some s }
    | 'u' => .ok { f with unique := true }
    | 'z' => .ok { f with lineEnd := 0 }
    | c => .ok (withLetter c)

/-! ## Keys -/

def Form.allKeys (f : Form) : List Key :=
  let inherited := f.keys.map fun k =>
    if k.rules.isDefault && !k.rules.reversed then { k with rules := f.rules } else k
  if inherited.isEmpty && !f.rules.isDefault then [{ rules := f.rules }] else inherited

def Form.clash? (f : Form) : Option Octets :=
  (f.allKeys.find? (·.rules.clash)).map fun key =>
    let rules := { key.rules with skipsStart := false, skipsEnd := false, reversed := false }
    "options \x27-" ++ rules.letters ++ "\x27 are incompatible"

def Form.isRandom (f : Form) : Bool := f.allKeys.any (·.rules.random)

def Form.compare (f : Form) (a b : Bytes) : Ordering :=
  let byKeys := compareByKeys f.separator f.chance f.allKeys a b
  if !f.allKeys.isEmpty && (f.unique || f.stable) then byKeys
  else
    let whole := compareBytes a b
    byKeys.then (if f.rules.reversed then whole.swap else whole)

end PipeShell.Machine.Sort
