import PipeShell.Machine.Options
import PipeShell.Machine.Place

/-!
# Formats

The tool that shows its arguments in a format. The format is used again as long as arguments are left
of which it takes some.
-/

namespace PipeShell.Machine.Printf

inductive Saying where
  | shown (text : Octets)
  | complaint (text : Octets)
deriving DecidableEq, Repr

structure Progress where
  said : List Saying := []
  args : List Octets := []
  status : Nat := 0

abbrev Work (α : Type) := ReaderT Conventions (ExceptT Nat (StateM Progress)) α

def say (s : Saying) : Work Unit := modify fun p => { p with said := s :: p.said }

def put (text : Octets) : Work Unit := say (.shown text)

def putChar (c : Char) : Work Unit := put c.toString

def warn (text : Octets) : Work Unit := say (.complaint text)

def blame (text : Octets) : Work Unit := do
  warn text
  modify fun p => { p with status := 1 }

def abandon {α : Type} (text : Octets) : Work α := do
  warn text
  throw 1

def next? : Work (Option Octets) := do
  let p ← get
  set { p with args := p.args.tail }
  return p.args.head?

/-! ## Escapes -/

def exactHex? (count : Nat) (cs : List Char) : Option (Nat × List Char) :=
  let digits := cs.take count
  if digits.length = count && digits.all Octets.isHex then
    some (Octets.number 16 digits, cs.drop count)
  else none

def isNameless (n : Nat) : Bool :=
  (n < 0xa0 && !"$@\x60".toList.any (·.toNat = n)) || (0xd800 ≤ n && n ≤ 0xdfff)

def putNumbered (letter : Char) (width n : Nat) : Work Unit := do
  if isNameless n then
    abandon ("invalid universal character name \\" ++ letter.toString ++ Octets.digits 16 width n)
  else if n < 128 then putChar (Char.ofNat n)
  else if (← read).isUnicode && n < 0x110000 then put (Octets.ofText (Char.ofNat n).toString)
  else if n < 0x10000 then put ("\\u" ++ (Octets.digits 16 4 n).toUpper)
  else put ("\\U" ++ (Octets.digits 16 8 n).toUpper)

def letter? (c : Char) : Option Char :=
  match c with
  | '"' | '\\' => some c
  | 'a' => some (Char.ofNat 7)
  | 'b' => some (Char.ofNat 8)
  | 'e' => some (Char.ofNat 27)
  | 'f' => some (Char.ofNat 12)
  | 'n' => some '\n'
  | 'r' => some '\r'
  | 't' => some '\t'
  | 'v' => some (Char.ofNat 11)
  | _ => none

def missingHex {α : Type} : Work α := abandon "missing hexadecimal number in escape"

def escape (inArgument : Bool) (cs : List Char) : Work (List Char) := do
  match cs with
  | [] => putChar '\\'; return []
  | c :: rest =>
    match letter? c with
    | some shown => putChar shown; return rest
    | none =>
      if c = 'c' then throw 0
      else if c = 'x' then
        let digits := (rest.take 2).takeWhile Octets.isHex
        if digits.isEmpty then missingHex
        else
          putChar (Char.ofNat (Octets.number 16 digits))
          return rest.drop digits.length
      else if Octets.isOctal c then
        let from' := if inArgument && c = '0' then rest else cs
        let digits := (from'.take 3).takeWhile Octets.isOctal
        putChar (Char.ofNat (Octets.number 8 digits % 256))
        return from'.drop digits.length
      else if c = 'u' || c = 'U' then
        let width := if c = 'u' then 4 else 8
        match exactHex? width rest with
        | some (n, rest) => putNumbered c width n; return rest
        | none => missingHex
      else
        put (String.ofList ['\\', c])
        return rest

def unescapeWithin : Nat → List Char → Work Unit
  | 0, _ => pure ()
  | steps + 1, cs => do
    match cs with
    | [] => pure ()
    | '\\' :: rest => unescapeWithin steps (← escape true rest)
    | c :: rest => putChar c; unescapeWithin steps rest

/-! ## Numbers -/

def verify (arg : Octets) (far : Bool) (rest : Option (List Char)) : Work Unit := do
  let shown := (← read).quoted arg
  if far then blame (shown ++ ": Numerical result out of range")
  else
    match rest with
    | none => if arg ≠ "" then blame (shown ++ ": expected a numeric value")
    | some [] => pure ()
    | some _ => blame (shown ++ ": value not completely converted")

def leadingCharacter (k : Conventions) (c : Char) (rest : List Char) : Nat × List Char :=
  match if k.isUnicode then Conventions.start (c :: rest) else .stray with
  | .character code length => (code, (c :: rest).drop length)
  | _ => (c.toNat, rest)

def character? (arg : Octets) : Work (Option Nat) := do
  match arg.toList with
  | mark :: c :: rest =>
    if mark = '\x27' || mark = '"' then
      let k ← read
      let (code, rest) := leadingCharacter k c rest
      if !rest.isEmpty && !k.isStrict then
        warn ("warning: " ++ String.ofList rest
          ++ ": character(s) following character constant have been ignored")
      return some code
    else return none
  | _ => return none

def integer (arg : Octets) : Work Int := do
  if let some n ← character? arg then return n
  match Numeral.read? arg.toList with
  | some (n, rest) =>
    let (value, far) := n.signed
    verify arg far (some rest)
    return value
  | none => verify arg false none; return 0

def natural (arg : Octets) : Work Nat := do
  if let some n ← character? arg then return n
  match Numeral.read? arg.toList with
  | some (n, rest) =>
    let (value, far) := n.unsigned
    verify arg far (some rest)
    return value
  | none => verify arg false none; return 0

def floating (arg : Octets) : Work Floating := do
  if let some n ← character? arg then return .finite false n 0
  match Floating.read? Floating.extended arg.toList with
  | some (value, far, rest) => verify arg far (some rest); return value
  | none => verify arg false none; return .finite false 0 0

/-! ## Places -/

def mostColumns : Nat := Nat.pow 2 31 - 1

def flags : List (Char × String) :=
  [('-', ""), ('+', ""), (' ', ""), ('#', "cdisu"), ('0', "cs"), ('\x27', "aAceEosxX"),
    ('I', "aAceEosxX")]

def conversions : String := "aAcdeEfFgGiosuxX"

def sizes : String := "lLhjtz"

def readWidth (p : Place) (cs : List Char) : Work (Place × List Char) := do
  match cs with
  | '*' :: rest =>
    match ← next? with
    | some arg =>
      let n ← integer arg
      if (mostColumns : Int) < n || n < -(mostColumns : Int) - 1 then
        abandon ("invalid field width: " ++ (← read).quoted arg)
      else return (p.withWidth n, rest)
    | none => return (p, rest)
  | _ =>
    let (width, rest) := Numeral.readDigits 10 Char.isDigit cs
    return ({ p with width }, rest)

def readPrecision (p : Place) (cs : List Char) : Work (Place × List Char) := do
  match cs with
  | '*' :: rest =>
    match ← next? with
    | some arg =>
      let n ← integer arg
      if (mostColumns : Int) < n then abandon ("invalid precision: " ++ (← read).quoted arg)
      else return ({ p with precision := if n < 0 then none else some n.toNat }, rest)
    | none => return ({ p with precision := some 0 }, rest)
  | _ =>
    let (precision, rest) := Numeral.readDigits 10 Char.isDigit cs
    return ({ p with precision := some precision }, rest)

def convert (p : Place) (conversion : Char) (arg : Octets) : Work Unit := do
  match conversion with
  | 'd' | 'i' => put (p.showInteger (← integer arg))
  | 'o' | 'u' | 'x' | 'X' => put (p.showNatural conversion (← natural arg))
  | 'c' => put (p.showText ((arg.toList.head?.getD '\x00').toString))
  | 's' => put (p.showText arg)
  | _ => put (p.showFloating Floating.extended conversion (← floating arg))

def place (cs : List Char) : Work (List Char) := do
  let marks := cs.takeWhile fun c => (flags.lookup c).isSome
  let p := marks.foldl Place.withFlag {}
  let (p, rest) ← readWidth p (cs.drop marks.length)
  let (p, rest, pointed) ← match rest with
    | '.' :: rest => do
      let (p, rest) ← readPrecision p rest
      pure (p, rest, true)
    | _ => pure (p, rest, false)
  let rest := rest.dropWhile sizes.toList.contains
  let refused : Unit → Work (List Char) := fun _ =>
    abandon ("%" ++ String.ofList (cs.take (cs.length - rest.length + 1))
      ++ ": invalid conversion specification")
  match rest with
  | [] => refused ()
  | conversion :: after =>
    let excluded := marks.any fun mark => ((flags.lookup mark).getD "").contains conversion
    if !conversions.contains conversion || excluded || (pointed && conversion = 'c') then refused ()
    else if mostColumns ≤ p.width || mostColumns ≤ p.precision.getD 0 then abandon "write error"
    else
      convert p conversion ((← next?).getD "")
      return after

def showWithin : Nat → List Char → Work Unit
  | 0, _ => pure ()
  | steps + 1, cs => do
    match cs with
    | [] => pure ()
    | '%' :: '%' :: rest => putChar '%'; showWithin steps rest
    | '%' :: 'b' :: rest =>
      if let some arg ← next? then unescapeWithin arg.length arg.toList
      showWithin steps rest
    | '%' :: 'q' :: rest =>
      if let some arg ← next? then put ((← read).shellWord arg)
      showWithin steps rest
    | '%' :: rest => showWithin steps (← place rest)
    | '\\' :: rest => showWithin steps (← escape false rest)
    | c :: rest => putChar c; showWithin steps rest

def repeatWithin (format : Octets) : Nat → Work Unit
  | 0 => pure ()
  | times + 1 => do
    let before := (← get).args.length
    showWithin format.length format.toList
    let left := (← get).args
    if left.isEmpty then return
    if left.length < before then repeatWithin format times
    else
      warn ("warning: ignoring excess arguments, starting with " ++ (← read).quoted (left.headD ""))

def sayings (k : Conventions) (format : Octets) (args : List Octets) : List Saying × Nat :=
  let (result, p) := ((repeatWithin format (args.length + 1)).run k).run { args }
  let status := match result with
    | .ok _ => p.status
    | .error status => status
  (p.said.reverse, status)

/-! ## The tool -/

/-- Says all of it: what is shown is written when there is a complaint, and in the end. -/
def speak (c : Call) (status : Nat) : List Saying → Prog.Waiting → Prog Nat
  | [], o => c.finish o status
  | .shown text :: rest, o => speak c status rest (o.add (Octets.bytes text))
  | .complaint text :: rest, o => do
    let o ← Prog.flush o
    c.complain text
    speak c status rest o

def run (c : Call) : Prog Nat := do
  c.readLone
  match if c.args.head? = some "--" then c.args.tail else c.args with
  | [] => c.misused "missing operand"
  | format :: args =>
    let (said, status) := sayings c.conventions format args
    speak c status said {}

end PipeShell.Machine.Printf
