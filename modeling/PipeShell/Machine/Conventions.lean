import PipeShell.Machine.Octets
import PipeShell.Text.Columns

/-!
# Conventions

What the environment of a program says about how it is to behave: whether octets stand for characters
of their own or are parts of the characters of Unicode, how strictly the program keeps to the standard,
and to which edition of it.

In their messages programs put names between quotes. One way always quotes and escapes what is not
printable. The other writes a name as a shell could read it back, and quotes only if it must.
-/

namespace PipeShell.Machine

structure Conventions where
  isUnicode : Bool := false
  order : Option Octets := none
  isKnown : Bool := true
  isStrict : Bool := false
  edition : Int := 200809
deriving DecidableEq, Repr

namespace Conventions

/-! ## Reading the environment -/

def regions : List Octets :=
  ["LC_CTYPE", "LC_COLLATE", "LC_MESSAGES", "LC_NUMERIC", "LC_TIME", "LC_MONETARY", "LC_PAPER",
    "LC_NAME", "LC_ADDRESS", "LC_TELEPHONE", "LC_MEASUREMENT", "LC_IDENTIFICATION"]

def isPlainRegion (name : Octets) : Bool := name = "C" || name = "POSIX"

def isUnicodeRegion (name : Octets) : Bool :=
  match name.toList with
  | 'C' :: '.' :: encoding =>
    String.ofList ((encoding.filter Char.isAlphanum).map Char.toLower) == "utf8"
  | _ => false

/-- What the environment says about regions and editions. If it names a region that is not known, it
has no say in any of them. -/
def ofEnvironment (environment : List (Octets × Octets)) : Conventions :=
  let named? (name : Octets) : Option Octets := (environment.lookup name).filter (· ≠ "")
  let region (name : Octets) : Octets :=
    (((named? "LC_ALL").or (named? name)).or (named? "LANG")).getD "C"
  let areKnown := regions.all fun name =>
    isPlainRegion (region name) || isUnicodeRegion (region name)
  { isUnicode := areKnown && isUnicodeRegion (region "LC_CTYPE")
    isKnown := areKnown
    order := if areKnown && isUnicodeRegion (region "LC_COLLATE") then some (region "LC_COLLATE") else none
    isStrict := (environment.lookup "POSIXLY_CORRECT").isSome
    edition := ((environment.lookup "_POSIX2_VERSION").bind edition?).getD 200809 }
where
  edition? (text : Octets) : Option Int :=
    match text.toList with
    | '-' :: digits => (Octets.decimal? (String.ofList digits)).map fun n => -(n : Int)
    | '+' :: digits => (Octets.decimal? (String.ofList digits)).map fun n => (n : Int)
    | _ => (Octets.decimal? text).map fun n => (n : Int)

/-! ## Characters -/

def lengthFrom (first : Nat) : Nat :=
  if first < 0x80 then 1
  else if first < 0xc2 then 0
  else if first < 0xe0 then 2
  else if first < 0xf0 then 3
  else if first < 0xf8 then 4
  else if first < 0xfc then 5
  else if first < 0xfe then 6
  else 0

inductive Start where
  | character (code length : Nat)
  | stray
  | cut
deriving DecidableEq, Repr

def start (cs : List Char) : Start :=
  match cs with
  | [] => .cut
  | first :: rest =>
    let length := lengthFrom first.toNat
    let following := rest.take (length - 1)
    if length = 0 || following.any (fun c => c.toNat / 64 ≠ 2) then .stray
    else if following.length < length - 1 then .cut
    else
      let lead := if length = 1 then first.toNat else first.toNat % Nat.pow 2 (7 - length)
      let code := following.foldl (fun n c => n * 64 + c.toNat % 64) lead
      let least := if length < 3 then 0 else Nat.pow 2 (5 * length - 4)
      let isSurrogate := 0xd800 ≤ code && code < 0xe000
      if code < least || isSurrogate then .stray else .character code length

def columnsOf? (code : Nat) : Option Nat :=
  if code < 0x110000 then Text.Columns.of? (Char.ofNat code) else none

def isFirmSpace (code : Nat) : Bool := [0xa0, 0x2007, 0x202f, 0x2060].contains code

def isSpace (code : Nat) : Bool :=
  code = 32 || (9 ≤ code && code ≤ 13) || code = 0x1680 || (0x2000 ≤ code && code ≤ 0x2006)
    || (0x2008 ≤ code && code ≤ 0x200a) || (0x2028 ≤ code && code ≤ 0x2029) || code = 0x205f
    || code = 0x3000

structure Shape where
  octets : List Char
  isPrintable : Bool
deriving DecidableEq, Repr

def shapesWithin : Nat → List Char → List Shape
  | 0, _ => []
  | steps + 1, cs =>
    match cs with
    | [] => []
    | first :: rest =>
      match start cs with
      | .character code length =>
        ⟨cs.take length, (columnsOf? code).isSome⟩ :: shapesWithin steps (cs.drop length)
      | .stray => ⟨[first], false⟩ :: shapesWithin steps rest
      | .cut => [⟨cs, false⟩]

def shapes (k : Conventions) (s : Octets) : List Shape :=
  if k.isUnicode then shapesWithin s.length s.toList
  else s.toList.map fun c => ⟨[c], Octets.isPrintable c⟩

/-! ## Quotes -/

def closing (k : Conventions) : List Char := if k.isUnicode then ['\xe2', '\x80', '\x99'] else ['\x27']

def opening (k : Conventions) : List Char := if k.isUnicode then ['\xe2', '\x80', '\x98'] else ['\x27']

def quoted (k : Conventions) (s : Octets) : Octets :=
  let escaped := (k.shapes s).map fun shape =>
    if !shape.isPrintable then String.join (shape.octets.map Octets.escapedOctet)
    else if shape.octets = k.closing || shape.octets = ['\\'] then
      String.ofList ('\\' :: shape.octets)
    else String.ofList shape.octets
  String.ofList k.opening ++ String.join escaped ++ String.ofList k.closing

def isPlain (c : Char) : Bool := c.isAlphanum || "%+,-./:]_@".toList.contains c

/-- Must a name of so many octets be quoted for a shell because of a shape? Some matter only at the
beginning, and braces only when they stand alone. -/
def needsQuotes (size index : Nat) (shape : Shape) : Bool :=
  match shape.octets with
  | [c] =>
    if isPlain c then false
    else if c = '\x7b' || c = '\x7d' then size = 1
    else if c = '#' || c = '~' then index = 0
    else true
  | _ => !shape.isPrintable

def isPlainInDouble (size index : Nat) (shape : Shape) : Bool :=
  match shape.octets with
  | [c] =>
    isPlain c || c = ' ' || c = '\x27' || ((c = '#' || c = '~') && index = 0)
      || ((c = '\x7b' || c = '\x7d') && size = 1)
  | _ => shape.isPrintable

def shellInside (escaping : Bool) : List Shape → String
  | [] => ""
  | shape :: rest =>
    if shape.isPrintable then
      let text :=
        if shape.octets = ['\x27'] then "\x27\\\x27\x27"
        else (if escaping then "\x27\x27" else "") ++ String.ofList shape.octets
      text ++ shellInside false rest
    else
      (if escaping then "" else "\x27$\x27") ++ String.join (shape.octets.map Octets.escapedOctet)
        ++ shellInside true rest

def shellQuoted (k : Conventions) (s : Octets) : Octets :=
  let shapes := k.shapes s
  if s.contains '\x27' && (shapes.zipIdx.all fun (shape, i) => isPlainInDouble s.length i shape) then
    "\"" ++ s ++ "\""
  else "\x27" ++ shellInside false shapes ++ "\x27"

def shellWord (k : Conventions) (s : Octets) : Octets :=
  if s.isEmpty || ((k.shapes s).zipIdx.any fun (shape, i) => needsQuotes s.length i shape) then
    k.shellQuoted s
  else s

end Conventions
end PipeShell.Machine
