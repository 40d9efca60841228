import PipeShell.Machine.Conventions

/-!
# Sets of bytes

Sets of bytes as the tool that replaces bytes reads them: single bytes, escapes, ranges, classes in
brackets, and a byte that is repeated. A set is a list of elements and has an order.
-/

namespace PipeShell.Machine.ByteSet

inductive Element where
  | byte (c : Char)
  | range (first last : Char)
  | named (name : String)
  | equivalent (c : Char)
  | repeated (c : Char) (times : Option Nat)
deriving DecidableEq, Repr

/-! ## Reading -/

structure Mark where
  char : Char
  escaped : Bool := false
deriving DecidableEq, Repr

def Mark.is (m : Mark) (c : Char) : Bool := m.char = c && !m.escaped

def unescape (cs : List Char) : Char × Nat × Option Octets :=
  match cs with
  | [] => ('\\', 0, none)
  | c :: rest =>
    if Octets.isOctal c then
      let digits := (c :: rest).take 3 |>.takeWhile Octets.isOctal
      let n := Octets.number 8 digits
      if n < 256 then (Char.ofNat n, digits.length, none)
      else
        let short := digits.take 2
        let warning := "warning: the ambiguous octal escape \\" ++ String.ofList digits
          ++ " is being\n\tinterpreted as the 2-byte sequence \\0" ++ String.ofList short ++ ", "
          ++ String.ofList (digits.drop 2)
        (Char.ofNat (Octets.number 8 short), 2, some warning)
    else
      let plain := match c with
        | 'a' => Char.ofNat 7
        | 'b' => Char.ofNat 8
        | 'f' => Char.ofNat 12
        | 'n' => '\n'
        | 'r' => '\r'
        | 't' => '\t'
        | 'v' => Char.ofNat 11
        | c => c
      (plain, 1, none)

def marksWithin : Nat → List Char → List Mark × List Octets
  | 0, _ => ([], [])
  | steps + 1, cs =>
    match cs with
    | [] => ([], [])
    | ['\\'] =>
      ([⟨'\\', false⟩], ["warning: an unescaped backslash at end of string is not portable"])
    | '\\' :: rest =>
      let (c, used, warning) := unescape rest
      let (marks, warnings) := marksWithin steps (rest.drop used)
      (⟨c, true⟩ :: marks, warning.toList ++ warnings)
    | c :: rest =>
      let (marks, warnings) := marksWithin steps rest
      (⟨c, false⟩ :: marks, warnings)

def marks (text : Octets) : List Mark × List Octets := marksWithin text.length text.toList

/-! ## Classes -/

def inRange (low high : Nat) (c : Char) : Bool := low ≤ c.toNat && c.toNat ≤ high

def isGraph (c : Char) : Bool := inRange 33 126 c

def classes : List (String × (Char → Bool)) :=
  [("alnum", Char.isAlphanum), ("alpha", Char.isAlpha), ("blank", fun c => c = ' ' || c = '\t'),
    ("cntrl", fun c => c.toNat < 32 || c.toNat = 127), ("digit", Char.isDigit), ("graph", isGraph),
    ("lower", Char.isLower), ("print", inRange 32 126),
    ("punct", fun c => isGraph c && !c.isAlphanum),
    ("space", fun c => c = ' ' || inRange 9 13 c), ("upper", Char.isUpper), ("xdigit", Octets.isHex)]

def span (first last : Nat) : List Char :=
  (List.range (last + 1 - first)).map fun i => Char.ofNat (first + i)

def allOctets : List Char := span 0 255

def classMembers (name : String) : List Char :=
  match classes.lookup name with
  | some holds => allOctets.filter holds
  | none => []

/-- More octets than there is a use for: a repetition is not spelled out any further. -/
def spelledOut : Nat := 100000

def Element.members : Element → List Char
  | byte c | equivalent c => [c]
  | range first last => span first.toNat last.toNat
  | named name => classMembers name
  | repeated c times => List.replicate (min (times.getD 0) spelledOut) c

/-! ## Elements -/

def printable (c : Char) : Octets :=
  if c = '\\' then "\\\\"
  else if Octets.isPrintable c then c.toString
  else Octets.escapedOctet c

def shownEnd (c : Char) : Octets :=
  if Octets.isPrintable c then c.toString else "\\" ++ Octets.digits 8 3 c.toNat

def printableText (ms : List Mark) : Octets := String.join (ms.map fun m => printable m.char)

def beforeDelimiter? (delimiter : Char) : List Mark → Option (List Mark × List Mark)
  | m :: close :: rest =>
    if m.is delimiter && close.is ']' then some ([], rest)
    else (beforeDelimiter? delimiter (close :: rest)).map fun (inside, rest) => (m :: inside, rest)
  | _ => none

def repetition? (k : Conventions) (ms : List Mark) : Option (Except Octets (Element × List Mark)) :=
  match ms with
  | c :: star :: rest =>
    if !star.is '*' then none
    else
      let inside := rest.takeWhile fun m => !m.escaped && m.char ≠ ']'
      match rest.drop inside.length with
      | close :: rest =>
        if close.escaped then none
        else
          let digits := inside.map Mark.char
          let base := if digits.head? = some '0' then 8 else 10
          let valid := digits.all fun d => d.isDigit && (base = 10 || Octets.isOctal d)
          let n := Octets.number base digits
          if digits.isEmpty then some (.ok (.repeated c.char none, rest))
          else if !valid || Nat.pow 2 63 ≤ n then
            some (.error ("invalid repeat count " ++ k.quoted (printableText inside)
              ++ " in [c*n] construct"))
          else some (.ok (.repeated c.char (if n = 0 then none else some n), rest))
      | [] => none
  | _ => none

def beginsRepetition (ms : List Mark) : Bool :=
  match ms with
  | star :: rest =>
    star.is '*' && ((rest.dropWhile fun m => m.char.isDigit).head?.any (·.is ']'))
  | [] => false

def bracketed? (k : Conventions) (delimiter : Char) (ms : List Mark) :
    Option (Except Octets (Element × List Mark)) :=
  match beforeDelimiter? delimiter ms with
  | none => none
  | some (inside, rest) =>
    let name := String.ofList (inside.map Mark.char)
    if inside.isEmpty then
      some (.error (if delimiter = ':' then "missing character class name \x27[::]\x27"
        else "missing equivalence class character \x27[==]\x27"))
    else if delimiter = ':' then
      if (classes.lookup name).isSome then some (.ok (.named name, rest))
      else if beginsRepetition ms then none
      else some (.error ("invalid character class " ++ k.quoted (printableText inside)))
    else
      match inside with
      | [m] => some (.ok (.equivalent m.char, rest))
      | _ =>
        if beginsRepetition ms then none
        else
          some (.error (printableText inside
            ++ ": equivalence class operand must be a single character"))

def afterBracket? (k : Conventions) (ms : List Mark) : Option (Except Octets (Element × List Mark)) :=
  match ms with
  | m :: rest =>
    match if m.is ':' || m.is '=' then bracketed? k m.char rest else none with
    | some found => some found
    | none => repetition? k ms
  | [] => none

def elementsWithin (k : Conventions) : Nat → List Mark → Except Octets (List Element)
  | 0, _ => .ok []
  | steps + 1, ms =>
    match ms with
    | [] => .ok []
    | m :: rest =>
      if rest.length < 2 then (elementsWithin k steps rest).map (.byte m.char :: ·)
      else
        match if m.is '[' then afterBracket? k rest else none with
        | some (.error text) => .error text
        | some (.ok (element, rest)) => (elementsWithin k steps rest).map (element :: ·)
        | none =>
          match rest with
          | dash :: last :: after =>
            if dash.is '-' then
              if last.char < m.char then
                .error ("range-endpoints of \x27" ++ shownEnd m.char ++ "-" ++ shownEnd last.char
                  ++ "\x27 are in reverse collating sequence order")
              else (elementsWithin k steps after).map (.range m.char last.char :: ·)
            else (elementsWithin k steps rest).map (.byte m.char :: ·)
          | _ => (elementsWithin k steps rest).map (.byte m.char :: ·)

def elements (k : Conventions) (ms : List Mark) : Except Octets (List Element) :=
  elementsWithin k ms.length ms

end PipeShell.Machine.ByteSet
