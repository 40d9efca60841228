import PipeShell.Machine.Octets

/-!
# Numerals

Whole numbers as programs read them from the beginning of a text: after white space and a sign, in the
base that the first characters tell. What follows the numeral is left.
-/

namespace PipeShell.Machine

structure Numeral where
  negative : Bool := false
  magnitude : Nat := 0
deriving DecidableEq, Repr

namespace Numeral

def isSpace (c : Char) : Bool := c = ' ' || (9 ≤ c.toNat && c.toNat ≤ 13)

def readSign : List Char → Bool × List Char
  | '-' :: cs => (true, cs)
  | '+' :: cs => (false, cs)
  | cs => (false, cs)

def readDigits (base : Nat) (isDigit : Char → Bool) (cs : List Char) : Nat × List Char :=
  let digits := cs.takeWhile isDigit
  (Octets.number base digits, cs.drop digits.length)

def readMagnitude (cs : List Char) : Nat × List Char :=
  match cs with
  | '0' :: x :: c :: rest =>
    if (x = 'x' || x = 'X') && Octets.isHex c then readDigits 16 Octets.isHex (c :: rest)
    else readDigits 8 Octets.isOctal cs
  | '0' :: _ => readDigits 8 Octets.isOctal cs
  | _ => readDigits 10 Char.isDigit cs

def read? (cs : List Char) : Option (Numeral × List Char) :=
  let (negative, rest) := readSign (cs.dropWhile isSpace)
  if rest.head?.any Char.isDigit then
    let (magnitude, rest) := readMagnitude rest
    some ({ negative, magnitude }, rest)
  else none

/-! ## Sixty-four bits -/

def modulus : Nat := Nat.pow 2 64

/-- The number that stands for another among those with a sign. -/
def wrapped (n : Int) : Int := (n + Nat.pow 2 63) % (modulus : Int) - Nat.pow 2 63

def signed (n : Numeral) : Int × Bool :=
  if n.negative then
    if Nat.pow 2 63 < n.magnitude then (-(Nat.pow 2 63 : Int), true)
    else (-(n.magnitude : Int), false)
  else if Nat.pow 2 63 ≤ n.magnitude then ((Nat.pow 2 63 : Int) - 1, true)
  else (n.magnitude, false)

def unsigned (n : Numeral) : Nat × Bool :=
  if modulus ≤ n.magnitude then (modulus - 1, true)
  else if n.negative then ((modulus - n.magnitude) % modulus, false)
  else (n.magnitude, false)

end Numeral
end PipeShell.Machine
