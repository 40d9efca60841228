import PipeShell.Machine.Octets

/-!
# Sizes

Counts as tools read them: digits, after blanks and perhaps a plus sign, and behind them perhaps a
letter for a unit. A unit stands for a power of 1024, and of 1000 when a `B` or a `D` follows it; a
unit alone counts once. Numbers have 64 bits.
-/

namespace PipeShell.Machine.Size

inductive Fault where
  | malformed | badUnit | tooLarge
deriving DecidableEq, Repr

def largest : Nat := Nat.pow 2 64 - 1

def exponent? (unit : Char) : Option Nat :=
  if unit = 'k' then some 1 else "KMGTPEZY".toList.idxOf? unit |>.map (· + 1)

def factor? (text : List Char) : Option Nat :=
  match text with
  | [] => some 1
  | ['b'] => some 512
  | unit :: rest =>
    match if unit = 'm' then some 2 else exponent? unit, rest with
    | some n, [] => some (Nat.pow 1024 n)
    | some n, ['i', 'B'] => some (Nat.pow 1024 n)
    | some n, ['B'] | some n, ['D'] => some (Nat.pow 1000 n)
    | _, _ => none

def isSpace (c : Char) : Bool := c = ' ' || (9 ≤ c.toNat && c.toNat ≤ 13)

def leading? (cs : List Char) : Option (Nat × List Char) :=
  let cs := cs.dropWhile isSpace
  let cs := if cs.head? = some '+' then cs.drop 1 else cs
  let digits := cs.takeWhile Char.isDigit
  if digits.isEmpty then none else some (Octets.number 10 digits, cs.drop digits.length)

def parse (text : Octets) : Except Fault Nat :=
  let (n, unit) := (leading? text.toList).getD (1, text.toList)
  match if text.isEmpty then none else factor? unit with
  | none => .error .malformed
  | some factor => if largest < n * factor then .error .tooLarge else .ok (n * factor)

end PipeShell.Machine.Size
