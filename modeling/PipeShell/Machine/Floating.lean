import PipeShell.Machine.Numeral

/-!
# Floating numbers

Numbers with so many binary digits and a power of two, as programs read and show them. Reading rounds
to the nearest number, and to the even one of two that are equally near; showing is exact.
-/

namespace PipeShell.Machine

inductive Floating where
  | finite (negative : Bool) (magnitude : Nat) (exponent : Int)
  | infinite (negative : Bool)
  | invalid (negative : Bool)
deriving DecidableEq, Repr

namespace Floating

structure Format where
  bits : Nat
  least : Int
  bound : Int

def double : Format := ⟨53, -1074, 1024⟩

def extended : Format := ⟨64, -16445, 16384⟩

/-! ## Rounding -/

def nearest (a b : Nat) : Nat :=
  let q := a / b
  let r := a % b
  if b < 2 * r || (2 * r = b && q % 2 = 1) then q + 1 else q

def scaled (base : Nat) (e : Int) (a b : Nat) : Nat × Nat :=
  if 0 ≤ e then (a * Nat.pow base e.toNat, b) else (a, b * Nat.pow base (-e).toNat)

/-- The number nearest to a fraction, and whether it is out of range. -/
def ofFraction (f : Format) (negative : Bool) (a b : Nat) : Floating × Bool :=
  if a = 0 then (finite negative 0 0, false)
  else
    let e : Int := (Nat.log2 a : Int) - Nat.log2 b - f.bits
    let fits (e : Int) : Bool :=
      let (a, b) := scaled 2 (-e) a b
      a < b * Nat.pow 2 f.bits
    let e := max f.least (if fits e then e else e + 1)
    let (c, d) := scaled 2 (-e) a b
    let m := nearest c d
    if f.bound ≤ e + Nat.log2 m && m ≠ 0 then (infinite negative, true)
    else (finite negative m e, m < Nat.pow 2 (f.bits - 1) && c % d ≠ 0)

/-! ## Reading -/

def afterWord? (word : String) (cs : List Char) : Option (List Char) :=
  if String.ofList ((cs.take word.length).map Char.toLower) == word then some (cs.drop word.length)
  else none

def readExponent (letter : Char) (cs : List Char) : Int × List Char :=
  match cs with
  | c :: rest =>
    let (negative, digits) := Numeral.readSign rest
    if c.toLower = letter && digits.head?.any Char.isDigit then
      let (n, rest) := Numeral.readDigits 10 Char.isDigit digits
      (if negative then -(n : Int) else n, rest)
    else (0, cs)
  | [] => (0, [])

def readPointed? (base : Nat) (isDigit : Char → Bool) (cs : List Char) :
    Option (Nat × Nat × List Char) :=
  let whole := cs.takeWhile isDigit
  let rest := cs.drop whole.length
  let broken := match rest with
    | '.' :: rest => rest.takeWhile isDigit
    | _ => []
  if whole.isEmpty && broken.isEmpty then none
  else
    let rest := if rest.head? = some '.' then rest.drop (broken.length + 1) else rest
    some (Octets.number base (whole ++ broken), broken.length, rest)

def farExponent : Int := 20000

def readMagnitude? (f : Format) (negative : Bool) (cs : List Char) :
    Option (Floating × Bool × List Char) :=
  let hex := match cs with
    | '0' :: x :: rest => if x.toLower = 'x' then readPointed? 16 Octets.isHex rest else none
    | _ => none
  match hex with
  | some (n, places, rest) =>
    let (e, rest) := readExponent 'p' rest
    let e := max (-farExponent) (min farExponent (e - 4 * places))
    let (a, b) := scaled 2 e n 1
    let (value, far) := ofFraction f negative a b
    some (value, far, rest)
  | none =>
    match readPointed? 10 Char.isDigit cs with
    | some (n, places, rest) =>
      let (e, rest) := readExponent 'e' rest
      let e := max (-farExponent) (min farExponent (e - places))
      let (a, b) := scaled 10 e n 1
      let (value, far) := ofFraction f negative a b
      some (value, far, rest)
    | none => none

def afterInvalid (cs : List Char) : List Char :=
  match cs with
  | '(' :: rest =>
    match rest.dropWhile fun c => c.isAlphanum || c = '_' with
    | ')' :: rest => rest
    | _ => cs
  | _ => cs

def read? (f : Format) (cs : List Char) : Option (Floating × Bool × List Char) :=
  let (negative, rest) := Numeral.readSign (cs.dropWhile Numeral.isSpace)
  match (afterWord? "infinity" rest).orElse fun _ => afterWord? "inf" rest with
  | some rest => some (infinite negative, false, rest)
  | none =>
    match afterWord? "nan" rest with
    | some rest => some (invalid negative, false, afterInvalid rest)
    | none => readMagnitude? f negative rest

/-! ## Digits -/

def fraction (magnitude : Nat) (exponent : Int) : Nat × Nat := scaled 2 exponent magnitude 1

def leadingPower (a b : Nat) : Int :=
  if a = 0 then 0
  else
    let guess : Int := ((Nat.log2 a : Int) - Nat.log2 b) * 30103 / 100000
    let reaches (x : Int) : Bool :=
      let (a, b) := scaled 10 (-x) a b
      b ≤ a
    ([guess + 2, guess + 1, guess, guess - 1].find? reaches).getD (guess - 2)

def pointed (places : Nat) (always : Bool) (n : Nat) : Octets :=
  let text := (Octets.digits 10 (places + 1) n).toList
  let whole := String.ofList (text.take (text.length - places))
  let broken := String.ofList (text.drop (text.length - places))
  if places = 0 && !always then whole else whole ++ "." ++ broken

def fixed (places : Nat) (always : Bool) (a b : Nat) : Octets :=
  pointed places always (nearest (a * Nat.pow 10 places) b)

def shownExponent (width : Nat) (e : Int) : Octets :=
  (if e < 0 then "-" else "+") ++ Octets.digits 10 width e.natAbs

def leading (places : Nat) (a b : Nat) : Nat × Int :=
  let x := leadingPower a b
  let (c, d) := scaled 10 (places - x) a b
  let n := nearest c d
  if n = Nat.pow 10 (places + 1) then (Nat.pow 10 places, x + 1) else (n, x)

def scientific (places : Nat) (always : Bool) (a b : Nat) : Octets :=
  let (n, x) := leading places a b
  pointed places always n ++ "e" ++ shownExponent 2 x

def trimmed (text : Octets) : Octets :=
  if text.contains '.' then
    let cs := text.toList.reverse.dropWhile (· = '0')
    String.ofList (if cs.head? = some '.' then cs.drop 1 else cs).reverse
  else text

def general (digits : Nat) (always : Bool) (a b : Nat) : Octets :=
  let digits := max 1 digits
  let (n, x) := leading (digits - 1) a b
  let trim (text : Octets) : Octets := if always then text else trimmed text
  if -4 ≤ x && x < digits then trim (fixed ((digits : Int) - 1 - x).toNat always a b)
  else trim (pointed (digits - 1) always n) ++ "e" ++ shownExponent 2 x

def binary (f : Format) (places : Option Nat) (always : Bool) (magnitude : Nat) (exponent : Int) :
    Octets :=
  let behind := (f.bits - 1) / 4 * 4
  let lacking := if magnitude = 0 then 0
    else min (f.bits - (Nat.log2 magnitude + 1)) (exponent - f.least).toNat
  let m := magnitude * Nat.pow 2 lacking
  let e : Int := if magnitude = 0 then 0 else exponent - lacking + behind
  let all := behind / 4
  let places' := min all (places.getD all)
  let n := nearest m (Nat.pow 16 (all - places'))
  -- Rounding may give the first digit a second one.
  let (n, e) := if n = Nat.pow 16 (places' + 1) then (n / 16, e + 4) else (n, e)
  let cs := (Octets.digits 16 (places' + 1) n).toList
  let whole := cs.take (cs.length - places')
  let broken := cs.drop (cs.length - places')
  let broken := match places with
    | none => (broken.reverse.dropWhile (· = '0')).reverse
    | some p => broken ++ List.replicate (p - places') '0'
  String.ofList whole ++ (if broken.isEmpty && !always then "" else "." ++ String.ofList broken)
    ++ "p" ++ shownExponent 1 e

end Floating
end PipeShell.Machine
