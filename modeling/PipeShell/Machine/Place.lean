import PipeShell.Machine.Floating

/-!
# Places

A place in a format and how values are shown there: what flags, a width and a precision ask for.
-/

namespace PipeShell.Machine

structure Place where
  left : Bool := false
  plus : Bool := false
  blank : Bool := false
  alternate : Bool := false
  zeros : Bool := false
  width : Nat := 0
  precision : Option Nat := none
deriving DecidableEq, Repr

namespace Place

def withFlag (p : Place) (flag : Char) : Place :=
  match flag with
  | '-' => { p with left := true }
  | '+' => { p with plus := true }
  | ' ' => { p with blank := true }
  | '#' => { p with alternate := true }
  | '0' => { p with zeros := true }
  | _ => p

def withWidth (p : Place) (n : Int) : Place :=
  { p with width := n.natAbs, left := p.left || n < 0 }

/-- Fills a text up to the width. Zeros stand between what must come first and the digits. -/
def fill (p : Place) (first body : Octets) (mayZero : Bool) : Octets :=
  let lacking := p.width - (first.length + body.length)
  let padding (c : Char) : String := String.ofList (List.replicate lacking c)
  if p.left then first ++ body ++ padding ' '
  else if p.zeros && mayZero then first ++ padding '0' ++ body
  else padding ' ' ++ first ++ body

def signOf (p : Place) (negative : Bool) : Octets :=
  if negative then "-" else if p.plus then "+" else if p.blank then " " else ""

def digits (p : Place) (base n : Nat) : Octets :=
  if n = 0 && p.precision = some 0 then "" else Octets.digits base (p.precision.getD 1) n

def showInteger (p : Place) (n : Int) : Octets :=
  p.fill (p.signOf (n < 0)) (p.digits 10 n.natAbs) p.precision.isNone

def showNatural (p : Place) (conversion : Char) (n : Nat) : Octets :=
  let mayZero := p.precision.isNone
  match conversion with
  | 'o' =>
    let text := p.digits 8 n
    let text := if p.alternate && text.toList.head? ≠ some '0' then "0" ++ text else text
    p.fill "" text mayZero
  | 'x' => p.fill (if p.alternate && n ≠ 0 then "0x" else "") (p.digits 16 n) mayZero
  | 'X' => p.fill (if p.alternate && n ≠ 0 then "0X" else "") (p.digits 16 n).toUpper mayZero
  | _ => p.fill "" (p.digits 10 n) mayZero

def showText (p : Place) (text : Octets) : Octets :=
  let text := match p.precision with
    | some most => String.ofList (text.toList.take most)
    | none => text
  p.fill "" text false

def magnitude (p : Place) (f : Floating.Format) (conversion : Char) (m : Nat) (e : Int) : Octets :=
  let (a, b) := Floating.fraction m e
  let places := p.precision.getD 6
  match conversion with
  | 'f' => Floating.fixed places p.alternate a b
  | 'e' => Floating.scientific places p.alternate a b
  | 'g' => Floating.general places p.alternate a b
  | _ => Floating.binary f p.precision p.alternate m e

def showFloating (p : Place) (f : Floating.Format) (conversion : Char) (v : Floating) : Octets :=
  let small := conversion.toLower
  let text := match v with
    | .finite negative m e =>
      let first := p.signOf negative ++ if small = 'a' then "0x" else ""
      p.fill first (p.magnitude f small m e) true
    | .infinite negative => p.fill (p.signOf negative) "inf" false
    | .invalid negative => p.fill (p.signOf negative) "nan" false
  if conversion.isUpper then text.toUpper else text

end Place
end PipeShell.Machine
