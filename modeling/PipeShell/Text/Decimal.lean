/-!
# Decimal numbers

Decimal numbers in text. A signed number is one optional sign and at least one digit; leading zeros
are free. It is read whole or not at all.
-/

namespace PipeShell.Text

def digit? (c : Char) : Option Nat :=
  if '0' ≤ c && c ≤ '9' then some (c.toNat - '0'.toNat) else none

def digits? (cs : List Char) : Option Nat :=
  match cs with
  | [] => none
  | cs => cs.foldlM (fun total c => (digit? c).map (total * 10 + ·)) 0

def limit32 : Int := 2147483648

def signed32? (s : String) : Option Int :=
  let (negative, rest) := match s.toList with
    | '-' :: cs => (true, cs)
    | '+' :: cs => (false, cs)
    | cs => (false, cs)
  (digits? rest).bind fun n =>
    let value : Int := if negative then -n else n
    if -limit32 ≤ value && value < limit32 then some value else none

end PipeShell.Text
