import PipeShell.Machine.Floating
import PipeShell.Machine.Options
import PipeShell.Machine.Process

/-!
# Pauses

The tool that does nothing for the time that its arguments make together: numbers of seconds, or of
what a letter behind them tells.
-/

namespace PipeShell.Machine.Sleep

def unit? : List Char → Option Nat
  | [] | ['s'] => some 1
  | ['m'] => some 60
  | ['h'] => some 3600
  | ['d'] => some 86400
  | _ => none

def forever : Nat := Nat.pow 10 12 * second

def momentsOf? (arg : Octets) : Option Nat :=
  match Floating.read? Floating.double arg.toList with
  | some (.finite negative m e, _, rest) =>
    if negative && m ≠ 0 then none
    else
      (unit? rest).map fun unit =>
        let (a, b) := Floating.fraction m e
        min forever ((a * unit * second + b - 1) / b)
  | some (.infinite false, _, rest) => (unit? rest).map fun _ => forever
  | _ => none

def run (c : Call) : Prog Nat := do
  if c.args.isEmpty then c.misused "missing operand"
  let o ← c.options {}
  let refused := o.operands.filter fun arg => (momentsOf? arg).isNone
  let told (arg : Octets) : Octets := "invalid time interval " ++ c.conventions.quoted arg
  for arg in refused.dropLast do c.complain (told arg)
  if let some arg := refused.getLast? then c.misused (told arg)
  Prog.ask (.sleep (o.operands.foldl (fun n arg => n + (momentsOf? arg).getD 0) 0))
  return 0

end PipeShell.Machine.Sleep
