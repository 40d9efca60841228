import PipeShell.Machine.Options

/-!
# One line again and again

The tool that writes its arguments as a line until nobody takes it any more.
-/

namespace PipeShell.Machine.Yes

def pieceSize : Nat := 8192

def piece (line : Bytes) : Bytes :=
  (List.replicate (max 1 (pieceSize / line.length)) line).flatten

def run (c : Call) : Prog Nat := do
  let o ← c.options {}
  let words := if o.operands.isEmpty then ["y"] else o.operands
  let bytes := piece (Octets.bytes (" ".intercalate words ++ "\n"))
  let cause ← Prog.iterate (fun (_ : Unit) => do
    match ← Prog.ask (.write Prog.output bytes) with
    | none => return .inl ()
    | some cause => return .inr cause) ()
  c.fail ("standard output: " ++ cause.text)

end PipeShell.Machine.Yes
