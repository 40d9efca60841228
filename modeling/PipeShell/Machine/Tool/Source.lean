import PipeShell.Machine.Options
import PipeShell.Text.Lines

/-!
# Sources

What a tool reads: the files that its arguments name, one after another. A dash stands for the tool's
own input.
-/

namespace PipeShell.Machine

def sourcesOf (operands : List Octets) : List Octets :=
  if operands.isEmpty then ["-"] else operands

namespace Prog
variable {σ : Type}

def openSource (source : Octets) : Prog (Except SystemError Nat) := do
  if source = "-" then return .ok input else ask (.open source .read)

def closeSource (source : Octets) (fd : Nat) : Prog Unit := do
  if source ≠ "-" then ask (.close fd)

def canCloseInput (sources : List Octets) : Prog Bool := do
  if sources.contains "-" then return (← ask (.statusOf input)).isSome else return true

/-- Goes through sources with a state. A source that does not open is handed to `refuse`. -/
def forSources (refuse : Octets → SystemError → σ → Prog σ) (use : Octets → Nat → σ → Prog σ) :
    List Octets → σ → Prog σ
  | [], s => pure s
  | source :: rest, s => do
    match ← openSource source with
    | .error cause => forSources refuse use rest (← refuse source cause s)
    | .ok fd =>
      let s ← use source fd s
      closeSource source fd
      forSources refuse use rest s

def forPieces (use : Bytes → σ → Prog σ) (fd : Nat) (s : σ) : Prog (σ × Option SystemError) :=
  iterate (fun s => do
    match ← ask (.read fd pieceSize) with
    | .ok [] => return .inr (s, none)
    | .ok bytes => return .inl (← use bytes s)
    | .error cause => return .inr (s, some cause)) s

def readNames (fd : Nat) : Prog (List Octets × Option SystemError) := do
  let (bytes, fault) ← readAll fd
  return ((Text.piecesBy 0 bytes).map fun name => Octets.ofBytes (name.filter (· ≠ 0)), fault)

end Prog
end PipeShell.Machine
