import PipeShell.Text.Grapheme
import PipeShell.Text.Lines
import PipeShell.World

/-!
# Typed lines

What the shell reads is what somebody has typed: a backspace takes back the cluster before it. Lines
come from a source. The source that the program uses reads the shell's own input in blocks and keeps
what it has read too much; a program that shares the input finds only what is behind those blocks.
-/

namespace PipeShell

inductive Typed where
  | line (text : String)
  | garbled
  | ended
deriving DecidableEq, Repr

/-! ## Backspaces -/

namespace Typed

def backspace : Char := '\x08'

/-- A line as far as it has been typed, with the sizes of its clusters, the last one first. A size
is kept in one byte. -/
structure Draft where
  bytes : Bytes := []
  sizes : List UInt8 := []
deriving DecidableEq, Repr

namespace Draft

def type (d : Draft) (cluster : List Char) : Draft :=
  if cluster = [backspace] then
    match d.sizes with
    | [] => d
    | size :: sizes => ⟨d.bytes.take (d.bytes.length - size.toNat), sizes⟩
  else
    let typed := Text.bytes (String.ofList cluster)
    ⟨d.bytes ++ typed, UInt8.ofNat typed.length :: d.sizes⟩

end Draft

def edited (text : String) : String :=
  if text.contains backspace then
    Text.ofBytes ((Text.Grapheme.clusters text.toList).foldl Draft.type {}).bytes
  else text

def ofBytes (line : Bytes) : Typed :=
  if line.isEmpty then .ended
  else
    match Text.ofBytes? line with
    | some _ => .line (edited (Text.ofBytes (Text.bare line)))
    | none => .garbled

end Typed

/-! ## Sources of lines -/

structure LineSource (τ : Type) where
  next : τ → World → Typed × τ × World

namespace LineSource

def blockSize : Nat := 8192

def fillWithin : Nat → Bytes → World → Bytes × World
  | 0, ahead, w => (ahead, w)
  | blocks + 1, ahead, w =>
    if ahead.contains Text.lineFeed then (ahead, w)
    else
      match w.read w.input blockSize with
      | (.ok (b :: bs), w) => fillWithin blocks (ahead ++ b :: bs) w
      | (_, w) => (ahead, w)

def fill (ahead : Bytes) (w : World) : Bytes × World :=
  fillWithin (w.available w.input + 1) ahead w

/-- The shell's own input. What has been read too much is what is left of it. -/
def ownInput : LineSource Bytes where
  next ahead w :=
    let (ahead, w) := fill ahead w
    let line := (Text.pieces ahead).headD []
    (Typed.ofBytes line, ahead.drop line.length, w)

def known : LineSource (List String) where
  next
    | [], w => (.ended, [], w)
    | line :: rest, w => (.line line, rest, w)

end LineSource
end PipeShell
