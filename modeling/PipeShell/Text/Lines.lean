import PipeShell.Text.Bytes

/-!
# Lines

Lines of bytes. A line ends after a line feed or with the bytes. As a text it comes without that
line feed and without a carriage return before it; a carriage return at the end of a line that has
no line feed stays.
-/

namespace PipeShell.Text

def lineFeed : UInt8 := 10

def carriageReturn : UInt8 := 13

def piecesBy (mark : UInt8) : Bytes → List Bytes
  | [] => []
  | b :: bs =>
    if b = mark then [b] :: piecesBy mark bs
    else
      match piecesBy mark bs with
      | [] => [[b]]
      | line :: rest => (b :: line) :: rest

theorem flatten_piecesBy (mark : UInt8) (bs : Bytes) : (piecesBy mark bs).flatten = bs := by
  induction bs with
  | nil => rfl
  | cons b bs ih =>
    simp only [piecesBy]
    split
    · simp [ih]
    · split
      · next h => simp [h] at ih; simp [← ih]
      · next line rest h => rw [h] at ih; simp [← ih]

def pieces (bs : Bytes) : List Bytes := piecesBy lineFeed bs

theorem flatten_pieces (bs : Bytes) : (pieces bs).flatten = bs := flatten_piecesBy lineFeed bs

def bare (line : Bytes) : Bytes :=
  if line.getLast? = some lineFeed then
    let line := line.dropLast
    if line.getLast? = some carriageReturn then line.dropLast else line
  else line

def lines (bs : Bytes) : List (Option String) :=
  (pieces bs).map fun line => (ofBytes? line).map fun _ => ofBytes (bare line)

end PipeShell.Text
