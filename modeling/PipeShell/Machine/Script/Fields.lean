import PipeShell.Machine.Script.Pattern

/-!
# Fields

The outcome of an expansion is split into fields where characters that came out of a parameter, a
command or an expression separate them. White space at the edge of a field vanishes, other separators
each end one field. What was quoted is never split.
-/

namespace PipeShell.Machine.Script

inductive Bit where
  | glyph (g : Glyph)
  | mark
  | gap
  /-- The beginning of a region that is split; the flag tells that only boundaries count in it. -/
  | opens (onlyGaps : Bool)
  | closes
deriving DecidableEq, Repr

namespace Bit

def text (bs : List Bit) : Octets :=
  String.ofList (bs.filterMap fun b => match b with | .glyph g => some g.char | _ => none)

def glyphs (bs : List Bit) : List Glyph :=
  bs.filterMap fun b => match b with | .glyph g => some g | _ => none

def ofText (quoted : Bool) (s : Octets) : List Bit := s.toList.map fun c => .glyph ⟨c, quoted⟩

def region (onlyGaps : Bool) (bs : List Bit) : List Bit := .opens onlyGaps :: bs ++ [.closes]

end Bit

structure Splitting where
  fields : List (List Bit) := []
  current : List Bit := []
  afterBlank : Bool := false
  inRegion : Bool := false
  onlyGaps : Bool := false
  afterGaps : Bool := false
  left : Option Nat := none
  kept : Option Nat := none

namespace Splitting

def keep (s : Splitting) (b : Bit) : Splitting := { s with current := b :: s.current }

def endField (s : Splitting) (b : Bit) : Splitting :=
  match s.left with
  | some (n + 1) =>
    if n = 0 then { s with left := some 0, kept := some s.current.length }.keep b
    else { s with left := some n, fields := s.current.reverse :: s.fields, current := [] }
  | _ => { s with fields := s.current.reverse :: s.fields, current := [] }

def addLast (s : Splitting) (b : Bit) (isSeparator isBlank : Bool) : Splitting :=
  if isBlank then { s with kept := some (s.kept.getD s.current.length) }.keep b
  else
    let kept := if isSeparator && s.afterBlank then s.kept else none
    { s with kept, afterBlank := false }.keep b

def add (s : Splitting) (b : Bit) (isSeparator isBlank : Bool) : Splitting :=
  if s.left = some 0 then s.addLast b isSeparator isBlank
  else if s.afterBlank then
    let s := { s with current := [] }
    if isBlank then s
    else if isSeparator then { s with afterBlank := false }
    else { s with afterBlank := false }.keep b
  else if isSeparator then
    let afterBlank := if s.afterGaps || s.onlyGaps then s.afterBlank else isBlank
    if s.current.isEmpty && afterBlank then s else { s with afterBlank }.endField b
  else s.keep b

def step (separators : List Char) (s : Splitting) (b : Bit) : Splitting :=
  match b with
  | .opens onlyGaps =>
    { s with inRegion := true, afterGaps := s.onlyGaps, onlyGaps, afterBlank := false }
  | .closes => { s with inRegion := false }
  | .gap => if s.inRegion then s.add b true true else s
  | .mark => s.keep b
  | .glyph g =>
    if !s.inRegion then s.keep b
    else
      let isSeparator := !s.onlyGaps && separators.contains g.char
      s.add b isSeparator (isSeparator && [' ', '\t', '\n'].contains g.char)

def finish (s : Splitting) : List (List Bit) :=
  let current := s.current.reverse
  let current := match s.kept with
    | some n => current.take n
    | none => current
  (if current.isEmpty && !s.onlyGaps then s.fields else current :: s.fields).reverse

end Splitting

def splitFields (separators : List Char) (limit : Option Nat) (bs : List Bit) : List (List Bit) :=
  (bs.foldl (Splitting.step separators) { left := limit }).finish

end PipeShell.Machine.Script
