import PipeShell.Text.Grapheme.Kind

/-!
# Clusters

The clusters of a text, each what a reader takes for one character. A text is cut between two
characters unless a rule keeps them together: marks stay with what they mark, signs that lead stay
with what they lead, the parts of a syllable stay together, so do consonants that are linked, pictures
that are joined, and the two halves of a flag. Nothing stays with a control.

The clusters of a text put together are the text.
-/

namespace PipeShell.Text.Grapheme

inductive Conjunct where
  | none | consonant | linked
deriving DecidableEq, Repr

structure Context where
  kind : Kind
  conjunct : Conjunct
  pictured : Bool
  joined : Bool
  halfFlag : Bool
deriving DecidableEq, Repr

namespace Context

def start (c : Char) : Context :=
  let kind := Kind.of c
  { kind
    conjunct := if isConsonant c then .consonant else .none
    pictured := kind = .picture
    joined := false
    halfFlag := kind = .regional }

def add (x : Context) (c : Char) : Context :=
  let kind := Kind.of c
  { kind
    conjunct :=
      if isConsonant c then .consonant
      else if x.conjunct = .none then .none
      else if isLinker c then .linked
      else if (kind = .extend && c.toNat ≠ 0x200c) || kind = .joiner then x.conjunct
      else .none
    pictured := kind = .picture || (x.pictured && kind = .extend)
    joined := x.pictured && kind = .joiner
    halfFlag := kind = .regional && !x.halfFlag }

def isSyllable : Kind → Kind → Bool
  | .initial, .initial | .initial, .medial | .initial, .open | .initial, .closed => true
  | .open, .medial | .open, .final | .medial, .medial | .medial, .final => true
  | .closed, .final | .final, .final => true
  | _, _ => false

def isAlone (k : Kind) : Bool := k = .control || k = .carriageReturn || k = .lineFeed

def keeps (x : Context) (c : Char) : Bool :=
  let kind := Kind.of c
  if x.kind = .carriageReturn && kind = .lineFeed then true
  else if isAlone x.kind || isAlone kind then false
  else
    isSyllable x.kind kind || kind = .extend || kind = .joiner || kind = .spacing
      || x.kind = .leading || (x.conjunct = .linked && isConsonant c)
      || (x.joined && kind = .picture) || (x.halfFlag && kind = .regional)

end Context

def cutFrom (begun : List Char) (x : Context) : List Char → List (List Char)
  | [] => [begun]
  | c :: cs =>
    if x.keeps c then cutFrom (begun ++ [c]) (x.add c) cs
    else begun :: cutFrom [c] (.start c) cs

def clusters : List Char → List (List Char)
  | [] => []
  | c :: cs => cutFrom [c] (.start c) cs

theorem flatten_cutFrom (begun : List Char) (x : Context) (cs : List Char) :
    (cutFrom begun x cs).flatten = begun ++ cs := by
  induction cs generalizing begun x with
  | nil => simp [cutFrom]
  | cons c cs ih =>
    rw [cutFrom]
    split <;> simp [ih]

theorem flatten_clusters (cs : List Char) : (clusters cs).flatten = cs := by
  cases cs with
  | nil => rfl
  | cons c cs => simp [clusters, flatten_cutFrom]

end PipeShell.Text.Grapheme
