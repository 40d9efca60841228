import PipeShell.Machine.Octets

/-!
# Patterns

Patterns against which texts and the names of files are matched: a star stands for any characters, a
question mark for one, and brackets for one of several. Quoted characters stand for themselves, and so
does one behind a backslash.
-/

namespace PipeShell.Machine.Script

structure Glyph where
  char : Char
  quoted : Bool := false
deriving DecidableEq, Repr

namespace Glyph

def is (g : Glyph) (c : Char) : Bool := g.char = c && !g.quoted

def unescaped : List Glyph → List Glyph
  | [] => []
  | [g] => [g]
  | g :: h :: rest =>
    if g.is '\\' then { h with quoted := true } :: unescaped rest else g :: unescaped (h :: rest)

def text (gs : List Glyph) : Octets := String.ofList (gs.map Glyph.char)

def isMeta (g : Glyph) : Bool := g.is '*' || g.is '?' || g.is '['

end Glyph

namespace Pattern

inductive Member where
  | range (first last : Char)
  | named (name : String)
deriving DecidableEq, Repr

inductive Item where
  | one (c : Char)
  | any
  | many
  | oneOf (others : Bool) (members : List Member)
deriving DecidableEq, Repr

/-! ## Reading -/

def className? (gs : List Glyph) : Option (String × List Glyph) :=
  match gs with
  | colon :: rest =>
    if !colon.is ':' then none
    else
      let name := rest.takeWhile fun g => g.char.isAlpha
      match rest.drop name.length with
      | colon :: close :: rest =>
        if colon.is ':' && close.is ']' then some (Glyph.text name, rest) else none
      | _ => none
  | [] => none

def members? : Nat → Bool → List Glyph → Option (List Member × List Glyph)
  | 0, _, _ => none
  | steps + 1, first, gs =>
    match gs with
    | [] => none
    | g :: rest =>
      if g.is ']' && !first then some ([], rest)
      else
        match if g.is '[' then className? rest else none with
        | some (name, rest) =>
          (members? steps false rest).map fun (ms, rest) => (.named name :: ms, rest)
        | none =>
          match rest with
          | dash :: last :: after =>
            if dash.is '-' && !last.is ']' then
              (members? steps false after).map fun (ms, rest) => (.range g.char last.char :: ms, rest)
            else (members? steps false rest).map fun (ms, rest) => (.range g.char g.char :: ms, rest)
          | _ => (members? steps false rest).map fun (ms, rest) => (.range g.char g.char :: ms, rest)

def itemsWithin : Nat → List Glyph → List Item
  | 0, _ => []
  | steps + 1, gs =>
    match gs with
    | [] => []
    | g :: rest =>
      if g.is '*' then .many :: itemsWithin steps rest
      else if g.is '?' then .any :: itemsWithin steps rest
      else if g.is '[' then
        let others := rest.head?.any (·.is '!')
        match members? (rest.length + 1) true (if others then rest.drop 1 else rest) with
        | some (ms, rest) => .oneOf others ms :: itemsWithin steps rest
        | none => .one '[' :: itemsWithin steps rest
      else .one g.char :: itemsWithin steps rest

def items (gs : List Glyph) : List Item :=
  let gs := Glyph.unescaped gs
  itemsWithin gs.length gs

/-! ## Matching -/

def isPunctuation (c : Char) : Bool := 33 ≤ c.toNat && c.toNat < 127 && !c.isAlphanum

def classes : List (String × (Char → Bool)) :=
  [("alnum", Char.isAlphanum), ("alpha", Char.isAlpha), ("blank", fun c => c = ' ' || c = '\t'),
    ("cntrl", fun c => c.toNat < 32 || c.toNat = 127), ("digit", Char.isDigit),
    ("graph", fun c => 33 ≤ c.toNat && c.toNat < 127), ("lower", Char.isLower),
    ("print", Octets.isPrintable), ("punct", isPunctuation),
    ("space", fun c => c = ' ' || (9 ≤ c.toNat && c.toNat ≤ 13)), ("upper", Char.isUpper),
    ("xdigit", Octets.isHex)]

def Member.holds (m : Member) (c : Char) : Bool :=
  match m with
  | .range first last => first ≤ c && c ≤ last
  | .named name => ((classes.lookup name).map fun holds => holds c).getD false

def Item.holds (i : Item) (c : Char) : Bool :=
  match i with
  | .one d => c = d
  | .any => true
  | .many => false
  | .oneOf others ms => (ms.any (·.holds c)) != others

/-- The rest of a text behind as many characters as a star stands for, if what follows matches there. -/
def someTail (holds : List Char → Bool) : List Char → Bool
  | [] => holds []
  | c :: cs => holds (c :: cs) || someTail holds cs

def accepts : List Item → List Char → Bool
  | [], cs => cs.isEmpty
  | .many :: items, cs => someTail (accepts items) cs
  | item :: items, cs =>
    match cs with
    | c :: cs => item.holds c && accepts items cs
    | [] => false

end Pattern

def matchesPattern (pattern : List Glyph) (s : Octets) : Bool :=
  Pattern.accepts (Pattern.items pattern) s.toList

def trimFront (pattern : List Glyph) (longest : Bool) (s : Octets) : Octets :=
  let items := Pattern.items pattern
  let cs := s.toList
  let sizes := List.range (cs.length + 1)
  let found := (if longest then sizes.reverse else sizes).find? fun n =>
    Pattern.accepts items (cs.take n)
  match found with
  | some n => String.ofList (cs.drop n)
  | none => s

def trimBack (pattern : List Glyph) (longest : Bool) (s : Octets) : Octets :=
  let items := Pattern.items pattern
  let cs := s.toList
  let sizes := List.range (cs.length + 1)
  let found := (if longest then sizes else sizes.reverse).find? fun n =>
    Pattern.accepts items (cs.drop n)
  match found with
  | some n => String.ofList (cs.take n)
  | none => s

end PipeShell.Machine.Script
