import PipeShell.Machine.Floating
import PipeShell.Text.Digest

/-!
# Sort keys

How lines are compared: by keys, each a part of the line with an order of its own, and at last by all
of their bytes. A part is counted in fields, which a separator parts or which begin with their blanks.
-/

namespace PipeShell.Machine.SortKey

structure Rules where
  numeric : Bool := false
  general : Bool := false
  human : Bool := false
  month : Bool := false
  random : Bool := false
  version : Bool := false
  folds : Bool := false
  dictionary : Bool := false
  printable : Bool := false
  reversed : Bool := false
  skipsStart : Bool := false
  skipsEnd : Bool := false
deriving DecidableEq, Repr

def Rules.isDefault (r : Rules) : Bool := { r with reversed := false } = ({} : Rules)

def Rules.clash (r : Rules) : Bool :=
  let other := r.version || r.random || r.dictionary || r.printable
  1 < [r.numeric, r.general, r.human, r.month, other].countP id

def Rules.isNumeric (r : Rules) : Bool := r.numeric || r.general || r.human

def Rules.letters (r : Rules) : Octets :=
  let chosen := [(r.skipsStart || r.skipsEnd, 'b'), (r.dictionary, 'd'), (r.folds, 'f'),
    (r.general, 'g'), (r.human, 'h'), (r.printable && !r.dictionary, 'i'), (r.month, 'M'),
    (r.numeric, 'n'), (r.random, 'R'), (r.reversed, 'r'), (r.version, 'V')]
  String.ofList ((chosen.filter Prod.fst).map Prod.snd)

structure Key where
  field : Nat := 0
  offset : Nat := 0
  last : Option (Nat × Nat) := none
  rules : Rules := {}
  isOlder : Bool := false
deriving DecidableEq, Repr

def Key.isFromStart (k : Key) : Bool := k.field = 0 && k.offset = 0

/-! ## Parts of lines -/

def isBlank (b : UInt8) : Bool := b = 32 || b = 9 || b = 10

def skipFields (separator : Option UInt8) (past : Bool) : Nat → Bytes → Bytes
  | 0, line => line
  | n + 1, line =>
    match separator with
    | some s =>
      let rest := line.dropWhile (· ≠ s)
      skipFields separator past n (if n ≠ 0 || past then rest.drop 1 else rest)
    | none => skipFields separator past n ((line.dropWhile isBlank).dropWhile (!isBlank ·))

def beginning (separator : Option UInt8) (k : Key) (line : Bytes) : Bytes :=
  let rest := skipFields separator true k.field line
  (if k.rules.skipsStart then rest.dropWhile isBlank else rest).drop k.offset

def behind (separator : Option UInt8) (k : Key) (line : Bytes) : Nat :=
  match k.last with
  | none => 0
  | some (field, 0) => (skipFields separator false (field + 1) line).length
  | some (field, offset) =>
    let rest := skipFields separator true field line
    ((if k.rules.skipsEnd then rest.dropWhile isBlank else rest).drop offset).length

def part (separator : Option UInt8) (k : Key) (line : Bytes) : Bytes :=
  let rest := beginning separator k line
  rest.take (rest.length - behind separator k line)

/-! ## Orders -/

structure Number where
  negative : Bool := false
  digits : Nat := 0
  places : Nat := 0
deriving DecidableEq, Repr

def isDigit (b : UInt8) : Bool := 48 ≤ b && b ≤ 57

def valueOf (digits : Bytes) : Nat := digits.foldl (fun n b => n * 10 + (b.toNat - 48)) 0

def leadingNumber (bs : Bytes) : Number × Bytes :=
  let bs := bs.dropWhile isBlank
  let negative := bs.head? = some 45
  let bs := if negative then bs.drop 1 else bs
  let whole := bs.takeWhile isDigit
  let rest := bs.drop whole.length
  let part := if rest.head? = some 46 then (rest.drop 1).takeWhile isDigit else []
  let rest := if rest.head? = some 46 then rest.drop (part.length + 1) else rest
  (⟨negative, valueOf (whole ++ part), part.length⟩, rest)

def Number.scaled (n : Number) (places : Nat) : Int :=
  let size : Int := n.digits * Nat.pow 10 (places - n.places)
  if n.negative then -size else size

def Number.compare (a b : Number) : Ordering :=
  let places := max a.places b.places
  Ord.compare (a.scaled places) (b.scaled places)

def unitOf (rest : Bytes) : Nat :=
  match rest.head? with
  | some b =>
    if b = 107 then 1
    else (("KMGTPEZY".toList.map fun c => UInt8.ofNat c.toNat).idxOf? b).elim 0 (· + 1)
  | none => 0

def compareHuman (a b : Bytes) : Ordering :=
  let (x, restX) := leadingNumber a
  let (y, restY) := leadingNumber b
  let rank (n : Number) (rest : Bytes) : Int :=
    let unit : Int := unitOf rest + 1
    if n.digits = 0 then 0 else if n.negative then -unit else unit
  (Ord.compare (rank x restX) (rank y restY)).then (x.compare y)

def months : List String :=
  ["JAN", "FEB", "MAR", "APR", "MAY", "JUN", "JUL", "AUG", "SEP", "OCT", "NOV", "DEC"]

def monthAt (bs : Bytes) : Nat :=
  (months.idxOf? (Octets.ofBytes (bs.take 3)).toUpper).elim 0 (· + 1)

def monthOf (bs : Bytes) : Nat := monthAt (bs.dropWhile isBlank)

/-- The place of a number among all: what is no number comes first, then what says so itself. -/
def generalRank : Option Floating → Int
  | none => 0
  | some (.invalid _) => 1
  | some (.infinite true) => 2
  | some (.finite _ _ _) => 3
  | some (.infinite false) => 4

def compareFinite (negative negative' : Bool) (m m' : Nat) (e e' : Int) : Ordering :=
  let least := min e e'
  let value (negative : Bool) (m : Nat) (e : Int) : Int :=
    let size : Int := m * Nat.pow 2 (e - least).toNat
    if negative then -size else size
  Ord.compare (value negative m e) (value negative' m' e')

def compareGeneral (a b : Bytes) : Ordering :=
  let read (bs : Bytes) : Option Floating :=
    (Floating.read? Floating.extended (Octets.ofBytes bs).toList).map Prod.fst
  match read a, read b with
  | some (.finite s m e), some (.finite s' m' e') => compareFinite s s' m m' e e'
  | x, y => Ord.compare (generalRank x) (generalRank y)

/-! ### Versions -/

def versionRank (b : Option UInt8) : Int :=
  match b with
  | none => -1
  | some b =>
    if isDigit b then 0
    else
      let c := Char.ofNat b.toNat
      if c.isAlpha then b.toNat else if c = '~' then -2 else b.toNat + 256

/-- Compares versions in at most so many steps: by turns what stands between numbers and the numbers. -/
def compareVersionWithin : Nat → Bytes → Bytes → Ordering
  | 0, _, _ => .eq
  | steps + 1, a, b =>
    let open? (bs : Bytes) : Bool := bs.head?.any (!isDigit ·)
    if open? a || open? b then
      let rank (bs : Bytes) : Int :=
        match bs.head? with
        | none => -1
        | some x => if isDigit x then 0 else versionRank (some x)
      (compare (rank a) (rank b)).then
        (compareVersionWithin steps (if open? a then a.drop 1 else a) (if open? b then b.drop 1 else b))
    else if a.isEmpty && b.isEmpty then .eq
    else
      let x := a.takeWhile isDigit
      let y := b.takeWhile isDigit
      (compare (valueOf x) (valueOf y)).then
        (compareVersionWithin steps (a.drop x.length) (b.drop y.length))

def compareNumbered (a b : Bytes) : Ordering := compareVersionWithin (a.length + b.length + 1) a b

def behindSuffixes : Nat → Bytes → Bytes
  | 0, bs => bs
  | steps + 1, bs =>
    let isLetter (b : UInt8) : Bool := (Char.ofNat b.toNat).isAlpha || b = 126
    match bs with
    | dot :: b :: rest =>
      if dot = 46 && isLetter b then
        behindSuffixes steps (rest.dropWhile fun b => isLetter b || isDigit b)
      else bs
    | _ => bs

def withoutSuffixes : Nat → Bytes → Bytes
  | 0, bs => bs
  | steps + 1, bs =>
    match behindSuffixes bs.length bs with
    | [] => []
    | b :: rest => bs.take (bs.length - rest.length - 1) ++ b :: withoutSuffixes steps rest

def dotRank : Bytes → Nat
  | [] => 0
  | [46] => 1
  | [46, 46] => 2
  | 46 :: _ => 3
  | _ => 4

def compareVersion (a b : Bytes) : Ordering :=
  (compare (dotRank a) (dotRank b)).then
    (if dotRank a ≤ 2 then .eq
    else
      (compareNumbered (withoutSuffixes a.length a) (withoutSuffixes b.length b)).then
        (compareNumbered a b))

/-! ## Keys -/

def compareBytes (a b : Bytes) : Ordering :=
  if a = b then .eq else if a < b then .lt else .gt

def counted (r : Rules) (bs : Bytes) : Bytes :=
  let kept := bs.filter fun b =>
    let c := Char.ofNat b.toNat
    if r.dictionary then c.isAlphanum || isBlank b else !r.printable || Octets.isPrintable c
  if r.folds then kept.map fun b => UInt8.ofNat (Char.ofNat b.toNat).toUpper.toNat else kept

/-- What makes an order at random: bytes before all others, and whether texts end with a zero. -/
structure Chance where
  salt : Bytes := []
  endsTexts : Bool := false

def compareRandom (chance : Chance) (a b : Bytes) : Ordering :=
  let ended (bs : Bytes) : Bytes :=
    if chance.endsTexts && bs.getLast?.any (· ≠ 0) then bs ++ [0] else bs
  (compareBytes (Text.Digest.of (chance.salt ++ ended a)) (Text.Digest.of (chance.salt ++ ended b))).then
    (compareBytes a b)

def Rules.compare (chance : Chance) (r : Rules) (a b : Bytes) : Ordering :=
  let a := counted r a
  let b := counted r b
  let upwards :=
    if r.numeric then (leadingNumber a).1.compare (leadingNumber b).1
    else if r.general then compareGeneral a b
    else if r.human then compareHuman a b
    else if r.month then Ord.compare (monthOf a) (monthOf b)
    else if r.random then compareRandom chance a b
    else if r.version then compareVersion a b
    else compareBytes a b
  if r.reversed then upwards.swap else upwards

def compareByKeys (separator : Option UInt8) (chance : Chance) (keys : List Key) (a b : Bytes) :
    Ordering :=
  keys.foldl (fun o k => o.then (k.rules.compare chance (part separator k a) (part separator k b))) .eq

end PipeShell.Machine.SortKey
