import PipeShell.Machine.Tool.ByteSet
import PipeShell.Machine.Tool.Source

/-!
# Replacing bytes

The tool that replaces bytes, deletes them, or writes only one of several that are the same.
-/

namespace PipeShell.Machine.Tr
open ByteSet

def optionSet : OptionSet where
  short := "AcCdst".toList.map fun c => (c, .nothing)
  long := [("complement", 'c', .nothing), ("delete", 'd', .nothing),
    ("squeeze-repeats", 's', .nothing), ("truncate-set1", 't', .nothing)]
  permuted := false

structure Form where
  images : Array UInt8 := (Array.range 256).map UInt8.ofNat
  deleted : Array Bool := Array.replicate 256 false
  squeezed : Array Bool := Array.replicate 256 false

/-! ## Sets -/

def members (set : List Element) : List Char := set.flatMap Element.members

def membership (others : Bool) (cs : List Char) : Array Bool :=
  cs.foldl (fun a c => a.setIfInBounds c.toNat (!others)) (Array.replicate 256 others)

def domain (others : Bool) (set : List Element) : List Char :=
  let inside := membership false (members set)
  if others then allOctets.filter fun c => !(inside.getD c.toNat false) else members set

def isIndefinite : Element → Bool
  | .repeated _ none => true
  | _ => false

def isClass : Element → Bool
  | .named _ => true
  | _ => false

def isCase (e : Element) : Bool := e = .named "upper" || e = .named "lower"

def extendRepetition (size : Nat) (set : List Element) : List Element :=
  let lacking := size - (members set).length
  set.map fun e =>
    match e with
    | .repeated c none => .repeated c (some lacking)
    | e => e

def lastOctet (set : List Element) : Except Octets Char :=
  match set.getLast? with
  | some (.named _) =>
    .error ("when translating with string1 longer than string2,\nthe latter string must not end with a "
      ++ "character class")
  | some (.range _ last) => .ok last
  | some (.byte c) | some (.equivalent c) | some (.repeated c _) => .ok c
  | none => .error "when not truncating set1, string2 must be non-empty"

/-! ## Pairs -/

def otherCase (source target : Element) : List (Char × Char) :=
  if source = target then []
  else source.members.map fun c => (c, if c.isUpper then c.toLower else c.toUpper)

/-- Pairs the octets of two sets in at most so many steps. A class of one case in the second set needs
one in the first at the same place. The flags tell whether the sets are at the beginning of an element. -/
def pairs : Nat → Bool → Bool → List (Element × List Char) → List (Element × List Char) →
    Except Octets (List (Char × Char))
  | 0, _, _, _, _ => .ok []
  | steps + 1, newS, newT, source, target =>
    match source, target with
    | (_, []) :: source, target => pairs steps true newT source target
    | source, (_, []) :: target => pairs steps newS true source target
    | (s, c :: cs) :: source, (t, d :: ds) :: target =>
      if isCase t then
        if newS && isCase s then
          (pairs steps true true source target).map (otherCase s t ++ ·)
        else .error "misaligned [:upper:] and/or [:lower:] construct"
      else
        (pairs steps cs.isEmpty ds.isEmpty ((s, cs) :: source) ((t, ds) :: target)).map ((c, d) :: ·)
    | [], (t, _ :: _) :: _ =>
      if newT && isCase t then .error "misaligned [:upper:] and/or [:lower:] construct" else .ok []
    | _, [] => .ok []

def expanded (set : List Element) : List (Element × List Char) := set.map fun e => (e, e.members)

def replacements (complement truncate : Bool) (source target : List Element) :
    Except Octets (List (Char × Char)) := do
  if source.any isIndefinite then .error "the [c*] repeat construct may not appear in string1"
  let from' := domain complement source
  if 1 < target.countP isIndefinite then
    .error "only one [c*] repeat construct may appear in string2"
  let target := extendRepetition from'.length target
  if target.any fun e => match e with | .equivalent _ => true | _ => false then
    .error "[=c=] expressions may not appear in string2 when translating"
  if target.any fun e => isClass e && !isCase e then
    .error ("when translating, the only character classes that may appear in\nstring2 are \x27upper\x27 and "
      ++ "\x27lower\x27")
  let steps := 2 * (from'.length + (members target).length + source.length + target.length) + 2
  if !complement && target.any isClass then
    let _ ← pairs steps true true (expanded source) (expanded target)
  let lacking := from'.length - (members target).length
  let target ←
    if 0 < lacking && !truncate then do
      if (members target).isEmpty then .error "when not truncating set1, string2 must be non-empty"
      let c ← lastOctet target
      pure (target ++ [.repeated c (some lacking)])
    else pure target
  let images := members target
  if complement && source.any isClass
      && !(images.length = from'.length && images.all (some · = images.head?)) then
    .error ("when translating with complemented character classes,\nstring2 must map all characters in the "
      ++ "domain to one")
  if complement then .ok (from'.zip images)
  else pairs (steps + 2 * lacking) true true (expanded source) (expanded target)

/-! ## Forms -/

def Form.withImages (f : Form) (pairs : List (Char × Char)) : Form :=
  { f with
    images := pairs.foldl (fun a (c, d) => a.setIfInBounds c.toNat (UInt8.ofNat d.toNat)) f.images }

def formOf (o : Options) (sets : List (List Element)) : Except Octets Form := do
  let complement := o.has 'c' || o.has 'C'
  let squeezes := o.has 's'
  match sets with
  | [set] =>
    if set.any isIndefinite then .error "the [c*] repeat construct may not appear in string1"
    let chosen := membership complement (members set)
    if o.has 'd' then .ok { deleted := chosen } else .ok { squeezed := chosen }
  | [source, target] =>
    if o.has 'd' then
      if source.any isIndefinite then .error "the [c*] repeat construct may not appear in string1"
      if 1 < target.countP isIndefinite then
        .error "only one [c*] repeat construct may appear in string2"
      if target.any isIndefinite then
        .error "the [c*] construct may appear in string2 only when translating"
      .ok { deleted := membership complement (members source)
            squeezed := membership false (members target) }
    else do
      let found ← replacements complement (o.has 't') source target
      let form := ({} : Form).withImages found
      let reach := extendRepetition (domain complement source).length target
      .ok (if squeezes then { form with squeezed := membership false (members reach) } else form)
  | _ => .ok {}

def Form.applyOnto (f : Form) : Bytes → Bytes → Option UInt8 → Bytes × Option UInt8
  | done, [], last => (done, last)
  | done, b :: bs, last =>
    if f.deleted.getD b.toNat false then f.applyOnto done bs last
    else
      let c := f.images.getD b.toNat b
      if last = some c && f.squeezed.getD c.toNat false then f.applyOnto done bs last
      else f.applyOnto (c :: done) bs (some c)

/-! ## The tool -/

def miscounted? (k : Conventions) (o : Options) : Option Octets :=
  let deletes := o.has 'd'
  let squeezes := o.has 's'
  let least := if deletes = squeezes then 2 else 1
  let most := if deletes && !squeezes then 1 else 2
  let n := o.operands.length
  if n < least then
    if n = 0 then some "missing operand"
    else
      some ("missing operand after " ++ k.quoted (o.operands.getLastD "")
        ++ "\nTwo strings must be given when "
        ++ (if squeezes then "both deleting and squeezing repeats." else "translating."))
  else if most < n then
    some ("extra operand " ++ k.quoted (o.operands.getD most "")
      ++ if n = 2 then "\nOnly one string may be given when deleting without squeezing repeats." else "")
  else none

def readSet (c : Call) (text : Octets) : Prog (List Element) := do
  let (found, warnings) := marks text
  for warning in warnings do c.complain warning
  match elements c.conventions found with
  | .ok set => return set
  | .error text => c.fail text

def run (c : Call) : Prog Nat := do
  let o ← c.options optionSet
  if let some text := miscounted? c.conventions o then c.misused text
  let sets ← o.operands.mapM (readSet c)
  let form ← match formOf o sets with
    | .ok form => pure form
    | .error text => c.fail text
  let use (bytes : Bytes) (last : Option UInt8) : Prog (Option UInt8) := do
    let (done, last) := form.applyOnto [] bytes last
    match ← Prog.ask (.write Prog.output done.reverse) with
    | none => return last
    | some cause => c.fail ("write error: " ++ cause.text)
  let (_, fault) ← Prog.forPieces use Prog.input none
  match fault with
  | none => return 0
  | some cause => c.fail ("read error: " ++ cause.text)

end PipeShell.Machine.Tr
