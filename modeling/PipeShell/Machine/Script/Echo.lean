import PipeShell.Machine.Place
import PipeShell.Machine.Script.Memory

/-!
# Showing texts

The builtins that show their arguments, with escapes undone or in a format.
-/

namespace PipeShell.Machine.Script
open Act

/-! ## Escapes -/

def escapeLetter? (c : Char) : Option Char :=
  match c with
  | '\\' => some '\\'
  | 'a' => some (Char.ofNat 7)
  | 'b' => some (Char.ofNat 8)
  | 'e' => some (Char.ofNat 27)
  | 'f' => some (Char.ofNat 12)
  | 'n' => some '\n'
  | 'r' => some '\r'
  | 't' => some '\t'
  | 'v' => some (Char.ofNat 11)
  | _ => none

def unescapeOne (cs : List Char) : Char × List Char :=
  match cs with
  | [] => ('\\', [])
  | c :: rest =>
    match escapeLetter? c with
    | some d => (d, rest)
    | none =>
      let digits := (cs.take 3).takeWhile Octets.isOctal
      if digits.isEmpty then ('\\', cs)
      else (Char.ofNat (Octets.number 8 digits % 256), cs.drop digits.length)

def unescapeWithin : Nat → List Char → List Char × Bool
  | 0, _ => ([], false)
  | steps + 1, cs =>
    match cs with
    | [] => ([], false)
    | '\\' :: 'c' :: _ => ([], true)
    | '\\' :: rest =>
      let rest := match rest with
        | '0' :: d :: more => if Octets.isOctal d then d :: more else rest
        | _ => rest
      let (c, rest) := unescapeOne rest
      let (more, stops) := unescapeWithin steps rest
      (c :: more, stops)
    | c :: rest =>
      let (more, stops) := unescapeWithin steps rest
      (c :: more, stops)

def unescape (s : Octets) : Octets × Bool :=
  let (cs, stops) := unescapeWithin (s.length + 1) s.toList
  (String.ofList cs, stops)

def echoed (ending : Octets) : List Octets → Octets
  | [] => ending
  | [arg] =>
    let (text, stops) := unescape arg
    if stops then text else text ++ ending
  | arg :: rest =>
    let (text, stops) := unescape arg
    if stops then text else text ++ " " ++ echoed ending rest

def echo (args : List Octets) : Act Nat := do
  match args with
  | "-n" :: rest => put (echoed "" rest)
  | _ => put (echoed "\n" args)
  return 0

/-! ## Formats -/

namespace Format

structure Progress where
  args : List Octets
  status : Nat := 0

abbrev Work (α : Type) := StateT Progress (ExceptT Leave (StateT Memory Prog)) α

def act {α : Type} (a : Act α) : Work α := StateT.lift a

def next? : Work (Option Octets) := do
  let p ← get
  set { p with args := p.args.tail }
  return p.args.head?

def blame (arg : Octets) (far : Bool) (rest : Option (List Char)) : Work Unit := do
  let say (text : Octets) : Work Unit := do
    act (warn (arg ++ ": " ++ text))
    modify fun p => { p with status := 1 }
  match rest with
  | none => if arg ≠ "" then say "expected numeric value"
  | some (_ :: _) => say "not completely converted"
  | some [] => if far then say "Numerical result out of range"

def octet? (arg : Octets) : Option Nat :=
  match arg.toList with
  | mark :: rest =>
    if mark = '\x27' || mark = '"' then some ((rest.head?.map Char.toNat).getD 0) else none
  | [] => none

def integer : Work Int := do
  let arg := (← next?).getD ""
  if let some n := octet? arg then return n
  match Numeral.read? arg.toList with
  | some (n, rest) =>
    let (value, far) := n.signed
    blame arg far (some rest)
    return value
  | none => blame arg false none; return 0

def natural : Work Nat := do
  let arg := (← next?).getD ""
  if let some n := octet? arg then return n
  match Numeral.read? arg.toList with
  | some (n, rest) =>
    let (value, far) := n.unsigned
    blame arg far (some rest)
    return value
  | none => blame arg false none; return 0

def floating : Work Floating := do
  let arg := (← next?).getD ""
  if let some n := octet? arg then return .finite false n 0
  match Floating.read? Floating.double arg.toList with
  | some (value, far, rest) => blame arg far (some rest); return value
  | none => blame arg false none; return .finite false 0 0

def measure (cs : List Char) : Work (Int × List Char) := do
  match cs with
  | '*' :: rest => return (← integer, rest)
  | _ =>
    let (n, rest) := Numeral.readDigits 10 Char.isDigit cs
    return (n, rest)

def place (cs : List Char) : Work (Option (List Char)) := do
  let marks := cs.takeWhile "#-+ 0".toList.contains
  let p := marks.foldl Place.withFlag {}
  let (width, rest) ← measure (cs.drop marks.length)
  let p := p.withWidth width
  let (p, rest) ← match rest with
    | '.' :: rest => do
      let (n, rest) ← measure rest
      pure ({ p with precision := if n < 0 then none else some n.toNat }, rest)
    | _ => pure (p, rest)
  match rest with
  | [] => act (fail "missing format character")
  | conversion :: after =>
    match conversion with
    | 'b' =>
      let (text, stops) := unescape ((← next?).getD "")
      act (put (p.showText text))
      return if stops then none else some after
    | 'c' =>
      let arg := (← next?).getD ""
      act (put (Place.showText { p with precision := none } ((arg.toList.head?.getD '\x00').toString)))
    | 's' => act (put (p.showText ((← next?).getD "")))
    | 'd' | 'i' => act (put (p.showInteger (← integer)))
    | 'o' | 'u' | 'x' | 'X' => act (put (p.showNatural conversion (← natural)))
    | _ =>
      if "aAeEfFgG".contains conversion then
        act (put (p.showFloating Floating.double conversion (← floating)))
      else
        act (fail ("%" ++ String.ofList (cs.take (cs.length - after.length)) ++ ": invalid directive"))
    return some after

def showWithin : Nat → List Char → Work Bool
  | 0, _ => return false
  | steps + 1, cs => do
    match cs with
    | [] => return false
    | '\\' :: rest =>
      let (c, rest) := unescapeOne rest
      act (put c.toString)
      showWithin steps rest
    | '%' :: '%' :: rest => act (put "%"); showWithin steps rest
    | '%' :: rest =>
      match ← place rest with
      | some rest => showWithin steps rest
      | none => return true
    | c :: rest => act (put c.toString); showWithin steps rest

/-- Uses a format as long as it takes arguments, at most so many times. -/
def repeatWithin (format : Octets) : Nat → Work Unit
  | 0 => pure ()
  | times + 1 => do
    let before := (← get).args.length
    if ← showWithin (format.length + 1) format.toList then return
    let left := (← get).args.length
    if 0 < left && left < before then repeatWithin format times

end Format

def showFormat (args : List Octets) : Act Nat := do
  match args with
  | [] => fail "usage: printf format [arg ...]"
  | format :: args =>
    let (_, p) ← (Format.repeatWithin format (args.length + 1)).run { args }
    return p.status

end PipeShell.Machine.Script
