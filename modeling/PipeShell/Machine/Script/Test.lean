import PipeShell.Machine.Script.Memory

/-!
# Conditions

The builtin that finds out whether a condition holds: about files, texts and numbers.
-/

namespace PipeShell.Machine.Script
open Act

namespace Condition

inductive Operator where
  | unary (letter : Char)
  | binary (text : String)
  | not | and | or | open | close
deriving DecidableEq, Repr

def operator? (s : Octets) : Option Operator :=
  match s with
  | "!" => some .not
  | "-a" => some .and
  | "-o" => some .or
  | "(" => some .open
  | ")" => some .close
  | _ =>
    if ["=", "!=", "<", ">", "-eq", "-ne", "-ge", "-gt", "-le", "-lt", "-nt", "-ot", "-ef"].contains s
    then some (.binary s)
    else
      match s.toList with
      | ['-', c] => if "rwxefdcbpugkstznhOGLS".contains c then some (.unary c) else none
      | _ => none

def isBinary (s : Octets) : Bool :=
  match operator? s with
  | some (.binary _) => true
  | _ => false

inductive Token where
  | end
  | operand
  | operator (o : Operator)
deriving DecidableEq, Repr

def token (args : List Octets) : Token :=
  match args with
  | [] => .end
  | s :: rest =>
    match operator? s with
    | none => .operand
    | some (.unary c) =>
      let isOperand := match rest with
        | [] => true
        | [_] => false
        | next :: _ => isBinary next
      if isOperand then .operand else .operator (.unary c)
    | some .open => if rest.isEmpty then .operand else .operator .open
    | some o => .operator o

/-! ## Values -/

def number (s : Octets) : Act Int := do
  match integer? s with
  | some n => return n
  | none => fail ("Illegal number: " ++ s)

def status? (path : Octets) (follow : Bool) : Act (Option FileStatus) :=
  return (← ask (.status path follow)).toOption

def aboutFile (letter : Char) (path : Octets) : Act Bool := do
  if letter = 't' then
    let _ ← number path
    return false
  else
    let follow := letter ≠ 'h' && letter ≠ 'L'
    match ← status? path follow with
    | none => return false
    | some s =>
      let allows (bit : Nat) : Bool := s.kind = .link || s.mode &&& bit ≠ 0
      match letter with
      | 'r' => return allows 0o400
      | 'w' => return allows 0o200
      | 'x' => return allows 0o100
      | 'f' => return s.kind = .regular
      | 'd' => return s.kind = .folder
      | 'c' => return s.kind = .device
      | 'p' => return s.kind = .pipe
      | 'h' | 'L' => return s.kind = .link
      | 's' => return 0 < s.size
      | 'u' => return s.mode &&& 0o4000 ≠ 0
      | 'g' => return s.mode &&& 0o2000 ≠ 0
      | 'k' => return s.mode &&& 0o1000 ≠ 0
      | 'e' | 'O' | 'G' => return true
      | _ => return false

def compare (operator : String) (a b : Octets) : Act Bool := do
  let numbers (holds : Int → Int → Bool) : Act Bool := do
    let x ← number a
    return holds x (← number b)
  let files (holds : FileStatus → FileStatus → Bool) : Act Bool := do
    match ← status? a true, ← status? b true with
    | some s, some t => return holds s t
    | _, _ => return false
  match operator with
  | "=" => return a = b
  | "!=" => return a ≠ b
  | "<" => return a < b
  | ">" => return b < a
  | "-eq" => numbers fun x y => x = y
  | "-ne" => numbers fun x y => x ≠ y
  | "-ge" => numbers fun x y => y ≤ x
  | "-gt" => numbers fun x y => y < x
  | "-le" => numbers fun x y => x ≤ y
  | "-lt" => numbers fun x y => x < y
  | "-ef" => files fun s t => s.number = t.number
  | "-nt" => files fun s t => t.changed < s.changed
  | "-ot" => files fun s t => s.changed < t.changed
  | _ => return false

/-! ## Conditions -/

/-- Each of these gives whether a part of a condition holds, and the arguments from its last one on. -/
abbrev Outcome := Bool × List Octets

def refuse {α : Type} (what : Octets) (text : Octets) : Act α :=
  fail (if what = "" then text else what ++ ": " ++ text)

mutual

def disjunction : Nat → Bool → List Octets → Act Outcome
  | 0, holds, args => return (holds, args)
  | steps + 1, sofar, args => do
    let (holds, args) ← conjunction steps true args
    let holds := sofar || holds
    if token args.tail = .operator .or then disjunction steps holds (args.drop 2)
    else return (holds, args)

def conjunction : Nat → Bool → List Octets → Act Outcome
  | 0, holds, args => return (holds, args)
  | steps + 1, sofar, args => do
    let (holds, args) ← negation steps args
    let holds := sofar && holds
    if token args.tail = .operator .and then conjunction steps holds (args.drop 2)
    else return (holds, args)

def negation : Nat → List Octets → Act Outcome
  | 0, args => return (false, args)
  | steps + 1, args => do
    if token args = .operator .not then
      if args.tail.isEmpty then return (true, args)
      let (holds, args) ← negation steps args.tail
      return (!holds, args)
    else simple steps args

def simple : Nat → List Octets → Act Outcome
  | 0, args => return (false, args)
  | steps + 1, args => do
    match token args, args with
    | .end, _ | _, [] => return (false, args)
    | .operator .open, _ :: inside =>
      if token inside = .operator .close then return (false, inside)
      let (holds, rest) ← disjunction steps false inside
      if token rest.tail ≠ .operator .close then refuse "" "closing paren expected"
      return (holds, rest.tail)
    | .operator (.unary letter), operator :: rest =>
      match rest with
      | [] => refuse operator "argument expected"
      | arg :: _ =>
        match letter with
        | 'z' => return (arg = "", rest)
        | 'n' => return (arg ≠ "", rest)
        | _ => return (← aboutFile letter arg, rest)
    | _, arg :: rest =>
      match rest with
      | operator :: behind =>
        match token rest with
        | .operator (.binary _) =>
          match behind with
          | [] => refuse operator "argument expected"
          | other :: _ => return (← compare operator arg other, behind)
        | _ => return (arg ≠ "", args)
      | [] => return (arg ≠ "", args)

end

/-- Does the condition hold that arguments make? Few arguments are read in a way of their own. -/
def holdsWithin : Nat → List Octets → Act Bool
  | 0, _ => return false
  | steps + 1, args => do
    let whole (args : List Octets) : Act Bool := do
      let (holds, rest) ← disjunction (4 * args.length + 4) false args
      match rest with
      | last :: _ :: _ => refuse last "unexpected operator"
      | _ => return holds
    -- Between parentheses, or behind a negation.
    let wrapped : Act Bool := do
      match args with
      | first :: inside =>
        if first = "(" && inside.getLast? = some ")" then whole inside.dropLast
        else if first = "!" then return !(← holdsWithin steps inside)
        else whole args
      | [] => whole args
    match args with
    | [] => return false
    | [a, operator, b] => if isBinary operator then compare operator a b else wrapped
    | [_, _, _, _] => wrapped
    | _ => whole args

end Condition

def testCondition (name : Octets) (args : List Octets) : Act Nat := do
  let args ←
    if name = "[" then
      if args.getLast?.any (·.startsWith "]") then pure args.dropLast else fail "missing ]"
    else pure args
  return if ← Condition.holdsWithin (args.length + 1) args then 0 else 1

end PipeShell.Machine.Script
