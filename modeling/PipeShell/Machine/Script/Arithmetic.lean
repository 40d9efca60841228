import PipeShell.Machine.Numeral
import PipeShell.Machine.Script.Syntax

/-!
# Arithmetic

Expressions over whole numbers of sixty-four bits and variables, which they may also set. Where the
value of a part does not matter, it is read but nothing in it happens.
-/

namespace PipeShell.Machine.Script

namespace Arithmetic

inductive Token where
  | number (n : Int)
  | variable (name : Octets)
  | sign (text : String)
  | bad
deriving DecidableEq, Repr

def signs : List String :=
  ["<<=", ">>=", "<<", ">>", "<=", ">=", "==", "!=", "&&", "||", "+=", "-=", "*=", "/=", "%=", "&=",
    "|=", "^=", "<", ">", "=", "!", "&", "|", "+", "-", "*", "/", "%", "^", "~", "?", ":", "(", ")"]

def tokensWithin : Nat → List Char → List Token
  | 0, _ => []
  | steps + 1, cs =>
    match cs with
    | [] => []
    | c :: rest =>
      if c = ' ' || c = '\t' || c = '\n' then tokensWithin steps rest
      else if c.isDigit then
        match Numeral.read? cs with
        | some (n, rest) => .number n.signed.1 :: tokensWithin steps rest
        | none => [.bad]
      else if isNameStart c then
        let name := cs.takeWhile isNameChar
        .variable (String.ofList name) :: tokensWithin steps (cs.drop name.length)
      else
        match signs.find? fun s => s.toList.isPrefixOf cs with
        | some s => .sign s :: tokensWithin steps (cs.drop s.length)
        | none => [.bad]

def tokens (s : Octets) : List Token := tokensWithin s.length s.toList

structure State where
  rest : List Token
  value : Octets → Octets
  changes : List (Octets × Int) := []

inductive Refusal where
  | expression (text : Octets)
  | plain (text : Octets)
  | overflow

abbrev Work (α : Type) := StateT State (Except Refusal) α

def refuse {α : Type} (text : Octets) : Work α := throw (.expression text)

def peek : Work (Option Token) := return (← get).rest.head?

def advance : Work Unit := modify fun s => { s with rest := s.rest.tail }

def numberOf (value : Octets) : Except Refusal Int :=
  let refusal : Except Refusal Int := .error (.plain ("Illegal number: " ++ value))
  let blank (cs : List Char) : Bool := cs.all Numeral.isSpace
  match Numeral.read? value.toList with
  | none => if blank value.toList then .ok 0 else refusal
  | some (n, rest) =>
    let (n, far) := n.signed
    if far || !blank rest then refusal else .ok n

def valueOf (name : Octets) : Work Int := do
  let s ← get
  match s.changes.lookup name with
  | some n => return n
  | none => numberOf (s.value name)

def assign (name : Octets) (n : Int) : Work Unit :=
  modify fun s => { s with changes := (name, n) :: s.changes }

/-! ## Operations -/

def ranks : List (String × Nat) :=
  [("*", 0), ("/", 0), ("%", 0), ("+", 1), ("-", 1), ("<<", 2), (">>", 2), ("<", 3), ("<=", 3),
    (">", 3), (">=", 3), ("==", 4), ("!=", 4), ("&", 5), ("^", 6), ("|", 7)]

def lastRank : Nat := 8

def bits (n : Int) : BitVec 64 := BitVec.ofInt 64 n

def checkDivision (a b : Int) : Work Unit := do
  if b = 0 then refuse "division by zero"
  if a = -(Nat.pow 2 63 : Int) && b = -1 then throw .overflow

def operate (sign : String) (a b : Int) : Work Int := do
  let truth (holds : Bool) : Int := if holds then 1 else 0
  let amount := ((bits b).toNat) % 64
  match sign with
  | "*" => return Numeral.wrapped (a * b)
  | "/" => checkDivision a b; return a.tdiv b
  | "%" => checkDivision a b; return a.tmod b
  | "+" => return Numeral.wrapped (a + b)
  | "-" => return Numeral.wrapped (a - b)
  | "<<" => return ((bits a) <<< amount).toInt
  | ">>" => return ((bits a).sshiftRight amount).toInt
  | "<" => return truth (a < b)
  | "<=" => return truth (a ≤ b)
  | ">" => return truth (b < a)
  | ">=" => return truth (b ≤ a)
  | "==" => return truth (a = b)
  | "!=" => return truth (a ≠ b)
  | "&" => return ((bits a) &&& (bits b)).toInt
  | "^" => return ((bits a) ^^^ (bits b)).toInt
  | _ => return ((bits a) ||| (bits b)).toInt

def settingSigns : List (String × String) :=
  [("+=", "+"), ("-=", "-"), ("*=", "*"), ("/=", "/"), ("%=", "%"), ("<<=", "<<"), (">>=", ">>"),
    ("&=", "&"), ("|=", "|"), ("^=", "^")]

/-! ## Expressions -/

mutual

def primary : Nat → Bool → Work Int
  | 0, _ => refuse "expecting primary"
  | steps + 1, live => do
    match ← peek with
    | some (.sign "(") =>
      advance
      let n ← assignment steps live
      if (← peek) ≠ some (.sign ")") then refuse "expecting \x27)\x27"
      advance
      return n
    | some (.number n) => advance; return n
    | some (.variable name) =>
      advance
      if live then valueOf name else return 0
    | some (.sign "+") => advance; primary steps live
    | some (.sign "-") => advance; return Numeral.wrapped (-(← primary steps live))
    | some (.sign "!") => advance; return if (← primary steps live) = 0 then 1 else 0
    | some (.sign "~") => advance; return (~~~(bits (← primary steps live))).toInt
    | _ => refuse "expecting primary"

/-- Goes on behind a value with signs that bind more strongly than a rank. -/
def behindValue : Nat → Bool → Nat → Int → Work Int
  | 0, _, _, n => return n
  | steps + 1, live, rank, n => do
    match ← peek with
    | some (.sign sign) =>
      match ranks.lookup sign with
      | some r =>
        if rank ≤ r then return n
        else
          advance
          let m ← primary steps live
          let m ← behindValue steps live r m
          let n ← if live then operate sign n m else pure m
          behindValue steps live rank n
      | none => return n
    | _ => return n

def conjunction : Nat → Bool → Work Int
  | 0, _ => refuse "expecting primary"
  | steps + 1, live => do
    let n ← primary steps live
    let n ← behindValue steps live lastRank n
    if (← peek) = some (.sign "&&") then
      advance
      let m ← conjunction steps (live && n ≠ 0)
      return if n ≠ 0 && m ≠ 0 then 1 else 0
    else return n

def disjunction : Nat → Bool → Work Int
  | 0, _ => refuse "expecting primary"
  | steps + 1, live => do
    let n ← conjunction steps live
    if (← peek) = some (.sign "||") then
      advance
      let m ← disjunction steps (live && n = 0)
      return if n ≠ 0 || m ≠ 0 then 1 else 0
    else return n

def conditional : Nat → Bool → Work Int
  | 0, _ => refuse "expecting primary"
  | steps + 1, live => do
    let n ← disjunction steps live
    if (← peek) = some (.sign "?") then
      advance
      let a ← assignment steps (live && n ≠ 0)
      if (← peek) ≠ some (.sign ":") then refuse "expecting \x27:\x27"
      advance
      let b ← conditional steps (live && n = 0)
      return if n ≠ 0 then a else b
    else return n

def assignment : Nat → Bool → Work Int
  | 0, _ => refuse "expecting primary"
  | steps + 1, live => do
    match (← get).rest with
    | .variable name :: .sign sign :: _ =>
      let operation := settingSigns.lookup sign
      if sign = "=" || operation.isSome then
        advance
        advance
        let n ← assignment steps live
        if !live then return n
        let n ← match operation with
          | some operation => operate operation (← valueOf name) n
          | none => pure n
        assign name n
        return n
      else conditional steps live
    | _ => conditional steps live

end

def Refusal.message? (s : Octets) : Refusal → Option Octets
  | .expression text => some ("arithmetic expression: " ++ text ++ ": \"" ++ s ++ "\"")
  | .plain text => some text
  | .overflow => none

def evaluate (s : Octets) (value : Octets → Octets) : Except Refusal (Int × List (Octets × Int)) :=
  let work : Work Int := do
    let all := (← get).rest
    let n ← assignment (4 * all.length + 4) true
    if (← get).rest ≠ [] then refuse "expecting EOF"
    return n
  match work.run { rest := tokens s, value } with
  | .ok (n, state) => .ok (n, state.changes.reverse)
  | .error refusal => .error refusal

end Arithmetic
end PipeShell.Machine.Script
