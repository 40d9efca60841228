import PipeShell.Machine.Numeral
import PipeShell.Machine.Options
import PipeShell.Machine.Script.Reader

/-!
# The memory of a shell

What a shell remembers while it runs a script, and the actions of which its work is made. An action
asks the machine for things, changes the memory, and may be left before it is done.
-/

namespace PipeShell.Machine.Script

structure Variable where
  value : Option Octets := none
  exported : Bool := false
  readOnly : Bool := false
deriving DecidableEq, Repr, Inhabited

inductive Skip where
  | none | breaking | continuing | returning
deriving DecidableEq, Repr

/-- What a function goes back to at its end: values of variables, and perhaps the options. -/
structure Former where
  bindings : List (Octets × Option Variable) := []
  options : Option (List Char) := none
deriving Repr, Inhabited

structure JobProcess where
  pid : Pid
  fate : Option Fate := none
deriving Repr, Inhabited

structure ScriptJob where
  number : Nat
  processes : List JobProcess
  waited : Bool := false
  text : Octets := ""
deriving Repr, Inhabited

def integer? (text : Octets) : Option Int :=
  let (negative, cs) := Numeral.readSign (text.toList.dropWhile Numeral.isSpace)
  let digits := cs.takeWhile Char.isDigit
  let (n, far) := Numeral.signed { negative, magnitude := Octets.number 10 digits }
  if digits.isEmpty || far || !(cs.drop digits.length).all Numeral.isSpace then none else some n

def putEntry {α : Type} (entries : List (Octets × α)) (name : Octets) (value : α) :
    List (Octets × α) :=
  if entries.any (·.1 == name) then
    entries.map fun entry => if entry.1 == name then (name, value) else entry
  else entries ++ [(name, value)]

def rowOf (rows : Nat) (name : Octets) : Nat :=
  let codes := name.toList.map Char.toNat
  codes.foldl (fun n code => n + code) (16 * codes.headD 0) % rows

def inRows {α : Type} (rows : Nat) (entries : List (Octets × α)) : List (Octets × α) :=
  entries.mergeSort fun a b => rowOf rows a.1 ≤ rowOf rows b.1

structure Memory where
  name : Octets
  bindings : List (Octets × Variable) := []
  parameters : List Octets := []
  functions : List (Octets × Tree) := []
  aliases : List (Octets × Octets) := []
  found : List (Octets × Octets) := []
  options : List Char := []
  /-- The letters of the options that have been switched, while the shell is being started. -/
  switched : Option (List Char) := none
  documents : Array Word := #[]
  status : Nat := 0
  substituted : Nat := 0
  line : Nat := 0
  lineRead : Nat := 1
  baseLine : Nat := 1
  command : Option Octets := none
  loops : Nat := 0
  skip : Skip := .none
  skipCount : Nat := 0
  functionDepth : Nat := 0
  locals : List Former := []
  /-- Actions for signals; the number zero stands for the end of the shell. -/
  traps : List (Nat × Octets) := []
  fixedSignals : List Nat := []
  knownSignals : List Nat := []
  signals : List Nat := []
  jobs : List ScriptJob := []
  lastBackground : Option Pid := none
  rootPid : Pid := 0
  isChild : Bool := false
  isTracing : Bool := false
  waiting : Prog.Waiting := {}
  folder : Option Octets := none
  optionIndex : Nat := 1
  optionOffset : Nat := 0
  finalStatus : Option Nat := none
deriving Inhabited

inductive Leave where
  | error
  | exit
  | done
deriving DecidableEq, Repr

abbrev Act (α : Type) := ExceptT Leave (StateT Memory Prog) α

namespace Act

def ask (r : Request) : Act r.Answer := ExceptT.lift (StateT.lift (Prog.ask r))

def prog {α : Type} (p : Prog α) : Act α := ExceptT.lift (StateT.lift p)

/-! ## Saying something -/

def put (text : Octets) : Act Unit :=
  modify fun m => { m with waiting := m.waiting.add (Octets.bytes text) }

def flush : Act Unit := do
  let waiting ← prog (Prog.flush (← get).waiting)
  modify fun m => { m with waiting }

def complain (text : Octets) : Act Unit := prog (Prog.complain text)

def heading (m : Memory) : Octets :=
  m.name ++ ": " ++ toString m.line ++ ": " ++ match m.command with
    | some command => command ++ ": "
    | none => ""

def warn (text : Octets) : Act Unit := do
  complain (heading (← get) ++ text ++ "\n")

def mistake : Nat := 2

def fail {α : Type} (text : Octets) : Act α := do
  warn text
  modify fun m => { m with status := mistake }
  throw .error

def perish {α : Type} (signal : Nat) : Act α := do
  let _ ← ask (.handle signal .default)
  let (pid, _) ← ask .identity
  let _ ← ask (.kill pid signal)
  throw .done

def setStatus (status : Nat) : Act Unit := modify fun m => { m with status }

def atLine (line : Nat) : Act Unit :=
  modify fun m => { m with line }

/-! ## Options -/

def option (letter : Char) : Act Bool := return (← get).options.contains letter

/-! ## Variables -/

def variableOf (name : Octets) : Act (Option Variable) := return (← get).bindings.lookup name

def value? (name : Octets) : Act (Option Octets) := return (← variableOf name).bind Variable.value

def putVariable (name : Octets) (v : Variable) : Act Unit :=
  modify fun m =>
    let optionIndex :=
      if name = "OPTIND" then (v.value.bind integer?).getD 1 |>.toNat |> max 1 else m.optionIndex
    let optionOffset := if name = "OPTIND" then 0 else m.optionOffset
    let found := if name = "PATH" then [] else m.found
    { m with
      optionIndex, optionOffset, found
      bindings := putEntry m.bindings name v }

def dropVariable (name : Octets) : Act Unit :=
  modify fun m => { m with bindings := m.bindings.filter (·.1 ≠ name) }

def numberOf (text : Octets) : Act Nat := do
  match integer? text with
  | some n => if 0 ≤ n && n < Nat.pow 2 31 then return n.toNat else fail ("Illegal number: " ++ text)
  | none => fail ("Illegal number: " ++ text)

def refuseName {α : Type} (name : Octets) : Act α := fail (name ++ ": bad variable name")

def setVariable (name : Octets) (value : Option Octets) (exported : Bool := false) : Act Unit := do
  if !isName name then refuseName name
  let v := (← variableOf name).getD {}
  if v.readOnly then fail (name ++ ": is read only")
  if name = "OPTIND" then
    if let some value := value then
      let _ ← numberOf value
  let exported := v.exported || exported || (← option 'a')
  putVariable name { v with value, exported }

def environment : Act (List (Octets × Octets)) := do
  return (← get).bindings.filterMap fun (name, v) =>
    if v.exported then v.value.map fun value => (name, value) else none

def separators : Act (List Char) := do
  return ((← value? "IFS").map String.toList).getD [' ', '\t', '\n']

def rememberLocal (name : Octets) : Act Unit := do
  let before ← variableOf name
  modify fun m =>
    match m.locals with
    | former :: others =>
      if former.bindings.any (·.1 == name) then m
      else
        let former := { former with bindings := (name, before) :: former.bindings }
        { m with locals := former :: others }
    | [] => m

def rememberOptions : Act Unit :=
  modify fun m =>
    match m.locals with
    | former :: others =>
      { m with locals := { former with options := some (former.options.getD m.options) } :: others }
    | [] => m

def restoreLocals : Act Unit := do
  let m ← get
  match m.locals with
  | former :: others =>
    set { m with locals := others, options := former.options.getD m.options }
    for (name, before) in former.bindings do
      match before with
      | some v => putVariable name v
      | none => dropVariable name
  | [] => pure ()

/-! ## Running parts of the work -/

def attempt {α : Type} (a : Act α) : Act (Except Leave α) :=
  ExceptT.mk (do
    let result ← a.run
    return .ok result)

def ensuring {α : Type} (a : Act α) (after : Act Unit) : Act α := do
  match ← attempt a with
  | .ok value => after; return value
  | .error leave => after; throw leave

def iterate {σ α : Type} (step : σ → Act (σ ⊕ α)) (s : σ) : Act α :=
  ExceptT.mk (fun m =>
    Prog.iterate (fun ((s, m) : σ × Memory) => do
      let (result, m) ← (step s).run.run m
      match result with
      | .error leave => return .inr (.error leave, m)
      | .ok (.inl s) => return .inl (s, m)
      | .ok (.inr a) => return .inr (.ok a, m)) (s, m))

def fork (child : Memory → Prog Nat) : Act Pid := do
  let m ← get
  prog (Prog.fork (child m))

end Act

end PipeShell.Machine.Script
