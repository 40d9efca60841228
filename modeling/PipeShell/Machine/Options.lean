import PipeShell.Machine.Code
import PipeShell.Machine.Conventions

/-!
# Options

Options among the arguments of a program: letters after a dash, several of them behind one, and names
after two dashes, which may be shortened as long as it is clear which is meant. An option may take a
value. A dash alone is no option, and two dashes end the options.

The options stand in the order in which they were given, up to the first one that is refused. A tool
takes them one after another, so that it depends on their order which of two mistakes is told, and
whether a mistake is told or help is given.
-/

namespace PipeShell.Machine

inductive Takes where
  | nothing | value
  | perhaps (usual : Octets)
  | number
deriving DecidableEq, Repr

structure OptionSet where
  short : List (Char × Takes) := []
  long : List (String × Char × Takes) := []
  permuted : Bool := true
  late : Char → Bool := fun _ => false
  /-- Does an operand count as an option, and does the argument behind it belong to it? -/
  special : Octets → Option Octets → Option Bool := fun _ _ => none

structure Refusal where
  text : Octets
  hint : Bool := false

structure Options where
  given : List (Char × Octets) := []
  refusal : Option Octets := none
  operands : List Octets := []
deriving Inhabited

namespace Options

def helpLetter : Char := '\x01'

def versionLetter : Char := '\x02'

def operandLetter : Char := '\x1e'

def companionLetter : Char := '\x1f'

def cons (letter : Char) (value : Octets) (o : Options) : Options :=
  { o with given := (letter, value) :: o.given }

def refused (text : Octets) : Options := { refusal := some text }

def findLong (set : OptionSet) (written name : Octets) : Except Octets (String × Char × Takes) :=
  let known :=
    set.long ++ [("help", helpLetter, Takes.nothing), ("version", versionLetter, .nothing)]
  match known.find? (·.1 == name) with
  | some found => .ok found
  | none =>
    match known.filter (·.1.startsWith name) with
    | [] => .error ("unrecognized option \x27--" ++ written ++ "\x27")
    | first :: others =>
      if others.all (·.2 == first.2) then .ok first
      else
        let names := (first :: others).map fun found => " \x27--" ++ found.1 ++ "\x27"
        .error ("option \x27--" ++ written ++ "\x27 is ambiguous; possibilities:" ++ String.join names)

def cluster (set : OptionSet) : List Char → List (Char × Octets) × Option Char × Option Octets
  | [] => ([], none, none)
  | c :: cs =>
    match set.short.lookup c with
    | none => ([], none, some ("invalid option -- \x27" ++ c.toString ++ "\x27"))
    | some .nothing =>
      let (given, wanting, refusal) := cluster set cs
      ((c, "") :: given, wanting, refusal)
    | some (.perhaps usual) => ([(c, if cs.isEmpty then usual else String.ofList cs)], none, none)
    | some .value | some .number =>
      if cs.isEmpty then ([], some c, none) else ([(c, String.ofList cs)], none, none)

def parseLate (set : OptionSet) : List Octets → Options
  | [] => {}
  | arg :: rest =>
    let operand : Unit → Options := fun _ =>
      let others := parseLate set rest
      { others with operands := arg :: others.operands }
    match arg.toList, rest.head? with
    | ['-', c], some value =>
      if set.late c then (parseLate set rest.tail).cons c value else operand ()
    | '-' :: c :: d :: cs, _ =>
      if set.late c then (parseLate set rest).cons c (String.ofList (d :: cs)) else operand ()
    | _, _ => operand ()
termination_by args => args.length
decreasing_by all_goals simp only [List.length_cons, List.length_tail]; omega

def parse (set : OptionSet) : List Octets → Options
  | [] => {}
  | arg :: rest =>
    match arg.toList with
    | ['-', '-'] => { operands := rest }
    | '-' :: '-' :: cs =>
      let written := String.ofList cs
      let name := String.ofList (cs.takeWhile (· ≠ '='))
      let value := cs.drop (name.length + 1)
      match findLong set written name with
      | .error text => refused text
      | .ok (full, letter, takes) =>
        match cs.contains '=', takes, rest.head? with
        | true, .nothing, _ => refused ("option \x27--" ++ full ++ "\x27 doesn\x27t allow an argument")
        | true, _, _ => (parse set rest).cons letter (String.ofList value)
        | false, .value, some value | false, .number, some value =>
          (parse set rest.tail).cons letter value
        | false, .value, none | false, .number, none =>
          refused ("option \x27--" ++ full ++ "\x27 requires an argument")
        | false, .perhaps usual, _ => (parse set rest).cons letter usual
        | false, .nothing, _ => (parse set rest).cons letter ""
    | '-' :: c :: cs =>
      let (given, wanting, refusal) := cluster set (c :: cs)
      let others : Options := match refusal, wanting, rest.head? with
        | some text, _, _ => refused text
        | none, some c, none => refused ("option requires an argument -- \x27" ++ c.toString ++ "\x27")
        | none, some c, some value =>
          if set.short.lookup c = some .number && !value.toList.all Char.isDigit then
            (parse set rest).cons c ""
          else (parse set rest.tail).cons c value
        | none, none, _ => parse set rest
      { others with given := given ++ others.given }
    | _ =>
      match set.special arg rest.head? with
      | some true =>
        ((parse set rest.tail).cons companionLetter (rest.headD "")).cons operandLetter arg
      | some false => (parse set rest).cons operandLetter arg
      | none =>
        let others := if set.permuted then parse set rest else parseLate set rest
        { others with operands := arg :: others.operands }
termination_by args => args.length
decreasing_by all_goals simp only [List.length_cons, List.length_tail]; omega

def has (o : Options) (letter : Char) : Bool := o.given.any (·.1 == letter)

def value? (o : Options) (letter : Char) : Option Octets :=
  (o.given.reverse.find? (·.1 == letter)).map Prod.snd

def lastOf (o : Options) (letters : List Char) : Option Char :=
  (o.given.reverse.find? fun (letter, _) => letters.contains letter).map Prod.fst

/-- The value that a word names, which may be shortened as long as it is clear which is meant. Words
with the same value stand next to each other. -/
def choose {α : Type} [DecidableEq α] (k : Conventions) (option word : Octets)
    (choices : List (String × α)) : Except Refusal α :=
  let refuse (kind : String) : Except Refusal α :=
    let shown := (choices.zip (none :: choices.map fun c => some c.2)).map fun ((known, value), before) =>
      (if before = some value then ", " else "\n  - ") ++ k.quoted known
    .error ⟨kind ++ " argument " ++ k.quoted word ++ " for " ++ k.quoted option
      ++ "\nValid arguments are:" ++ String.join shown, true⟩
  match choices.lookup word with
  | some value => .ok value
  | none =>
    match choices.filter (·.1.startsWith word) with
    | [] => refuse "invalid"
    | (_, value) :: others => if others.all (·.2 = value) then .ok value else refuse "ambiguous"

end Options

/-- What a tool says about itself: how it is used, under the name by which it is called, and of which
version it is. -/
structure Manual where
  help : Octets → Octets := fun _ => ""
  version : Conventions → Octets := fun _ => ""

structure Call where
  name : Octets
  args : List Octets
  manual : Manual
  conventions : Conventions
  faultStatus : Nat := 1

namespace Call

def complain (c : Call) (text : Octets) : Prog Unit := Prog.complain (c.name ++ ": " ++ text ++ "\n")

def fail {α : Type} (c : Call) (text : Octets) : Prog α := do
  c.complain text
  Prog.exit c.faultStatus

def misused {α : Type} (c : Call) (text : Octets) : Prog α := do
  c.complain text
  Prog.complain ("Try \x27" ++ c.name ++ " --help\x27 for more information.\n")
  Prog.exit c.faultStatus

def inform {α : Type} (c : Call) (text : Octets) (status : Nat := 0) : Prog α := do
  Prog.exit (← Prog.finish c.name { bytes := Octets.bytes text } status c.faultStatus)

def about (c : Call) (letter : Char) : Octets :=
  if letter = Options.helpLetter then c.manual.help c.name else c.manual.version c.conventions

def readLone (c : Call) (status : Nat := 0) : Prog Unit := do
  if c.args = ["--help"] then c.inform (c.about Options.helpLetter) status
  if c.args = ["--version"] then c.inform (c.about Options.versionLetter) status

def finish (c : Call) (o : Prog.Waiting) (status : Nat) : Prog Nat :=
  Prog.finish c.name o status c.faultStatus

/-- Takes the options among the arguments one after another; gives what they make and the operands. -/
def readOptions {σ : Type} (c : Call) (set : OptionSet)
    (add : σ → Char × Octets → Except Refusal σ) (s : σ) : Prog (σ × List Octets) := do
  let o := Options.parse { set with permuted := set.permuted && !c.conventions.isStrict } c.args
  let s ← o.given.foldlM (fun s option => do
    if option.1 = Options.helpLetter || option.1 = Options.versionLetter then
      c.inform (c.about option.1)
    else
      match add s option with
      | .ok s => return s
      | .error r =>
        if r.hint then ({ c with faultStatus := 1 } : Call).misused r.text else c.fail r.text) s
  match o.refusal with
  | some text => c.misused text
  | none => return (s, o.operands)

def options (c : Call) (set : OptionSet) : Prog Options := do
  let (given, operands) ← c.readOptions set (fun given option => .ok (given ++ [option])) []
  return { given, operands }

end Call
end PipeShell.Machine
