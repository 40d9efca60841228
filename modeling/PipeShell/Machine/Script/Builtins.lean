import PipeShell.Machine.Script.Echo
import PipeShell.Machine.Script.Jobs
import PipeShell.Machine.Script.Test

/-!
# Builtins

The commands that a shell runs itself, apart from those that run other commands. Each gets its
arguments without its name and gives a status.
-/

namespace PipeShell.Machine.Script
open Act

/-! ## Options of builtins -/

def letters (known : String) : Nat → List Octets → Act (List (Char × Octets) × List Octets)
  | 0, args => return ([], args)
  | steps + 1, args => do
    match args with
    | [] => return ([], [])
    | arg :: rest =>
      match arg.toList with
      | ['-', '-'] => return ([], rest)
      | '-' :: c :: cs =>
        if !known.contains c || c = ':' then fail ("Illegal option -" ++ c.toString)
        let takesValue := ((known.toList.dropWhile (· ≠ c)).drop 1).head? = some ':'
        if takesValue then
          match cs, rest with
          | [], [] => fail ("No arg for -" ++ c.toString ++ " option")
          | [], value :: rest =>
            let (more, args) ← letters known steps rest
            return ((c, value) :: more, args)
          | _, _ =>
            let (more, args) ← letters known steps rest
            return ((c, String.ofList cs) :: more, args)
        else
          let next := if cs.isEmpty then rest else String.ofList ('-' :: cs) :: rest
          let (more, args) ← letters known steps next
          return ((c, "") :: more, args)
      | _ => return ([], args)

def readLetters (known : String) (args : List Octets) : Act (List (Char × Octets) × List Octets) :=
  letters known (args.foldl (fun n arg => n + arg.length) (args.length + 1)) args

/-! ## Quotes -/

def quotedParts : List Char → List (Bool × List Char)
  | [] => []
  | c :: cs =>
    let isQuote := c = '\x27'
    match quotedParts cs with
    | (kind, part) :: more =>
      if kind = isQuote then (kind, c :: part) :: more else (isQuote, [c]) :: (kind, part) :: more
    | [] => [(isQuote, [c])]

def shellText (s : Octets) : Octets :=
  let parts := quotedParts s.toList
  let parts := if parts.head?.all Prod.fst then (false, []) :: parts else parts
  String.join (parts.map fun (isQuote, part) =>
    if isQuote then "\"" ++ String.ofList part ++ "\"" else "\x27" ++ String.ofList part ++ "\x27")

/-! ## Variables -/

def showVariables (first : Octets) (chosen : Variable → Bool) : Act Unit := do
  let bindings := (← get).bindings.filter fun (_, v) => chosen v
  for (name, v) in bindings.mergeSort (fun a b => !(b.1 < a.1)) do
    let value := match v.value with
      | some value => "=" ++ shellText value
      | none => ""
    put (first ++ name ++ value ++ "\n")

def markVariables (word : Octets) (chosen : Variable → Bool) (mark : Variable → Variable)
    (args : List Octets) : Act Nat := do
  let (given, args) ← readLetters "p" args
  if args.isEmpty || !given.isEmpty then showVariables (word ++ " ") chosen
  else
    for arg in args do
      let (name, value) := match assignment? arg with
        | some (name, value) => (name, some value)
        | none => (String.ofList (arg.toList.takeWhile (· ≠ '=')), none)
      if !isName name then refuseName name
      if let some value := value then setVariable name (some value)
      putVariable name (mark ((← variableOf name).getD {}))
  return 0

def exportVariables : List Octets → Act Nat :=
  markVariables "export" (·.exported) fun v => { v with exported := true }

def protectVariables : List Octets → Act Nat :=
  markVariables "readonly" (·.readOnly) fun v => { v with readOnly := true }

def declareLocal (args : List Octets) : Act Nat := do
  if (← get).locals.isEmpty then fail "not in a function"
  for arg in args do
    match assignment? arg with
    | some (name, value) =>
      rememberLocal name
      setVariable name (some value)
    | none =>
      if arg = "-" then rememberOptions
      else
        if !isName arg then refuseName arg
        rememberLocal arg
  return 0

def unset (args : List Octets) : Act Nat := do
  let (given, args) ← readLetters "vf" args
  let ofFunctions := (given.getLast?.map Prod.fst) = some 'f'
  for name in args do
    if ofFunctions then
      modify fun m => { m with functions := m.functions.filter (·.1 ≠ name) }
    else
      if !isName name then refuseName name
      if ((← variableOf name).getD {}).readOnly then fail (name ++ ": is read only")
      if name = "OPTIND" then
        let _ ← numberOf ""
      dropVariable name
  return 0

def shift (args : List Octets) : Act Nat := do
  let n ← match args with
    | [] => pure 1
    | arg :: _ => numberOf arg
  let m ← get
  if m.parameters.length < n then fail "can\x27t shift that many"
  set { m with parameters := m.parameters.drop n, optionIndex := 1, optionOffset := 0 }
  return 0

/-! ## Options of the shell -/

def optionNames : List (String × Char) :=
  [("errexit", 'e'), ("noglob", 'f'), ("ignoreeof", 'I'), ("interactive", 'i'), ("monitor", 'm'),
    ("noexec", 'n'), ("stdin", 's'), ("xtrace", 'x'), ("verbose", 'v'), ("vi", 'V'), ("emacs", 'E'),
    ("noclobber", 'C'), ("allexport", 'a'), ("notify", 'b'), ("nounset", 'u'), ("privileged", 'p'),
    ("nolog", '\x01'), ("debug", '\x02')]

def switch (letter : Char) (on : Bool) : Act Unit :=
  modify fun m =>
    let others := m.options.filter (· ≠ letter)
    { m with
      options := if on then letter :: others else others
      switched := m.switched.map (letter :: ·) }

/-- Is an option on? While the shell is being started, those that nobody has switched count as on. -/
def countsAsOn (letter : Char) : Act Bool := do
  let m ← get
  return m.options.contains letter || m.switched.any (!·.contains letter)

def switchNamed (on : Bool) (name : Option Octets) : Act Unit := do
  match name with
  | none =>
    if on then put "Current option settings\n"
    for (name, letter) in optionNames do
      let isOn ← countsAsOn letter
      if on then
        let gap := String.ofList (List.replicate (16 - name.length) ' ')
        put (name ++ gap ++ (if isOn then "on" else "off") ++ "\n")
      else put ("set " ++ (if isOn then "-o " else "+o ") ++ name ++ "\n")
  | some name =>
    match optionNames.lookup name with
    | some letter => switch letter on
    | none => fail ("Illegal option -o " ++ name)

def scriptLetter : Char := 'c'

def switchOptions (starting : Bool) : Nat → Bool → List Octets → Act (Bool × List Octets × Bool)
  | 0, hasScript, args => return (hasScript, args, false)
  | steps + 1, hasScript, args => do
    match args with
    | [] => return (hasScript, [], false)
    | arg :: rest =>
      match arg.toList with
      | ['-'] =>
        if !starting then
          switch 'x' false
          switch 'v' false
        return (hasScript, rest, false)
      | ['-', '-'] => return (hasScript, rest, true)
      | sign :: cs =>
        if sign ≠ '-' && sign ≠ '+' then return (hasScript, args, false)
        let on := sign = '-'
        let mut rest := rest
        let mut hasScript := hasScript
        for c in cs do
          if c = scriptLetter && starting then hasScript := true
          else if c = 'l' && starting then pure ()
          else if c = 'o' then
            switchNamed on rest.head?
            rest := rest.tail
          else if (optionNames.map Prod.snd).contains c then switch c on
          else fail ("Illegal option -" ++ c.toString)
        switchOptions starting steps hasScript rest
      | [] => return (hasScript, args, false)

def dropJobControl : Act Unit := do
  if ← option 'm' then
    warn "can\x27t access tty; job control turned off"
    switch 'm' false

def setOptions (args : List Octets) : Act Nat := do
  if args.isEmpty then showVariables "" (·.value.isSome)
  else
    let (_, left, resets) ← switchOptions false (args.length + 1) false args
    dropJobControl
    if !left.isEmpty || resets then
      modify fun m => { m with parameters := left, optionIndex := 1, optionOffset := 0 }
  return 0

/-! ## Folders -/

def logicalPath (folder path : Octets) : Octets :=
  let whole := if path.startsWith "/" then path else folder ++ "/" ++ path
  let twice := whole.startsWith "//" && !whole.startsWith "///"
  let step (done : List Octets) (part : Octets) : List Octets :=
    if part = "" || part = "." then done else if part = ".." then done.drop 1 else part :: done
  let parts := ((whole.splitOn "/").foldl step []).reverse
  (if twice then "//" else "/") ++ "/".intercalate parts

def folder : Act Octets := do
  match (← get).folder with
  | some folder => return folder
  | none =>
    match ← ask .folder with
    | .ok folder => return folder
    | .error _ => return ""

def enter (physical : Bool) (path : Octets) : Act Bool := do
  let before ← folder
  let target := if physical || before = "" then path else logicalPath before path
  match ← ask (.enter target) with
  | some _ => return false
  | none =>
    let after ← if physical || before = "" then
        pure (← ask .folder).toOption
      else pure (some target)
    modify fun m => { m with folder := after }
    setVariable "OLDPWD" (some before) true
    setVariable "PWD" (some (after.getD "")) true
    return true

/-- Folders in which a name is looked for; the first flag tells that the folder is shown. -/
def enterOne (physical shown : Bool) (target : Octets) : List Octets → Act Nat
  | [] => do
    if ← enter physical target then
      if shown then put ((← folder) ++ "\n")
      return 0
    else fail ("can\x27t cd to " ++ target)
  | first :: rest => do
    let path := inFolder first target
    match ← ask (.status path true) with
    | .ok status =>
      if status.kind = .folder then
        if ← enter physical path then
          if shown || first ≠ "" then put ((← folder) ++ "\n")
          return 0
        else fail ("can\x27t cd to " ++ target)
      else enterOne physical shown target rest
    | .error _ => enterOne physical shown target rest

def changeFolder (args : List Octets) : Act Nat := do
  let (given, args) ← readLetters "LP" args
  let physical := (given.getLast?.map Prod.fst) = some 'P'
  let back := args.head? = some "-"
  let target ← match args with
    | [] => pure ((← value? "HOME").getD "")
    | "-" :: _ => pure ((← value? "OLDPWD").getD "")
    | arg :: _ => pure arg
  let isOwn := target.startsWith "/" || target = "." || target = ".." || target.startsWith "./"
    || target.startsWith "../"
  let places ← if isOwn then pure [] else do
    match ← value? "CDPATH" with
    | some path => pure (searchFolders path)
    | none => pure []
  enterOne physical back (if target = "" then "." else target) places

def showFolder (args : List Octets) : Act Nat := do
  let (given, _) ← readLetters "LP" args
  if (given.getLast?.map Prod.fst) = some 'P' then
    match ← ask .folder with
    | .ok folder => put (folder ++ "\n")
    | .error _ => pure ()
  else put ((← folder) ++ "\n")
  return 0

/-! ## The mask -/

def maskLetters (mask shift : Nat) : Octets :=
  let bits := (mask ^^^ 0o777) >>> shift
  (if bits &&& 4 ≠ 0 then "r" else "") ++ (if bits &&& 2 ≠ 0 then "w" else "")
    ++ (if bits &&& 1 ≠ 0 then "x" else "")

def applySign? (whole before owners : Nat) : List Char → Option (Nat × List Char)
  | [] => some (before, [])
  | sign :: rest =>
    if !"+-=".contains sign then none
    else
      let what := rest.takeWhile "rwxugoXs".toList.contains
      let bitsOf (c : Char) : Nat := match c with
        | 'r' => 4
        | 'w' => 2
        | 'x' => 1
        | 'u' => whole >>> 6
        | 'g' => whole >>> 3
        | 'o' => whole
        | 'X' => if whole &&& 0o111 = 0 then 0 else 1
        | _ => 0
      let bits := (what.foldl (fun n c => n ||| bitsOf c) 0 &&& 7) * owners
      let left := rest.drop what.length
      match sign with
      | '+' => some (before ||| bits, left)
      | '-' => some (before &&& (bits ^^^ 0o777), left)
      | _ => some ((before &&& ((owners * 7) ^^^ 0o777)) ||| bits, left)

def applyMode? (whole : Nat) : Nat → Nat → Nat → List Char → Option Nat
  | 0, _, before, _ => some before
  | steps + 1, owners, before, cs =>
    if cs.isEmpty then some before
    else
      let who := cs.takeWhile "augo".toList.contains
      let owner (c : Char) : Nat := match c with
        | 'u' => 0o100
        | 'g' => 0o010
        | 'o' => 0o001
        | _ => 0o111
      let owners := who.foldl (fun n c => n ||| owner c) owners
      let owners := if owners = 0 then 0o111 else owners
      match applySign? whole before owners (cs.drop who.length) with
      | none => none
      | some (bits, ',' :: rest) => applyMode? whole steps 0 bits rest
      | some (bits, rest) =>
        if "+-=".contains (rest.headD '+') then applyMode? whole steps owners bits rest
        else none

def changeMask (args : List Octets) : Act Nat := do
  let (given, args) ← readLetters "S" args
  let mask ← ask (.mask none)
  match args with
  | [] =>
    if given.isEmpty then put (Octets.digits 8 4 mask ++ "\n")
    else
      put ("u=" ++ maskLetters mask 6 ++ ",g=" ++ maskLetters mask 3 ++ ",o=" ++ maskLetters mask 0
        ++ "\n")
    return 0
  | arg :: _ =>
    if arg.toList.head?.any Char.isDigit then
      if !arg.toList.all Octets.isOctal then fail ("Illegal number: " ++ arg)
      let _ ← ask (.mask (some (Octets.number 8 arg.toList)))
      return 0
    else
      let left := mask ^^^ 0o777
      match applyMode? left (arg.length + 1) 0 left arg.toList with
      | some bits =>
        let _ ← ask (.mask (some (bits ^^^ 0o777)))
        return 0
      | none => fail ("Illegal mode: " ++ arg)

/-! ## Reading -/

/-- What has been read of a line. Escaped characters do not part fields. -/
structure LineProgress where
  bits : List Bit := []
  escaped : Bool := false

def readLine (raw : Bool) : Act (List Bit × Bool) :=
  iterate (fun (p : LineProgress) => do
    match ← ask (.read Prog.input 1) with
    | .error _ | .ok [] => return .inr (p.bits.reverse, true)
    | .ok (b :: _) =>
      let c := Char.ofNat b.toNat
      if c = '\x00' then return .inl p
      else if p.escaped then
        if c = '\n' then return .inl { p with escaped := false }
        else
          let bits := Bit.opens false :: Bit.glyph ⟨c, true⟩ :: Bit.closes :: p.bits
          return .inl { bits, escaped := false }
      else if c = '\\' && !raw then return .inl { p with escaped := true }
      else if c = '\n' then return .inr (p.bits.reverse, false)
      else return .inl { p with bits := .glyph ⟨c, false⟩ :: p.bits }) {}

def readVariables (args : List Octets) : Act Nat := do
  let (given, names) ← readLetters "p:r" args
  if names.isEmpty then fail "arg count"
  let (bits, ended) ← readLine (given.any (·.1 = 'r'))
  let fields := splitFields (← separators) (some names.length) (.opens false :: bits ++ [.closes])
  for (name, i) in names.zipIdx do
    setVariable name (some (Bit.text (fields.getD i [])))
  return if ended then 1 else 0

/-! ## Names of commands -/

def specialBuiltins : List String :=
  [".", ":", "break", "continue", "eval", "exec", "exit", "export", "local", "readonly", "return",
    "set", "shift", "times", "trap", "unset"]

def plainBuiltins : List String :=
  ["[", "alias", "bg", "cd", "chdir", "command", "echo", "false", "fg", "getopts", "hash", "jobs",
    "kill", "printf", "pwd", "read", "test", "true", "type", "ulimit", "umask", "unalias", "wait"]

def isSpecial (name : Octets) : Bool := specialBuiltins.contains name

def isBuiltin (name : Octets) : Bool := isSpecial name || plainBuiltins.contains name

def takesAssignments (name : Octets) : Bool :=
  ["alias", "export", "local", "readonly"].contains name

def rememberProgram (name path : Octets) : Act Unit :=
  modify fun m => { m with found := putEntry m.found name path }

def describe (verbose : Bool) (name : Octets) (path? : Option Octets) : Act Nat := do
  let m ← get
  let say (short long : Octets) : Act Nat := do
    put ((if verbose then name ++ long else short) ++ "\n")
    return 0
  if (keywords.lookup name).isSome then say name " is a shell keyword"
  else if let some value := m.aliases.lookup name then
    say ("alias " ++ name ++ "=" ++ shellText value) (" is an alias for " ++ value)
  else if m.functions.any (·.1 == name) then say name " is a shell function"
  else if isBuiltin name then
    say name (if isSpecial name then " is a special shell builtin" else " is a shell builtin")
  else
    let missing : Act Nat := do
      if verbose then put (name ++ ": not found\n")
      return 127
    if name.contains '/' then
      match ← ask (.status name true) with
      | .ok _ => say name (" is " ++ name)
      | .error _ => missing
    else
      match m.found.lookup name, path? with
      | some full, none => say full (" is a tracked alias for " ++ full)
      | _, _ =>
        match ← findProgram name (path?.getD (← searchPath)) with
        | .ok full =>
          if path?.isNone then rememberProgram name full
          say full (" is " ++ full)
        | .error _ => missing

def describeAll (args : List Octets) : Act Nat := do
  let mut status := 0
  for name in args do status := status ||| (← describe true name none)
  return status

def usualPath : Octets := "/usr/local/sbin:/usr/local/bin:/usr/sbin:/usr/bin:/sbin:/bin"

def describeCommand (args : List Octets) : Act Nat := do
  let (given, args) ← readLetters "pvV" args
  let path? := if given.any (·.1 = 'p') then some usualPath else none
  let verbose := given.any (·.1 = 'V')
  match args with
  | name :: _ => if verbose || given.any (·.1 = 'v') then describe verbose name path? else return 0
  | [] => return 0

def programRows : Nat := 31

def hashCommands (args : List Octets) : Act Nat := do
  let (given, args) ← readLetters "r" args
  if !given.isEmpty then
    modify fun m => { m with found := [] }
    return 0
  if args.isEmpty then
    for (_, path) in inRows programRows (← get).found do put (path ++ "\n")
  let mut status := 0
  for name in args do
    if !isBuiltin name then
      match ← findProgram name (← searchPath) with
      | .ok path => rememberProgram name path
      | .error cause =>
        warn (name ++ ": " ++ executionText cause)
        status := 1
  return status

def aliasRows : Nat := 39

def changeAliases (args : List Octets) : Act Nat := do
  let shown (name value : Octets) : Octets := name ++ "=" ++ shellText value ++ "\n"
  if args.isEmpty then
    for (name, value) in inRows aliasRows (← get).aliases do put (shown name value)
  let mut status := 0
  for arg in args do
    let name := String.ofList (arg.toList.takeWhile (· ≠ '='))
    if arg.contains '=' && name ≠ "" then
      let value := String.ofList (arg.toList.drop (name.length + 1))
      modify fun m => { m with aliases := putEntry m.aliases name value }
    else
      match (← get).aliases.lookup arg with
      | some value => put (shown arg value)
      | none =>
        complain ("alias: " ++ arg ++ " not found\n")
        status := 1
  return status

def dropAliases (args : List Octets) : Act Nat := do
  let (given, args) ← readLetters "a" args
  if !given.isEmpty then
    modify fun m => { m with aliases := [] }
    return 0
  let mut status := 0
  for name in args do
    if (← get).aliases.any (·.1 == name) then
      modify fun m => { m with aliases := m.aliases.filter (·.1 ≠ name) }
    else
      complain ("unalias: " ++ name ++ " not found\n")
      status := 1
  return status

/-! ## Options of scripts -/

def nextOption (args : List Octets) (index offset : Nat) :
    Option (Char × List Char × Nat) :=
  -- The options that are left in the word before, or those in the next one.
  let before := (args.getD (index - 2) "").toList
  let (cs, index) :=
    if 2 ≤ index && 0 < offset && offset < before.length then (before.drop offset, index)
    else
      match (args.getD (index - 1) "").toList with
      | '-' :: c :: cs => if c = '-' && cs.isEmpty then ([], index + 1) else (c :: cs, index + 1)
      | _ => ([], index)
  match cs with
  | [] => none
  | c :: cs => some (c, cs, index)

def readOption (args : List Octets) : Act Nat := do
  let (_, args) ← readLetters "" args
  match args with
  | known :: name :: rest =>
    let m ← get
    let rest := if rest.isEmpty then m.parameters else rest
    -- Arguments that have become too few are read from the beginning.
    let isPast := rest.length + 1 < m.optionIndex
    let (index, offset) := if isPast then (1, 0) else (max 1 m.optionIndex, m.optionOffset)
    let quiet := known.startsWith ":"
    let finish (c : Char) (index offset : Nat) (status : Nat) : Act Nat := do
      setVariable "OPTIND" (some (toString index))
      setVariable name (some c.toString)
      modify fun m => { m with optionIndex := index, optionOffset := offset }
      return status
    let refuse (c : Char) (shown : Char) (text : Octets) (index offset : Nat) : Act Nat := do
      if quiet then setVariable "OPTARG" (some c.toString)
      else
        complain text
        dropVariable "OPTARG"
      finish (if quiet then shown else '?') index offset 0
    match nextOption rest index offset with
    | none =>
      let isEnd := rest.getD (index - 1) "" = "--" && index ≤ rest.length
      finish '?' (if isEnd then index + 1 else index) 0 1
    | some (c, cs, index) =>
      let word := (rest.getD (index - 2) "").length
      let offset := if cs.isEmpty then 0 else word - cs.length
      match (known.toList.dropWhile (· ≠ c)) with
      | _ :: following =>
        if c = ':' then refuse c '?' ("Illegal option -" ++ c.toString ++ "\n") index offset
        else if following.head? = some ':' then
          if !cs.isEmpty then
            setVariable "OPTARG" (some (String.ofList cs))
            finish c index 0 0
          else
            match rest[index - 1]? with
            | some value =>
              setVariable "OPTARG" (some value)
              finish c (index + 1) 0 0
            | none => refuse c ':' ("No arg for -" ++ c.toString ++ " option\n") index 0
        else
          setVariable "OPTARG" (some "")
          finish c index offset 0
      | [] => refuse c '?' ("Illegal option -" ++ c.toString ++ "\n") index offset
  | _ => fail "Usage: getopts optstring var [arg...]"

/-! ## Processes -/

def jobOf (text : Option Octets) : Act ScriptJob := do
  let jobs := (← get).jobs
  match text with
  | none | some "%" | some "%%" | some "%+" =>
    match jobs.getLast? with
    | some job => return job
    | none => fail "No current job"
  | some text =>
    let number := (Octets.decimal? (String.ofList (text.toList.drop 1))).getD 0
    match jobs.find? (·.number = number) with
    | some job => return job
    | none => fail ("No such job: " ++ text)

def killUsage : Octets :=
  "Usage: kill [-s sigspec | -signum | -sigspec] [pid | job]... or\nkill -l [exitstatus]"

def listSignals (args : List Octets) : Act Nat := do
  match args with
  | [] =>
    put "0\n"
    for n in List.range' 1 (signalCount - 1) do put (signalName n ++ "\n")
    return 0
  | arg :: _ =>
    let n ← numberOf arg
    let n := if 128 < n then n - 128 else n
    if 0 < n && n < signalCount then put (signalName n ++ "\n")
    else fail ("invalid signal number or exit status: " ++ arg)
    return 0

def sendSignal (signal : Nat) (targets : List Octets) : Act Nat := do
  let mut status := 0
  for target in targets do
    let pid : Int ←
      if target.startsWith "%" then do
        pure (((← jobOf (some target)).processes.head?.map JobProcess.pid).getD 0)
      else if target.startsWith "-" then do
        pure (-((← numberOf (String.ofList (target.toList.drop 1))) : Int))
      else do pure ((← numberOf target : Nat) : Int)
    if !(← ask (.kill pid signal)) then
      warn "No such process\n"
      status := 1
  return status

def killProcesses (args : List Octets) : Act Nat := do
  let usual := 15
  match args with
  | [] => fail killUsage
  | first :: rest =>
    let direct := if first.startsWith "-" then
        signalNumber? 1 (String.ofList (first.toList.drop 1)) else none
    match direct with
    | some signal => if rest.isEmpty then fail killUsage else sendSignal signal rest
    | none =>
      let (given, targets) ← readLetters "ls:" args
      let signals ← (given.filter (·.1 = 's')).mapM fun (_, text) =>
        match signalNumber? 1 text with
        | some n => pure n
        | none => fail ("invalid signal number or name: " ++ text)
      if given.any (·.1 = 'l') then
        if signals.isEmpty then listSignals targets else fail killUsage
      else if targets.isEmpty then fail killUsage
      else sendSignal (signals.getLast?.getD usual) targets

def awaitAll : Act Nat :=
  iterate (fun (_ : Unit) => do
    markWaited isOver
    if (← get).jobs.all isOver then return .inr 0
    else if ← awaitOne (fun _ => false) true then return .inl ()
    else
      match (← get).signals with
      | signal :: _ => return .inr (128 + signal)
      | [] => return .inr 0) ()

def awaitNumbered (number : Nat) : Act Nat :=
  iterate (fun (_ : Unit) => do
    match ← job? number with
    | none => return .inr 127
    | some job =>
      if isOver job then
        markWaited (·.number = number)
        return .inr (statusOfJob job)
      else if ← awaitOne (· = number) true then return .inl ()
      else
        match (← get).signals with
        | signal :: _ => return .inr (128 + signal)
        | [] => return .inr 127) ()

def awaitJobs (args : List Octets) : Act Nat := do
  let (_, args) ← readLetters "" args
  if args.isEmpty then return ← awaitAll
  let mut status := 127
  for arg in args do
    let number ←
      if arg.startsWith "%" then do pure (some (← jobOf (some arg)).number)
      else do
        let pid ← numberOf arg
        pure (((← get).jobs.find? fun job =>
          (job.processes.getLast?.map JobProcess.pid) = some (pid : Pid)).map ScriptJob.number)
    if let some number := number then status := ← awaitNumbered number
  return status

def jobLine (job : ScriptJob) (sign : Char) : Octets :=
  let state :=
    if !isOver job then "Running"
    else
      match job.processes.getLast?.bind JobProcess.fate with
      | some (.exited 0) => "Done"
      | some (.exited n) => "Done(" ++ toString n ++ ")"
      | some (.killed signal) => signalText signal
      | none => "Running"
  let first := "[" ++ toString job.number ++ "] " ++ sign.toString ++ " " ++ state
  first ++ String.ofList (List.replicate (max 1 (33 - first.length)) ' ') ++ "\n"

def pollChildren : Act Unit :=
  iterate (fun (_ : Unit) => do
    match ← ask (.awaitChild .now) with
    | .ended pid fate => recordFate pid fate; return .inl ()
    | _ => return .inr ()) ()

def showJobs (args : List Octets) : Act Nat := do
  let (given, args) ← readLetters "lp" args
  let onlyPids := given.getLast?.any (·.1 = 'p')
  pollChildren
  let jobs := (← get).jobs.reverse
  let chosen ← if args.isEmpty then pure jobs else args.mapM fun arg => jobOf (some arg)
  for job in chosen do
    if onlyPids then put (String.join (job.processes.map fun p => toString p.pid ++ "\n"))
    else
      let sign := match jobs.findIdx? (·.number = job.number) with
        | some 0 => '+'
        | some 1 => '-'
        | _ => ' '
      put (jobLine job sign)
    if isOver job then forgetJob job.number
  return 0

/-! ## Traps -/

/-- Does something else about a signal, unless it was ignored before the shell began. -/
def handleSignal (signal : Nat) (disposition : Disposition) : Act Unit := do
  let m ← get
  if !m.fixedSignals.contains signal then
    let former ← ask (.handle signal disposition)
    if former = .ignored && !m.knownSignals.contains signal then
      let _ ← ask (.handle signal .ignored)
      set { m with fixedSignals := signal :: m.fixedSignals }
    else set { m with knownSignals := signal :: m.knownSignals }

def changeTraps (args : List Octets) : Act Nat := do
  let (_, args) ← readLetters "" args
  let change (action : Option Octets) (names : List Octets) : Act Nat := do
    for name in names do
      match signalNumber? 0 name with
      | none =>
        complain ("trap: " ++ name ++ ": bad trap\n")
        return 1
      | some n =>
        let action := if action = some "-" then none else action
        modify fun m =>
          let others := m.traps.filter (·.1 ≠ n)
          { m with traps := match action with
              | some text => (n, text) :: others
              | none => others }
        if n ≠ 0 then
          handleSignal n (match action with
            | none => .default
            | some "" => .ignored
            | some _ => .caught)
    return 0
  match args with
  | [] =>
    for (n, text) in (← get).traps.mergeSort (fun a b => a.1 ≤ b.1) do
      put ("trap -- " ++ shellText text ++ " " ++ signalName n ++ "\n")
    return 0
  | action :: names =>
    let isSignal := (Octets.decimal? action).any (· < signalCount)
    if names.isEmpty || isSignal then change none args else change (some action) names

/-! ## Loops and functions -/

def leaveLoops (skip : Skip) (args : List Octets) : Act Nat := do
  let n ← match args with
    | [] => pure 1
    | arg :: _ => do
      let n ← numberOf arg
      if n = 0 then fail ("Illegal number: " ++ arg)
      pure n
  let n := min n (← get).loops
  if 0 < n then modify fun m => { m with skip, skipCount := n }
  return 0

def returnFrom (args : List Octets) : Act Nat := do
  let status ← match args with
    | [] => pure (← get).status
    | arg :: _ => numberOf arg
  modify fun m => { m with skip := .returning }
  return status

def leaveShell (args : List Octets) : Act Nat := do
  if let arg :: _ := args then
    let status ← numberOf arg
    modify fun m => { m with finalStatus := some status }
  throw .exit

/-! ## All of them -/

def limitKinds : List (Char × String × Nat) :=
  [('t', "time(seconds)", 1), ('f', "file(blocks)", 512), ('d', "data(kbytes)", 1024),
    ('s', "stack(kbytes)", 1024), ('c', "coredump(blocks)", 512), ('m', "memory(kbytes)", 1024),
    ('l', "locked memory(kbytes)", 1024), ('p', "process", 1), ('n', "nofiles", 1),
    ('v', "vmemory(kbytes)", 1024), ('w', "locks", 1), ('r', "rtprio", 1)]

def limitOf (text : Octets) : Act (Option Nat) := do
  if text = "unlimited" then return none
  if !text.toList.all Char.isDigit then fail "bad number"
  return some (Octets.number 10 text.toList)

def limit (args : List Octets) : Act Nat := do
  let (given, args) ← readLetters "HSatfdscmlpnvwr" args
  let letters := given.map Prod.fst
  let resource := (letters.filter fun c => !"HSa".contains c).getLastD 'f'
  let how := (letters.filter fun c => "HS".contains c).getLast?
  let takesHard := how ≠ some 'S'
  let takesSoft := how ≠ some 'H'
  let shown (unit : Nat) (l : Limit) : Octets :=
    match if takesSoft then l.soft else l.hard with
    | some n => toString (n / unit) ++ "\n"
    | none => "unlimited\n"
  let current (resource : Char) : Act Limit := do
    match ← ask (.limit resource none) with
    | .ok l => return l
    | .error _ => return {}
  let unitOf (resource : Char) : Nat := ((limitKinds.lookup resource).map Prod.snd).getD 1
  match args with
  | [] =>
    if letters.contains 'a' then
      for (resource, name, unit) in limitKinds do
        let gap := String.ofList (List.replicate (20 - name.length) ' ')
        put (name ++ gap ++ " " ++ shown unit (← current resource))
    else put (shown (unitOf resource) (← current resource))
    return 0
  | text :: more =>
    if letters.contains 'a' || !more.isEmpty then fail "too many arguments"
    let most := (← limitOf text).map (· * unitOf resource)
    let before ← current resource
    let after : Limit :=
      { soft := if takesSoft then most else before.soft
        hard := if takesHard then most else before.hard }
    match ← ask (.limit resource (some after)) with
    | .ok _ => return 0
    | .error cause => fail ("error setting limit: " ++ cause.text)

def runBuiltin (name : Octets) (args : List Octets) : Act Nat :=
  match name with
  | ":" | "true" => return 0
  | "false" => return 1
  | "[" | "test" => testCondition name args
  | "alias" => changeAliases args
  | "bg" | "fg" => do
    let _ ← readLetters "" args
    let _ ← jobOf args.head?
    fail "job not created under job control"
  | "break" => leaveLoops .breaking args
  | "cd" | "chdir" => changeFolder args
  | "command" => describeCommand args
  | "continue" => leaveLoops .continuing args
  | "echo" => echo args
  | "exit" => leaveShell args
  | "export" => exportVariables args
  | "getopts" => readOption args
  | "hash" => hashCommands args
  | "jobs" => showJobs args
  | "kill" => killProcesses args
  | "local" => declareLocal args
  | "printf" => do
    let (_, args) ← readLetters "" args
    showFormat args
  | "pwd" => showFolder args
  | "read" => readVariables args
  | "readonly" => protectVariables args
  | "return" => returnFrom args
  | "set" => setOptions args
  | "shift" => shift args
  | "times" => do
    put "0m0.000000s 0m0.000000s\n0m0.000000s 0m0.000000s\n"
    return 0
  | "trap" => changeTraps args
  | "type" => describeAll args
  | "ulimit" => limit args
  | "umask" => changeMask args
  | "unalias" => dropAliases args
  | "unset" => unset args
  | "wait" => awaitJobs args
  | _ => return 0

end PipeShell.Machine.Script
