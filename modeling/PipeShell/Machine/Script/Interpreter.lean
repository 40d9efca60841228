import PipeShell.Machine.Script.Builtins

/-!
# Running scripts

Commands are run one after another. A simple command is a builtin, a function or another program; what
it is sent to is arranged before, and undone afterwards. Children run parts of the script by
themselves.

Commands stand in each other only so deep; a script that goes deeper ends.
-/

namespace PipeShell.Machine.Script
open Act

structure Run where
  last : Bool := false
  tested : Bool := false
deriving DecidableEq

/-- What feeds a script: its text as far as it has been read, and the descriptor from which more
comes. -/
structure Feed where
  source : Source
  fd : Option Nat := none
  isBase : Bool := false

def Feed.ofText (text : Octets) : Feed := { source := { rest := text.toList, complete := true } }

def Feed.ofDescriptor (fd : Nat) (isBase : Bool) : Feed :=
  { source := { rest := [], complete := false }, fd, isBase }

def scriptPiece : Nat := 8192

def Feed.more (f : Feed) : Act Feed := do
  let ended := { f with source := { f.source with complete := true } }
  match f.fd with
  | none => return ended
  | some fd =>
    match ← ask (.read fd scriptPiece) with
    | .ok (b :: bytes) =>
      let text := (Octets.ofBytes (b :: bytes)).toList.filter (· ≠ '\x00')
      return { f with source := { f.source with rest := f.source.rest ++ text } }
    | _ => return ended

def dropLines : Nat → List Char → List Char
  | 0, cs => cs
  | lines + 1, cs => dropLines lines ((cs.dropWhile (· ≠ '\n')).drop 1)

def Feed.showRead (f : Feed) (after : Source) : Act Unit := do
  if f.fd.isSome && (← option 'v') then
    complain (String.ofList (f.source.rest.take (f.source.rest.length - after.rest.length)))

/-- The next command of a script, and whether it is the last one; nothing at the end. -/
def Feed.next (f : Feed) : Act (Option (Option Tree × Bool) × Feed) :=
  iterate (fun (f : Feed) => do
    let m ← get
    let (found, source, documents) := f.source.next m.aliases m.documents
    f.showRead source
    let f := { f with source }
    match found with
    | .more => return .inl (← f.more)
    | .finished => return .inr (none, f)
    | .command body last =>
      set { m with documents, lineRead := source.line
                   baseLine := if f.isBase then source.line else m.baseLine }
      return .inr (some (body, last), f)
    | .refused line text =>
      f.showRead { source with rest := dropLines (line + 1 - source.line) source.rest }
      modify fun m => { m with line }
      fail text) f

inductive LoopEnd where
  | goOn | stop
  | leave

def endSkip : Act LoopEnd := do
  let m ← get
  match m.skip with
  | .none => return .goOn
  | .returning => return .leave
  | kind =>
    if m.skipCount ≤ 1 then
      set { m with skip := .none, skipCount := 0 }
      return if kind = .continuing then .goOn else .stop
    else
      set { m with skipCount := m.skipCount - 1 }
      return .stop

def behindCommand? : Nat → Bool → List Octets → Option (List Octets × Bool)
  | 0, _, _ => none
  | steps + 1, usual, fields =>
    match fields with
    | [] => none
    | field :: rest =>
      match field.toList with
      | ['-', '-'] => if rest.isEmpty then none else some (rest, usual)
      | '-' :: c :: cs =>
        if (c :: cs).all (· = 'p') then behindCommand? steps true rest else none
      | _ => some (fields, usual)

structure Chosen where
  fields : List Octets
  plainly : Bool := false
  usual : Bool := false

def choose (functions : List (Octets × Tree)) : Nat → Chosen → Chosen
  | 0, c => c
  | steps + 1, c =>
    match c.fields with
    | "command" :: rest =>
      if functions.any (·.1 == "command") && !c.plainly then c
      else
        match behindCommand? (rest.length + 1) c.usual rest with
        | some (fields, usual) => choose functions steps { fields, plainly := true, usual }
        | none => c
    | _ => c

def wantsAssignments (functions : List (Octets × Tree)) (fields : List Octets) : Bool :=
  let c := choose functions (fields.length + 1) { fields }
  match c.fields with
  | name :: _ => takesAssignments name && (c.plainly || !functions.any (·.1 == name))
  | [] => false

def expandArguments (substitute : Option Tree → Act Octets) :
    List Word → List Octets → Act (List Octets)
  | [], done => return done
  | word :: rest, done => do
    let asAssignment := wantsAssignments (← get).functions done && isAssignment word
    let fields ←
      if asAssignment then do pure [← expandText substitute { assigns := true } word]
      else expandFields substitute word
    expandArguments substitute rest (done ++ fields)

structure Borrowed where
  name : Octets
  before : Option Variable

def giveBack (borrowed : List Borrowed) : Act Unit := do
  for b in borrowed do
    match b.before with
    | some v => putVariable b.name v
    | none => dropVariable b.name

def assignAll (substitute : Option Tree → Act Octets) (borrows exported : Bool) :
    List Word → List (Octets × Octets) → List Borrowed → Act (List (Octets × Octets) × List Borrowed)
  | [], done, borrowed => return (done.reverse, borrowed)
  | word :: rest, done, borrowed => do
    let text ← expandText substitute { assigns := true } word
    match assignment? text with
    | none => assignAll substitute borrows exported rest done borrowed
    | some (name, value) =>
      let borrowed ←
        if borrows then do
          let before ← variableOf name
          pure (if borrowed.any (·.name = name) then borrowed else { name, before } :: borrowed)
        else pure borrowed
      setVariable name (some value) (borrows || exported)
      assignAll substitute borrows exported rest ((name, value) :: done) borrowed

def showTrace (substitute : Option Tree → Act Octets) (assigned : List (Octets × Octets))
    (fields : List Octets) (errors : Nat) : Act Unit := do
  if (← option 'x') && !(← get).isTracing then
    let text := (← value? "PS4").getD ""
    let m ← get
    let first ← match readQuoted? text m.aliases m.documents with
      | some (word, documents) => do
        set { m with documents, isTracing := true }
        let first ← expandText substitute { quoted := true } word
        modify fun m => { m with isTracing := false }
        pure first
      | none => pure text
    let words := assigned.map (fun (name, value) => name ++ "=" ++ value) ++ fields
    let _ ← ask (.write errors (Octets.bytes (first ++ " ".intercalate words ++ "\n")))

def asBuiltin (name : Octets) (body : Act Nat) : Act Nat := do
  let before := (← get).command
  modify fun m => { m with command := some name }
  let result ← attempt (do
    let status ← body
    flush
    if (← get).waiting.spoilt then
      warn (name ++ ": I/O error")
      setStatus (status ||| 1)
    else setStatus status)
  modify fun m => { m with command := before, waiting := { m.waiting with spoilt := false } }
  match result with
  | .ok () => return (← get).status
  | .error leave => throw leave

def scriptPath (name : Octets) : Act Octets := do
  if name.contains '/' then return name
  let rec search : List Octets → Act (Option Octets)
    | [] => return none
    | folder :: rest => do
      let full := inFolder folder name
      match ← ask (.status full true) with
      | .ok status => if status.kind = .regular then return some full else search rest
      | .error _ => search rest
  match ← search (searchFolders (← searchPath)) with
  | some path => return path
  | none => fail (name ++ ": not found")

def openScript (path : Octets) : Act Nat := do
  match ← ask (.open path .read) with
  | .error cause => fail ("cannot open " ++ path ++ ": " ++ openingText cause false)
  | .ok fd =>
    match ← ask (.duplicate fd firstOwn) with
    | some copy =>
      ask (.close fd)
      return copy
    | none => return fd

def foresee (stage : Tree) : Act Unit := do
  let m ← get
  match stage with
  | .simple _ _ (word :: _) _ =>
    match plainText? word with
    | some name =>
      let known := isBuiltin name || m.functions.any (·.1 == name) || m.found.any (·.1 == name)
      if isName name && !known then
        if let .ok full := ← findProgram name (← searchPath) then rememberProgram name full
    | none => pure ()
  | _ => pure ()

mutual

/-- Runs a command, which may be missing, and gives its status. -/
def runTree : Nat → Run → Option Tree → Act Nat
  | 0, _, _ => throw .done
  | depth + 1, r, tree => do
    if ← option 'n' then return 0
    match tree with
    | none =>
      if r.last then throw .done
      return 0
    | some tree =>
      runTraps depth
      let status ← runBody depth r tree
      runTraps depth
      let counts : Bool := match tree with
        | .simple _ _ _ _ | .subshell _ _ _ | .background _ _ _ | .pipeline _ _ => true
        | _ => false
      if counts && !r.tested && status ≠ 0 && (← option 'e') then throw .done
      if r.last then throw .done
      return (← get).status
termination_by structural depth => depth

def runBody : Nat → Run → Tree → Act Nat
  | 0, _, _ => throw .done
  | depth + 1, r, tree => do
    let substitute := runSubstituted depth
    let settled (status : Nat) : Act Nat := do
      setStatus status
      return status
    let skipping : Act Bool := return (← get).skip ≠ .none
    match tree with
    | .not body =>
      let status ← runTree depth { tested := true } (some body)
      if ← skipping then settled status else settled (if status = 0 then 1 else 0)
    | .redirected line body redirections =>
      atLine line
      let targets ← redirections.mapM (expandRedirection substitute)
      match ← attempt (redirectAll targets (some [])) with
      | .error .error =>
        setStatus mistake
        if !r.tested && (← option 'e') then throw .done
        return mistake
      | .error leave => throw leave
      | .ok saved =>
        let status ← ensuring (runTree depth { tested := r.tested } (some body))
          (restore (saved.getD []))
        settled status
    | .simple line assignments args redirections =>
      settled (← runSimple depth r line assignments args redirections)
    | .each line name words body =>
      atLine line
      let fields ← expandArguments substitute words []
      modify fun m => { m with loops := m.loops + 1 }
      let status ← iterate (fun ((fields, status) : List Octets × Nat) => do
        match fields with
        | [] => return .inr status
        | field :: rest =>
          setVariable name (some field)
          let status ← runTree depth { tested := r.tested } body
          match ← endSkip with
          | .goOn => return .inl (rest, status)
          | _ => return .inr status) (fields, 0)
      modify fun m => { m with loops := m.loops - 1 }
      settled status
    | .loop positive test body =>
      modify fun m => { m with loops := m.loops + 1 }
      let status ← iterate (fun (status : Nat) => do
        let held ← runTree depth { tested := true } test
        let skipped ← skipping
        match ← endSkip with
        | .leave => return .inr held
        | .stop => return .inr status
        | .goOn =>
          if skipped then return .inl status
          if (held = 0) ≠ positive then return .inr status
          let status ← runTree depth { tested := r.tested } body
          match ← endSkip with
          | .goOn => return .inl status
          | _ => return .inr status) 0
      modify fun m => { m with loops := m.loops - 1 }
      settled status
    | .choice line word cases =>
      atLine line
      let text ← expandText substitute { tilde := true } word
      settled (← runCases depth r text cases)
    | .subshell line body redirections =>
      atLine line
      let targets ← redirections.mapM (expandRedirection substitute)
      let inside : Act Unit := do
        let _ ← redirectAll targets none
        let _ ← runTree depth { r with last := true } body
      if r.last && !hasTraps (← get) then
        inside
        throw .done
      else
        let pid ← runChild depth .foreground inside
        settled (← awaitJob (← addJob [pid]))
    | .background line body redirections =>
      atLine line
      let targets ← redirections.mapM (expandRedirection substitute)
      let pid ← runChild depth (.background true) (do
        let _ ← redirectAll targets none
        let _ ← runTree depth { last := true } (some body))
      let _ ← addJob [pid]
      modify fun m => { m with lastBackground := some pid }
      settled 0
    | .pipeline background stages =>
      let pids ← runStages depth r background stages true none
      let number ← addJob pids
      if background then
        modify fun m => { m with lastBackground := pids.getLast? }
        settled 0
      else settled (← awaitJob number)
    | .and first second =>
      let status ← runTree depth { tested := true } (some first)
      if status ≠ 0 || (← skipping) then return status
      settled (← runTree depth r (some second))
    | .or first second =>
      let status ← runTree depth { tested := true } (some first)
      if status = 0 || (← skipping) then return status
      settled (← runTree depth r (some second))
    | .sequence first second =>
      let status ← runTree depth { tested := r.tested } (some first)
      if ← skipping then return status
      settled (← runTree depth r (some second))
    | .branch test thenPart elsePart =>
      let status ← runTree depth { tested := true } test
      if ← skipping then return status
      if status = 0 then settled (← runTree depth r thenPart)
      else
        match elsePart with
        | some _ => settled (← runTree depth r elsePart)
        | none => settled 0
    | .define name body =>
      modify fun m => { m with functions := (name, body) :: m.functions.filter (·.1 ≠ name) }
      settled 0
termination_by structural depth => depth

def runCases : Nat → Run → Octets → List (List Word × Option Tree) → Act Nat
  | 0, _, _, _ => throw .done
  | depth + 1, r, text, cases => do
    match cases with
    | [] => return 0
    | (patterns, body) :: rest =>
      if ← matchesOne depth text patterns then
        match body with
        | some _ => runTree depth r body
        | none => return 0
      else runCases depth r text rest
termination_by structural depth => depth

def matchesOne : Nat → Octets → List Word → Act Bool
  | 0, _, _ => throw .done
  | depth + 1, text, patterns => do
    match patterns with
    | [] => return false
    | word :: rest =>
      let pattern ← expandPattern (runSubstituted depth) word
      if matchesPattern pattern text then return true else matchesOne depth text rest
termination_by structural depth => depth

def runChild : Nat → Kinship → Act Unit → Act Pid
  | 0, _, _ => throw .done
  | depth + 1, kinship, body =>
    fork (conclude depth (do
      becomeChild kinship
      body))
termination_by structural depth => depth

/-- Splits off children for the stages of a pipeline, each of which reads what the one before it has
written. -/
def runStages : Nat → Run → Bool → List Tree → Bool → Option Nat → Act (List Pid)
  | 0, _, _, _, _, _ => throw .done
  | depth + 1, r, background, stages, first, input => do
    match stages with
    | [] => return []
    | stage :: rest =>
      foresee stage
      let ends ← if rest.isEmpty then pure none else do pure (some (← ask .pipe))
      let kinship : Kinship := if background then .background first else .foreground
      let pid ← runChild depth kinship (do
        if let some (reading, _) := ends then ask (.close reading)
        if let some fd := input then
          if fd ≠ Prog.input then
            let _ ← ask (.replace fd Prog.input)
            ask (.close fd)
        if let some (_, writing) := ends then
          if writing ≠ Prog.output then
            let _ ← ask (.replace writing Prog.output)
            ask (.close writing)
        let _ ← runTree depth { r with last := true } (some stage))
      if let some fd := input then ask (.close fd)
      if let some (_, writing) := ends then ask (.close writing)
      return pid :: (← runStages depth r background rest false (ends.map Prod.fst))
termination_by structural depth => depth

def runSubstituted : Nat → Option Tree → Act Octets
  | 0, _ => throw .done
  | depth + 1, body => do
    match body with
    | none =>
      modify fun m => { m with substituted := 0 }
      return ""
    | some _ =>
      let (reading, writing) ← ask .pipe
      let pid ← runChild depth .foreground (do
        ask (.close reading)
        if writing ≠ Prog.output then
          let _ ← ask (.replace writing Prog.output)
          ask (.close writing)
        let _ ← runTree depth { last := true } body)
      ask (.close writing)
      let (bytes, _) ← prog (Prog.readAll reading)
      ask (.close reading)
      let status ← awaitJob (← addJob [pid])
      modify fun m => { m with substituted := status }
      return Octets.ofBytes bytes
termination_by structural depth => depth

def runSimple : Nat → Run → Nat → List Word → List Word → List Redirection → Act Nat
  | 0, _, _, _, _, _ => throw .done
  | depth + 1, r, line, assignments, args, redirections => do
    let substitute := runSubstituted depth
    atLine line
    modify fun m => { m with substituted := 0 }
    let all ← expandArguments substitute args []
    let functions := (← get).functions
    let c := choose functions (all.length + 1) { fields := all }
    let name := c.fields.headD ""
    let function? := if c.plainly || c.fields.isEmpty then none else functions.lookup name
    let isOwn := function?.isNone && isBuiltin name && !c.fields.isEmpty
    -- Mistakes of a special builtin end the shell, unless it was called with `command`.
    let isStrict := isOwn && !c.plainly && isSpecial name
    let borrows := !c.fields.isEmpty && !isStrict
    let isExec := isOwn && name = "exec"
    let targets ← attempt (redirections.mapM (expandRedirection substitute))
    let targets ← match targets with
      | .ok targets => pure targets
      | .error leave => throw leave
    match ← attempt (redirectAll targets (some [])) with
    | .error .error =>
      setStatus mistake
      if isStrict then throw .error
      return mistake
    | .error leave => throw leave
    | .ok saved =>
      let saved := saved.getD []
      let errors := ((saved.find? (·.fd = Prog.errors)).bind Saved.copy).getD Prog.errors
      let path? : Option Octets := if c.usual then some usualPath else none
      let exported := isExec && 1 < c.fields.length
      ensuring
        (do
          let (assigned, borrowed) ← assignAll substitute borrows exported assignments [] []
          showTrace substitute assigned all errors
          ensuring (runFields depth r c.fields function? isOwn isStrict path?) (giveBack borrowed))
        (if isExec then forgetSaved saved else restore saved)
termination_by structural depth => depth

def runFields : Nat → Run → List Octets → Option Tree → Bool → Bool → Option Octets → Act Nat
  | 0, _, _, _, _, _, _ => throw .done
  | depth + 1, r, fields, function?, isOwn, isStrict, path? => do
    match fields with
    | [] => return (← get).substituted
    | name :: args =>
      match function? with
      | some body => runFunction depth r body args
      | none =>
        if isOwn then
          match ← attempt (asBuiltin name (runEvaluating depth r name args)) with
          | .ok status => return status
          | .error .error => if isStrict then throw .error else return (← get).status
          | .error leave => throw leave
        else
          let path := path?.getD (← searchPath)
          let known ←
            if name.contains '/' then pure true
            else
              match (← get).found.lookup name, path? with
              | some _, none => pure true
              | _, _ =>
                match ← findProgram name path with
                | .ok full =>
                  if path?.isNone then rememberProgram name full
                  pure true
                | .error cause =>
                  warn (name ++ ": " ++ executionText cause)
                  pure false
          if !known then return 127
          if r.last && !hasTraps (← get) then becomeProgram fields path
          else
            let pid ← runChild depth .foreground (becomeProgram fields path)
            awaitJob (← addJob [pid])
termination_by structural depth => depth

def runEvaluating : Nat → Run → Octets → List Octets → Act Nat
  | 0, _, _, _ => throw .done
  | depth + 1, r, name, args => do
    match name with
    | "eval" =>
      if args.isEmpty then return 0
      runText depth { tested := r.tested } (" ".intercalate args)
    | "." =>
      let (_, args) ← readLetters "" args
      match args with
      | [] => return 0
      | file :: _ =>
        let path ← scriptPath file
        let fd ← openScript path
        modify fun m => { m with command := some path }
        let status ← runFeed depth {} (Feed.ofDescriptor fd false)
        ask (.close fd)
        modify fun m => { m with skip := if m.skip = .returning then .none else m.skip }
        return status
    | "exec" =>
      if args.isEmpty then return 0 else becomeProgram args (← searchPath)
    | _ => runBuiltin name args
termination_by structural depth => depth

def runFunction : Nat → Run → Tree → List Octets → Act Nat
  | 0, _, _, _ => throw .done
  | depth + 1, r, body, args => do
    let m ← get
    set { m with parameters := args, loops := 0, locals := {} :: m.locals,
                 optionIndex := 1, optionOffset := 0 }
    ensuring
      (do
        let _ ← runTree depth { tested := r.tested } (some body))
      (do
        restoreLocals
        modify fun after =>
          { after with
            parameters := m.parameters, loops := m.loops
            optionIndex := m.optionIndex, optionOffset := m.optionOffset
            skip := if after.skip = .returning then .none else after.skip })
    return (← get).status
termination_by structural depth => depth

def runText : Nat → Run → Octets → Act Nat
  | 0, _, _ => throw .done
  | depth + 1, r, text => runFeed depth r (Feed.ofText text)
termination_by structural depth => depth

def runFeed : Nat → Run → Feed → Act Nat
  | 0, _, _ => throw .done
  | depth + 1, r, feed => do
    let before := (← get).lineRead
    let status ← iterate (fun ((f, status) : Feed × Nat) => do
      let (found, f) ← f.next
      match found with
      | none => return .inr status
      | some (body, last) =>
        let result ← runTree depth { r with last := r.last && last } body
        let status := if body.isSome then result else status
        if (← get).skip = .none then return .inl (f, status) else return .inr status) (feed, 0)
    modify fun m => { m with lineRead := before }
    return status
termination_by structural depth => depth

def runTraps : Nat → Act Unit
  | 0 => throw .done
  | depth + 1 => do
    noticeSignals
    let m ← get
    if m.signals.isEmpty || m.skip ≠ .none then return
    set { m with signals := [] }
    for signal in m.signals do
      match m.traps.lookup signal with
      | some text =>
        let _ ← runText depth {} text
        if (← get).skip ≠ .returning then setStatus m.status
      | none => pure ()
termination_by structural depth => depth

def conclude : Nat → Act Unit → Memory → Prog Nat
  | 0, _, _ => return 0
  | depth + 1, body, m => do
    let ending : Act Unit := do
      let result ← attempt body
      let m ← get
      let status := match result, m.finalStatus with
        | .error .exit, some status => status
        | _, _ => m.status
      match m.traps.lookup 0 with
      | some text =>
        set { m with traps := m.traps.filter (·.1 ≠ 0), status, finalStatus := none, skip := .none }
        let result ← attempt (runText depth {} text)
        let m ← get
        let status := match result, m.finalStatus with
          | .error .exit, some other => other
          | .error .error, _ => m.status
          | _, _ => status
        set { m with status }
      | none => set { m with status }
      flush
    let (_, m) ← ending.run.run m
    return m.status
termination_by structural depth => depth

end

end PipeShell.Machine.Script
