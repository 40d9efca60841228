import PipeShell.Machine.Script.Arithmetic
import PipeShell.Machine.Script.Fields
import PipeShell.Machine.Script.Memory

/-!
# Expansion

What becomes of the words of a script: tildes, parameters, commands and expressions are replaced, the
outcome is split into fields, and patterns are replaced by the names of files. How the output of a
command is found is given here as `substitute`.
-/

namespace PipeShell.Machine.Script
open Act

structure Manner where
  splits : Bool := false
  quoted : Bool := false
  standsIn : Bool := false
  tilde : Bool := false
  assigns : Bool := false
deriving DecidableEq, Repr

def arithmeticSignal : Nat := 8

def nestingLimit : Nat := 100000

/-! ## Tildes -/

def homes : List (Octets × Octets) :=
  [("root", "/root"), ("daemon", "/usr/sbin"), ("bin", "/bin"), ("sys", "/dev"), ("sync", "/bin"),
    ("games", "/usr/games"), ("man", "/var/cache/man"), ("lp", "/var/spool/lpd"),
    ("mail", "/var/mail"), ("news", "/var/spool/news"), ("uucp", "/var/spool/uucp"),
    ("proxy", "/bin"), ("www-data", "/var/www"), ("backup", "/var/backups"), ("list", "/var/list"),
    ("irc", "/run/ircd"), ("_apt", "/nonexistent"), ("nobody", "/nonexistent")]

def homeOf (name : Octets) : Act (Option Octets) := do
  if name = "" then value? "HOME" else return homes.lookup name

def tildeName? (assigns : Bool) : Word → Option (List Char × Word)
  | [] => some ([], [])
  | .char c quoted :: rest =>
    if quoted then none
    else if c = '/' || (assigns && c = ':') then some ([], .char c quoted :: rest)
    else (tildeName? assigns rest).map fun (name, rest) => (c :: name, rest)
  | _ => none

def expandTilde (assigns : Bool) (w : Word) : Act (List Bit × Word) := do
  match w with
  | .char '~' false :: rest =>
    match tildeName? assigns rest with
    | some (name, rest) =>
      match ← homeOf (String.ofList name) with
      | some home => return (Bit.ofText true home, rest)
      | none => return ([], w)
    | none => return ([], w)
  | _ => return ([], w)

/-! ## Parts -/

def plainRun : Word → List Bit × Word
  | .char c false :: rest =>
    let (run, rest) := plainRun rest
    (.glyph ⟨c, false⟩ :: run, rest)
  | w => ([], w)

def afterAllParameters? : Word → Option Word
  | .mark :: .parameter "@" .plain _ true _ :: .mark :: rest => some rest
  | _ => none

/-- The parts of a word one after another, each by itself, behind what has been expanded. The flags tell
that a tilde counts here, and that an equals sign still does. -/
def expandPartsWithin (one : Manner → Part → Act (List Bit)) (m : Manner) :
    Nat → Bool → Bool → List Bit → Word → Act (List Bit)
  | 0, _, _, done, _ => return done
  | steps + 1, tilde, equals, done, w => do
    let (home, w) ← if tilde then expandTilde m.assigns w else pure ([], w)
    let done := done ++ home
    match afterAllParameters? w, w with
    | some rest, _ =>
      let bits ← one { m with quoted := true } (.parameter "@" .plain false true [])
      expandPartsWithin one m steps false equals (done ++ bits) rest
    | none, [] => return done
    | none, .char c quoted :: rest =>
      if m.standsIn && !m.quoted && !quoted then
        let (run, rest) := plainRun w
        expandPartsWithin one m steps false equals (done ++ Bit.region false run) rest
      else
        let isMark := m.assigns && !quoted && (c = ':' || (equals && c = '='))
        expandPartsWithin one m steps isMark (equals && !(isMark && c = '='))
          (done ++ [.glyph ⟨c, quoted⟩]) rest
    | none, part :: rest =>
      expandPartsWithin one m steps false equals (done ++ (← one m part)) rest

def expandParts (one : Manner → Part → Act (List Bit)) (m : Manner) (w : Word) : Act (List Bit) :=
  expandPartsWithin one { m with tilde := false } (w.length + 1) m.tilde true [] w

/-! ## Parameters -/

def optionLetters : List Char := "efIimnsxvVECabup".toList

def withGaps (quoted : Bool) : List Octets → List Bit
  | [] => []
  | [v] => Bit.ofText quoted v
  | v :: vs => Bit.ofText quoted v ++ .gap :: withGaps quoted vs

def parameterBits (m : Manner) (name : Octets) : Act (Option (List Bit)) := do
  let memory ← get
  let text (s : Octets) : Act (Option (List Bit)) := return some (Bit.ofText m.quoted s)
  let joined : Act (Option (List Bit)) := do
    let between := (((← value? "IFS").map fun s => (s.toList.take 1)).getD [' '])
    text ((String.ofList between).intercalate memory.parameters)
  match name with
  | "$" => text (toString memory.rootPid)
  | "?" => text (toString memory.status)
  | "#" => text (toString memory.parameters.length)
  | "!" =>
    match memory.lastBackground with
    | some pid => text (toString pid)
    | none => return none
  | "-" => text (String.ofList (optionLetters.reverse.filter memory.options.contains))
  | "@" => if m.splits then return some (withGaps m.quoted memory.parameters) else joined
  | "*" =>
    if m.splits && !m.quoted then return some (withGaps false memory.parameters) else joined
  | _ =>
    match Octets.decimal? name with
    | some 0 => text memory.name
    | some n =>
      match memory.parameters[n - 1]? with
      | some v => text v
      | none => return none
    | none =>
      match ← value? name with
      | some v => text v
      | none => return none

def sizeOf (bs : List Bit) : Nat :=
  bs.countP fun b => match b with | .glyph _ | .gap => true | _ => false

def refuseMissing {α : Type} (name : Octets) (nonempty : Bool) (reason : Option Octets) : Act α :=
  fail (name ++ ": "
    ++ reason.getD (if nonempty then "parameter not set or null" else "parameter not set"))

def recorded (m : Manner) (name : Octets) (bs : List Bit) : Act (List Bit) := do
  if !m.quoted then return Bit.region false bs
  let isAll := name = "@" && !(← get).parameters.isEmpty
  return if isAll then Bit.region true bs else bs

/-- What a parameter stands for. How words inside are expanded is given as `inside`. -/
def expandParameter (inside : Manner → Word → Act (List Bit)) (m : Manner) (name : Octets)
    (treatment : Treatment) (nonempty : Bool) (word : Word) : Act (List Bit) := do
  if treatment = .bad then fail "Bad substitution"
  let found ← parameterBits m name
  let found := if nonempty && found.any (fun bs => sizeOf bs = 0) then none else found
  let standIn : Act (List Bit) :=
    inside { m with tilde := true, assigns := false, standsIn := true } word
  let alone : Act Octets := do
    return Bit.text (← inside { tilde := true, quoted := m.quoted } word)
  match treatment, found with
  | .orElse, none => standIn
  | .andThen, none => return []
  | .andThen, some _ => standIn
  | .orFail, none =>
    let reason ← alone
    refuseMissing name nonempty (if word.isEmpty then none else some reason)
  | .orAssign, none =>
    setVariable name (some (← alone))
    recorded m name ((← parameterBits m name).getD [])
  | _, none =>
    if ← option 'u' then refuseMissing name false none
    if treatment = .length then recorded m "" (Bit.ofText m.quoted "0") else recorded m name []
  | .length, some bs => recorded m "" (Bit.ofText m.quoted (toString (sizeOf bs)))
  | .trim side longest, some bs =>
    let pattern := Bit.glyphs (← inside { tilde := true } word)
    let text := Bit.text bs
    let left := match side with
      | .front => trimFront pattern longest text
      | .back => trimBack pattern longest text
    recorded m name (Bit.ofText m.quoted left)
  | _, some bs => recorded m name bs

/-! ## Words -/

def substitutedText (s : Octets) : Octets :=
  String.ofList ((s.toList.filter (· ≠ '\x00')).reverse.dropWhile (· = '\n')).reverse

def expandPart (substitute : Option Tree → Act Octets) : Nat → Manner → Part → Act (List Bit)
  | 0, _, _ => return []
  | depth + 1, m, part => do
    let inside (m : Manner) (w : Word) : Act (List Bit) :=
      expandParts (expandPart substitute depth) m w
    match part with
    | .char c quoted => return [.glyph ⟨c, quoted⟩]
    | .mark => return [.mark]
    | .parameter name treatment nonempty quoted word =>
      expandParameter inside { m with quoted := m.quoted || quoted } name treatment nonempty word
    | .command body quoted =>
      let quoted := m.quoted || quoted
      let bits := Bit.ofText quoted (substitutedText (← substitute body))
      return if quoted then bits else Bit.region false bits
    | .arithmetic word quoted =>
      let quoted := m.quoted || quoted
      let text := Bit.text (← inside { quoted := true } word)
      let bindings := (← get).bindings
      let value (name : Octets) : Octets := ((bindings.lookup name).bind Variable.value).getD ""
      match Arithmetic.evaluate text value with
      | .error refusal =>
        match refusal.message? text with
        | some message => fail message
        | none => perish arithmeticSignal
      | .ok (n, changes) =>
        for (name, n) in changes do setVariable name (some (toString n))
        let bits := Bit.ofText quoted (toString n)
        return if quoted then bits else Bit.region false bits

def expandBits (substitute : Option Tree → Act Octets) (m : Manner) (w : Word) : Act (List Bit) :=
  expandParts (expandPart substitute nestingLimit) m w

def expandText (substitute : Option Tree → Act Octets) (m : Manner) (w : Word) : Act Octets :=
  return Bit.text (← expandBits substitute m w)

def expandPattern (substitute : Option Tree → Act Octets) (w : Word) : Act (List Glyph) :=
  return Bit.glyphs (← expandBits substitute { tilde := true } w)

/-! ## Names of files -/

def pathSegments : List Glyph → List (Nat × List Glyph)
  | [] => []
  | g :: rest =>
    match pathSegments rest with
    | [] => if g.char = '/' then [(1, [])] else [(0, [g])]
    | (slashes, segment) :: more =>
      if g.char = '/' then
        if slashes = 0 then (1, segment) :: more else (slashes + 1, segment) :: more
      else if slashes = 0 then (0, g :: segment) :: more
      else (0, [g]) :: (slashes, segment) :: more

def slashes (n : Nat) : Octets := String.ofList (List.replicate n '/')

/-- Names in a folder that match a pattern. Names with a point in front need one in the pattern. -/
def matchingNames (folder : Octets) (segment : List Glyph) : Act (List Octets) := do
  match ← ask (.list (if folder = "" then "." else folder)) with
  | .error _ => return []
  | .ok names =>
    let dotted := (Glyph.unescaped segment).head?.any (·.char = '.')
    let all := if dotted then "." :: ".." :: names else names
    return all.filter fun name => (dotted || !name.startsWith ".") && matchesPattern segment name

def matchingPaths : List (Nat × List Glyph) → Octets → Act (List Octets)
  | [], path => do
    return if (← ask (.status path false)).toOption.isSome then [path] else []
  | (n, segment) :: rest, path => do
    let path := path ++ slashes n
    if segment.any Glyph.isMeta then
      let names ← matchingNames path segment
      let found ← names.mapM fun name => matchingPaths rest (path ++ name)
      return found.flatten
    else matchingPaths rest (path ++ Glyph.text (Glyph.unescaped segment))

def expandNames (bs : List Bit) : Act (List Octets) := do
  let glyphs := Bit.glyphs bs
  if (← option 'f') || !glyphs.any Glyph.isMeta then return [Bit.text bs]
  let found ← matchingPaths (pathSegments glyphs) ""
  if found.isEmpty then return [Bit.text bs]
  return found.mergeSort fun a b => !(b < a)

def expandFields (substitute : Option Tree → Act Octets) (w : Word) : Act (List Octets) := do
  let bits ← expandBits substitute { splits := true, tilde := true } w
  let fields := splitFields (← separators) none bits
  return (← fields.mapM expandNames).flatten

end PipeShell.Machine.Script
