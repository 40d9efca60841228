import PipeShell.Machine.Options

/-!
# Removing folders

The tool that removes empty folders, and the folders above them if that is asked for.
-/

namespace PipeShell.Machine.Rmdir

def tolerantLetter : Char := '\x03'

def optionSet : OptionSet where
  short := [('p', .nothing), ('v', .nothing)]
  long := [("ignore-fail-on-non-empty", tolerantLetter, .nothing), ("path", 'p', .nothing),
    ("parents", 'p', .nothing), ("verbose", 'v', .nothing)]

def stripped (path : Octets) : Octets :=
  let cs := (path.toList.reverse.dropWhile (· = '/')).reverse
  if cs.isEmpty then path.take 1 |>.toString else String.ofList cs

def above? (path : Octets) : Option Octets :=
  let cs := (stripped path).toList
  if cs.contains '/' then
    let folder := (cs.reverse.dropWhile (· ≠ '/')).dropWhile (· = '/')
    some (if folder.isEmpty then "/" else String.ofList folder.reverse)
  else none

def folders : Nat → Octets → List Octets
  | 0, _ => []
  | steps + 1, path =>
    match above? path with
    | some folder => if folder = "/" then ["/"] else folder :: folders steps folder
    | none => []

def isLinkWithSlash (path : Octets) : Prog Bool := do
  if !path.endsWith "/" then return false
  let target ← Prog.ask (.status path true)
  let leads : Bool := match target with
    | .ok status => status.kind = .folder
    | .error cause => cause ≠ .notDirectory
  if !leads then return false
  match ← Prog.ask (.status (stripped path) false) with
  | .ok status => return status.kind = .link
  | .error _ => return false

def isTolerated (path : Octets) (cause : SystemError) : Prog Bool := do
  match cause with
  | .notEmpty => return true
  | .denied | .busy =>
    match ← Prog.ask (.list path) with
    | .ok names => return !names.isEmpty
    | .error _ => return false
  | _ => return false

structure Progress where
  waiting : Prog.Waiting := {}
  status : Nat := 0

def announce (c : Call) (o : Options) (path : Octets) (p : Progress) : Progress :=
  if o.has 'v' then
    let text := c.name ++ ": removing directory, " ++ c.conventions.shellQuoted path ++ "\n"
    { p with waiting := p.waiting.add (Octets.bytes text) }
  else p

def refuse (c : Call) (o : Options) (path : Octets) (cause : SystemError) (shown : Prog Octets)
    (p : Progress) : Prog Progress := do
  if o.has tolerantLetter then
    if ← isTolerated path cause then return p
  let text ← shown
  let waiting ← Prog.flush p.waiting
  c.complain ("failed to remove " ++ text)
  return { waiting, status := 1 }

def removeAbove (c : Call) (o : Options) : List Octets → Progress → Prog Progress
  | [], p => pure p
  | path :: rest, p => do
    let p := announce c o path p
    match ← Prog.ask (.removeFolder path) with
    | none => removeAbove c o rest p
    | some cause =>
      let kind := if cause = .notDirectory then "" else "directory "
      let shown := kind ++ c.conventions.shellQuoted path ++ ": " ++ cause.text
      refuse c o path cause (pure shown) p

def remove (c : Call) (o : Options) (path : Octets) (p : Progress) : Prog Progress := do
  let p := announce c o path p
  match ← Prog.ask (.removeFolder path) with
  | none => if o.has 'p' then removeAbove c o (folders path.length path) p else return p
  | some cause =>
    let shown : Prog Octets := do
      let linked ← if cause = .notDirectory then isLinkWithSlash path else pure false
      return c.conventions.shellQuoted path ++ ": "
        ++ if linked then "Symbolic link not followed" else cause.text
    refuse c o path cause shown p

def run (c : Call) : Prog Nat := do
  let o ← c.options optionSet
  if o.operands.isEmpty then c.misused "missing operand"
  let p ← o.operands.foldlM (fun p path => remove c o path p) ({} : Progress)
  c.finish p.waiting p.status

end PipeShell.Machine.Rmdir
