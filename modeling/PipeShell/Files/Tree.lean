import PipeShell.Fault
import PipeShell.Files.Path
import PipeShell.Text.Bytes

/-!
# File trees

Files, folders and links stand in one array and are named by their places in it; the root is the
first. A folder knows its parent and its entries. It stays where it is when its name is taken away,
so that a process can still stand in it.

A walk follows a path name by name. It passes through symbolic links, of which it takes forty at
most, and ends at a node or at a place where the last name is free. Everything belongs to the user,
so the first three bits of a mode say who may read, write, execute or walk through.
-/

namespace PipeShell

inductive Device where
  | null
  | zero
  | full
  | random
  | terminal
  | descriptor (fd : Nat)
deriving DecidableEq, Repr, Inhabited

inductive FileNode where
  | file (mode : Nat) (content : Bytes)
  | folder (mode parent : Nat) (entries : List (String × Nat))
  | link (target : String)
  | program (name : String)
  | device (d : Device)
deriving Inhabited

structure FileTree where
  nodes : Array FileNode := #[.folder 0o755 0 []]
  now : Nat := 0
  changes : List (Nat × Nat) := []

inductive Place where
  | at (node : Nat)
  | free (folder : Nat) (name : String)
deriving DecidableEq, Repr

namespace FileTree

def root : Nat := 0

def node (t : FileTree) (id : Nat) : FileNode := t.nodes.getD id (.device .null)

def isFolder (t : FileTree) (id : Nat) : Bool :=
  match t.node id with
  | .folder _ _ _ => true
  | _ => false

def isRegular (t : FileTree) (id : Nat) : Bool :=
  match t.node id with
  | .file _ _ => true
  | .program _ => true
  | _ => false

def stamp (t : FileTree) (id : Nat) : FileTree :=
  { t with changes := (id, t.now) :: t.changes.filter (·.1 ≠ id) }

def changedAt (t : FileTree) (id : Nat) : Nat := (t.changes.lookup id).getD 0

def setNode (t : FileTree) (id : Nat) (n : FileNode) : FileTree :=
  { t with nodes := t.nodes.setIfInBounds id n }.stamp id

/-! ## Modes -/

def mode (t : FileTree) (id : Nat) : Nat :=
  match t.node id with
  | .file mode _ => mode
  | .folder mode _ _ => mode
  | .link _ => 0o777
  | .program _ => 0o755
  | .device _ => 0o666

def readBit : Nat := 0o400

def writeBit : Nat := 0o200

def executeBit : Nat := 0o100

def executeBits : Nat := 0o111

def hasBit (mode bits : Nat) : Bool := mode &&& bits != 0

def allows (t : FileTree) (id bit : Nat) : Bool := hasBit (t.mode id) bit

def demand (t : FileTree) (id bit : Nat) : Except SystemError Unit :=
  if t.allows id bit then .ok () else .error .denied

/-! ## Walks -/

def longestName : Nat := 255

def longestPath : Nat := 4095

def mostLinks : Nat := 40

/-- Walks from a node along these steps. The last step follows a link if `follow` is set. Gives the
place, and how many links may still be followed. -/
def walk (t : FileTree) (follow : Bool) (links : Nat) (here : Nat) :
    List String → Except SystemError (Place × Nat)
  | [] => .ok (.at here, links)
  | name :: rest =>
    match t.node here with
    | .folder mode parent entries =>
      if name = "" then t.walk follow links here rest
      else if !hasBit mode executeBit then .error .denied
      else if longestName < name.utf8ByteSize then .error .nameTooLong
      else if name = "." then t.walk follow links here rest
      else if name = ".." then t.walk follow links parent rest
      else
        match entries.lookup name with
        | none => if rest.isEmpty then .ok (.free here name, links) else .error .noEntry
        | some id =>
          match t.node id with
          | .link target =>
            if rest.isEmpty && !follow then .ok (.at id, links)
            else
              match links with
              | 0 => .error .linkLoop
              | links + 1 =>
                t.walk follow links (if Path.isAbsolute target then root else here)
                  (Path.steps target ++ rest)
          | _ => t.walk follow links id rest
    | _ => .error .notDirectory
termination_by steps => (links, steps.length)

def checkPath (path : String) : Except SystemError Unit :=
  if path.toList.contains '\x00' then .error .nulInName
  else if path = "" then .error .noEntry
  else if longestPath < path.utf8ByteSize then .error .nameTooLong
  else .ok ()

def startOf (here : Nat) (path : String) : Nat := if Path.isAbsolute path then root else here

def locate (t : FileTree) (here : Nat) (path : String) (follow : Bool := true) :
    Except SystemError Place := do
  checkPath path
  let (place, _) ← t.walk follow mostLinks (startOf here path) (Path.steps path)
  .ok place

/-- Where a path leads whose last name is to be made if it is free. That name must be a plain one: no
slash may stand behind it, neither in the path nor in a link to which it leads. The walk follows at
most so many links at the end, and at most `links` in all. -/
def locateNewWithin (t : FileTree) : Nat → Nat → Nat → String → Except SystemError Place
  | 0, _, _, _ => .error .linkLoop
  | depth + 1, links, here, path => do
    let names := Path.names path
    match ← t.walk true links (startOf here path) names.dropLast, names.getLast? with
    | _, none => .error .isDirectory
    | (.free _ _, _), some _ => .error .noEntry
    | (.at folder, links), some last =>
      match t.node folder with
      | .folder mode _ entries =>
        if !hasBit mode executeBit then .error .denied
        else if last = "." || last = ".." || Path.endsInSlash path then .error .isDirectory
        else if longestName < last.utf8ByteSize then .error .nameTooLong
        else
          match entries.lookup last with
          | none => .ok (.free folder last)
          | some id =>
            match t.node id, links with
            | .link _, 0 => .error .linkLoop
            | .link target, links + 1 => t.locateNewWithin depth links folder target
            | _, _ => .ok (.at id)
      | _ => .error .notDirectory

def locateNew (t : FileTree) (here : Nat) (path : String) : Except SystemError Place := do
  checkPath path
  t.locateNewWithin (mostLinks + 1) mostLinks here path

def resolve (t : FileTree) (here : Nat) (path : String) (follow : Bool := true) :
    Except SystemError Nat :=
  match t.locate here path follow with
  | .ok (.at id) => .ok id
  | .ok (.free _ _) => .error .noEntry
  | .error e => .error e

def leadsToFolder (t : FileTree) (here : Nat) (path : String) : Bool :=
  match t.resolve here path with
  | .ok id => t.isFolder id
  | .error _ => false

def resolveFolder (t : FileTree) (here : Nat) (path : String) : Except SystemError Nat := do
  let id ← t.resolve here path
  if t.isFolder id then .ok id else .error .notDirectory

def enterFolder (t : FileTree) (here : Nat) (path : String) : Except SystemError Nat := do
  let id ← t.resolveFolder here path
  t.demand id executeBit
  .ok id

/-! ## Reading -/

structure Metadata where
  isFolder : Bool
  mode : Nat
deriving DecidableEq, Repr

structure Listed where
  name : String
  metadata : Except SystemError Metadata

/-- An entry can be read wherever its folder can, but what the system tells of it can be asked for only
in a folder that can be walked through. -/
def listed (t : FileTree) (folder : Nat) (entry : String × Nat) : Listed :=
  ⟨entry.1, (t.demand folder executeBit).map fun _ => ⟨t.isFolder entry.2, t.mode entry.2⟩⟩

def entriesIn (t : FileTree) (folder : Nat) : Except SystemError (List (String × Nat)) := do
  t.demand folder readBit
  match t.node folder with
  | .folder _ _ entries => .ok entries
  | _ => .error .notDirectory

def entriesOf (t : FileTree) (here : Nat) (path : String) :
    Except SystemError (List (String × Nat)) := do
  t.entriesIn (← t.resolveFolder here path)

def list (t : FileTree) (here : Nat) (path : String) : Except SystemError (List Listed) := do
  let folder ← t.resolveFolder here path
  let entries ← t.entriesIn folder
  .ok (entries.map (t.listed folder))

def content (t : FileTree) (id : Nat) : Except SystemError Bytes :=
  match t.node id with
  | .file _ content => .ok content
  | .folder _ _ _ => .error .isDirectory
  | _ => .ok []

def randomByte (place : Nat) : UInt8 := UInt8.ofNat (place * 167 + place / 256 * 59 + 13)

def readAt (t : FileTree) (id offset most : Nat) : Except SystemError Bytes :=
  match t.node id with
  | .device .zero | .device .full => .ok (List.replicate most 0)
  | .device .random => .ok ((List.range most).map fun i => randomByte (offset + i))
  | _ => (t.content id).map fun content => (content.drop offset).take most

def isLinked (t : FileTree) (id : Nat) : Bool :=
  id == root ||
    match t.node id with
    | .folder _ parent _ =>
      match t.node parent with
      | .folder _ _ entries => entries.any (·.2 == id)
      | _ => false
    | _ => false

def namesTo (t : FileTree) : Nat → Nat → Option (List String)
  | 0, _ => none
  | fuel + 1, id =>
    if id = root then some []
    else
      match t.node id with
      | .folder _ parent _ =>
        match t.node parent with
        | .folder _ _ entries => do
          let entry ← entries.find? (·.2 == id)
          let names ← t.namesTo fuel parent
          some (names ++ [entry.1])
        | _ => none
      | _ => none

def pathOf (t : FileTree) (id : Nat) : Except SystemError String :=
  match t.namesTo (t.nodes.size + 1) id with
  | some names => .ok ("/" ++ "/".intercalate names)
  | none => .error .noEntry

/-! ## Changing -/

/-- Adds a node under a free name. A folder that has lost its own name takes no more entries. -/
def add (t : FileTree) (folder : Nat) (name : String) (n : FileNode) :
    Except SystemError (Nat × FileTree) :=
  match t.node folder with
  | .folder mode parent entries =>
    if !t.isLinked folder then .error .noEntry
    else if !(hasBit mode writeBit && hasBit mode executeBit) then .error .denied
    else
      let id := t.nodes.size
      let t := t.setNode folder (.folder mode parent (entries ++ [(name, id)]))
      .ok (id, { t with nodes := t.nodes.push n }.stamp id)
  | _ => .error .notDirectory

def mask : Nat := 0o022

def without (mode mask : Nat) : Nat := mode &&& (0o777 ^^^ (mask &&& 0o777))

def make (t : FileTree) (here : Nat) (path : String) (bit : Nat := writeBit) (mask : Nat := mask) :
    Except SystemError (Nat × FileTree) := do
  match ← t.locateNew here path with
  | .free folder name => t.add folder name (.file (without 0o666 mask) [])
  | .at id =>
    if t.isFolder id then .error .isDirectory
    else
      t.demand id bit
      .ok (id, t)

def truncate (t : FileTree) (id : Nat) : FileTree :=
  match t.node id with
  | .file mode _ => t.setNode id (.file mode [])
  | .program _ => t.setNode id (.file (t.mode id) [])
  | _ => t

def create (t : FileTree) (here : Nat) (path : String) : Except SystemError (Nat × FileTree) :=
  (t.make here path).map fun (id, t) => (id, t.truncate id)

def makeFolder (t : FileTree) (here : Nat) (path : String) (mode : Nat := without 0o777 mask) :
    Except SystemError FileTree := do
  match ← t.locate here (Path.bare path) false with
  | .at _ => .error .exists
  | .free folder name => (t.add folder name (.folder mode folder [])).map Prod.snd

def makeFoldersWithin (t : FileTree) (here : Nat) :
    Nat → String → FileTree × Except SystemError Unit
  | 0, _ => (t, .error .nameTooLong)
  | depth + 1, path =>
    if path = "" then (t, .ok ())
    else
      match t.makeFolder here path with
      | .ok t => (t, .ok ())
      | .error .noEntry =>
        match Path.parent? path with
        | none => (t, .error .noEntry)
        | some parent =>
          match t.makeFoldersWithin here depth parent with
          | (t, .error e) => (t, .error e)
          | (t, .ok ()) =>
            match t.makeFolder here path with
            | .ok t => (t, .ok ())
            | .error e => (t, if t.leadsToFolder here path then .ok () else .error e)
      | .error e => (t, if t.leadsToFolder here path then .ok () else .error e)

def makeFolders (t : FileTree) (here : Nat) (path : String) : FileTree × Except SystemError Unit :=
  t.makeFoldersWithin here (path.length + 1) path

def removeFolder (t : FileTree) (here : Nat) (path : String) : Except SystemError FileTree := do
  checkPath path
  let names := Path.names path
  match ← t.walk true mostLinks (startOf here path) names.dropLast, names.getLast? with
  | _, none => .error .busy
  | (.free _ _, _), some _ => .error .noEntry
  | (.at above, _), some last =>
    match t.node above with
    | .folder mode parent entries =>
      if !hasBit mode executeBit then .error .denied
      else if last = "." then .error .invalid
      else if last = ".." then .error .notEmpty
      else if longestName < last.utf8ByteSize then .error .nameTooLong
      else
        match entries.lookup last with
        | none => .error .noEntry
        | some id =>
          if !hasBit mode writeBit then .error .denied
          else
            match t.node id with
            | .folder _ _ [] =>
              .ok (t.setNode above (.folder mode parent (entries.filter (·.2 ≠ id))))
            | .folder _ _ _ => .error .notEmpty
            | _ => .error .notDirectory
    | _ => .error .notDirectory

def writeAt (t : FileTree) (id offset : Nat) (bytes : Bytes) : FileTree :=
  match t.node id, bytes with
  | _, [] => t
  | .file mode content, _ =>
    let before := content.take offset
    let gap := List.replicate (offset - content.length) 0
    t.setNode id (.file mode (before ++ gap ++ bytes ++ content.drop (offset + bytes.length)))
  | _, _ => t

def filesBelow (t : FileTree) : Nat → String → Nat → List (String × Bytes)
  | 0, _, _ => []
  | depth + 1, path, id =>
    match t.node id with
    | .folder _ _ entries =>
      entries.flatMap fun entry =>
        let path := if path = "" then entry.1 else path ++ "/" ++ entry.1
        match t.node entry.2 with
        | .file _ content => [(path, content)]
        | .folder _ _ _ => t.filesBelow depth path entry.2
        | _ => []
    | _ => []

def files (t : FileTree) (id : Nat) : List (String × Bytes) :=
  t.filesBelow (t.nodes.size + 1) "" id

end FileTree
end PipeShell
