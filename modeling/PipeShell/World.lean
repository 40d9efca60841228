import PipeShell.Environment
import PipeShell.Files.Tree

/-!
# The world around the shell

What the shell shares with the programs that it starts: the files, the folder in which the shell
stands, its environment, the pipes, the files that are open, its own input, and what has been written
to its own output and error output. What a tilde in a path stands for is left to the system, which
knows the folders of its users.

Every end of a pipe has one holder at a time. When the reading end is closed, writing to the pipe is
refused; when the writing end is closed, a reader gets to the end of the bytes.
-/

namespace PipeShell

structure Pipe where
  buffer : Bytes := []
  hasReader : Bool := true
  hasWriter : Bool := true
deriving DecidableEq, Repr, Inhabited

inductive Access where
  | reading | writing | both
  | appending
deriving DecidableEq, Repr, Inhabited

structure Opened where
  node : Nat
  offset : Nat := 0
  access : Access := .reading
deriving DecidableEq, Repr, Inhabited

namespace Opened

def reads (o : Opened) : Bool := o.access = .reading || o.access = .both

def writes (o : Opened) : Bool := o.access ≠ .reading

end Opened

inductive End where
  | reader (pipe : Nat)
  | writer (pipe : Nat)
  | file (opened : Nat)
deriving DecidableEq, Repr, Inhabited

structure Streams where
  input : Option End := none
  output : Option End := none
deriving DecidableEq, Repr, Inhabited

structure World where
  files : FileTree := {}
  here : Nat := FileTree.root
  environment : Environment := {}
  /-- The path for which one with a tilde stands, in an environment. -/
  tilde : Environment → String → String := fun _ path => path
  pipes : Array Pipe := #[{ hasWriter := false }]
  opened : Array Opened := #[]
  input : End := .reader 0
  output : Bytes := []
  errors : Bytes := []
deriving Inhabited

namespace World

/-! ## Opening -/

def pushOpened (w : World) (o : Opened) : End × World :=
  (.file w.opened.size, { w with opened := w.opened.push o })

def withInputFile (bytes : Bytes) (w : World) : World :=
  let node := w.files.nodes.size
  let files := { w.files with nodes := w.files.nodes.push (.file 0o600 bytes) }
  let (input, w) := { w with files }.pushOpened { node }
  { w with input }

def withInputPipe (bytes : Bytes) (w : World) : World :=
  { w with
    input := .reader w.pipes.size
    pipes := w.pipes.push { buffer := bytes, hasWriter := false } }

def hasPipedStreams (w : World) : Bool :=
  match w.input with
  | .reader _ => true
  | _ => false

def openedNode (w : World) (id : Nat) : Nat := (w.opened.getD id default).node

def reopen (w : World) (e : End) (access : Access) : End × World :=
  match e with
  | .file id => w.pushOpened { node := w.openedNode id, access }
  | .reader id | .writer id => (if access = .reading then .reader id else .writer id, w)

def openNode (w : World) (node : Nat) (access : Access) : Except SystemError (End × World) :=
  match w.files.node node with
  | .device .terminal => .error .noDevice
  | .device (.descriptor 0) => .ok (w.reopen w.input access)
  | .device (.descriptor fd) =>
    if fd ≤ 2 then .ok (w.pushOpened { node, access }) else .error .noEntry
  | _ => .ok (w.pushOpened { node, access })

def openFile (w : World) (path : String) : Except SystemError (End × World) := do
  let node ← w.files.resolve w.here path
  w.files.demand node FileTree.readBit
  w.openNode node .reading

/-- The file that is open behind a node. Behind the first descriptor it is the one that the shell itself
reads. -/
def fileBehind (w : World) (node : Nat) : Nat :=
  match w.files.node node, w.input with
  | .device (.descriptor 0), .file id => w.openedNode id
  | _, _ => node

/-- Opens a file to be written anew. It loses what it holds, and is made if it is missing. -/
def createFile (w : World) (path : String) : Except SystemError (End × World) := do
  let (node, files) ← w.files.make w.here path
  let w := { w with files }
  { w with files := files.truncate (w.fileBehind node) }.openNode node .writing

def openPipes (w : World) (count : Nat) : World :=
  { w with pipes := w.pipes ++ Array.replicate count {} }

/-! ## Reading, writing and closing -/

def pipe (w : World) (id : Nat) : Pipe := w.pipes.getD id {}

def modifyPipe (w : World) (id : Nat) (f : Pipe → Pipe) : World :=
  { w with pipes := w.pipes.modify id f }

def close (e : End) (w : World) : World :=
  match e with
  | .reader id => w.modifyPipe id ({ · with hasReader := false })
  | .writer id => w.modifyPipe id ({ · with hasWriter := false })
  | .file _ => w

def close? (e : Option End) (w : World) : World :=
  match e with
  | some e => w.close e
  | none => w

def advance (w : World) (id count : Nat) : World :=
  { w with opened := w.opened.modify id fun o => { o with offset := o.offset + count } }

def writeOpened (id : Nat) (bytes : Bytes) (w : World) : Option SystemError × World :=
  let o := w.opened.getD id default
  if !o.writes then (some .badDescriptor, w)
  else
    match w.files.node o.node with
    | .device .full => (if bytes.isEmpty then none else some .noSpace, w)
    | .device (.descriptor 2) => (none, { w with errors := w.errors ++ bytes })
    | .device (.descriptor _) => (none, { w with output := w.output ++ bytes })
    | .device _ => (none, w)
    | _ =>
      let size := ((w.files.content o.node).toOption.getD []).length
      let offset := if o.access = .appending then size else o.offset
      let o := { o with offset := offset + bytes.length }
      (none,
        { w with
          files := w.files.writeAt o.node offset bytes
          opened := w.opened.setIfInBounds id o })

/-- Writes to an end; none stands for the output of the shell itself. -/
def write (target : Option End) (bytes : Bytes) (w : World) : Option SystemError × World :=
  match target with
  | none => (none, { w with output := w.output ++ bytes })
  | some (.file id) => w.writeOpened id bytes
  | some (.writer id) =>
    if (w.pipe id).hasReader then
      (none, w.modifyPipe id fun p => { p with buffer := p.buffer ++ bytes })
    else (some .brokenPipe, w)
  | some (.reader _) => (some .badDescriptor, w)

def writeError (bytes : Bytes) (w : World) : World :=
  { w with errors := w.errors ++ bytes }

def read (source : End) (most : Nat) (w : World) : Except SystemError Bytes × World :=
  match source with
  | .reader id =>
    let buffer := (w.pipe id).buffer
    (.ok (buffer.take most), w.modifyPipe id ({ · with buffer := buffer.drop most }))
  | .file id =>
    let o := w.opened.getD id default
    if !o.reads then (.error .badDescriptor, w)
    else
      match w.files.readAt o.node o.offset most with
      | .ok bytes => (.ok bytes, w.advance id bytes.length)
      | .error e => (.error e, w)
  | .writer _ => (.error .badDescriptor, w)

def available (source : End) (w : World) : Nat :=
  match source with
  | .reader id => (w.pipe id).buffer.length
  | .file id =>
    let o := w.opened.getD id default
    match w.files.content o.node with
    | .ok content => content.length - o.offset
    | .error _ => 0
  | .writer _ => 0

/-! ## Whole files -/

def contentOf (w : World) (path : String) : Except SystemError Bytes := do
  let node ← w.files.resolve w.here path
  w.files.demand node FileTree.readBit
  w.files.content node

def overwrite (w : World) (path : String) (bytes : Bytes) : Except SystemError World := do
  let (node, files) ← w.files.create w.here path
  .ok { w with files := files.writeAt node 0 bytes }

def makeFolders (w : World) (path : String) : Option SystemError × World :=
  let (files, result) := w.files.makeFolders w.here path
  let refused := match result with
    | .ok _ => none
    | .error cause => some cause
  (refused, { w with files })

/-! ## The current folder -/

def directory (w : World) : Except SystemError String := w.files.pathOf w.here

def expandTilde (w : World) (path : String) : String := w.tilde w.environment path

def enter (w : World) (path : String) : Except SystemError World :=
  (w.files.enterFolder w.here path).map ({ w with here := · })

end World
end PipeShell
