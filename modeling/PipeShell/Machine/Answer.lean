import PipeShell.Machine.Process

/-!
# Answers

How the machine answers what a process asks for. Some requests have to wait: reading from a pipe into
which somebody may still write, writing to one that is full, and waiting for a child that still runs.
Writing where nobody reads any more kills the writer, unless it has asked for something else.

A file that can be executed is a program that the machine knows, or names an interpreter on its first
line, of which only the first bytes count.
-/

namespace PipeShell.Machine

/-- The programs of a machine, by name: each is given its arguments and its environment. -/
abbrev Catalogue := String → Option (List Octets → List (Octets × Octets) → Prog Nat)

/-! ## Executable files -/

def firstLineSize : Nat := 256

def interpreterDepth : Nat := 5

def isGap (c : Char) : Bool := c = ' ' || c = '\t'

def interpreterOf (content : Bytes) : Option (Octets × Option Octets) :=
  let start := (Octets.ofBytes (content.take firstLineSize)).toList
  match start with
  | '#' :: '!' :: rest =>
    let isOpen := !rest.contains '\n' && firstLineSize ≤ content.length
    let line := (rest.takeWhile (· ≠ '\n')).dropWhile isGap
    let endsName (c : Char) : Bool := isGap c || c = '\x00'
    -- A name that may have been cut off does not count.
    if isOpen && !line.any endsName then none
    else
      let line := if isOpen then line.take (firstLineSize - 1) else line
      let line := (line.reverse.dropWhile isGap).reverse
      let name := line.takeWhile (!endsName ·)
      let argument := ((line.drop name.length).dropWhile isGap).takeWhile (· ≠ '\x00')
      if name.isEmpty then none
      else
        some (String.ofList name,
          if argument.isEmpty then none else some (String.ofList argument))
  | _ => none

/-- The program and the arguments for which an executable file stands. -/
def executableWithin (t : FileTree) (here : Nat) :
    Nat → Octets → List Octets → Except SystemError (String × List Octets)
  | 0, _, _ => .error .linkLoop
  | depth + 1, path, argv => do
    let id ← t.resolve here (Octets.toText path)
    match t.node id with
    | .program name => .ok (name, argv)
    | .file mode content =>
      if !FileTree.hasBit mode FileTree.executeBit then .error .denied
      else
        match interpreterOf content with
        | some (interpreter, argument) =>
          executableWithin t here depth interpreter
            (interpreter :: argument.toList ++ path :: argv.drop 1)
        | none => .error .badFormat
    | _ => .error .denied

def executable (t : FileTree) (here : Nat) (path : Octets) (argv : List Octets) :
    Except SystemError (String × List Octets) :=
  executableWithin t here (interpreterDepth + 1) path argv

/-! ## Files -/

def within {α : Type} (p : Process) (w : World) (f : World → α × World) : α × World :=
  let (a, after) := f { w with here := p.here }
  (a, { after with here := w.here })

def reopenChannel (p : Process) (fd : Nat) (access : Access) (w : World) :
    Except SystemError (Channel × World) :=
  match p.channel? fd with
  | none => .error .noEntry
  | some (.own stream) => .ok (.own stream, w)
  | some (.held e) =>
    let (e, w) := w.reopen e access
    .ok (.held e, w)

def openNode (p : Process) (node : Nat) (access : Access) (w : World) :
    Except SystemError (Channel × World) :=
  match w.files.node node with
  | .device (.descriptor fd) => reopenChannel p fd access w
  | _ => (w.openNode node access).map fun (e, w) => (.held e, w)

def fileBehind (p : Process) (w : World) (node : Nat) : Nat :=
  match w.files.node node with
  | .device (.descriptor fd) =>
    match p.channel? fd with
    | some (.held (.file id)) => w.openedNode id
    | _ => node
  | _ => node

def openPath (p : Process) (path : Octets) (mode : OpenMode) (w : World) :
    Except SystemError (Channel × World) := do
  let path := Octets.toText path
  match mode with
  | .read =>
    let node ← w.files.resolve p.here path
    w.files.demand node FileTree.readBit
    openNode p node .reading w
  | .write =>
    let (node, files) ← w.files.make p.here path FileTree.writeBit p.mask
    openNode p node .writing { w with files := files.truncate (fileBehind p w node) }
  | .append =>
    let (node, files) ← w.files.make p.here path FileTree.writeBit p.mask
    openNode p node .appending { w with files }
  | .readWrite =>
    let (node, files) ← w.files.make p.here path FileTree.writeBit p.mask
    files.demand node FileTree.readBit
    openNode p node .both { w with files }

def folderSize (mode : Nat) : Nat := if FileTree.hasBit mode FileTree.writeBit then 4096 else 0

def programSize : Nat := 44016

def statusOfNode (t : FileTree) (id : Nat) : FileStatus :=
  let (kind, size) : FileKind × Nat := match t.node id with
    | .file _ content => (.regular, content.length)
    | .program _ => (.regular, programSize)
    | .folder mode _ _ => (.folder, folderSize mode)
    | .link target => (.link, target.utf8ByteSize)
    | .device _ => (.device, 0)
  { kind, size, mode := t.mode id, number := id + 1, changed := t.changedAt id }

def statusOfStream (w : World) (stream : Nat) : FileStatus :=
  { kind := if w.hasPipedStreams then .pipe else .regular, mode := 0o600
    size := if w.hasPipedStreams then 0 else w.output.length
    number := w.files.nodes.size + w.pipes.size + 1 + stream }

def statusOfChannel (w : World) : Channel → FileStatus
  | .own stream => statusOfStream w stream
  | .held (.file id) =>
    let o := w.opened.getD id default
    { statusOfNode w.files o.node with offset := o.offset, appends := o.access = .appending }
  | .held (.reader id) | .held (.writer id) =>
    { kind := .pipe, mode := 0o600, number := w.files.nodes.size + id + 1 }

/-- Does a process see the entry of a folder? It sees only those descriptors that it has. -/
def seesEntry (p : Process) (t : FileTree) (entry : String × Nat) : Bool :=
  match t.node entry.2 with
  | .device (.descriptor fd) => (p.channel? fd).isSome
  | _ => true

def holdsDescriptors (t : FileTree) (entries : List (String × Nat)) : Bool :=
  entries.head?.any fun entry =>
    match t.node entry.2 with
    | .device (.descriptor _) => true
    | _ => false

def statusFor (p : Process) (w : World) (follow : Bool) (node : Nat) : Except SystemError FileStatus :=
  match w.files.node node with
  | .device (.descriptor fd) =>
    match p.channel? fd with
    | none => .error .noEntry
    | some channel =>
      if follow then .ok (statusOfChannel w channel)
      else .ok { statusOfNode w.files node with kind := .link, mode := 0o777, size := 64 }
  | .folder _ _ entries =>
    let status := statusOfNode w.files node
    if holdsDescriptors w.files entries then
      .ok { status with size := entries.countP (seesEntry p w.files) }
    else .ok status
  | _ => .ok (statusOfNode w.files node)

/-! ## Reading and writing -/

def pipeCapacity : Nat := 65536

def pipeUnit : Nat := 4096

def readChannel (channel : Channel) (most : Nat) (w : World) :
    Option (Except SystemError Bytes × World) :=
  match channel with
  | .own _ => some (.error .badDescriptor, w)
  | .held (.reader id) =>
    if (w.pipe id).buffer.isEmpty && (w.pipe id).hasWriter && 0 < most then none
    else some (w.read (.reader id) most)
  | .held e => some (w.read e most)

/-- How many bytes a process may write, by the limit on the size of files; nothing if there is no
limit. -/
def allowance? (p : Process) (w : World) (channel : Channel) : Option Nat :=
  (p.limit Process.sizeLetter).soft.bind fun most =>
    match channel with
    -- The files of the shell itself have grown large enough.
    | .own _ => if w.hasPipedStreams then none else some 0
    | .held (.file id) =>
      let o := w.opened.getD id default
      match w.files.node o.node with
      | .file _ content => some (most - if o.access = .appending then content.length else o.offset)
      | _ => none
    | .held _ => none

def roomIn (w : World) (channel : Channel) (size : Nat) : Nat :=
  match channel with
  | .held (.writer id) =>
    let free := pipeCapacity - (w.pipe id).buffer.length
    if !(w.pipe id).hasReader || size ≤ free then size else if size ≤ pipeUnit then 0 else free
  | _ => size

def writeChannel (channel : Channel) (bytes : Bytes) (w : World) : Option SystemError × World :=
  match channel with
  | .own 2 => (none, w.writeError bytes)
  | .own _ => w.write none bytes
  | .held e => w.write (some e) bytes

/-! ## Children -/

def awaitChild (m : Machine) (p : Process) (patience : Patience) : Option (Children × Machine) :=
  let children := m.processes.filter (·.parent == p.pid)
  if children.isEmpty then some (.none, m)
  else
    match children.findSome? (fun c => c.fate.map fun fate => (c.pid, fate)) with
    | some (child, fate) => some (.ended child fate, m.forget child)
    | none =>
      if patience = .now then some (.running, m)
      else if p.pending.isEmpty then none
      else some (.interrupted, m)

/-! ## Requests -/

/-- Answers a request of a process; nothing comes of it as long as it has to wait. Requests that
change the code of the process are not answered here. -/
def answer (m : Machine) (w : World) (p : Process) :
    (r : Request) → Option (r.Answer × Machine × World)
  | .read fd most =>
    match p.channel? fd with
    | none => some (.error .badDescriptor, m, w)
    | some channel => (readChannel channel most w).map fun (result, w) => (result, m, w)
  | .write _ _ => some (none, m, w)
  | .open path mode =>
    match openPath p path mode w with
    | .error cause => some (.error cause, m, w)
    | .ok (channel, w) =>
      let fd := p.freeFrom 0
      some (.ok fd, m.put (p.setChannel fd channel), w)
  | .close fd =>
    let (m, w) := m.replaceProcess p (p.dropChannel fd) w
    some ((), m, w)
  | .duplicate fd least =>
    match p.channel? fd with
    | none => some (none, m, w)
    | some channel =>
      let copy := p.freeFrom least
      some (some copy, m.put (p.setChannel copy channel), w)
  | .replace fd target =>
    match p.channel? fd with
    | none => some (false, m, w)
    | some channel =>
      let (m, w) := m.replaceProcess p (p.setChannel target channel) w
      some (true, m, w)
  | .pipe =>
    let id := w.pipes.size
    let reading := p.freeFrom 0
    let p := p.setChannel reading (.held (.reader id))
    let writing := p.freeFrom 0
    some ((reading, writing), m.put (p.setChannel writing (.held (.writer id))), w.openPipes 1)
  | .putBack fd bytes =>
    match p.channel? fd with
    | some (.held (.file id)) =>
      let back (o : Opened) : Opened := { o with offset := o.offset - bytes.length }
      some (true, m, { w with opened := w.opened.modify id back })
    | _ => some (false, m, w)
  | .statusOf fd => some ((p.channel? fd).map (statusOfChannel w), m, w)
  | .status path follow =>
    let id := w.files.resolve p.here (Octets.toText path) follow
    some (id.bind (statusFor p w follow), m, w)
  | .list path =>
    some ((do
      let entries ← w.files.entriesOf p.here (Octets.toText path)
      .ok ((entries.filter (seesEntry p w.files)).map fun e => Octets.ofText e.1)), m, w)
  | .removeFolder path =>
    match w.files.removeFolder p.here (Octets.toText path) with
    | .ok files => some (none, m, { w with files })
    | .error cause => some (some cause, m, w)
  | .enter path =>
    match w.files.enterFolder p.here (Octets.toText path) with
    | .ok here => some (none, m.put { p with here }, w)
    | .error cause => some (some cause, m, w)
  | .folder => some ((w.files.pathOf p.here).map Octets.ofText, m, w)
  | .mask new => some (p.mask, m.put { p with mask := new.getD p.mask &&& 0o777 }, w)
  | .limit resource new =>
    match new with
    | none => some (.ok (p.limit resource), m, w)
    | some new =>
      match p.withLimit? resource new with
      | .ok p => some (.ok new, m.put p, w)
      | .error cause => some (.error cause, m, w)
  | .awaitChild patience => (awaitChild m p patience).map fun (children, m) => (children, m, w)
  | .sleep _ => some ((), m, w)
  | .kill target signal =>
    match m.process? target with
    | none => some (false, m, w)
    | some q =>
      let (m, w) := m.deliver q signal w
      some (true, m, w)
  | .handle signal disposition =>
    let others := p.dispositions.filter (·.1 ≠ signal)
    some (p.disposition signal, m.put { p with dispositions := (signal, disposition) :: others }, w)
  | .caught => some (p.pending, m.put { p with pending := [] }, w)
  | .identity => some ((p.pid, p.parent), m, w)
  | .clock => some (m.clock, m, w)
  | .exec path argv _ =>
    match executable w.files p.here path argv with
    | .error cause => some (cause, m, w)
    | .ok _ => some (.noEntry, m, w)

end PipeShell.Machine
