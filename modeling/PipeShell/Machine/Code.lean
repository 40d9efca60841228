import PipeShell.Fault
import PipeShell.Machine.Octets
import PipeShell.Notice

/-!
# Code

What a process of the machine does: it asks the machine for one thing after another and goes on with
the answers, splits off a child, or exits. Code is a tree whose nodes are requests and whose branches
are the answers. Programs are written as a monad on top of it, in which a program may also leave the
process at any point.
-/

namespace PipeShell.Machine

inductive Fate where
  | exited (status : Nat)
  | killed (signal : Nat)
deriving DecidableEq, Repr, Inhabited

inductive OpenMode where
  | read
  | write
  | append
  | readWrite
deriving DecidableEq, Repr

inductive FileKind where
  | regular | folder | link | device | pipe
deriving DecidableEq, Repr, Inhabited

structure FileStatus where
  kind : FileKind
  mode : Nat
  size : Nat := 0
  offset : Nat := 0
  appends : Bool := false
  number : Nat := 0
  changed : Nat := 0
deriving DecidableEq, Repr, Inhabited

structure Limit where
  soft : Option Nat := none
  hard : Option Nat := none
deriving DecidableEq, Repr, Inhabited

inductive Disposition where
  | default | ignored | caught
deriving DecidableEq, Repr

inductive Patience where
  | now | wait
deriving DecidableEq, Repr

inductive Children where
  | none
  | running
  | ended (child : Pid) (fate : Fate)
  | interrupted
deriving DecidableEq, Repr

/-- What a process can ask for. Descriptors are numbers, paths are octets. -/
inductive Request where
  | read (fd most : Nat)
  | write (fd : Nat) (bytes : Bytes)
  | open (path : Octets) (mode : OpenMode)
  | close (fd : Nat)
  | duplicate (fd least : Nat)
  | replace (fd target : Nat)
  | pipe
  | putBack (fd : Nat) (bytes : Bytes)
  | statusOf (fd : Nat)
  | status (path : Octets) (follow : Bool)
  | list (path : Octets)
  | removeFolder (path : Octets)
  | enter (path : Octets)
  | folder
  | mask (new : Option Nat)
  | limit (resource : Char) (new : Option Limit)
  | awaitChild (patience : Patience)
  | sleep (moments : Nat)
  | kill (target : Int) (signal : Nat)
  | handle (signal : Nat) (disposition : Disposition)
  | caught
  | identity
  | clock
  | exec (path : Octets) (argv : List Octets) (environment : List (Octets × Octets))

abbrev Request.Answer : Request → Type
  | .read _ _ => Except SystemError Bytes
  | .write _ _ => Option SystemError
  | .open _ _ => Except SystemError Nat
  | .close _ => Unit
  | .duplicate _ _ => Option Nat
  | .replace _ _ => Bool
  | .pipe => Nat × Nat
  | .putBack _ _ => Bool
  | .statusOf _ => Option FileStatus
  | .status _ _ => Except SystemError FileStatus
  | .list _ => Except SystemError (List Octets)
  | .removeFolder _ => Option SystemError
  | .enter _ => Option SystemError
  | .folder => Except SystemError Octets
  | .mask _ => Nat
  | .limit _ _ => Except SystemError Limit
  | .awaitChild _ => Children
  | .sleep _ => Unit
  | .kill _ _ => Bool
  | .handle _ _ => Disposition
  | .caught => List Nat
  | .identity => Pid × Pid
  | .clock => Nat
  | .exec _ _ _ => SystemError

inductive Code where
  | exit (status : Nat)
  | ask (r : Request) (k : r.Answer → Code)
  /-- Splits off a child, and goes on with its number. -/
  | fork (child : Code) (k : Pid → Code)

instance : Inhabited Code := ⟨.exit 0⟩

/-- A program that gives a value, or leaves the process before it does. -/
def Prog (α : Type) : Type := (α → Code) → Code

namespace Prog
variable {α β σ : Type}

instance : Monad Prog where
  pure a := fun k => k a
  bind p f := fun k => p fun a => f a k

instance : Inhabited (Prog α) := ⟨fun _ => .exit 0⟩

def ask (r : Request) : Prog r.Answer := fun k => .ask r k

def exit (status : Nat) : Prog α := fun _ => .exit (status % 256)

def code (p : Prog Nat) : Code := p fun status => .exit (status % 256)

def fork (child : Prog Nat) : Prog Pid := fun k => .fork child.code k

def lostStatus : Nat := 255

def iterateWithin (step : σ → Prog (σ ⊕ α)) : Nat → σ → Prog α
  | 0, _ => exit lostStatus
  | times + 1, s => do
    match ← step s with
    | .inl s => iterateWithin step times s
    | .inr a => pure a

def manySteps : Nat := 1000000000000

def iterate (step : σ → Prog (σ ⊕ α)) (s : σ) : Prog α := iterateWithin step manySteps s

/-! ## Descriptors -/

def input : Nat := 0

def output : Nat := 1

def errors : Nat := 2

def complain (text : Octets) : Prog Unit := do
  let _ ← ask (.write errors (Octets.bytes text))

def pieceSize : Nat := 65536

def readAll (fd : Nat) : Prog (Bytes × Option SystemError) :=
  iterate (fun (sofar : Bytes) => do
    match ← ask (.read fd pieceSize) with
    | .ok [] => return .inr (sofar, none)
    | .ok bytes => return .inl (sofar ++ bytes)
    | .error cause => return .inr (sofar, some cause)) []

/-! ## Output that waits -/

structure Waiting where
  bytes : Bytes := []
  spoilt : Bool := false

def Waiting.add (o : Waiting) (bytes : Bytes) : Waiting := { o with bytes := o.bytes ++ bytes }

def flush (o : Waiting) : Prog Waiting := do
  if o.bytes.isEmpty then return o
  return { spoilt := o.spoilt || (← ask (.write output o.bytes)).isSome }

/-- A program ends after it has written all of its output: if that cannot be written, it says so and
ends with another status. -/
def finish (name : Octets) (o : Waiting) (status : Nat) (faultStatus : Nat := 1) : Prog Nat := do
  let cause ← if o.bytes.isEmpty then pure none else ask (.write output o.bytes)
  match cause, o.spoilt with
  | none, false => return status
  | some cause, _ => do
    complain (name ++ ": write error: " ++ cause.text ++ "\n")
    return faultStatus
  | none, true => do
    let isOpen := (← ask (.statusOf output)).isSome
    complain (name ++ ": write error"
      ++ (if isOpen then "" else ": " ++ SystemError.text .badDescriptor) ++ "\n")
    return faultStatus

end Prog
end PipeShell.Machine
