import PipeShell.Notice
import PipeShell.Text.Blank
import PipeShell.Text.Lines
import PipeShell.World

/-!
# History

The lines that were typed, the oldest first and a hundred at most. A line that is empty, begins with
white space or repeats the one before it is not kept.

In its file the history stands under a line that names the format, an entry to a line; a backslash is
written twice and a line feed as a backslash and `n`. A file that does not name the format holds its
entries as they are.
-/

namespace PipeShell
open Text (isBlank)

structure History where
  entries : List String := []
  unsaved : Bool := false
deriving DecidableEq, Repr, Inhabited

namespace History

def capacity : Nat := 100

def ignores (h : History) (line : String) : Bool :=
  match line.toList with
  | [] => true
  | c :: _ => isBlank c || h.entries.getLast? == some line

def add (h : History) (line : String) : History :=
  if h.ignores line then h
  else ⟨(h.entries ++ [line]).drop (h.entries.length + 1 - capacity), true⟩

/-! ## The written form -/

def header : String := "#V2"

def encode : List Char → List Char
  | [] => []
  | '\\' :: cs => '\\' :: '\\' :: encode cs
  | '\n' :: cs => '\\' :: 'n' :: encode cs
  | c :: cs => c :: encode cs

def decode : List Char → Option (List Char)
  | [] => some []
  | '\\' :: '\\' :: cs => (decode cs).map ('\\' :: ·)
  | '\\' :: 'n' :: cs => (decode cs).map ('\n' :: ·)
  | '\\' :: _ => none
  | c :: cs => (decode cs).map (c :: ·)

theorem decode_encode (cs : List Char) : decode (encode cs) = some cs := by
  fun_induction encode cs with
  | case1 => rfl
  | case2 cs ih => simp [decode, ih]
  | case3 cs ih => simp [decode, ih]
  | case4 c cs h h' ih =>
    rw [decode, ih]
    · rfl
    all_goals
      intros
      simp_all

def text (h : History) : String :=
  String.join ((header :: h.entries.map fun e => String.ofList (encode e.toList)).map (· ++ "\n"))

def addWritten (encoded : Bool) (line : String) (h : History) : History × List Notice :=
  if line = "" then (h, [])
  else if encoded then
    match decode line.toList with
    | some cs => (h.add (String.ofList cs), [])
    | none => (h.add line, [.historyGarbled line])
  else (h.add line, [])

structure Loaded where
  history : History
  notices : List Notice := []
  fault : Option SystemError := none

def addLines (encoded : Bool) : List (Option String) → History → Loaded
  | [], h => { history := { h with unsaved := false } }
  | none :: _, h => { history := h, fault := some .notText }
  | some line :: rest, h =>
    let (h, notices) := h.addWritten encoded line
    let loaded := addLines encoded rest h
    { loaded with notices := notices ++ loaded.notices }

def addFile (lines : List (Option String)) (h : History) : Loaded :=
  match lines with
  | [] => addLines false [] h
  | none :: _ => { history := h, fault := some .notText }
  | some line :: rest =>
    if line = header then addLines true rest h else addLines false rest (h.add line)

/-! ## The file -/

def load (path : String) (w : World) (h : History) : Loaded :=
  match w.contentOf path with
  | .ok bytes => h.addFile (Text.lines bytes)
  | .error cause => { history := h, fault := some cause }

def save (path : String) (w : World) (h : History) : Except SystemError World :=
  if h.unsaved then w.overwrite path (Text.bytes h.text) else .ok w

end History
end PipeShell
