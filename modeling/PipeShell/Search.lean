import PipeShell.Files.Tree
import PipeShell.Notice

/-!
# Searching for files

A search path lists folders between colons. The file that is found is the entry of the name in the
first folder that has a fitting one. With the execute flag an entry fits if it is no folder and has
an execute bit itself; a link is judged by its own bits. Folders that do not exist are passed over
in silence, others that cannot be read with a notice, and so is an entry that cannot be judged.
-/

namespace PipeShell.Search

def folders (searchPath : String) : List String :=
  (searchPath.splitToList (· == ':')).filter (· ≠ "")

def isExecutable (metadata : FileTree.Metadata) : Bool :=
  !metadata.isFolder && FileTree.hasBit metadata.mode FileTree.executeBits

def findAmong (folder name : String) (exec : Bool) :
    List FileTree.Listed → Option String × List Notice
  | [] => (none, [])
  | entry :: rest =>
    if entry.name ≠ name then findAmong folder name exec rest
    else if exec then
      match entry.metadata with
      | .ok metadata =>
        if isExecutable metadata then (some (Path.join folder entry.name), [])
        else findAmong folder name exec rest
      | .error cause =>
        let (found, notices) := findAmong folder name exec rest
        (found, .metadataUnreadable cause :: notices)
    else (some (Path.join folder entry.name), [])

def findIn (list : String → Except SystemError (List FileTree.Listed)) (name : String)
    (exec : Bool) : List String → Option String × List Notice
  | [] => (none, [])
  | folder :: rest =>
    match list folder with
    | .ok entries =>
      match findAmong folder name exec entries with
      | (some path, notices) => (some path, notices)
      | (none, notices) =>
        let (found, more) := findIn list name exec rest
        (found, notices ++ more)
    | .error .noEntry => findIn list name exec rest
    | .error cause =>
      let (found, notices) := findIn list name exec rest
      (found, .directoryUnreadable folder cause :: notices)

/-- Searches the folders of a search path, as they are seen from a folder of the tree. -/
def find (files : FileTree) (here : Nat) (name searchPath : String) (exec : Bool) :
    Option String × List Notice :=
  findIn (files.list here) name exec (folders searchPath)

end PipeShell.Search
