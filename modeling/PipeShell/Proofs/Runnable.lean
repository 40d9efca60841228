import Mathlib.Data.List.Basic
import PipeShell.Proofs.Searching

/-!
# Whether what is found can be run

A search judges an entry by what the system tells of the entry itself, but a program is started by its
path, and links on the way are followed. The two agree where the entry is no link
(`Search.offers_of_runs`, `Search.runs_of_offers`). So what is found can be run, unless it is a link or
its path is too long to be followed (`Search.find_runnable`). A link that leads nowhere is found too,
and hides what stands behind it (`Search.find_misled`).
-/

namespace PipeShell

/-! ## Paths -/

namespace Path
variable {folder name : String}

theorem names_append (before after : String) :
    names (before ++ "/" ++ after) = names before ++ names after := by
  have parts := Text.splitToList_append (p := (· == '/')) (c := '/') rfl before after
  rw [names, names, names, ← List.filter_append, ← parts]
  rfl

theorem names_of_notMem (nonempty : name ≠ "") (whole : '/' ∉ name.toList) : names name = [name] := by
  have single : List.splitOnP (· == '/') name.toList = [name.toList] :=
    List.splitOn_eq_singleton whole
  simp [names, String.splitToList_of_valid, single, nonempty]

theorem isAbsolute_iff : isAbsolute name ↔ name.toList.head? = some '/' := by
  rw [isAbsolute, String.startsWith_string_iff]
  exact List.singleton_prefix_iff_head?_eq_some

theorem endsInSlash_iff : endsInSlash name ↔ name.toList.getLast? = some '/' := by
  have same : endsInSlash name = name.toSlice.endsWith "/" := rfl
  rw [same, String.Slice.endsWith_string_iff, String.copy_toSlice]
  exact List.singleton_suffix_iff_getLast?_eq_some

theorem join_eq (nonempty : folder ≠ "") (whole : '/' ∉ name.toList) :
    ∃ body, join folder name = body ++ "/" ++ name ∧ names body = names folder ∧
      isAbsolute (body ++ "/") = isAbsolute folder := by
  have relative : isAbsolute name = false := by
    rw [← Bool.not_eq_true, isAbsolute_iff]
    exact fun first => whole (List.mem_of_head? first)
  by_cases slash : endsInSlash folder
  · obtain ⟨init, text⟩ := List.getLast?_eq_some_iff.1 (endsInSlash_iff.1 slash)
    obtain ⟨body, rfl⟩ : ∃ body, folder = body ++ "/" :=
      ⟨String.ofList init, by rw [← String.toList_inj, text, String.toList_append]; simp⟩
    have names_eq : names (body ++ "/" ++ "") = names body := by
      rw [names_append]
      simp [names, String.splitToList_of_valid]
    rw [String.append_empty] at names_eq
    exact ⟨body, by simp [join, relative, slash], names_eq.symm, rfl⟩
  · refine ⟨folder, by simp [join, relative, nonempty, slash], rfl, ?_⟩
    have first : folder.toList ≠ [] := by simpa using nonempty
    rw [Bool.eq_iff_iff, isAbsolute_iff, isAbsolute_iff, String.toList_append,
      List.head?_append_of_ne_nil _ first]

theorem steps_join (nonempty : folder ≠ "") (named : name ≠ "") (whole : '/' ∉ name.toList) :
    steps (join folder name) = names folder ++ [name] := by
  obtain ⟨body, text, names_eq, -⟩ := join_eq nonempty whole
  have bare : ¬endsInSlash (join folder name) := by
    have letters : name.toList ≠ [] := by simpa using named
    rw [endsInSlash_iff, text, String.toList_append, List.getLast?_append_of_ne_nil _ letters]
    exact fun last => whole (List.mem_of_getLast? last)
  rw [steps, if_neg bare, List.append_nil, text, names_append, names_eq,
    names_of_notMem named whole]

theorem isAbsolute_join (nonempty : folder ≠ "") (whole : '/' ∉ name.toList) :
    isAbsolute (join folder name) = isAbsolute folder := by
  obtain ⟨body, text, -, absolute⟩ := join_eq nonempty whole
  have first : (body ++ "/").toList ≠ [] := by simp
  rw [← absolute, text, Bool.eq_iff_iff, isAbsolute_iff, isAbsolute_iff,
    String.toList_append (s := body ++ "/"), List.head?_append_of_ne_nil _ first]

end Path

/-! ## Walks to an entry -/

namespace FileTree
variable {t : FileTree} {links here id node left mode parent : Nat} {entries : List (String × Nat)}
  {folder name path : String} {steps rest : List String}

structure Named (name : String) : Prop extends Plain name where
  whole : '/' ∉ name.toList
  clean : '\x00' ∉ name.toList

/-- Every entry of a folder has a name, and is what is found under this name. -/
structure Proper (t : FileTree) : Prop where
  named : ∀ {id mode parent entries}, t.node id = .folder mode parent entries →
    ∀ entry ∈ entries, Named entry.1
  found : ∀ {id mode parent entries}, t.node id = .folder mode parent entries →
    ∀ {name node}, (name, node) ∈ entries → entries.lookup name = some node

/-- The path leads, through links as well, to something that is no folder and has an execute bit. -/
def Runs (t : FileTree) (here : Nat) (path : String) : Prop :=
  ∃ node, t.resolve here path = .ok node ∧ ¬t.isFolder node ∧ hasBit (t.mode node) executeBits

theorem reaches_names (folder : t.node node = .folder mode parent entries) :
    t.Reaches links here (Path.steps path) node left ↔
      t.Reaches links here (Path.names path) node left := by
  unfold Path.steps
  by_cases slash : Path.endsInSlash path
  · rw [if_pos slash]
    constructor
    · intro reaches
      obtain ⟨middle, more, first, last⟩ := reaches.split
      have stays := walk_eq_ok.2 last
      rw [walk] at stays
      split at stays
      · obtain ⟨rfl, rfl⟩ : middle = node ∧ more = left := by simpa [walk] using stays
        exact first
      · cases stays
    · exact fun reaches => reaches.append (.idle folder .arrived)
  · rw [if_neg slash, List.append_nil]

theorem Reaches.entry (reaches : t.Reaches links here [name] node left)
    (folder : t.node here = .folder mode parent entries) (plain : Plain name) :
    hasBit mode executeBit ∧ ∃ id, entries.lookup name = some id ∧
      ((∃ target, t.node id = .link target) ∨ id = node) := by
  generalize last : [name] = steps at reaches
  cases reaches with
  | arrived => cases last
  | idle => exact absurd (List.cons.inj last).1 plain.nonempty
  | stay => exact absurd (List.cons.inj last).1 plain.notHere
  | up => exact absurd (List.cons.inj last).1 plain.notUp
  | link folder' opens _ entry leads =>
    obtain ⟨rfl, rfl⟩ := List.cons.inj last
    obtain ⟨rfl, rfl, rfl⟩ := FileNode.folder.inj (folder.symm.trans folder')
    exact ⟨opens, _, entry, .inl ⟨_, leads⟩⟩
  | step folder' opens _ entry _ arrived =>
    obtain ⟨rfl, rfl⟩ := List.cons.inj last
    obtain ⟨rfl, rfl, rfl⟩ := FileNode.folder.inj (folder.symm.trans folder')
    cases arrived
    exact ⟨opens, _, entry, .inr rfl⟩

theorem checkPath_eq_ok :
    checkPath path = .ok () ↔
      '\x00' ∉ path.toList ∧ path ≠ "" ∧ path.utf8ByteSize ≤ longestPath := by
  unfold checkPath
  split
  · simp_all
  · split
    · simp_all
    · split <;> simp_all

theorem reaches_below (resolved : t.resolve here folder = .ok id)
    (node_eq : t.node id = .folder mode parent entries) (named : Named name) :
    Path.steps (Path.join folder name) = Path.names folder ++ [name] ∧
      ∃ left, t.Reaches mostLinks (startOf here (Path.join folder name)) (Path.names folder) id
        left := by
  obtain ⟨checked, left, reaches⟩ := resolve_eq_ok.1 resolved
  have nonempty : folder ≠ "" := (checkPath_eq_ok.1 checked).2.1
  refine ⟨Path.steps_join nonempty named.nonempty named.whole, left, ?_⟩
  rw [startOf, Path.isAbsolute_join nonempty named.whole]
  exact (reaches_names node_eq).1 reaches

theorem checkPath_join (checked : checkPath folder = .ok ()) (named : Named name)
    (short : (Path.join folder name).utf8ByteSize ≤ longestPath) :
    checkPath (Path.join folder name) = .ok () := by
  obtain ⟨clean, nonempty, -⟩ := checkPath_eq_ok.1 checked
  refine checkPath_eq_ok.2 ⟨?_, ?_, short⟩
  · have slash : '\x00' ∉ "/".toList := by decide
    unfold Path.join
    split
    · exact named.clean
    · split <;> simp [clean, named.clean]
  · obtain ⟨body, text, -, -⟩ := Path.join_eq nonempty named.whole
    rw [text]
    simp

end FileTree

/-! ## What is found -/

namespace Search
variable {files : FileTree} {here : Nat} {name folder path : String}

def Linked (files : FileTree) (here : Nat) (name folder : String) : Prop :=
  ∃ mode node target, Holds files here name folder mode node ∧ files.node node = .link target

theorem offers_of_runs {mode node : Nat} (proper : files.Proper)
    (held : Holds files here name folder mode node)
    (runs : files.Runs here (Path.join folder name)) : Offers files here name true folder := by
  obtain ⟨id, parent, entries, resolved, node_eq, readable, member⟩ := held
  obtain ⟨final, found, notFolder, executable⟩ := runs
  have named : FileTree.Named name := proper.named node_eq _ member
  obtain ⟨steps, left, below⟩ := FileTree.reaches_below resolved node_eq named
  obtain ⟨-, left', reaches⟩ := FileTree.resolve_eq_ok.1 found
  rw [steps] at reaches
  obtain ⟨middle, more, first, last⟩ := reaches.split
  obtain ⟨rfl, rfl⟩ := first.unique below
  obtain ⟨opens, entry, looked, ends⟩ := last.entry node_eq named.toPlain
  obtain rfl : entry = node := by
    rw [proper.found node_eq member] at looked
    exact (Option.some.inj looked).symm
  refine ⟨mode, entry, ⟨middle, parent, entries, resolved, node_eq, readable, member⟩, fun _ => ?_⟩
  rcases ends with ⟨target, link⟩ | rfl
  · -- a link is no folder, and all its bits are set
    refine ⟨opens, by simp [FileTree.isFolder, link], ?_⟩
    simp [FileTree.mode, link, FileTree.hasBit, FileTree.executeBits]
  · exact ⟨opens, notFolder, executable⟩

theorem runs_of_offers (proper : files.Proper) (offered : Offers files here name true folder) :
    files.Runs here (Path.join folder name) ∨ Linked files here name folder ∨
      FileTree.longestPath < (Path.join folder name).utf8ByteSize := by
  obtain ⟨mode, node, held, fit⟩ := offered
  have ⟨id, parent, entries, resolved, node_eq, readable, member⟩ := held
  obtain ⟨opens, notFolder, executable⟩ := fit rfl
  have named : FileTree.Named name := proper.named node_eq _ member
  by_cases link : ∃ target, files.node node = .link target
  · obtain ⟨target, link⟩ := link
    exact .inr (.inl ⟨mode, node, target, held, link⟩)
  by_cases long : FileTree.longestPath < (Path.join folder name).utf8ByteSize
  · exact .inr (.inr long)
  have checked : FileTree.checkPath (Path.join folder name) = .ok () :=
    FileTree.checkPath_join (FileTree.resolve_eq_ok.1 resolved).1 named (Nat.not_lt.1 long)
  obtain ⟨steps, left, below⟩ := FileTree.reaches_below resolved node_eq named
  have last : files.Reaches left id [name] node left :=
    .step node_eq opens named.toPlain (proper.found node_eq member)
      (fun target leads => link ⟨target, leads⟩) .arrived
  have whole := below.append last
  rw [← steps] at whole
  exact .inl ⟨node, FileTree.resolve_of_reaches checked whole, notFolder, executable⟩

/-- What is found can be run, and so can what is found in place of something that can be run, unless it
is a link or its path is too long. -/
theorem find_runnable (proper : files.Proper) (here : Nat) (name path : String) :
    (∀ found, (find files here name path true).1 = some found →
      ∃ folder ∈ path.splitToList (· == ':'), found = Path.join folder name ∧
        (files.Runs here found ∨ Linked files here name folder ∨
          FileTree.longestPath < found.utf8ByteSize)) ∧
    (∀ before folder after mode node, path.splitToList (· == ':') = before ++ folder :: after →
      Holds files here name folder mode node → files.Runs here (Path.join folder name) →
      ∃ other ∈ before ++ [folder],
        (find files here name path true).1 = some (Path.join other name) ∧
        (files.Runs here (Path.join other name) ∨ Linked files here name other ∨
          FileTree.longestPath < (Path.join other name).utf8ByteSize)) := by
  constructor
  · intro found first
    obtain ⟨before, folder, after, parts, ⟨-, offered⟩, -, rfl⟩ := find_eq_some.1 first
    refine ⟨folder, ?_, rfl, runs_of_offers proper offered⟩
    rw [parts]
    exact List.mem_append_right before List.mem_cons_self
  · intro before folder after mode node parts held runs
    have offered : Offers files here name true folder := offers_of_runs proper held runs
    obtain ⟨id, -, -, resolved, -⟩ := held
    have nonempty : folder ≠ "" :=
      (FileTree.checkPath_eq_ok.1 (FileTree.resolve_eq_ok.1 resolved).1).2.1
    obtain ⟨other, member, offered, found⟩ := find_of_offers parts nonempty offered
    exact ⟨other, member, found, runs_of_offers proper offered⟩

def hollow : FileTree where
  nodes := #[.folder 0o755 0 [("a", 1), ("b", 2)], .folder 0o755 0 [("x", 3)],
    .folder 0o755 0 [("x", 4)], .link "c", .file 0o755 []]

theorem named_hollow {name : String} (member : name ∈ ["a", "b", "x"]) : FileTree.Named name := by
  simp only [List.mem_cons, List.not_mem_nil, or_false] at member
  obtain rfl | rfl | rfl := member <;>
    exact ⟨⟨by decide, by decide, by decide, by decide⟩, by decide, by decide⟩

theorem proper_hollow : hollow.Proper := by
  have inside {id mode parent : Nat} {entries : List (String × Nat)}
      (node : hollow.node id = .folder mode parent entries) :
      entries = [("a", 1), ("b", 2)] ∨ entries = [("x", 3)] ∨ entries = [("x", 4)] := by
    match id with
    | 0 => cases node; simp
    | 1 => cases node; simp
    | 2 => cases node; simp
    | 3 => cases node
    | 4 => cases node
    | _ + 5 => cases node
  constructor
  · intro id mode parent entries node entry member
    refine named_hollow (?_ : entry.1 ∈ ["a", "b", "x"])
    obtain rfl | rfl | rfl := inside node <;> revert entry <;> decide
  · intro id mode parent entries node name found member
    obtain rfl | rfl | rfl := inside node
    · obtain ⟨rfl, rfl⟩ | ⟨rfl, rfl⟩ : name = "a" ∧ found = 1 ∨ name = "b" ∧ found = 2 := by
        simpa using member
      · rfl
      · rfl
    · obtain ⟨rfl, rfl⟩ : name = "x" ∧ found = 3 := by simpa using member
      rfl
    · obtain ⟨rfl, rfl⟩ : name = "x" ∧ found = 4 := by simpa using member
      rfl

theorem parts_hollow : "a:b".splitToList (· == ':') = ["a", "b"] := by
  rw [String.splitToList_of_valid]
  rfl

theorem find_hollow : (find hollow 0 "x" "a:b" true).1 = some "a/x" := by
  have steps : Path.steps "a" = ["a"] := by decide +kernel
  have resolved : hollow.resolve 0 "a" = .ok 1 :=
    FileTree.resolve_of_entry (by decide +kernel) (by decide +kernel) steps rfl rfl
      (named_hollow (by simp)).toPlain rfl nofun
  have offered : Offers hollow 0 "x" true "a" :=
    ⟨0o755, 3, ⟨1, 0, [("x", 3)], resolved, rfl, by decide, by decide⟩, fun _ => by decide⟩
  exact find_eq_some.2 ⟨[], "a", ["b"], parts_hollow, ⟨by decide, offered⟩, nofun, by decide +kernel⟩

theorem holds_hollow : Holds hollow 0 "x" "b" 0o755 4 := by
  have steps : Path.steps "b" = ["b"] := by decide +kernel
  have resolved : hollow.resolve 0 "b" = .ok 2 :=
    FileTree.resolve_of_entry (by decide +kernel) (by decide +kernel) steps rfl rfl
      (named_hollow (by simp)).toPlain rfl nofun
  exact ⟨2, 0, [("x", 4)], resolved, rfl, by decide, by decide⟩

theorem runs_hollow : hollow.Runs 0 (Path.join "b" "x") := by
  have joined : Path.join "b" "x" = "b/x" := by decide +kernel
  have starts : FileTree.startOf 0 "b/x" = 0 := by decide +kernel
  have steps : Path.steps "b/x" = ["b", "x"] := by decide +kernel
  have reaches : hollow.Reaches FileTree.mostLinks 0 ["b", "x"] 4 FileTree.mostLinks :=
    .step rfl rfl (named_hollow (by simp)).toPlain rfl nofun
      (.step rfl rfl (named_hollow (by simp)).toPlain rfl nofun .arrived)
  rw [← steps] at reaches
  rw [joined]
  exact ⟨4, FileTree.resolve_of_reaches (by decide +kernel) (starts.symm ▸ reaches), by decide,
    by decide⟩

theorem gone_hollow (node left : Nat) :
    ¬hollow.Reaches FileTree.mostLinks 0 ["a", "x"] node left := by
  have relative : Path.isAbsolute "c" = false := by decide +kernel
  have target : Path.steps "c" = ["c"] := by decide +kernel
  have gone : hollow.walk true FileTree.mostLinks 0 ["a", "x"] = .ok (.free 1 "c", 39) := by
    rw [FileTree.walk]
    change hollow.walk true 40 1 ["x"] = _
    rw [FileTree.walk]
    change hollow.walk true 39 (if Path.isAbsolute "c" then FileTree.root else 1)
      (Path.steps "c" ++ []) = _
    rw [relative, target]
    change hollow.walk true 39 1 ["c"] = _
    rw [FileTree.walk]
    rfl
  rw [← FileTree.walk_eq_ok, gone]
  intro reached
  cases reached

theorem find_runnable_hollow :
    hollow.Proper ∧ (find hollow 0 "x" "a:b" true).1 = some "a/x" ∧
      Holds hollow 0 "x" "b" 0o755 4 ∧ hollow.Runs 0 (Path.join "b" "x") ∧
      (∃ folder ∈ ["a", "b"], "a/x" = Path.join folder "x" ∧
        (hollow.Runs 0 "a/x" ∨ Linked hollow 0 "x" folder ∨
          FileTree.longestPath < "a/x".utf8ByteSize)) ∧
      ∃ other ∈ ["a", "b"],
        (find hollow 0 "x" "a:b" true).1 = some (Path.join other "x") ∧
        (hollow.Runs 0 (Path.join other "x") ∨ Linked hollow 0 "x" other ∨
          FileTree.longestPath < (Path.join other "x").utf8ByteSize) := by
  obtain ⟨sound, unhidden⟩ := find_runnable proper_hollow 0 "x" "a:b"
  rw [parts_hollow] at sound unhidden
  exact ⟨proper_hollow, find_hollow, holds_hollow, runs_hollow, sound _ find_hollow,
    unhidden ["a"] "b" [] 0o755 4 rfl holds_hollow runs_hollow⟩

/-- What is found may be nothing that can be run, although there is something behind it that can. -/
theorem find_misled :
    (¬∀ (files : FileTree) (here : Nat) (name path found : String), files.Proper →
      (find files here name path true).1 = some found → files.Runs here found) ∧
    ¬∀ (files : FileTree) (here : Nat) (name path : String) (before after : List String)
        (folder : String) (mode node : Nat), files.Proper →
      path.splitToList (· == ':') = before ++ folder :: after →
      Holds files here name folder mode node → files.Runs here (Path.join folder name) →
      ∃ found, (find files here name path true).1 = some found ∧ files.Runs here found := by
  have starts : FileTree.startOf 0 "a/x" = 0 := by decide +kernel
  have steps : Path.steps "a/x" = ["a", "x"] := by decide +kernel
  have misses : ¬hollow.Runs 0 "a/x" := by
    rintro ⟨node, resolved, -⟩
    obtain ⟨-, left, reaches⟩ := FileTree.resolve_eq_ok.1 resolved
    rw [starts, steps] at reaches
    exact gone_hollow node left reaches
  constructor
  · exact fun sound => misses (sound hollow 0 "x" "a:b" "a/x" proper_hollow find_hollow)
  · intro unhidden
    obtain ⟨found, first, runs⟩ := unhidden hollow 0 "x" "a:b" ["a"] [] "b" 0o755 4 proper_hollow
      parts_hollow holds_hollow runs_hollow
    rw [find_hollow] at first
    cases first
    exact misses runs

end Search
end PipeShell
