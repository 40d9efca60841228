import Mathlib.Data.String.Basic
import PipeShell.Proofs.Walks
import PipeShell.Search

/-!
# What a search finds

Whether a folder has what is searched for is a matter of that folder alone (`Search.Offers`). A search
gives the path of the name in the first folder that has it (`Search.findIn_eq`), however the folders
list their entries. So a search along two search paths, one behind the other, is a search along the
first and then, if nothing was found, along the second (`Search.find_law`).
-/

namespace PipeShell

theorem Text.splitToList_append {p : Char → Bool} {c : Char} (splits : p c) (before after : String) :
    (before ++ String.singleton c ++ after).splitToList p =
      before.splitToList p ++ after.splitToList p := by
  simp [String.splitToList_of_valid, List.splitOnP_append_cons _ _ splits]

/-! ## Listings -/

namespace FileTree
variable {t : FileTree} {here id : Nat} {path : String} {entries : List (String × Nat)}

theorem resolveFolder_eq_ok :
    t.resolveFolder here path = .ok id ↔ t.resolve here path = .ok id ∧ t.isFolder id := by
  unfold resolveFolder
  rw [bind_eq_ok]
  constructor
  · rintro ⟨found, resolved, same⟩
    split at same
    · rename_i folder
      obtain rfl := Except.ok.inj same
      exact ⟨resolved, folder⟩
    · cases same
  · rintro ⟨resolved, folder⟩
    exact ⟨id, resolved, if_pos folder⟩

theorem entriesIn_eq_ok :
    t.entriesIn id = .ok entries ↔
      ∃ mode parent, t.node id = .folder mode parent entries ∧ hasBit mode readBit := by
  unfold entriesIn demand allows mode
  cases node : t.node id with
  | folder mode parent entries' =>
    by_cases readable : hasBit mode readBit
    · simp [readable, bind, Except.bind]
    · simp [readable, bind, Except.bind]
  | _ =>
    simp only [bind, Except.bind]
    split <;> simp

theorem list_eq_ok {listing : List Listed} :
    t.list here path = .ok listing ↔
      ∃ id mode parent entries, t.resolve here path = .ok id ∧
        t.node id = .folder mode parent entries ∧ hasBit mode readBit ∧
        listing = entries.map (t.listed id) := by
  simp only [list, bind_eq_ok, resolveFolder_eq_ok, entriesIn_eq_ok, Except.ok.injEq]
  constructor
  · rintro ⟨id, ⟨resolved, -⟩, entries, ⟨mode, parent, node, readable⟩, rfl⟩
    exact ⟨id, mode, parent, entries, resolved, node, readable, rfl⟩
  · rintro ⟨id, mode, parent, entries, resolved, node, readable, rfl⟩
    have folder : t.isFolder id := by simp [isFolder, node]
    exact ⟨id, ⟨resolved, folder⟩, entries, ⟨mode, parent, node, readable⟩, rfl⟩

end FileTree

/-! ## One folder -/

namespace Search
variable {folder name : String} {exec : Bool} {entries : List FileTree.Listed}

def fits (exec : Bool) (entry : FileTree.Listed) : Bool :=
  !exec || match entry.metadata with
    | .ok metadata => isExecutable metadata
    | .error _ => false

def has (name : String) (exec : Bool) (entries : List FileTree.Listed) : Bool :=
  entries.any fun entry => entry.name == name && fits exec entry

theorem findAmong_eq (folder name : String) (exec : Bool) (entries : List FileTree.Listed) :
    (findAmong folder name exec entries).1 =
      if has name exec entries then some (Path.join folder name) else none := by
  induction entries with
  | nil => rfl
  | cons entry rest ih =>
    have more : has name exec (entry :: rest) =
        (entry.name == name && fits exec entry || has name exec rest) := List.any_cons
    rw [more, findAmong]
    by_cases named : entry.name = name
    · subst named
      cases exec with
      | false => simp [fits]
      | true =>
        cases told : entry.metadata with
        | error cause => simpa [fits, told] using ih
        | ok metadata =>
          by_cases runs : isExecutable metadata
          · simp [fits, told, runs]
          · simpa [fits, told, runs] using ih
    · simpa [named] using ih

def offers (list : String → Except SystemError (List FileTree.Listed)) (name : String) (exec : Bool)
    (folder : String) : Bool :=
  match list folder with
  | .ok entries => has name exec entries
  | .error _ => false

theorem findIn_eq (list : String → Except SystemError (List FileTree.Listed)) (name : String)
    (exec : Bool) (folders : List String) :
    (findIn list name exec folders).1 =
      (folders.find? (offers list name exec)).map (Path.join · name) := by
  induction folders with
  | nil => rfl
  | cons folder rest ih =>
    rw [findIn, List.find?_cons]
    cases listed : list folder with
    | error cause =>
      have passed : offers list name exec folder = false := by simp [offers, listed]
      rw [passed, ← ih]
      cases cause <;> rfl
    | ok entries =>
      have among := findAmong_eq folder name exec entries
      have offered : offers list name exec folder = has name exec entries := by
        simp [offers, listed]
      rw [offered]
      dsimp only
      generalize findAmong folder name exec entries = result at among ⊢
      obtain ⟨found, notices⟩ := result
      cases here : has name exec entries with
      | true =>
        obtain rfl : found = some (Path.join folder name) := by simpa [here] using among
        rfl
      | false =>
        obtain rfl : found = none := by simpa [here] using among
        exact ih

example :
    let files : FileTree :=
      { nodes := #[.folder 0o755 0 [("f", 1), ("a", 2), ("b", 3)], .file 0o644 [],
          .folder 0o755 0 [("x", 4)], .folder 0o755 0 [("x", 5)], .folder 0o755 2 [], .file 0o100 []] }
    findIn (files.list 0) "x" true ["f", "a", "b"] =
      (some "b/x", [.directoryUnreadable "f" .notDirectory]) := by
  cbv

/-! ## Search paths -/

def Holds (files : FileTree) (here : Nat) (name folder : String) (mode node : Nat) : Prop :=
  ∃ id parent entries, files.resolve here folder = .ok id ∧
    files.node id = .folder mode parent entries ∧ FileTree.hasBit mode FileTree.readBit ∧
    (name, node) ∈ entries

/-- The folder can be read and has an entry of the name, and with the execute flag one that is no folder
and has an execute bit itself. The system tells so much of an entry only where the folder can be walked
through. -/
def Offers (files : FileTree) (here : Nat) (name : String) (exec : Bool) (folder : String) : Prop :=
  ∃ mode node, Holds files here name folder mode node ∧
    (exec → FileTree.hasBit mode FileTree.executeBit ∧ ¬files.isFolder node ∧
      FileTree.hasBit (files.mode node) FileTree.executeBits)

theorem fits_listed {files : FileTree} {id mode parent node : Nat} {entries : List (String × Nat)}
    (folder : files.node id = .folder mode parent entries) :
    fits exec (files.listed id (name, node)) ↔
      (exec → FileTree.hasBit mode FileTree.executeBit ∧ ¬files.isFolder node ∧
        FileTree.hasBit (files.mode node) FileTree.executeBits) := by
  have same : files.mode id = mode := by simp [FileTree.mode, folder]
  cases exec with
  | false => simp [fits]
  | true =>
    by_cases opens : FileTree.hasBit mode FileTree.executeBit
    · simp [fits, FileTree.listed, FileTree.demand, FileTree.allows, same, opens, Except.map,
        isExecutable]
    · simp [fits, FileTree.listed, FileTree.demand, FileTree.allows, same, opens, Except.map]

theorem offers_iff {files : FileTree} {here : Nat} :
    offers (files.list here) name exec folder ↔ Offers files here name exec folder := by
  unfold offers Offers
  constructor
  · intro offered
    cases listed : files.list here folder with
    | error cause => simp [listed] at offered
    | ok listing =>
      obtain ⟨id, mode, parent, entries, resolved, node, readable, rfl⟩ :=
        FileTree.list_eq_ok.1 listed
      simp only [listed, has, List.any_map, List.any_eq_true, Function.comp, Bool.and_eq_true,
        beq_iff_eq] at offered
      obtain ⟨⟨_, entry⟩, member, rfl, fit⟩ := offered
      exact ⟨mode, entry, ⟨id, parent, entries, resolved, node, readable, member⟩,
        (fits_listed node).1 fit⟩
  · rintro ⟨mode, entry, ⟨id, parent, entries, resolved, node, readable, member⟩, fit⟩
    have listed := FileTree.list_eq_ok.2 ⟨id, mode, parent, entries, resolved, node, readable, rfl⟩
    simp only [listed, has, List.any_map, List.any_eq_true, Function.comp, Bool.and_eq_true,
      beq_iff_eq]
    exact ⟨_, member, rfl, (fits_listed node).2 fit⟩

theorem find_eq (files : FileTree) (here : Nat) (name path : String) (exec : Bool) :
    (find files here name path exec).1 =
      ((folders path).find? (offers (files.list here) name exec)).map (Path.join · name) :=
  findIn_eq _ name exec _

theorem folders_append (path path' : String) :
    folders (path ++ ":" ++ path') = folders path ++ folders path' := by
  have parts := Text.splitToList_append (p := (· == ':')) (c := ':') rfl path path'
  rw [folders, folders, folders, ← List.filter_append, ← parts]
  rfl

section
variable {files : FileTree} {here : Nat}

theorem find_eq_some {path found : String} :
    (find files here name path exec).1 = some found ↔
      ∃ before folder after, path.splitToList (· == ':') = before ++ folder :: after ∧
        (folder ≠ "" ∧ Offers files here name exec folder) ∧
        (∀ part ∈ before, ¬(part ≠ "" ∧ Offers files here name exec part)) ∧
        found = Path.join folder name := by
  simp only [find_eq, folders, List.find?_filter, Option.map_eq_some_iff,
    List.find?_eq_some_iff_append, Bool.not_eq_true', decide_eq_true_eq,
    ← Bool.not_eq_true, offers_iff]
  constructor
  · rintro ⟨folder, ⟨offered, before, after, parts, first⟩, rfl⟩
    exact ⟨before, folder, after, parts, offered, first, rfl⟩
  · rintro ⟨before, folder, after, parts, offered, first, rfl⟩
    exact ⟨folder, ⟨offered, before, after, parts, first⟩, rfl⟩

theorem find_isSome {path : String} :
    (find files here name path exec).1.isSome ↔
      ∃ folder ∈ path.splitToList (· == ':'), folder ≠ "" ∧ Offers files here name exec folder := by
  rw [find_eq, folders, Option.isSome_map, List.find?_isSome]
  simp [offers_iff, and_assoc]

theorem find_of_offers {path : String} {before after : List String}
    (parts : path.splitToList (· == ':') = before ++ folder :: after) (nonempty : folder ≠ "")
    (offered : Offers files here name exec folder) :
    ∃ other ∈ before ++ [folder], Offers files here name exec other ∧
      (find files here name path exec).1 = .some (Path.join other name) := by
  have suits : folder ∈ (before ++ [folder]).filter (· ≠ "") := by simp [nonempty]
  obtain ⟨other, first⟩ := Option.isSome_iff_exists.1
    (List.find?_isSome.2 ⟨folder, suits, offers_iff.2 offered⟩)
  refine ⟨other, (List.mem_filter.1 (List.mem_of_find?_eq_some first)).1,
    offers_iff.1 (List.find?_some first), ?_⟩
  rw [find_eq, folders, parts, List.append_cons, List.filter_append, List.find?_append, first]
  rfl

theorem find_reordered {path : String}
    {order : String → List FileTree.Listed → List FileTree.Listed}
    (same : ∀ folder listing, (order folder listing).Perm listing) :
    (findIn (fun folder => (files.list here folder).map (order folder)) name exec
      (folders path)).1 = (find files here name path exec).1 := by
  have offered (folder : String) :
      offers (fun folder => (files.list here folder).map (order folder)) name exec folder =
        offers (files.list here) name exec folder := by
    unfold offers
    cases listed : files.list here folder with
    | error cause => simp [listed, Except.map]
    | ok listing => simpa [listed, Except.map, has] using (same folder listing).any_eq
  rw [find_eq, findIn_eq, funext offered]

theorem find_append (path path' : String) :
    (find files here name (path ++ ":" ++ path') exec).1 =
      (find files here name path exec).1.or (find files here name path' exec).1 := by
  rw [find_eq, find_eq, find_eq, folders_append, List.find?_append, Option.map_or]

theorem find_eq_none {path : String}
    (idle : ∀ part ∈ path.splitToList (· == ':'), part ≠ "" → ¬Offers files here name exec part) :
    (find files here name path exec).1 = none := by
  rw [← Option.not_isSome_iff_eq_none, find_isSome]
  rintro ⟨folder, part, nonempty, offered⟩
  exact idle folder part nonempty offered

end

/-- Along any search path, the path that is found is that of the name in the first folder that offers
it, and parts that offer nothing hide nothing. -/
theorem find_law (files : FileTree) (here : Nat) (name : String) (exec : Bool) :
    (∀ path, (find files here name path exec).1.isSome ↔
      ∃ folder ∈ path.splitToList (· == ':'),
        folder ≠ "" ∧ Offers files here name exec folder) ∧
    (∀ path found, (find files here name path exec).1 = some found ↔
      ∃ before folder after, path.splitToList (· == ':') = before ++ folder :: after ∧
        (folder ≠ "" ∧ Offers files here name exec folder) ∧
        (∀ part ∈ before, ¬(part ≠ "" ∧ Offers files here name exec part)) ∧
        found = Path.join folder name) ∧
    (∀ path (order : String → List FileTree.Listed → List FileTree.Listed),
      (∀ folder listing, (order folder listing).Perm listing) →
      (findIn (fun folder => (files.list here folder).map (order folder)) name exec
        (folders path)).1 = (find files here name path exec).1) ∧
    (∀ path path', (find files here name (path ++ ":" ++ path') exec).1 =
      (find files here name path exec).1.or (find files here name path' exec).1) ∧
    (∀ path idle path',
      (∀ part ∈ idle.splitToList (· == ':'), part ≠ "" → ¬Offers files here name exec part) →
      (find files here name (path ++ ":" ++ idle ++ ":" ++ path') exec).1 =
        (find files here name (path ++ ":" ++ path') exec).1) := by
  refine ⟨fun path => find_isSome, fun path found => find_eq_some,
    fun path order same => find_reordered same, find_append, ?_⟩
  intro path idle path' nothing
  rw [find_append, find_append, find_append, find_eq_none nothing, Option.or_none]

end Search
end PipeShell
