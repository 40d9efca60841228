import Mathlib.Data.List.Basic
import PipeShell.Files.Tree

/-!
# Walks through a tree

A walk that ends at a node has gone on in one of a few ways at each of its steps
(`FileTree.walk_eq_ok`). So it can be cut in two, and it ends at the same node in a tree that has
more entries. Where a file is to be written, the last name of its path is looked up apart from the
others; what is found or made there is what a walk along the whole path comes to
(`FileTree.resolve_of_locateNew`).
-/

namespace PipeShell

theorem bind_eq_ok {ε α β : Type} {x : Except ε α} {f : α → Except ε β} {b : β} :
    (x >>= f) = .ok b ↔ ∃ a, x = .ok a ∧ f a = .ok b := by
  cases x with
  | error e => simp [bind, Except.bind]
  | ok a => simp [bind, Except.bind]

namespace FileTree

structure Plain (name : String) : Prop where
  nonempty : name ≠ ""
  short : name.utf8ByteSize ≤ longestName
  notHere : name ≠ "."
  notUp : name ≠ ".."

/-- A walk along these steps that may follow so many links ends at a node, with some links left. -/
inductive Reaches (t : FileTree) : Nat → Nat → List String → Nat → Nat → Prop
  | arrived {links here} : Reaches t links here [] here links
  | idle {links here rest node left mode parent entries}
      (folder : t.node here = .folder mode parent entries)
      (more : Reaches t links here rest node left) : Reaches t links here ("" :: rest) node left
  | stay {links here rest node left mode parent entries}
      (folder : t.node here = .folder mode parent entries) (opens : hasBit mode executeBit)
      (more : Reaches t links here rest node left) : Reaches t links here ("." :: rest) node left
  | up {links here rest node left mode parent entries}
      (folder : t.node here = .folder mode parent entries) (opens : hasBit mode executeBit)
      (more : Reaches t links parent rest node left) : Reaches t links here (".." :: rest) node left
  | link {links here name rest node left mode parent entries id target}
      (folder : t.node here = .folder mode parent entries) (opens : hasBit mode executeBit)
      (plain : Plain name) (entry : entries.lookup name = some id)
      (leads : t.node id = .link target)
      (more : Reaches t links (startOf here target) (Path.steps target ++ rest) node left) :
      Reaches t (links + 1) here (name :: rest) node left
  | step {links here name rest node left mode parent entries id}
      (folder : t.node here = .folder mode parent entries) (opens : hasBit mode executeBit)
      (plain : Plain name) (entry : entries.lookup name = some id)
      (leads : ∀ target, t.node id ≠ .link target) (more : Reaches t links id rest node left) :
      Reaches t links here (name :: rest) node left

variable {t t' : FileTree} {links here middle node left : Nat} {steps rest : List String}

theorem reaches_of_walk (found : t.walk true links here steps = .ok (.at node, left)) :
    t.Reaches links here steps node left := by
  induction links, here, steps using walk.induct t true with
  | case1 links here =>
    rw [walk] at found
    cases found
    exact .arrived
  | case2 links here rest mode parent entries folder ih =>
    rw [walk, folder] at found
    exact .idle folder (ih found)
  -- a step that cannot be taken
  | case3 links here name rest mode parent entries folder named shut =>
    simp [walk, folder, named, shut] at found
  | case4 links here name rest mode parent entries folder named opens long =>
    simp [walk, folder, named, opens, long] at found
  | case5 links here rest mode parent entries folder opens named short ih =>
    simp only [walk, folder, opens, named, short] at found
    exact .stay folder (by simpa using opens) (ih found)
  | case6 links here rest mode parent entries folder opens named short notHere ih =>
    simp only [walk, folder, opens, named, short, notHere] at found
    exact .up folder (by simpa using opens) (ih found)
  -- a name that the folder does not have
  | case7 links here name rest mode parent entries folder named opens short notHere notUp missing
      last =>
    simp [walk, folder, opens, named, short, notHere, notUp, missing, last] at found
  | case8 links here name rest mode parent entries folder named opens short notHere notUp missing
      inner =>
    simp [walk, folder, opens, named, short, notHere, notUp, missing, inner] at found
  | case9 _ _ _ _ _ _ _ _ _ _ _ _ _ _ _ _ _ stops => simp at stops
  | case10 here name rest mode parent entries folder named opens short notHere notUp id entry target
      leads follows =>
    simp [walk, folder, opens, named, short, notHere, notUp, entry, leads] at found
  | case11 here name rest mode parent entries folder named opens short notHere notUp id entry target
      leads follows links ih =>
    simp only [walk, folder, opens, named, short, notHere, notUp, entry, leads, follows] at found
    exact .link folder (by simpa using opens) ⟨named, Nat.not_lt.1 short, notHere, notUp⟩ entry leads
      (ih found)
  | case12 links here name rest mode parent entries folder named opens short notHere notUp id entry
      leads ih =>
    simp only [walk, folder, opens, named, short, notHere, notUp, entry] at found
    exact .step folder (by simpa using opens) ⟨named, Nat.not_lt.1 short, notHere, notUp⟩ entry leads
      (ih (by simpa using found))
  | case13 links here name rest other =>
    rw [walk] at found
    split at found
    · exact absurd ‹_› (other _ _ _)
    · cases found

theorem walk_of_reaches (reaches : t.Reaches links here steps node left) :
    t.walk true links here steps = .ok (.at node, left) := by
  induction reaches with
  | arrived => rw [walk]
  | idle folder _ ih => simpa [walk, folder] using ih
  | stay folder opens _ ih =>
    have short : ¬longestName < ".".utf8ByteSize := by decide
    simpa [walk, folder, opens, short] using ih
  | up folder opens _ ih =>
    have short : ¬longestName < "..".utf8ByteSize := by decide
    simpa [walk, folder, opens, short] using ih
  | link folder opens plain entry leads _ ih =>
    obtain ⟨nonempty, short, notHere, notUp⟩ := plain
    simpa [walk, folder, opens, nonempty, notHere, notUp, entry, leads, Nat.not_lt.2 short, startOf] using ih
  | step folder opens plain entry leads _ ih =>
    obtain ⟨nonempty, short, notHere, notUp⟩ := plain
    simpa [walk, folder, opens, nonempty, notHere, notUp, entry, leads, Nat.not_lt.2 short] using ih

theorem walk_eq_ok :
    t.walk true links here steps = .ok (.at node, left) ↔ t.Reaches links here steps node left :=
  ⟨reaches_of_walk, walk_of_reaches⟩

theorem Reaches.append (first : t.Reaches links here steps middle left) {last : Nat}
    (second : t.Reaches left middle rest node last) :
    t.Reaches links here (steps ++ rest) node last := by
  induction first with
  | arrived => exact second
  | idle folder _ ih => exact .idle folder (ih second)
  | stay folder opens _ ih => exact .stay folder opens (ih second)
  | up folder opens _ ih => exact .up folder opens (ih second)
  | link folder opens plain entry leads _ ih =>
    exact .link folder opens plain entry leads (List.append_assoc .. ▸ ih second)
  | step folder opens plain entry leads _ ih => exact .step folder opens plain entry leads (ih second)

theorem Reaches.split (reaches : t.Reaches links here (steps ++ rest) node left) :
    ∃ middle more, t.Reaches links here steps middle more ∧ t.Reaches more middle rest node left := by
  generalize whole : steps ++ rest = all at reaches
  induction reaches generalizing steps with
  | arrived =>
    obtain ⟨rfl, rfl⟩ := List.append_eq_nil_iff.1 whole
    exact ⟨_, _, .arrived, .arrived⟩
  | idle folder more ih =>
    rcases List.append_eq_cons_iff.1 whole with ⟨rfl, rfl⟩ | ⟨later, rfl, rfl⟩
    · exact ⟨_, _, .arrived, .idle folder more⟩
    · obtain ⟨middle, more, first, second⟩ := ih rfl
      exact ⟨middle, more, .idle folder first, second⟩
  | stay folder opens more ih =>
    rcases List.append_eq_cons_iff.1 whole with ⟨rfl, rfl⟩ | ⟨later, rfl, rfl⟩
    · exact ⟨_, _, .arrived, .stay folder opens more⟩
    · obtain ⟨middle, more, first, second⟩ := ih rfl
      exact ⟨middle, more, .stay folder opens first, second⟩
  | up folder opens more ih =>
    rcases List.append_eq_cons_iff.1 whole with ⟨rfl, rfl⟩ | ⟨later, rfl, rfl⟩
    · exact ⟨_, _, .arrived, .up folder opens more⟩
    · obtain ⟨middle, more, first, second⟩ := ih rfl
      exact ⟨middle, more, .up folder opens first, second⟩
  | link folder opens plain entry leads more ih =>
    rcases List.append_eq_cons_iff.1 whole with ⟨rfl, rfl⟩ | ⟨later, rfl, rfl⟩
    · exact ⟨_, _, .arrived, .link folder opens plain entry leads more⟩
    · obtain ⟨middle, more, first, second⟩ := ih (List.append_assoc ..)
      exact ⟨middle, more, .link folder opens plain entry leads first, second⟩
  | step folder opens plain entry leads more ih =>
    rcases List.append_eq_cons_iff.1 whole with ⟨rfl, rfl⟩ | ⟨later, rfl, rfl⟩
    · exact ⟨_, _, .arrived, .step folder opens plain entry leads more⟩
    · obtain ⟨middle, more, first, second⟩ := ih rfl
      exact ⟨middle, more, .step folder opens plain entry leads first, second⟩

theorem Reaches.unique {node' left' : Nat} (reaches : t.Reaches links here steps node left)
    (reaches' : t.Reaches links here steps node' left') : node = node' ∧ left = left' := by
  have same := (walk_eq_ok.2 reaches).symm.trans (walk_eq_ok.2 reaches')
  simpa using same

structure Extends (t t' : FileTree) : Prop where
  folders : ∀ {id mode parent entries}, t.node id = .folder mode parent entries →
    ∃ entries', t'.node id = .folder mode parent entries' ∧
      ∀ {name found}, entries.lookup name = some found → entries'.lookup name = some found
  links : ∀ id target, t'.node id = .link target ↔ t.node id = .link target

theorem Extends.refl (t : FileTree) : t.Extends t := ⟨fun folder => ⟨_, folder, id⟩, fun _ _ => .rfl⟩

theorem Extends.trans {t'' : FileTree} (first : t.Extends t') (second : t'.Extends t'') :
    t.Extends t'' where
  folders := by
    intro id mode parent entries node
    obtain ⟨entries', node', found⟩ := first.folders node
    obtain ⟨entries'', node'', found'⟩ := second.folders node'
    exact ⟨entries'', node'', fun entry => found' (found entry)⟩
  links := fun id target => (second.links id target).trans (first.links id target)

theorem Reaches.extend (ext : t.Extends t') (reaches : t.Reaches links here steps node left) :
    t'.Reaches links here steps node left := by
  induction reaches with
  | arrived => exact .arrived
  | idle folder _ ih =>
    obtain ⟨_, folder, -⟩ := ext.folders folder
    exact .idle folder ih
  | stay folder opens _ ih =>
    obtain ⟨_, folder, -⟩ := ext.folders folder
    exact .stay folder opens ih
  | up folder opens _ ih =>
    obtain ⟨_, folder, -⟩ := ext.folders folder
    exact .up folder opens ih
  | link folder opens plain entry leads _ ih =>
    obtain ⟨_, folder, found⟩ := ext.folders folder
    exact .link folder opens plain (found entry) ((ext.links _ _).2 leads) ih
  | step folder opens plain entry leads _ ih =>
    obtain ⟨_, folder, found⟩ := ext.folders folder
    exact .step folder opens plain (found entry)
      (fun target link => leads target ((ext.links _ _).1 link)) ih

/-! ## Paths -/

theorem resolve_of_reaches {path : String} (checked : checkPath path = .ok ())
    (reaches : t.Reaches mostLinks (startOf here path) (Path.steps path) node left) :
    t.resolve here path = .ok node := by
  simp [resolve, locate, checked, walk_eq_ok.2 reaches, bind, Except.bind]

theorem resolve_of_entry {path name : String} {mode parent id : Nat} {entries : List (String × Nat)}
    (checked : checkPath path = .ok ()) (starts : startOf here path = here)
    (steps : Path.steps path = [name]) (folder : t.node here = .folder mode parent entries)
    (opens : hasBit mode executeBit) (plain : Plain name) (entry : entries.lookup name = some id)
    (leads : ∀ target, t.node id ≠ .link target) : t.resolve here path = .ok id := by
  have reaches : t.Reaches mostLinks here [name] id mostLinks :=
    .step folder opens plain entry leads .arrived
  rw [← steps] at reaches
  exact resolve_of_reaches checked (starts.symm ▸ reaches)

theorem resolve_eq_ok :
    t.resolve here path = .ok node ↔ checkPath path = .ok () ∧
      ∃ left, t.Reaches mostLinks (startOf here path) (Path.steps path) node left := by
  constructor
  · intro resolved
    unfold resolve at resolved
    split at resolved
    · rename_i found located
      obtain rfl := Except.ok.inj resolved
      unfold locate at located
      obtain ⟨⟨⟩, checked, located⟩ := bind_eq_ok.1 located
      obtain ⟨⟨place, left⟩, walked, same⟩ := bind_eq_ok.1 located
      obtain rfl := Except.ok.inj same
      exact ⟨checked, left, walk_eq_ok.1 walked⟩
    · cases resolved
    · cases resolved
  · rintro ⟨checked, left, reaches⟩
    exact resolve_of_reaches checked reaches

def Takes (t : FileTree) (id : Nat) : Place → Prop
  | .at found => found = id
  | .free folder name => ∃ mode parent entries, t.node folder = .folder mode parent entries ∧
      entries.lookup name = some id ∧ ∀ target, t.node id ≠ .link target

structure Leads (t : FileTree) (links here : Nat) (path : String) (folder left : Nat) (last : String)
    (mode parent : Nat) (entries : List (String × Nat)) : Prop where
  reaches : t.Reaches links (startOf here path) (Path.names path).dropLast folder left
  steps : Path.steps path = (Path.names path).dropLast ++ [last]
  folder : t.node folder = .folder mode parent entries
  opens : hasBit mode executeBit
  plain : Plain last

theorem locateNewWithin_of_missing {depth mode parent : Nat} {path name : String}
    {entries : List (String × Nat)} (starts : startOf here path = here)
    (names : Path.names path = [name]) (bare : Path.endsInSlash path = false)
    (folder : t.node here = .folder mode parent entries) (opens : hasBit mode executeBit)
    (plain : Plain name) (missing : entries.lookup name = none) :
    t.locateNewWithin (depth + 1) links here path = .ok (.free here name) := by
  have stays : t.walk true links here [] = .ok (.at here, links) := by rw [walk]
  simp [locateNewWithin, starts, names, bare, stays, folder, opens, plain.notHere, plain.notUp,
    Nat.not_lt.2 plain.short, missing, bind, Except.bind]

theorem locateNewWithin_of_link {depth mode parent id : Nat} {path name target : String}
    {entries : List (String × Nat)} (starts : startOf here path = here)
    (names : Path.names path = [name]) (bare : Path.endsInSlash path = false)
    (folder : t.node here = .folder mode parent entries) (opens : hasBit mode executeBit)
    (plain : Plain name) (entry : entries.lookup name = some id) (leads : t.node id = .link target) :
    t.locateNewWithin (depth + 1) (links + 1) here path =
      t.locateNewWithin depth links here target := by
  have stays : t.walk true (links + 1) here [] = .ok (.at here, links + 1) := by rw [walk]
  simp [locateNewWithin, starts, names, bare, stays, folder, opens, plain.notHere, plain.notUp,
    Nat.not_lt.2 plain.short, entry, leads, bind, Except.bind]

theorem leads_of_locateNewWithin {depth : Nat} {path : String} {place : Place}
    (located : t.locateNewWithin (depth + 1) links here path = .ok place) :
    ∃ folder left last mode parent entries,
      t.Leads links here path folder left last mode parent entries ∧
      ((entries.lookup last = none ∧ place = .free folder last) ∨
        ∃ id, entries.lookup last = some id ∧
          (((∀ target, t.node id ≠ .link target) ∧ place = .at id) ∨
            ∃ target more, t.node id = .link target ∧ left = more + 1 ∧
              t.locateNewWithin depth more folder target = .ok place)) := by
  unfold locateNewWithin at located
  obtain ⟨⟨found, left⟩, walked, located⟩ := bind_eq_ok.1 located
  cases final : (Path.names path).getLast? with
  | none => simp [final] at located
  | some last =>
  cases found with
  | free _ _ => simp [final] at located
  | «at» folder =>
  simp only [final] at located
  split at located
  case h_2 => cases located
  case h_1 mode parent entries node =>
    split at located
    · cases located
    rename_i opens
    split at located
    · cases located
    rename_i ordinary
    split at located
    · cases located
    rename_i short
    simp only [Bool.or_eq_true, decide_eq_true_eq, not_or] at ordinary
    obtain ⟨⟨notHere, notUp⟩, bare⟩ := ordinary
    have member : last ∈ Path.names path := List.mem_of_getLast? final
    have leads : t.Leads links here path folder left last mode parent entries :=
      { reaches := walk_eq_ok.1 walked
        steps := by
          rw [Path.steps, if_neg bare, List.append_nil, List.dropLast_append_getLast? _ final]
        folder := node
        opens := by simpa using opens
        plain :=
          { nonempty := by simpa using (List.mem_filter.1 member).2
            short := Nat.not_lt.1 short
            notHere, notUp } }
    refine ⟨folder, left, last, mode, parent, entries, leads, ?_⟩
    split at located
    · rename_i missing
      exact .inl ⟨missing, (Except.ok.inj located).symm⟩
    · rename_i id entry
      refine .inr ⟨id, entry, ?_⟩
      split at located
      · cases located
      · rename_i target more link
        exact .inr ⟨target, more, link, rfl, located⟩
      · rename_i left _ _ notLink noLinks
        refine .inl ⟨fun target link => ?_, (Except.ok.inj located).symm⟩
        cases left with
        | zero => exact notLink target link rfl
        | succ more => exact noLinks target more link rfl

theorem reaches_of_locateNewWithin (ext : t.Extends t') {depth id : Nat} {path : String}
    {place : Place} (located : t.locateNewWithin depth links here path = .ok place)
    (takes : t'.Takes id place) :
    ∃ left, t'.Reaches links (startOf here path) (Path.steps path) id left := by
  induction depth generalizing links here path with
  | zero => cases located
  | succ depth ih =>
    obtain ⟨folder, left, last, mode, parent, entries, ⟨reaches, steps, node, opens, plain⟩, goes⟩ :=
      leads_of_locateNewWithin located
    obtain ⟨entries', node', found⟩ := ext.folders node
    rw [steps]
    rcases goes with ⟨missing, rfl⟩ | ⟨next, entry, ⟨notLink, rfl⟩ | ⟨target, more, link, rfl, located⟩⟩
    · obtain ⟨mode', parent', entries'', taken, entry, notLink⟩ := takes
      obtain ⟨rfl, rfl, rfl⟩ := FileNode.folder.inj (node'.symm.trans taken)
      exact ⟨left, (reaches.extend ext).append (.step node' opens plain entry notLink .arrived)⟩
    · obtain rfl : next = id := takes
      have stays : ∀ target, t'.node next ≠ .link target := fun target link =>
        notLink target ((ext.links next target).1 link)
      exact ⟨left,
        (reaches.extend ext).append (.step node' opens plain (found entry) stays .arrived)⟩
    · obtain ⟨left, more⟩ := ih located
      refine ⟨left, (reaches.extend ext).append
        (.link node' opens plain (found entry) ((ext.links next target).2 link) ?_)⟩
      rwa [List.append_nil]

def Finds (t : FileTree) : Place → Prop
  | .at id => ∀ target, t.node id ≠ .link target
  | .free folder name =>
    ∃ mode parent entries, t.node folder = .folder mode parent entries ∧ entries.lookup name = none

theorem finds_of_locateNewWithin {depth : Nat} {path : String} {place : Place}
    (located : t.locateNewWithin depth links here path = .ok place) : t.Finds place := by
  induction depth generalizing links here path with
  | zero => cases located
  | succ depth ih =>
    obtain ⟨folder, left, last, mode, parent, entries, leads, goes⟩ :=
      leads_of_locateNewWithin located
    rcases goes with ⟨missing, rfl⟩ | ⟨next, entry, ⟨notLink, rfl⟩ | ⟨target, more, link, rfl, located⟩⟩
    · exact ⟨mode, parent, entries, leads.folder, missing⟩
    · exact notLink
    · exact ih located

theorem locateNewWithin_of_locateNew {path : String} {place : Place}
    (located : t.locateNew here path = .ok place) :
    checkPath path = .ok () ∧ t.locateNewWithin (mostLinks + 1) mostLinks here path = .ok place := by
  unfold locateNew at located
  obtain ⟨⟨⟩, checked, located⟩ := bind_eq_ok.1 located
  exact ⟨checked, located⟩

theorem make_of_free {path name : String} {folder : Nat} (checked : checkPath path = .ok ())
    (located : t.locateNewWithin (mostLinks + 1) mostLinks here path = .ok (.free folder name)) :
    t.make here path = t.add folder name (.file (without 0o666 mask) []) := by
  have free : t.locateNew here path = .ok (.free folder name) := by
    rw [locateNew, checked, ← located]
    rfl
  rw [make, free]
  rfl

theorem resolve_of_locateNew (ext : t.Extends t') {id : Nat} {path : String} {place : Place}
    (located : t.locateNew here path = .ok place) (takes : t'.Takes id place) :
    t'.resolve here path = .ok id := by
  obtain ⟨checked, located⟩ := locateNewWithin_of_locateNew located
  obtain ⟨left, reaches⟩ := reaches_of_locateNewWithin ext located takes
  exact resolve_of_reaches checked reaches

end FileTree
end PipeShell
