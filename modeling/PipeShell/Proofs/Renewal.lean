import Mathlib.Logic.Basic
import PipeShell.Proofs.Walks

/-!
# Files that are written anew

A file that is opened to be written anew holds nothing from then on, whether it was there or is made.
The path that it was opened by leads to it (`FileTree.Makes.resolve`), and no other file is changed
(`FileTree.Makes.renews`).
-/

namespace PipeShell

namespace FileNode

def emptied : FileNode → FileNode
  | .file mode _ => .file mode []
  | .program _ => .file 0o755 []
  | n => n

theorem emptied_eq_link {n : FileNode} {target : String} :
    n.emptied = .link target ↔ n = .link target := by
  cases n <;> simp [emptied]

theorem emptied_eq_device {n : FileNode} {d : Device} : n.emptied = .device d ↔ n = .device d := by
  cases n <;> simp [emptied]

end FileNode

namespace FileTree
variable {t t' : FileTree} {here : Nat}

theorem node_setNode {id : Nat} (n : FileNode) (inside : id < t.nodes.size) (other : Nat) :
    (t.setNode id n).node other = if other = id then n else t.node other := by
  simp only [setNode, stamp, FileTree.node, Array.getD_eq_getD_getElem?, Array.getElem?_setIfInBounds]
  by_cases same : other = id
  · simp [same, inside]
  · simp [same, Ne.symm same]

theorem inside_of_node {id : Nat} (there : t.node id ≠ .device .null) : id < t.nodes.size := by
  by_contra outside
  have missing := Array.getElem?_eq_none (Nat.not_lt.1 outside)
  exact there (by simp [FileTree.node, Array.getD_eq_getD_getElem?, missing])

theorem node_push (n : FileNode) (other : Nat) :
    FileTree.node { t with nodes := t.nodes.push n } other =
      if other = t.nodes.size then n else t.node other := by
  simp only [FileTree.node, Array.getD_eq_getD_getElem?, Array.getElem?_push]
  split <;> rfl

theorem node_truncate (t : FileTree) (id other : Nat) :
    (t.truncate id).node other = if other = id then (t.node id).emptied else t.node other := by
  have inside (there : t.node id ≠ .device .null) := inside_of_node there
  unfold truncate
  split
  · rename_i mode content node
    rw [node_setNode _ (inside (by simp [node])), node]
    rfl
  · rename_i name node
    rw [node_setNode _ (inside (by simp [node])), node, mode, node]
    rfl
  · rename_i notFile notProgram
    have same : (t.node id).emptied = t.node id := by
      unfold FileNode.emptied
      split
      · exact absurd ‹_› (notFile _ _)
      · exact absurd ‹_› (notProgram _)
      · rfl
    split
    · rename_i same'
      rw [same, same']
    · rfl

inductive Makes (t : FileTree) (here : Nat) (path : String) : Nat → FileTree → Prop
  | found {id} (located : t.locateNew here path = .ok (.at id)) (file : t.isFolder id = false) :
      Makes t here path id t
  | made {folder name mode parent entries fileMode t'}
      (located : t.locateNew here path = .ok (.free folder name))
      (above : t.node folder = .folder mode parent entries)
      (nodes : ∀ other, t'.node other =
        if other = t.nodes.size then .file fileMode []
        else if other = folder then .folder mode parent (entries ++ [(name, t.nodes.size)])
        else t.node other) :
      Makes t here path t.nodes.size t'

theorem makes_of_make {path : String} {bit mask id : Nat}
    (made : t.make here path bit mask = .ok (id, t')) : t.Makes here path id t' := by
  unfold make at made
  obtain ⟨place, located, made⟩ := bind_eq_ok.1 made
  cases place with
  | «at» found =>
    dsimp only at made
    split at made
    · cases made
    · rename_i file
      obtain ⟨⟨⟩, -, made⟩ := bind_eq_ok.1 made
      cases made
      exact .found located (by simpa using file)
  | free folder name =>
    simp only [add] at made
    split at made
    case h_2 => cases made
    rename_i mode parent entries above
    split at made
    · cases made
    split at made
    · cases made
    obtain ⟨rfl, rfl⟩ := Prod.mk.inj (Except.ok.inj made)
    have inside : folder < t.nodes.size := inside_of_node (by simp [above])
    have size : (t.setNode folder (.folder mode parent (entries ++ [(name, t.nodes.size)]))).nodes.size =
        t.nodes.size := by simp [setNode, stamp]
    apply Makes.made located above
    intro other
    have pushed := node_push
      (t := t.setNode folder (.folder mode parent (entries ++ [(name, t.nodes.size)])))
      (.file (without 0o666 mask) []) other
    rw [size, node_setNode _ inside] at pushed
    exact pushed

theorem Makes.extends {path : String} {id : Nat} (makes : t.Makes here path id t') :
    t.Extends t' := by
  cases makes with
  | found _ _ => exact .refl t
  | made located above nodes =>
    rename_i folder name mode parent entries fileMode
    constructor
    · intro other mode' parent' entries' node
      have inside : other ≠ t.nodes.size := Nat.ne_of_lt (inside_of_node (by simp [node]))
      rw [nodes, if_neg inside]
      split
      · rename_i same
        obtain ⟨rfl, rfl, rfl⟩ := FileNode.folder.inj (above.symm.trans (same ▸ node))
        exact ⟨_, rfl, fun {name' found} entry => by rw [List.lookup_append, entry]; rfl⟩
      · exact ⟨entries', node, id⟩
    · intro other target
      rw [nodes]
      split
      · rename_i new
        have outside : t.node other = .device .null := by
          simp [FileTree.node, Array.getD_eq_getD_getElem?, new]
        simp [outside]
      · split
        · rename_i same
          rw [same, above]
          simp
        · rfl

theorem extends_truncate (t : FileTree) (id : Nat) : t.Extends (t.truncate id) := by
  constructor
  · intro other mode parent entries node
    refine ⟨entries, ?_, fun entry => entry⟩
    rw [node_truncate]
    split
    · rename_i same
      rw [← same, node]
      rfl
    · exact node
  · intro other target
    rw [node_truncate]
    split
    · rename_i same
      rw [same, FileNode.emptied_eq_link]
    · rfl

theorem Makes.finds {path : String} {id : Nat} (makes : t.Makes here path id t') :
    ∃ place, t.locateNew here path = .ok place ∧ t.Finds place ∧
      ∀ file, (t'.truncate file).Takes id place := by
  cases makes with
  | found located _ =>
    exact ⟨_, located, finds_of_locateNewWithin (locateNewWithin_of_locateNew located).2,
      fun _ => rfl⟩
  | made located above nodes =>
    rename_i folder name mode parent entries fileMode
    have finds := finds_of_locateNewWithin (locateNewWithin_of_locateNew located).2
    refine ⟨_, located, finds, fun file => ?_⟩
    obtain ⟨mode', parent', entries', above', missing⟩ := finds
    obtain ⟨rfl, rfl, rfl⟩ := FileNode.folder.inj (above.symm.trans above')
    have older : folder ≠ t.nodes.size := Nat.ne_of_lt (inside_of_node (by simp [above]))
    have here : t'.node folder = .folder mode parent (entries ++ [(name, t.nodes.size)]) := by
      rw [nodes, if_neg older, if_pos rfl]
    obtain ⟨later, node, found⟩ := (extends_truncate t' file).folders here
    refine ⟨mode, parent, later, node, found ?_, fun target link => ?_⟩
    · rw [List.lookup_append, missing]
      simp
    · rw [(extends_truncate t' file).links, nodes, if_pos rfl] at link
      cases link

theorem Makes.resolve {path : String} {id : Nat} (makes : t.Makes here path id t') (file : Nat) :
    (t'.truncate file).resolve here path = .ok id := by
  obtain ⟨place, located, -, takes⟩ := makes.finds
  exact resolve_of_locateNew (makes.extends.trans (extends_truncate t' file)) located (takes file)

theorem Makes.kind {path : String} {id : Nat} (makes : t.Makes here path id t') :
    t'.isRegular id ∨ ∃ d, t'.node id = .device d := by
  obtain ⟨place, located', finds, -⟩ := makes.finds
  cases makes with
  | found located file =>
    obtain rfl := Except.ok.inj (located.symm.trans located')
    unfold isFolder at file
    unfold isRegular
    cases node : t.node id with
    | folder => simp [node] at file
    | link target => exact absurd node (finds target)
    | device d => exact .inr ⟨d, rfl⟩
    | _ => exact .inl rfl
  | made located above nodes => exact .inl (by simp [isRegular, nodes])

/-- In the second tree a file is to be written anew. It holds nothing then, and nothing else is changed
but that the folder of a new file has an entry for it. -/
structure Renews (t : FileTree) (file : Nat) (t' : FileTree) : Prop where
  empty : t'.isRegular file → t'.content file = .ok []
  others : ∀ id, id ≠ file → t.isFolder id = false → t'.node id = t.node id
  folders : ∀ {id mode parent entries}, t.node id = .folder mode parent entries →
    t'.node id = .folder mode parent entries ∨
      file = t.nodes.size ∧ ∃ name, entries.lookup name = none ∧
        t'.node id = .folder mode parent (entries ++ [(name, file)])

theorem isRegular_truncate {id : Nat} (regular : t.isRegular id) : (t.truncate id).isRegular id := by
  unfold isRegular at regular
  rw [isRegular, node_truncate, if_pos rfl]
  cases node : t.node id <;> simp_all [FileNode.emptied]

theorem content_truncate (t : FileTree) (file : Nat) (regular : (t.truncate file).isRegular file) :
    (t.truncate file).content file = .ok [] := by
  rw [isRegular, node_truncate, if_pos rfl] at regular
  rw [content, node_truncate, if_pos rfl]
  cases node : t.node file <;> simp_all [FileNode.emptied]

theorem renews_truncate (t : FileTree) (file : Nat) : t.Renews file (t.truncate file) where
  empty := content_truncate t file
  others := fun id other _ => by rw [node_truncate, if_neg other]
  folders := by
    intro id mode parent entries node
    refine .inl ?_
    rw [node_truncate]
    split
    · rename_i same
      rw [← same, node]
      rfl
    · exact node

theorem Makes.renews {path : String} {id : Nat} (makes : t.Makes here path id t') :
    t.Renews id (t'.truncate id) := by
  obtain ⟨place, located', finds, -⟩ := makes.finds
  cases makes with
  | found _ _ => exact renews_truncate t id
  | made located above nodes =>
    rename_i folder name mode parent entries fileMode
    refine ⟨content_truncate t' _, fun other new notFolder => ?_, ?_⟩
    · have elsewhere : other ≠ folder := by
        rintro rfl
        simp [isFolder, above] at notFolder
      rw [node_truncate, if_neg new, nodes, if_neg new, if_neg elsewhere]
    · intro other mode' parent' entries' node
      have new : other ≠ t.nodes.size := Nat.ne_of_lt (inside_of_node (by simp [node]))
      rw [node_truncate, if_neg new, nodes, if_neg new]
      split
      · rename_i same
        subst same
        obtain rfl := Except.ok.inj (located.symm.trans located')
        obtain ⟨_, _, _, above', missing⟩ := finds
        obtain ⟨rfl, rfl, rfl⟩ := FileNode.folder.inj (above.symm.trans node)
        obtain ⟨rfl, rfl, rfl⟩ := FileNode.folder.inj (above.symm.trans above')
        exact .inr ⟨rfl, name, missing, rfl⟩
      · exact .inl node

end FileTree
end PipeShell
