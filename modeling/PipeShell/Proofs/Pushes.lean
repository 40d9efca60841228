import Mathlib.Data.List.GetD
import Mathlib.Data.List.Induction
import PipeShell.Proofs.Construction

/-!
# Pushes

A line that is built from nothing by adding stages and words, in whatever order, is well formed. Its
layout gives every node to the stage of the node that it was added to, in the order in which the nodes
were added (`build_partitions`). To add something changes one link of the line and no content.
-/

namespace PipeShell.Line

/-- A stage to be added, or a word, which goes to the end of the stage of a node. -/
inductive Push where
  | stage (node : Node)
  | word (id : Nat) (node : Node)
deriving Repr

namespace Push

def node : Push → Node
  | stage n => n
  | word _ n => n

def isStage : Push → Bool
  | stage _ => true
  | word _ _ => false

def apply (line : Line) : Push → Line
  | stage n => line.pushStage n
  | word id n => line.pushWord id n

def Sound (count : Nat) (p : Push) : Prop :=
  p.node.unlinked = p.node ∧ ∀ id n, p = word id n → id < count

def owner (owners : List Nat) : Push → Nat
  | stage _ => owners.length
  | word id _ => owners.getD id 0

end Push

def build (pushes : List Push) : Line := pushes.foldl Push.apply empty

def Sound (pushes : List Push) : Prop := ∀ i p, pushes[i]? = some p → Push.Sound i p

def owners (pushes : List Push) : List Nat := pushes.foldl (fun os p => os ++ [Push.owner os p]) []

def heads (pushes : List Push) : List Nat :=
  (List.range pushes.length).filter fun i => pushes[i]?.any Push.isStage

def members (pushes : List Push) (head : Nat) : List Nat :=
  (List.range pushes.length).filter fun i => (owners pushes)[i]? = some head

def stagesOf (pushes : List Push) : List (List Nat) := (heads pushes).map (members pushes)

/-! ## One push more -/

section
variable {pushes : List Push} {p : Push}

theorem build_concat (pushes : List Push) (p : Push) :
    build (pushes ++ [p]) = p.apply (build pushes) := List.foldl_concat ..

theorem owners_concat (pushes : List Push) (p : Push) :
    owners (pushes ++ [p]) = owners pushes ++ [Push.owner (owners pushes) p] := List.foldl_concat ..

theorem sound_concat : Sound (pushes ++ [p]) ↔ Sound pushes ∧ Push.Sound pushes.length p := by
  constructor
  · intro sound
    refine ⟨fun i q here => sound i q ?_, sound _ p List.getElem?_concat_length⟩
    rw [List.getElem?_append_left (List.getElem?_eq_some_iff.1 here).1, here]
  · rintro ⟨sound, last⟩ i q here
    rcases Nat.lt_trichotomy i pushes.length with before | rfl | behind
    · exact sound i q (by rwa [List.getElem?_append_left before] at here)
    · rw [List.getElem?_concat_length] at here
      cases here
      exact last
    · rw [List.getElem?_eq_none (by simpa using Nat.succ_le_of_lt behind)] at here
      cases here

@[simp] theorem length_owners (pushes : List Push) : (owners pushes).length = pushes.length := by
  induction pushes using List.reverseRecOn with
  | nil => rfl
  | append_singleton pushes p ih => simp [owners_concat, ih]

theorem heads_concat (pushes : List Push) (p : Push) :
    heads (pushes ++ [p]) = heads pushes ++ if p.isStage then [pushes.length] else [] := by
  have same : ∀ i ∈ List.range pushes.length,
      (pushes ++ [p])[i]?.any Push.isStage = pushes[i]?.any Push.isStage := by
    intro i member
    rw [List.getElem?_append_left (List.mem_range.1 member)]
  rw [heads, List.length_append, List.length_singleton, List.range_succ, List.filter_append,
    List.filter_congr same, ← heads]
  simp [List.filter_singleton]

theorem members_concat (pushes : List Push) (p : Push) (head : Nat) :
    members (pushes ++ [p]) head =
      members pushes head ++ if Push.owner (owners pushes) p = head then [pushes.length] else [] := by
  have same : ∀ i ∈ List.range pushes.length,
      decide ((owners (pushes ++ [p]))[i]? = some head) =
        decide ((owners pushes)[i]? = some head) := by
    intro i member
    rw [owners_concat, List.getElem?_append_left (by simpa using member)]
  have last : (owners (pushes ++ [p]))[pushes.length]? = some (Push.owner (owners pushes) p) := by
    rw [owners_concat, ← length_owners, List.getElem?_concat_length]
  rw [members, List.length_append, List.length_singleton, List.range_succ, List.filter_append,
    List.filter_congr same, ← members, List.filter_singleton, last]
  simp [Bool.cond_decide]

theorem mem_members {i head : Nat} : i ∈ members pushes head ↔ (owners pushes)[i]? = some head := by
  rw [members, List.mem_filter, List.mem_range, decide_eq_true_eq, and_iff_right_iff_imp]
  intro here
  simpa using (List.getElem?_eq_some_iff.1 here).1

theorem lt_of_mem_heads {head : Nat} (member : head ∈ heads pushes) : head < pushes.length :=
  List.mem_range.1 (List.mem_filter.1 member).1

theorem owner_mem_heads (sound : Sound pushes) {head : Nat} (member : head ∈ owners pushes) :
    head ∈ heads pushes := by
  induction pushes using List.reverseRecOn with
  | nil => cases member
  | append_singleton pushes p ih =>
    obtain ⟨former, -, named⟩ := sound_concat.1 sound
    rw [owners_concat, List.mem_append, List.mem_singleton] at member
    rw [heads_concat, List.mem_append]
    rcases member with old | rfl
    · exact .inl (ih former old)
    · cases p with
      | stage n => simp [Push.isStage, Push.owner]
      | word id n =>
        have inside : id < (owners pushes).length := by simpa using named id n rfl
        refine .inl (ih former ?_)
        rw [Push.owner, List.getD_eq_getElem _ _ inside]
        exact List.getElem_mem inside

end

/-! ## The stages of a line that was built -/

theorem stagesOf_stage {pushes : List Push} (sound : Sound pushes) (n : Node) :
    stagesOf (pushes ++ [.stage n]) = stagesOf pushes ++ [[pushes.length]] := by
  have old : ∀ head ∈ heads pushes, members (pushes ++ [.stage n]) head = members pushes head := by
    intro head member
    have other : pushes.length ≠ head := (Nat.ne_of_lt (lt_of_mem_heads member)).symm
    rw [members_concat, Push.owner, length_owners, if_neg other, List.append_nil]
  have new : members pushes pushes.length = [] := by
    rw [List.eq_nil_iff_forall_not_mem]
    intro i member
    have known := owner_mem_heads sound (List.mem_of_getElem? (mem_members.1 member))
    exact Nat.lt_irrefl _ (lt_of_mem_heads known)
  rw [stagesOf, heads_concat, List.map_append, List.map_congr_left old, ← stagesOf]
  simp [Push.isStage, members_concat, new, Push.owner]

theorem stagesOf_word {pushes : List Push} {head : Nat} {before after : List Nat}
    (split : heads pushes = before ++ head :: after) {id : Nat} (n : Node)
    (owned : (owners pushes).getD id 0 = head) :
    stagesOf (pushes ++ [.word id n]) =
      before.map (members pushes) ++ (members pushes head ++ [pushes.length]) ::
        after.map (members pushes) := by
  have nodup : (heads pushes).Nodup := List.nodup_range.filter _
  rw [split, List.nodup_middle, List.nodup_cons, List.mem_append, not_or] at nodup
  have others : ∀ l : List Nat, head ∉ l →
      l.map (members (pushes ++ [.word id n])) = l.map (members pushes) := by
    intro l out
    refine List.map_congr_left fun h member => ?_
    have other : head ≠ h := fun same => out (same ▸ member)
    rw [members_concat, Push.owner, owned, if_neg other, List.append_nil]
  rw [stagesOf, heads_concat, split, Push.isStage, if_neg Bool.false_ne_true, List.append_nil,
    List.map_append, List.map_cons, others before nodup.1.1, others after nodup.1.2, members_concat,
    Push.owner, owned, if_pos rfl]

@[simp] theorem size_build (pushes : List Push) : (build pushes).nodes.size = pushes.length := by
  induction pushes using List.reverseRecOn with
  | nil => rfl
  | append_singleton pushes p ih => cases p <;> simp [build_concat, Push.apply, ih]

theorem exists_stage {pushes : List Push} (sound : Sound pushes) {id : Nat}
    (known : id < pushes.length) :
    ∃ head before after, heads pushes = before ++ head :: after ∧ id ∈ members pushes head ∧
      (owners pushes).getD id 0 = head := by
  have inside : id < (owners pushes).length := by simpa using known
  have member := owner_mem_heads sound (List.getElem_mem inside)
  obtain ⟨before, after, split⟩ := List.append_of_mem member
  exact ⟨_, before, after, split, mem_members.2 (List.getElem?_eq_getElem inside),
    List.getD_eq_getElem _ _ inside⟩

theorem threaded_build {pushes : List Push} (sound : Sound pushes) :
    Threaded (build pushes) (stagesOf pushes) := by
  induction pushes using List.reverseRecOn with
  | nil => exact .empty
  | append_singleton pushes p ih =>
    obtain ⟨former, plain, named⟩ := sound_concat.1 sound
    have threaded := ih former
    have next : p.node.next = none := by rw [← plain]; rfl
    have nextStage : p.node.nextStage = none := by rw [← plain]; rfl
    rw [build_concat]
    cases p with
    | stage n =>
      rw [stagesOf_stage former]
      have pushed := threaded.pushStage (n := n) next nextStage
      rwa [size_build] at pushed
    | word id n =>
      obtain ⟨head, before, after, split, member, owned⟩ := exists_stage former (named id n rfl)
      rw [stagesOf_word split n owned]
      rw [stagesOf, split, List.map_append, List.map_cons] at threaded
      have pushed := threaded.pushWord member (n := n) next
      rwa [size_build] at pushed

theorem lastWord_build {pushes : List Push} (sound : Sound pushes) {id : Nat}
    (known : id < pushes.length) :
    ∃ ids last, Walk (build pushes) (some id) (ids ++ [last]) ∧
      (build pushes).lastWord (build pushes).nodes.size id = last ∧
        (owners pushes)[last]? = some ((owners pushes).getD id 0) := by
  have threaded := threaded_build sound
  obtain ⟨head, before, after, split, member, owned⟩ := exists_stage sound known
  have stage : members pushes head ∈ stagesOf pushes :=
    List.mem_map_of_mem (by rw [split]; exact List.mem_append_right before List.mem_cons_self)
  obtain ⟨first, -, walk⟩ := threaded.tour.walk stage
  -- the search goes through the words of the stage from this one on
  obtain ⟨earlier, later, here⟩ := List.append_of_mem member
  obtain ⟨ids, last, ending⟩ := (List.eq_nil_or_concat (id :: later)).resolve_left
    (List.cons_ne_nil id later)
  rw [List.concat_eq_append] at ending
  have whole : members pushes head = (earlier ++ ids) ++ [last] := by
    rw [here, ending, List.append_assoc]
  rw [here] at walk
  refine ⟨ids, last, ending ▸ walk.drop, ?_, ?_⟩
  · rw [whole] at stage member
    exact threaded.lastWord_eq stage member
  · rw [owned, ← mem_members, whole]
    exact List.mem_append_right _ List.mem_cons_self

structure Push.Spares (line : Line) (owners : List Nat) (p : Push) : Prop where
  added : ((p.apply line).node line.nodes.size).unlinked = p.node
  contents : ∀ i < line.nodes.size, ((p.apply line).node i).unlinked = (line.node i).unlinked
  words : ∀ i < line.nodes.size, owners[i]? ≠ some (p.owner owners) →
    ((p.apply line).node i).next = (line.node i).next
  heads : ∀ i < line.nodes.size, p.isStage = false ∨ line.lastStage ≠ some i →
    ((p.apply line).node i).nextStage = (line.node i).nextStage

theorem push_spares {pushes : List Push} {p : Push} (sound : Sound pushes)
    (next : p.Sound pushes.length) : p.Spares (build pushes) (owners pushes) := by
  obtain ⟨plain, named⟩ := next
  cases p with
  | stage n =>
    have nodes := fun i => node_pushStage n i fun _ => (threaded_build sound).lastStage_lt
    refine ⟨?_, fun i inside => ?_, fun i inside _ => ?_, fun i inside other => ?_⟩
    · rw [Push.apply, nodes, if_pos rfl]
      exact plain
    · rw [Push.apply, nodes, if_neg (Nat.ne_of_lt inside)]
      split <;> rfl
    · rw [Push.apply, nodes, if_neg (Nat.ne_of_lt inside)]
      split <;> rfl
    · rw [Push.apply, nodes, if_neg (Nat.ne_of_lt inside),
        if_neg (other.resolve_left (by simp [Push.isStage]))]
  | word id n =>
    obtain ⟨ids, last, -, found, owned⟩ := lastWord_build sound (named id n rfl)
    have known : last < (build pushes).nodes.size := by
      simpa using (List.getElem?_eq_some_iff.1 owned).1
    have nodes : ∀ i, ((build pushes).pushWord id n).node i = _ := fun i =>
      node_pushWord n i (found ▸ known)
    rw [found] at nodes
    refine ⟨?_, fun i inside => ?_, fun i inside other => ?_, fun i inside _ => ?_⟩
    · rw [Push.apply, nodes, if_pos rfl]
      exact plain
    · rw [Push.apply, nodes, if_neg (Nat.ne_of_lt inside)]
      split <;> rfl
    · have elsewhere : i ≠ last := fun same => other (same ▸ owned)
      rw [Push.apply, nodes, if_neg (Nat.ne_of_lt inside), if_neg elsewhere]
    · rw [Push.apply, nodes, if_neg (Nat.ne_of_lt inside)]
      split <;> rfl

theorem contents_build {pushes : List Push} (sound : Sound pushes) {i : Nat} {p : Push}
    (here : pushes[i]? = some p) : ((build pushes).node i).unlinked = p.node := by
  induction pushes using List.reverseRecOn with
  | nil => cases here
  | append_singleton pushes q ih =>
    obtain ⟨former, last⟩ := sound_concat.1 sound
    have spares := push_spares former last
    rw [build_concat]
    rcases Nat.lt_or_ge i pushes.length with before | behind
    · rw [List.getElem?_append_left before] at here
      rw [spares.contents i (by simpa using before), ih former here]
    · obtain rfl : i = pushes.length := by
        have := (List.getElem?_eq_some_iff.1 here).1
        rw [List.length_append, List.length_singleton] at this
        omega
      rw [List.getElem?_concat_length] at here
      obtain rfl := Option.some.inj here
      simpa using spares.added

/-- However a line is built up, it is well formed. All its nodes stand in the stages of the nodes that
they were added to, in the order in which they came, and each is as it was when it came. -/
theorem build_partitions (pushes : List Push) (sound : Sound pushes) :
    (build pushes).nodes.size = pushes.length ∧
    (build pushes).layout = .ok (stagesOf pushes) ∧
    (stagesOf pushes).flatten.Perm (List.range pushes.length) ∧
    (∀ i p, pushes[i]? = some p → ((build pushes).node i).unlinked = p.node) ∧
    (∀ id < pushes.length, ∃ ids last, Walk (build pushes) (some id) (ids ++ [last]) ∧
      (build pushes).lastWord (build pushes).nodes.size id = last) ∧
    ∀ p : Push, p.Sound pushes.length → p.Spares (build pushes) (owners pushes) := by
  have threaded := threaded_build sound
  refine ⟨size_build pushes, threaded.layout_eq, ?_, fun i p => contents_build sound,
    fun id known => ?_, fun p => push_spares sound⟩
  · refine (List.perm_ext_iff_of_nodup threaded.nodup List.nodup_range).2 fun id => ?_
    rw [threaded.member, size_build, List.mem_range]
  · obtain ⟨ids, last, walk, found, -⟩ := lastWord_build sound known
    exact ⟨ids, last, walk, found⟩

def latecomer : List Push :=
  [.stage (.ofCommand .program "ls"), .word 0 (.ofText "-l" .word),
    .stage (.ofCommand .program "wc"), .word 2 (.ofParameter "FLAGS"), .word 1 (.ofText "src" .quoted)]

theorem build_partitions_latecomer :
    Sound latecomer ∧ (build latecomer).layout = .ok [[0, 1, 4], [2, 3]] := by
  have sound : Sound latecomer := by
    intro i p here
    rcases i with _ | _ | _ | _ | _ | i <;> cases here <;>
      exact ⟨rfl, by rintro _ _ ⟨⟩ <;> decide⟩
  have stages : stagesOf latecomer = [[0, 1, 4], [2, 3]] := by decide
  exact ⟨sound, stages ▸ (build_partitions latecomer sound).2.1⟩

end PipeShell.Line
