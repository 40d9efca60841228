import PipeShell.Proofs.Assembling

/-!
# Visits

The walk along the links of a line, visit by visit, whether it comes to an end or not. The layout of
a line is this walk in stages if it ends and comes to no node that is missing or was visited before.
Otherwise the fault names the first such node (`layout_decides`).
-/

namespace PipeShell.Line

structure Visit where
  head : Nat
  id : Nat
deriving DecidableEq, Repr

namespace Visit

def ofHead (id : Nat) : Visit := ⟨id, id⟩

def ofStage (ids : List Nat) : List Visit := ids.map (⟨ids.headD 0, ·⟩)

end Visit

def follow (line : Line) (head : Nat) : Option Nat → Option Visit
  | some id => some ⟨head, id⟩
  | none => (line.node head).nextStage.map .ofHead

def after (line : Line) (v : Visit) : Option Visit :=
  if v.id < line.nodes.size then line.follow v.head (line.node v.id).next else none

def visit (line : Line) : Nat → Option Visit
  | 0 => line.head.map .ofHead
  | n + 1 => (line.visit n).bind line.after

structure WellLinked (line : Line) : Prop where
  ends : ∃ n, line.visit n = none
  inside : ∀ n v, line.visit n = some v → v.id < line.nodes.size
  apart : ∀ m n u v, line.visit m = some u → line.visit n = some v → u.id = v.id → m = n

structure Reaches (line : Line) (n : Nat) (v : Visit) : Prop where
  here : line.visit n = some v
  inside : ∀ m < n, ∀ u, line.visit m = some u → u.id < line.nodes.size
  apart : ∀ m < n, ∀ k < m, ∀ t u, line.visit k = some t → line.visit m = some u → t.id ≠ u.id

/-- What is wrong with a visit: its node is missing, or was visited before. -/
inductive Faulty (line : Line) (n : Nat) (v : Visit) : ShapeFault → Prop
  | missing (outside : line.nodes.size ≤ v.id) : Faulty line n v (.dangling v.id)
  | again {m : Nat} {u : Visit} (before : m < n) (there : line.visit m = some u)
      (same : u.id = v.id) : Faulty line n v (.linkedTwice v.id)

/-! ## From visit to visit -/

/-- From one point of the walk to another, over visits to nodes that are there. -/
inductive Leads (line : Line) : Option Visit → List Visit → Option Visit → Prop
  | refl {v : Option Visit} : Leads line v [] v
  | step {v : Visit} {vs : List Visit} {last : Option Visit} (inside : v.id < line.nodes.size)
      (rest : Leads line (line.after v) vs last) : Leads line (some v) (v :: vs) last

namespace Leads
variable {line : Line} {start middle last : Option Visit} {vs us : List Visit}

theorem trans (first : Leads line start vs middle) (second : Leads line middle us last) :
    Leads line start (vs ++ us) last := by
  induction first with
  | refl => exact second
  | step inside _ ih => exact .step inside (ih second)

theorem inside (leads : Leads line start vs last) : ∀ v ∈ vs, v.id < line.nodes.size := by
  induction leads with
  | refl => simp
  | step inside _ ih => exact List.forall_mem_cons.2 ⟨inside, ih⟩

theorem visits (leads : Leads line start vs last) {k : Nat} (here : line.visit k = start) :
    (∀ i (h : i < vs.length), line.visit (k + i) = some vs[i]) ∧
      line.visit (k + vs.length) = last := by
  induction leads generalizing k with
  | refl => exact ⟨by simp, here⟩
  | @step v vs last _ _ ih =>
    have next : line.visit (k + 1) = line.after v := by rw [visit, here, Option.bind_some]
    obtain ⟨later, ended⟩ := ih next
    refine ⟨fun i bound => ?_, by rw [List.length_cons, ← ended]; congr 1; omega⟩
    cases i with
    | zero => exact here
    | succ i =>
      rw [List.getElem_cons_succ, ← later i (Nat.lt_of_succ_lt_succ bound)]
      congr 1
      omega

end Leads

section
variable {line : Line}

theorem after_of_lt {v : Visit} (inside : v.id < line.nodes.size) :
    line.after v = line.follow v.head (line.node v.id).next := if_pos inside

theorem Walk.leads {start : Option Nat} {ids : List Nat} (walk : Walk line start ids) (head : Nat)
    (inside : ∀ id ∈ ids, id < line.nodes.size) :
    Leads line (line.follow head start) (ids.map (⟨head, ·⟩)) (line.follow head none) := by
  induction walk with
  | stop => exact .refl
  | @step id ids _ ih =>
    obtain ⟨here, later⟩ := List.forall_mem_cons.1 inside
    refine .step here ?_
    rw [after_of_lt here]
    exact ih later

theorem Tour.leads {start : Option Nat} {stages : List (List Nat)} (tour : Tour line start stages)
    (inside : ∀ id ∈ stages.flatten, id < line.nodes.size) :
    Leads line (start.map .ofHead) (stages.flatMap Visit.ofStage) none := by
  induction tour with
  | stop => exact .refl
  | @step id ids stages words _ ih =>
    have first := words.leads id fun i member => inside i (by simp [member])
    have second := ih fun i member => inside i (List.mem_append_right _ member)
    have here : id < line.nodes.size := inside id (by simp)
    refine .trans (.step here ?_) second
    rw [after_of_lt here]
    exact first

structure Roams (line : Line) (left : List Nat) (start : Option Visit) (vs : List Visit)
    (last : Option Visit) : Prop where
  leads : Leads line start vs last
  nodup : (vs.map Visit.id).Nodup
  within : vs.map Visit.id ⊆ left

theorem Roams.refl (left : List Nat) (start : Option Visit) : Roams line left start [] start :=
  ⟨.refl, List.nodup_nil, List.nil_subset _⟩

theorem Roams.cons {left : List Nat} {v : Visit} {vs : List Visit} {last : Option Visit}
    (distinct : left.Nodup) (member : v.id ∈ left) (here : v.id < line.nodes.size)
    (rest : Roams line (left.erase v.id) (line.follow v.head (line.node v.id).next) vs last) :
    Roams line left (some v) (v :: vs) last := by
  have fresh : v.id ∉ vs.map Visit.id := fun again =>
    (distinct.mem_erase_iff.1 (rest.within again)).1 rfl
  refine ⟨.step here ?_, List.nodup_cons.2 ⟨fresh, rest.nodup⟩,
    List.cons_subset.2 ⟨member, fun i mem => List.mem_of_mem_erase (rest.within mem)⟩⟩
  rw [after_of_lt here]
  exact rest.leads

theorem Roams.append {left : List Nat} {start middle last : Option Visit} {vs us : List Visit}
    (distinct : left.Nodup) (first : Roams line left start vs middle)
    (second : Roams line (left.diff (vs.map Visit.id)) middle us last) :
    Roams line left start (vs ++ us) last := by
  have other : ∀ i ∈ us.map Visit.id, i ∈ left ∧ i ∉ vs.map Visit.id := fun i mem =>
    distinct.mem_sdiff_iff.1 (second.within mem)
  refine ⟨first.leads.trans second.leads, ?_, ?_⟩
  · rw [List.map_append, List.nodup_append]
    refine ⟨first.nodup, second.nodup, ?_⟩
    rintro i mem j mem' rfl
    exact (other i mem').2 mem
  · rw [List.map_append]
    exact List.append_subset.2 ⟨first.within, fun i mem => (other i mem).1⟩

theorem chain_roams {left : List Nat} {start : Option Nat} {ids : List Nat}
    {rest : { l : List Nat // l.length ≤ left.length }} (distinct : left.Nodup)
    (known : ∀ id ∈ left, id < line.nodes.size) (head : Nat)
    (found : line.chain left start = .ok (ids, rest)) :
    Roams line left (line.follow head start) (ids.map (⟨head, ·⟩)) (line.follow head none) := by
  obtain ⟨walk, nodup, within, -⟩ := chain_ok distinct found
  refine ⟨walk.leads head fun i mem => known i (within mem), ?_, ?_⟩ <;>
    simpa [Function.comp_def]

theorem stage_roams {left : List Nat} {id : Nat} {words : List Nat}
    {rest : { l : List Nat // l.length ≤ (left.erase id).length }} (distinct : left.Nodup)
    (known : ∀ id ∈ left, id < line.nodes.size) (member : id ∈ left)
    (found : line.chain (left.erase id) (line.node id).next = .ok (words, rest)) :
    Roams line left (some (.ofHead id)) (Visit.ofStage (id :: words)) (line.follow id none) ∧
      left.diff ((Visit.ofStage (id :: words)).map Visit.id) = rest.1 := by
  have kept : ∀ i ∈ left.erase id, i < line.nodes.size := fun i mem =>
    known i (List.mem_of_mem_erase mem)
  refine ⟨.cons (v := .ofHead id) distinct member (known id member)
    (chain_roams (distinct.erase id) kept id found), ?_⟩
  rw [(chain_ok (distinct.erase id) found).2.2.2]
  simp [Visit.ofStage, Function.comp_def]

/-! ## Where a walk goes wrong -/

theorem chain_error {left : List Nat} {start : Option Nat} {fault : ShapeFault}
    (distinct : left.Nodup) (known : ∀ id ∈ left, id < line.nodes.size) (head : Nat)
    (refused : line.chain left start = .error fault) :
    ∃ vs v, Roams line left (line.follow head start) vs (some v) ∧
      v.id ∉ left.diff (vs.map Visit.id) ∧ fault = line.misplaced v.id := by
  fun_induction chain line left start with
  | case1 => cases refused
  | case2 => cases refused
  | case3 left id member cause eq ih =>
    cases refused
    obtain ⟨vs, v, roams, out, named⟩ :=
      ih (distinct.erase id) (fun i mem => known i (List.mem_of_mem_erase mem)) eq
    exact ⟨⟨head, id⟩ :: vs, v, .cons distinct member (known id member) roams,
      by simpa using out, named⟩
  | case4 left id out =>
    cases refused
    exact ⟨[], ⟨head, id⟩, .refl left _, out, rfl⟩

theorem stagesFrom_error {left : List Nat} {start : Option Nat} {fault : ShapeFault}
    (distinct : left.Nodup) (known : ∀ id ∈ left, id < line.nodes.size)
    (refused : line.stagesFrom left start = .error fault) :
    ∃ vs v, Roams line left (start.map .ofHead) vs (some v) ∧
      v.id ∉ left.diff (vs.map Visit.id) ∧ fault = line.misplaced v.id := by
  fun_induction stagesFrom line left start with
  | case1 => cases refused
  | case2 left id member words rest eq ih =>
    obtain ⟨stage, remaining⟩ := stage_roams distinct known member eq
    have kept : ∀ i ∈ rest.1, i ∈ left := fun i mem =>
      (distinct.mem_sdiff_iff.1 (remaining ▸ mem)).1
    cases later : line.stagesFrom rest.1 (line.node id).nextStage with
    | ok others => simp [later, Except.map] at refused
    | error cause =>
      simp only [later, Except.map, Except.error.injEq] at refused
      subst refused
      obtain ⟨vs, v, roams, out, named⟩ :=
        ih (remaining ▸ distinct.diff) (fun i mem => known i (kept i mem)) later
      refine ⟨_, v, stage.append distinct (remaining ▸ roams), ?_, named⟩
      rw [List.map_append, List.diff_append, remaining]
      exact out
  | case3 left id member cause eq =>
    cases refused
    obtain ⟨vs, v, roams, out, named⟩ := chain_error (distinct.erase id)
      (fun i mem => known i (List.mem_of_mem_erase mem)) id eq
    exact ⟨_, v, .cons (v := .ofHead id) distinct member (known id member) roams,
      by simpa [Visit.ofHead] using out, named⟩
  | case4 left id out =>
    cases refused
    exact ⟨[], .ofHead id, .refl left _, out, rfl⟩

/-! ## The walk of a line -/

theorem visit_of_leads {vs : List Visit} {last : Option Visit}
    (leads : Leads line (line.head.map .ofHead) vs last) :
    (∀ n (h : n < vs.length), line.visit n = some vs[n]) ∧ line.visit vs.length = last := by
  have visits := leads.visits (k := 0) rfl
  simpa only [Nat.zero_add] using visits

theorem visit_none {n : Nat} (ended : line.visit n = none) {m : Nat} (later : n ≤ m) :
    line.visit m = none := by
  induction later with
  | refl => exact ended
  | step _ ih => rw [visit, ih, Option.bind_none]

theorem place_unique {vs : List Visit} (nodup : (vs.map Visit.id).Nodup) {m n : Nat}
    (inside : m < vs.length) (inside' : n < vs.length) (same : vs[m].id = vs[n].id) : m = n := by
  have ids : (vs.map Visit.id)[m]? = (vs.map Visit.id)[n]? := by simp [inside, inside', same]
  exact (List.getElem?_inj (by simpa using inside) nodup).1 ids

theorem Leads.reaches {vs : List Visit} {last : Option Visit}
    (leads : Leads line (line.head.map .ofHead) vs last) (nodup : (vs.map Visit.id).Nodup)
    {n : Nat} {v : Visit} (here : line.visit n = some v) (within : n ≤ vs.length) :
    Reaches line n v := by
  have known : ∀ m < n, ∀ u, line.visit m = some u → ∃ h : m < vs.length, vs[m] = u := by
    intro m before u there
    have inside : m < vs.length := by omega
    exact ⟨inside, Option.some.inj (((visit_of_leads leads).1 m inside).symm.trans there)⟩
  refine ⟨here, fun m before u there => ?_, fun m before k earlier t u there there' same => ?_⟩
  · obtain ⟨_, rfl⟩ := known m before u there
    exact leads.inside _ (List.getElem_mem _)
  · obtain ⟨inside, rfl⟩ := known k (by omega) t there
    obtain ⟨inside', rfl⟩ := known m before u there'
    have := place_unique nodup inside inside' same
    omega

theorem Reaches.first {m n : Nat} {u v : Visit} {fault : ShapeFault} (reaches : Reaches line n v)
    (here : line.visit m = some u) (faulty : Faulty line m u fault) : n ≤ m := by
  by_contra before
  rw [Nat.not_le] at before
  cases faulty with
  | missing outside => exact Nat.not_lt_of_le outside (reaches.inside m before u here)
  | again earlier there same => exact reaches.apart m before _ earlier _ _ there here same

theorem Faulty.unique {n : Nat} {v : Visit} {fault fault' : ShapeFault}
    (reaches : Reaches line n v) (faulty : Faulty line n v fault)
    (faulty' : Faulty line n v fault') : fault = fault' := by
  have inside : ∀ {m u}, m < n → line.visit m = some u → u.id = v.id → ¬line.nodes.size ≤ v.id :=
    fun before there same => same ▸ Nat.not_le_of_lt (reaches.inside _ before _ there)
  cases faulty with
  | missing outside =>
    cases faulty' with
    | missing => rfl
    | again before there same => exact absurd outside (inside before there same)
  | again before there same =>
    cases faulty' with
    | missing outside => exact absurd outside (inside before there same)
    | again => rfl

theorem layout_ok_leads {stages : List (List Nat)} (laid : line.layout = .ok stages) :
    Leads line (line.head.map .ofHead) (stages.flatMap Visit.ofStage) none := by
  obtain ⟨tour, -, inside⟩ := layout_eq_ok.1 laid
  exact tour.leads inside

theorem map_id_ofStage (stages : List (List Nat)) :
    (stages.flatMap Visit.ofStage).map Visit.id = stages.flatten := by
  rw [List.map_flatMap, List.flatten_eq_flatMap]
  exact List.flatMap_congr fun ids _ => by simp [Visit.ofStage, Function.comp_def]

theorem visit_of_layout {stages : List (List Nat)} (laid : line.layout = .ok stages) (n : Nat) :
    line.visit n = (stages.flatMap Visit.ofStage)[n]? := by
  obtain ⟨known, ended⟩ := visit_of_leads (layout_ok_leads laid)
  rcases Nat.lt_or_ge n (stages.flatMap Visit.ofStage).length with inside | outside
  · rw [known n inside, List.getElem?_eq_getElem inside]
  · rw [visit_none ended outside, List.getElem?_eq_none outside]

theorem wellLinked_of_layout {stages : List (List Nat)} (laid : line.layout = .ok stages) :
    WellLinked line := by
  have leads := layout_ok_leads laid
  have visits := visit_of_layout laid
  obtain ⟨-, nodup, -⟩ := layout_eq_ok.1 laid
  rw [← map_id_ofStage] at nodup
  refine ⟨⟨_, (visits _).trans (List.getElem?_eq_none (Nat.le_refl _))⟩, fun n v here => ?_,
    fun m n u v here here' same => ?_⟩
  · rw [visits] at here
    exact leads.inside v (List.mem_of_getElem? here)
  · rw [visits, List.getElem?_eq_some_iff] at here here'
    obtain ⟨inside, rfl⟩ := here
    obtain ⟨inside', rfl⟩ := here'
    exact place_unique nodup inside inside' same

theorem faulty_of_layout {fault : ShapeFault} (refused : line.layout = .error fault) :
    ∃ n v, Reaches line n v ∧ Faulty line n v fault := by
  obtain ⟨vs, v, roams, out, rfl⟩ :=
    stagesFrom_error List.nodup_range (fun id => List.mem_range.1) refused
  obtain ⟨known, here⟩ := visit_of_leads roams.leads
  refine ⟨vs.length, v, roams.leads.reaches roams.nodup here (Nat.le_refl _), ?_⟩
  unfold misplaced
  split
  · rename_i inside
    -- all nodes were left at first, so one that is not left any more has been visited
    have used : v.id ∈ vs.map Visit.id := by
      by_contra unused
      exact out (List.nodup_range.mem_sdiff_iff.2 ⟨List.mem_range.2 inside, unused⟩)
    obtain ⟨u, member, same⟩ := List.mem_map.1 used
    obtain ⟨m, before, rfl⟩ := List.getElem_of_mem member
    exact .again before (known m before) same
  · exact .missing (by omega)

theorem not_faulty_of_wellLinked (linked : WellLinked line) {n : Nat} {v : Visit}
    {fault : ShapeFault} (here : line.visit n = some v) : ¬Faulty line n v fault := by
  rintro (outside | ⟨before, there, same⟩)
  · exact Nat.not_lt_of_le outside (linked.inside n v here)
  · exact Nat.ne_of_lt before (linked.apart _ _ _ _ there here same)

/-! ## Links that are not followed -/

theorem chain_congr {line' : Line} (size : line'.nodes.size = line.nodes.size)
    (next : ∀ i, (line'.node i).next = (line.node i).next) (left : List Nat)
    (start : Option Nat) : line'.chain left start = line.chain left start := by
  fun_induction chain line left start with
  | case1 left => rw [chain]
  | case2 left id member words rest eq ih =>
    rw [chain, dif_pos member, next, ih, eq]
  | case3 left id member cause eq ih => rw [chain, dif_pos member, next, ih, eq]
  | case4 left id out => rw [chain, dif_neg out, misplaced, misplaced, size]

theorem stagesFrom_congr {line' : Line} (size : line'.nodes.size = line.nodes.size)
    (next : ∀ i, (line'.node i).next = (line.node i).next) {left : List Nat}
    {start : Option Nat} (distinct : left.Nodup) (known : ∀ id ∈ left, id < line.nodes.size)
    (heads : ∀ vs v, Roams line left (start.map .ofHead) vs (some v) →
      (line'.node v.head).nextStage = (line.node v.head).nextStage) :
    line'.stagesFrom left start = line.stagesFrom left start := by
  fun_induction stagesFrom line left start with
  | case1 left => rw [stagesFrom]
  | case2 left id member words rest eq ih =>
    obtain ⟨stage, remaining⟩ := stage_roams distinct known member eq
    have kept : ∀ i ∈ rest.1, i ∈ left := fun i mem =>
      (distinct.mem_sdiff_iff.1 (remaining ▸ mem)).1
    -- the links to stages are compared at the heads that the walk comes to, and nowhere else
    have same : (line'.node id).nextStage = (line.node id).nextStage :=
      heads [] (.ofHead id) (.refl left _)
    have later := ih (remaining ▸ distinct.diff) (fun i mem => known i (kept i mem))
      fun vs v roams => heads _ v (stage.append distinct (remaining ▸ roams))
    rw [stagesFrom, dif_pos member, next, chain_congr size next, eq, same]
    exact congrArg (Except.map ((id :: words) :: ·)) later
  | case3 left id member cause eq => rw [stagesFrom, dif_pos member, next, chain_congr size next, eq]
  | case4 left id out => rw [stagesFrom, dif_neg out, misplaced, misplaced, size]

theorem layout_modify_nextStage {id : Nat} {link : Option Nat}
    (unreached : ∀ n v, Reaches line n v → v.head ≠ id) :
    (line.modify id ({ · with nextStage := link })).layout = line.layout := by
  have size := size_modify line id ({ · with nextStage := link })
  rw [layout, layout, size]
  refine stagesFrom_congr size (fun i => ?_) List.nodup_range (fun i => List.mem_range.1)
    fun vs v roams => ?_
  · rw [node_modify]
    split <;> rfl
  · have reaches := roams.leads.reaches roams.nodup (visit_of_leads roams.leads).2 (Nat.le_refl _)
    rw [node_modify, if_neg fun h => unreached _ v reaches h.1]

end

/-- Every line has a layout if its walk ends and goes to distinct nodes that are there, and then the
layout is that walk in stages. Otherwise the fault is that of the first visit that goes wrong. -/
theorem layout_decides (line : Line) :
    ((∃ stages, line.layout = .ok stages) ↔ WellLinked line) ∧
    (∀ stages, line.layout = .ok stages →
      (∀ n, line.visit n = (stages.flatMap Visit.ofStage)[n]?) ∧ (∀ stage ∈ stages, stage ≠ []) ∧
        ∀ id ∈ stages.flatten, id < line.nodes.size) ∧
    (∀ fault, line.layout = .error fault ↔ ∃ n v, Reaches line n v ∧ Faulty line n v fault) ∧
    ∀ id link, (∀ n v, Reaches line n v → v.head ≠ id) →
      (line.modify id ({ · with nextStage := link })).layout = line.layout := by
  refine ⟨⟨fun ⟨_, laid⟩ => wellLinked_of_layout laid, fun linked => ?_⟩, fun stages laid => ?_,
    fun fault => ⟨faulty_of_layout, ?_⟩, fun id link => layout_modify_nextStage⟩
  · cases laid : line.layout with
    | ok stages => exact ⟨stages, rfl⟩
    | error fault =>
      obtain ⟨n, v, reaches, faulty⟩ := faulty_of_layout laid
      exact absurd faulty (not_faulty_of_wellLinked linked reaches.here)
  · obtain ⟨tour, -, inside⟩ := layout_eq_ok.1 laid
    exact ⟨visit_of_layout laid, tour.ne_nil, inside⟩
  · rintro ⟨n, v, reaches, faulty⟩
    cases laid : line.layout with
    | ok stages =>
      exact absurd faulty (not_faulty_of_wellLinked (wellLinked_of_layout laid) reaches.here)
    | error cause =>
      obtain ⟨m, u, reaches', faulty'⟩ := faulty_of_layout laid
      obtain rfl : m = n := Nat.le_antisymm (reaches'.first reaches.here faulty)
        (reaches.first reaches'.here faulty')
      obtain rfl : u = v := Option.some.inj (reaches'.here.symm.trans reaches.here)
      rw [Faulty.unique reaches faulty faulty']

end PipeShell.Line
