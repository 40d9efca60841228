import Mathlib.Data.List.Nodup
import PipeShell.Line.Layout

/-!
# Tours

The layout of a line is the walk along its links, grouped by stages, and it is there exactly when
that walk comes to an end and meets no node twice (`layout_eq_ok`).
-/

namespace PipeShell.Line

inductive Walk (line : Line) : Option Nat → List Nat → Prop
  | stop : Walk line none []
  | step {id : Nat} {ids : List Nat} (rest : Walk line (line.node id).next ids) :
      Walk line (some id) (id :: ids)

/-- The stages from a link between heads on, each with the words that its head leads to. -/
inductive Tour (line : Line) : Option Nat → List (List Nat) → Prop
  | stop : Tour line none []
  | step {id : Nat} {ids : List Nat} {stages : List (List Nat)}
      (words : Walk line (line.node id).next ids)
      (rest : Tour line (line.node id).nextStage stages) :
      Tour line (some id) ((id :: ids) :: stages)

theorem walk_nil {line : Line} {start : Option Nat} : Walk line start [] ↔ start = none := by
  constructor
  · rintro ⟨⟩
    rfl
  · rintro rfl
    exact .stop

theorem walk_cons {line : Line} {start : Option Nat} {id : Nat} {ids : List Nat} :
    Walk line start (id :: ids) ↔ start = some id ∧ Walk line (line.node id).next ids := by
  constructor
  · rintro ⟨⟩
    exact ⟨rfl, ‹_›⟩
  · rintro ⟨rfl, rest⟩
    exact .step rest

theorem tour_nil {line : Line} {start : Option Nat} : Tour line start [] ↔ start = none := by
  constructor
  · rintro ⟨⟩
    rfl
  · rintro rfl
    exact .stop

theorem tour_cons {line : Line} {start : Option Nat} {stage : List Nat}
    {stages : List (List Nat)} :
    Tour line start (stage :: stages) ↔ ∃ id, start = some id ∧ stage.head? = some id ∧
      Walk line (some id) stage ∧ Tour line (line.node id).nextStage stages := by
  constructor
  · rintro ⟨⟩
    exact ⟨_, rfl, rfl, .step ‹_›, ‹_›⟩
  · rintro ⟨id, rfl, first, words, rest⟩
    obtain ⟨ids, rfl⟩ := List.head?_eq_some_iff.1 first
    exact .step (walk_cons.1 words).2 rest

/-! ## The words of a stage -/

theorem chain_ok {line : Line} {left : List Nat} {start : Option Nat} {ids : List Nat}
    {rest : { l : List Nat // l.length ≤ left.length }} (distinct : left.Nodup)
    (found : line.chain left start = .ok (ids, rest)) :
    Walk line start ids ∧ ids.Nodup ∧ ids ⊆ left ∧ rest.1 = left.diff ids := by
  fun_induction chain line left start generalizing ids with
  | case1 left =>
    cases found
    exact ⟨.stop, List.nodup_nil, List.nil_subset _, rfl⟩
  | case2 left id member words after eq ih =>
    obtain ⟨walk, nodup, within, remaining⟩ := ih (distinct.erase id) eq
    cases found
    have fresh : id ∉ words := fun again => (distinct.mem_erase_iff.1 (within again)).1 rfl
    refine ⟨.step walk, List.nodup_cons.2 ⟨fresh, nodup⟩, ?_, by simpa using remaining⟩
    exact List.cons_subset.2 ⟨member, fun i mem => List.mem_of_mem_erase (within mem)⟩
  | case3 => cases found
  | case4 => cases found

theorem chain_of_walk {line : Line} {start : Option Nat} {ids : List Nat}
    (walk : Walk line start ids) {left : List Nat} (distinct : left.Nodup) (nodup : ids.Nodup)
    (within : ids ⊆ left) :
    ∃ rest, line.chain left start = .ok (ids, rest) ∧ rest.1 = left.diff ids := by
  induction walk generalizing left with
  | stop => exact ⟨⟨left, Nat.le_refl _⟩, by rw [chain], rfl⟩
  | @step id ids _ ih =>
    obtain ⟨fresh, nodup⟩ := List.nodup_cons.1 nodup
    obtain ⟨member, within⟩ := List.cons_subset.1 within
    have inside : ids ⊆ left.erase id := fun i mem =>
      distinct.mem_erase_iff.2 ⟨fun same => fresh (same ▸ mem), within mem⟩
    obtain ⟨rest, found, remaining⟩ := ih (distinct.erase id) nodup inside
    rw [chain, dif_pos member, found]
    exact ⟨_, rfl, by simpa using remaining⟩

/-! ## The stages of a line -/

theorem stagesFrom_ok {line : Line} {left : List Nat} {start : Option Nat}
    {stages : List (List Nat)} (distinct : left.Nodup)
    (found : line.stagesFrom left start = .ok stages) :
    Tour line start stages ∧ stages.flatten.Nodup ∧ stages.flatten ⊆ left := by
  fun_induction stagesFrom line left start generalizing stages with
  | case1 left =>
    cases found
    exact ⟨.stop, List.nodup_nil, List.nil_subset _⟩
  | case2 left id member words after eq ih =>
    obtain ⟨walk, nodup, within, remaining⟩ := chain_ok (distinct.erase id) eq
    cases later : line.stagesFrom after.1 (line.node id).nextStage with
    | error fault => simp [later, Except.map] at found
    | ok others =>
      simp only [later, Except.map, Except.ok.injEq] at found
      subst found
      obtain ⟨tour, apart, inside⟩ := ih (remaining ▸ (distinct.erase id).diff) later
      rw [remaining] at inside
      have off : ∀ i ∈ others.flatten, i ∈ left ∧ i ≠ id ∧ i ∉ words := by
        intro i mem
        obtain ⟨here, out⟩ := (distinct.erase id).mem_sdiff_iff.1 (inside mem)
        exact ⟨List.mem_of_mem_erase here, (distinct.mem_erase_iff.1 here).1, out⟩
      have fresh : id ∉ words := fun again => (distinct.mem_erase_iff.1 (within again)).1 rfl
      refine ⟨.step walk tour, ?_, ?_⟩
      · rw [List.flatten_cons, List.nodup_append]
        refine ⟨List.nodup_cons.2 ⟨fresh, nodup⟩, apart, ?_⟩
        rintro i mem j other rfl
        rcases List.mem_cons.1 mem with rfl | word
        · exact (off i other).2.1 rfl
        · exact (off i other).2.2 word
      · intro i mem
        rw [List.flatten_cons, List.mem_append, List.mem_cons] at mem
        rcases mem with (rfl | word) | other
        · exact member
        · exact List.mem_of_mem_erase (within word)
        · exact (off i other).1
  | case3 => cases found
  | case4 => cases found

theorem stagesFrom_of_tour {line : Line} {start : Option Nat} {stages : List (List Nat)}
    (tour : Tour line start stages) {left : List Nat} (distinct : left.Nodup)
    (nodup : stages.flatten.Nodup) (within : stages.flatten ⊆ left) :
    line.stagesFrom left start = .ok stages := by
  induction tour generalizing left with
  | stop => rw [stagesFrom]
  | @step id ids stages words _ ih =>
    rw [List.flatten_cons, List.cons_append, List.nodup_cons] at nodup
    rw [List.flatten_cons, List.cons_append, List.cons_subset] at within
    obtain ⟨fresh, nodup⟩ := nodup
    obtain ⟨member, within⟩ := within
    obtain ⟨chainNodup, apart, disjoint⟩ := List.nodup_append.1 nodup
    have inside : ids ++ stages.flatten ⊆ left.erase id := fun i mem =>
      distinct.mem_erase_iff.2 ⟨fun same => fresh (same ▸ mem), within mem⟩
    obtain ⟨rest, found, remaining⟩ := chain_of_walk words (distinct.erase id) chainNodup
      fun i mem => inside (List.mem_append_left _ mem)
    have later : stages.flatten ⊆ rest.1 := fun i mem =>
      remaining ▸ (distinct.erase id).mem_sdiff_iff.2
        ⟨inside (List.mem_append_right _ mem), fun word => disjoint i word i mem rfl⟩
    rw [stagesFrom, dif_pos member, found]
    simp only
    rw [ih (remaining ▸ (distinct.erase id).diff) apart later]
    rfl

theorem layout_eq_ok {line : Line} {stages : List (List Nat)} :
    line.layout = .ok stages ↔ Tour line line.head stages ∧ stages.flatten.Nodup ∧
      ∀ id ∈ stages.flatten, id < line.nodes.size := by
  constructor
  · intro found
    obtain ⟨tour, nodup, within⟩ := stagesFrom_ok List.nodup_range found
    exact ⟨tour, nodup, fun id mem => List.mem_range.1 (within mem)⟩
  · rintro ⟨tour, nodup, bound⟩
    exact stagesFrom_of_tour tour List.nodup_range nodup
      fun id mem => List.mem_range.2 (bound id mem)

end PipeShell.Line
