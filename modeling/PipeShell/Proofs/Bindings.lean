import Mathlib.Data.Finset.Card
import Mathlib.Data.List.DropRight
import Mathlib.Data.String.Basic
import PipeShell.Builtins

/-!
# What shell variables are bound to

After any changes a table holds for each name what was put last under it since the table was last
cleared, and nothing else (`Symbols.holds_after`). So the names that it holds can be counted and gone
through one by one, and `set` lists them in an order in which the changes that led there can no longer
be seen (`Symbols.after_law`).
-/

namespace PipeShell

namespace Symbols

/-! ## Single changes -/

inductive Change where
  | update (name value : String)
  | clear
deriving DecidableEq

namespace Change

def apply (table : Symbols) : Change → Symbols
  | update name value => table.update name value
  | clear => table.clear

def binding? : Change → Option (String × String)
  | update name value => some (name, value)
  | clear => none

end Change

def latest (puts : List (String × String)) (name : String) : Option String :=
  (puts.filter (·.1 = name)).getLast?.map Prod.snd

variable {table : Symbols} {puts bindings : List (String × String)} {name value n v : String}

theorem latest_concat :
    latest (puts ++ [(n, v)]) name = if n = name then some v else latest puts name := by
  unfold latest
  by_cases same : n = name <;> simp [same, List.filter_append]

theorem mem_names_of_latest :
    name ∈ puts.map Prod.fst ↔ ∃ value, latest puts name = some value := by
  rw [← Option.isSome_iff_exists]
  simp [latest]

theorem mem_put (nodup : (bindings.map Prod.fst).Nodup) :
    (name, value) ∈ put n v bindings ↔
      if n = name then v = value else (name, value) ∈ bindings := by
  induction bindings with
  | nil => by_cases same : n = name <;> simp [put, same, Ne.symm, eq_comm]
  | cons b rest ih =>
    obtain ⟨m, w⟩ := b
    obtain ⟨fresh, nodup⟩ := List.nodup_cons.1 nodup
    have absent : (m, value) ∉ rest := fun member => fresh (List.mem_map.2 ⟨_, member, rfl⟩)
    unfold put
    by_cases here : m = n
    · subst here
      by_cases same : m = name
      · subst same
        simp [absent, eq_comm]
      · simp [same, Ne.symm same]
    · rw [if_neg here, List.mem_cons, ih nodup]
      by_cases same : n = name
      · subst same
        simp [Ne.symm here]
      · simp [same]

theorem lookup_eq_some (nodup : (bindings.map Prod.fst).Nodup) :
    bindings.lookup name = some value ↔ (name, value) ∈ bindings := by
  induction bindings with
  | nil => simp
  | cons b rest ih =>
    obtain ⟨m, w⟩ := b
    obtain ⟨fresh, nodup⟩ := List.nodup_cons.1 nodup
    have absent : (m, value) ∉ rest := fun member => fresh (List.mem_map.2 ⟨_, member, rfl⟩)
    by_cases same : name = m
    · subst same
      simp [absent, eq_comm]
    · have other : (name == m) = false := by simpa using same
      simp [List.lookup_cons, other, same, ih nodup]

/-! ## A change after another -/

/-- A table holds what was put into it, under each name the last value. -/
def Holds (table : Symbols) (puts : List (String × String)) : Prop :=
  ∀ name value, (name, value) ∈ table.bindings ↔ latest puts name = some value

theorem holds_empty : empty.Holds [] := by simp [Holds, empty, latest]

theorem Holds.update (holds : table.Holds puts) (n v : String) :
    (table.update n v).Holds (puts ++ [(n, v)]) := by
  intro name value
  rw [Symbols.update, mem_put table.nodup, latest_concat, holds name value]
  split <;> simp

def after (changes : List Change) : Symbols := changes.foldl Change.apply empty

def since (changes : List Change) : List (String × String) :=
  (changes.rtakeWhile (· ≠ .clear)).filterMap Change.binding?

theorem holds_after (changes : List Change) : (after changes).Holds (since changes) := by
  induction changes using List.reverseRecOn with
  | nil => exact holds_empty
  | append_singleton changes change ih =>
    rw [after, List.foldl_concat]
    -- A clearing ends what is counted, so that the last change is the one to go by.
    cases change with
    | update n v =>
      have put : since (changes ++ [.update n v]) = since changes ++ [(n, v)] := by
        simp [since, Change.binding?]
      rw [put]
      exact ih.update n v
    | clear =>
      have cleared : since (changes ++ [.clear]) = [] := by simp [since]
      rw [cleared]
      exact holds_empty

namespace Holds

theorem lookup (holds : table.Holds puts) (name : String) :
    table.lookup name = (latest puts name).getD "" := by
  have found : table.bindings.lookup name = latest puts name := by
    ext value
    rw [lookup_eq_some table.nodup, holds name value]
  rw [Symbols.lookup, found]

theorem count (holds : table.Holds puts) :
    table.count = (puts.map Prod.fst).toFinset.card := by
  have same : (table.bindings.map Prod.fst).toFinset = (puts.map Prod.fst).toFinset := by
    ext name
    have held : name ∈ table.bindings.map Prod.fst ↔ ∃ value, latest puts name = some value := by
      simp [← holds name]
    rw [List.mem_toFinset, List.mem_toFinset, held, mem_names_of_latest]
  rw [← same, List.toFinset_card_of_nodup table.nodup, List.length_map, Symbols.count]

end Holds

/-! ## Listings -/

theorem sorted_perm (table : Symbols) : table.sorted.Perm table.bindings := List.mergeSort_perm ..

theorem sort_sorted (order : List (String × String)) :
    (order.mergeSort fun a b => a.1 ≤ b.1).Pairwise (fun a b => a.1 ≤ b.1) := by
  have sorts := @List.pairwise_mergeSort _ (fun a b : String × String => decide (a.1 ≤ b.1))
    (fun a b c => by simpa using le_trans) (fun a b => by simpa using le_total a.1 b.1) order
  simpa using sorts

theorem increasing_of_perm {lines : List (String × String)} (perm : lines.Perm table.bindings)
    (ordered : lines.Pairwise fun a b => a.1 ≤ b.1) : lines.Pairwise fun a b => a.1 < b.1 := by
  have nodup : (lines.map Prod.fst).Nodup := (perm.map Prod.fst).nodup_iff.2 table.nodup
  exact (ordered.and (List.pairwise_map.1 nodup)).imp fun ⟨le, ne⟩ => lt_of_le_of_ne le ne

theorem sorted_increasing (table : Symbols) : table.sorted.Pairwise (fun a b => a.1 < b.1) :=
  increasing_of_perm table.sorted_perm (sort_sorted table.bindings)

theorem eq_sorted {lines : List (String × String)} (perm : lines.Perm table.bindings)
    (increasing : lines.Pairwise fun a b => a.1 < b.1) : lines = table.sorted :=
  (perm.trans table.sorted_perm.symm).eq_of_pairwise
    (fun _ _ _ _ below above => absurd below (lt_asymm above)) increasing table.sorted_increasing

theorem sort_eq_sorted {order : List (String × String)} (perm : order.Perm table.bindings) :
    order.mergeSort (fun a b => a.1 ≤ b.1) = table.sorted := by
  have sorts : (order.mergeSort fun a b => a.1 ≤ b.1).Perm table.bindings :=
    (List.mergeSort_perm ..).trans perm
  exact eq_sorted sorts (increasing_of_perm sorts (sort_sorted order))

theorem sorted_congr {table' : Symbols} (same : ∀ b, b ∈ table'.bindings ↔ b ∈ table.bindings) :
    table'.sorted = table.sorted := by
  have perm : table'.bindings.Perm table.bindings :=
    (List.perm_ext_iff_of_nodup (table'.nodup.of_map _) (table.nodup.of_map _)).2 same
  exact eq_sorted (table'.sorted_perm.trans perm) table'.sorted_increasing

theorem after_law (changes : List Change) (s : Surroundings) :
    (∀ name, (after changes).lookup name = (latest (since changes) name).getD "") ∧
      (after changes).count = ((since changes).map Prod.fst).toFinset.card ∧
      ((after changes).bindings.map Prod.fst).Nodup ∧
      (∀ name value, (name, value) ∈ (after changes).bindings ↔
        latest (since changes) name = some value) ∧
      (∃ lines : List (String × String), lines.Perm (after changes).bindings ∧
        lines.Pairwise (fun a b => a.1 < b.1) ∧
        (Builtin.set.act [] { s with symbols := after changes }).texts =
          lines.map (fun (name, value) => name ++ " " ++ value ++ "\n") ∧
        ∀ order : List (String × String), order.Perm (after changes).bindings →
          order.mergeSort (fun a b => a.1 ≤ b.1) = lines) ∧
      ∀ (others : List Change) (t : Surroundings),
        (∀ b, b ∈ (after others).bindings ↔ b ∈ (after changes).bindings) →
          (Builtin.set.act [] { t with symbols := after others }).texts =
            (Builtin.set.act [] { s with symbols := after changes }).texts := by
  have holds := holds_after changes
  refine ⟨holds.lookup, holds.count, (after changes).nodup, holds, ?_, fun others t same => ?_⟩
  · exact ⟨_, (after changes).sorted_perm, (after changes).sorted_increasing, rfl,
      fun _ => sort_eq_sorted⟩
  · change Builtin.listing (after others) = Builtin.listing (after changes)
    rw [Builtin.listing, sorted_congr same, Builtin.listing]

end Symbols
end PipeShell
