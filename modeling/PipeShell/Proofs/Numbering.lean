import Mathlib.Data.Nat.Init
import Mathlib.Order.Bounds.Defs
import PipeShell.Host.Scripted
import PipeShell.Proofs.Reporting

/-!
# The numbers of jobs

Over any run of calls the jobs of a table have different numbers, and a new job gets the least number
that none of them has. The search for it goes up from one and ends, since no two jobs can keep it from
going on at the same number. A number is given again only after its job was handed out
(`JobRun.numbers`).
-/

namespace PipeShell

/-! ## Tables -/

namespace JobTable

/-- The search for a free number goes on to the next number as long as some job has this one. -/
inductive Seeks (table : JobTable) : Nat → Nat → Prop
  | free {i : Nat} (free : ∀ job ∈ table.jobs, job.index ≠ i) : Seeks table i i
  | taken {i j : Nat} {job : Job} (member : job ∈ table.jobs) (same : job.index = i)
      (further : Seeks table (i + 1) j) : Seeks table i j

structure Numbered (table : JobTable) : Prop where
  positive : ∀ job ∈ table.jobs, 0 < job.index
  distinct : (table.jobs.map Job.index).Nodup

variable {table : JobTable}

theorem find?_freeIndex (table : JobTable) :
    (List.range' 1 (table.jobs.length + 1)).find? (fun i => table.jobs.all (·.index ≠ i)) =
      some table.freeIndex := by
  -- there are more candidates than jobs
  have free : ∃ i ∈ List.range' 1 (table.jobs.length + 1), ∀ job ∈ table.jobs, job.index ≠ i := by
    by_contra taken
    have within : List.range' 1 (table.jobs.length + 1) ⊆ table.jobs.map Job.index := by
      intro i member
      by_contra other
      exact taken ⟨i, member, fun job mem same => other (List.mem_map.2 ⟨job, mem, same⟩)⟩
    have nodup : (List.range' 1 (table.jobs.length + 1)).Nodup := List.nodup_range'
    have short := nodup.length_le_of_subset within
    rw [List.length_range', List.length_map] at short
    omega
  obtain ⟨i, member, free⟩ := free
  have found : ∃ i, (List.range' 1 (table.jobs.length + 1)).find?
      (fun i => table.jobs.all (·.index ≠ i)) = some i :=
    Option.isSome_iff_exists.1 (List.find?_isSome.2 ⟨i, member, by simpa using free⟩)
  obtain ⟨i, found⟩ := found
  rw [freeIndex, found, Option.getD_some]

theorem freeIndex_free (table : JobTable) : ∀ job ∈ table.jobs, job.index ≠ table.freeIndex := by
  simpa using List.find?_some table.find?_freeIndex

theorem freeIndex_mem (table : JobTable) :
    table.freeIndex ∈ List.range' 1 (table.jobs.length + 1) :=
  (List.find?_range'_eq_some.1 table.find?_freeIndex).2.1

theorem taken_below {i : Nat} (positive : 0 < i) (below : i < table.freeIndex) :
    ∃ job ∈ table.jobs, job.index = i := by
  simpa using (List.find?_range'_eq_some.1 table.find?_freeIndex).2.2 i positive below

theorem freeIndex_isLeast (table : JobTable) :
    IsLeast {i | 0 < i ∧ ∀ job ∈ table.jobs, job.index ≠ i} table.freeIndex := by
  refine ⟨⟨(List.mem_range'_1.1 table.freeIndex_mem).1, table.freeIndex_free⟩, ?_⟩
  rintro i ⟨positive, free⟩
  by_contra below
  obtain ⟨job, member, same⟩ := taken_below positive (Nat.lt_of_not_le below)
  exact free job member same

theorem seeks_freeIndex {i : Nat} (positive : 0 < i) (upTo : i ≤ table.freeIndex) :
    table.Seeks i table.freeIndex := by
  induction upTo using Nat.decreasingInduction with
  | self => exact .free table.freeIndex_free
  | of_succ i below ih =>
    obtain ⟨job, member, same⟩ := taken_below positive below
    exact .taken member same (ih (Nat.succ_pos i))

theorem Seeks.unique {i j j' : Nat} (seeks : table.Seeks i j) (other : table.Seeks i j') :
    j = j' := by
  induction seeks with
  | free free =>
    cases other with
    | free => rfl
    | taken member same => exact absurd same (free _ member)
  | taken member same _ ih =>
    cases other with
    | free free => exact absurd same (free _ member)
    | taken _ _ further => exact ih further

theorem seeks_iff (table : JobTable) (i : Nat) : table.Seeks 1 i ↔ i = table.freeIndex := by
  have seeks : table.Seeks 1 table.freeIndex :=
    seeks_freeIndex Nat.one_pos (List.mem_range'_1.1 table.freeIndex_mem).1
  exact ⟨fun other => other.unique seeks, fun same => same ▸ seeks⟩

theorem filter_add_self (table : JobTable) (pids : List Pid) (command : String)
    (known : Option Int) : (table.add pids command known).2.jobs.filter (·.index = table.freeIndex) =
      [⟨table.freeIndex, pids.map ({ pid := · }), command, known⟩] := by
  rw [jobs_add, List.filter_append, List.filter_eq_nil_iff.2, List.nil_append]
  · simp
  · simpa using table.freeIndex_free

theorem filter_add_of_ne {i : Nat} (table : JobTable) (other : i ≠ table.freeIndex)
    (pids : List Pid) (command : String) (known : Option Int) :
    (table.add pids command known).2.jobs.filter (·.index = i) = table.jobs.filter (·.index = i) := by
  simp [jobs_add, other.symm]

theorem Numbered.add (numbered : table.Numbered) (pids : List Pid) (command : String)
    (known : Option Int) : (table.add pids command known).2.Numbered where
  positive := by
    intro job member
    rw [jobs_add, List.mem_append, List.mem_singleton] at member
    rcases member with old | rfl
    · exact numbered.positive job old
    · exact table.freeIndex_isLeast.1.1
  distinct := by
    rw [jobs_add, List.map_append, List.map_singleton, List.nodup_append]
    refine ⟨numbered.distinct, List.nodup_singleton _, ?_⟩
    rintro i taken j new rfl
    obtain ⟨job, member, rfl⟩ := List.mem_map.1 taken
    exact table.freeIndex_free job member (List.mem_singleton.1 new)

end JobTable

/-! ## Asking -/

namespace Job

def asAdded (job : Job) : Job := { job with members := job.pids.map ({ pid := · }) }

theorem index_asAdded (job : Job) : job.asAdded.index = job.index := rfl

theorem asAdded_told (answers : Nat → PollAnswer) (job : Job) :
    (job.told answers).asAdded = job.asAdded := by
  have same : (job.told answers).pids = job.pids := calc
    (job.told answers).pids = (job.members.zipIdx.map Prod.fst).map Member.pid := by
      rw [pids, told, Member.allTold, List.map_map, List.map_map]
      rfl
    _ = job.pids := by
      rw [List.zipIdx_map_fst]
      rfl
  rw [asAdded, asAdded, same]
  rfl

theorem asAdded_askAll {σ : Type} (watch : Watch σ) (jobs : List Job) (s : σ) :
    (askAll watch jobs s).1.map asAdded = jobs.map asAdded := by
  induction jobs generalizing s with
  | nil => rfl
  | cons job jobs ih =>
    obtain ⟨answers, told, -⟩ := job.ask_noting watch s []
    rw [askAll, List.map_cons, List.map_cons, told, asAdded_told, ih]

end Job

namespace JobTable
variable {σ : Type} {table : JobTable}

theorem reap_perm (watch : Watch σ) (table : JobTable) (s : σ) :
    (((table.reap watch s).1 ++ (table.reap watch s).2.1.jobs).map Job.asAdded).Perm
      (table.jobs.map Job.asAdded) := by
  rw [← Job.asAdded_askAll watch table.jobs s]
  exact (List.filter_append_perm Job.isOver _).map _

theorem reap_sublist (watch : Watch σ) (table : JobTable) (s : σ) :
    ((table.reap watch s).2.1.jobs.map Job.asAdded).Sublist (table.jobs.map Job.asAdded) := by
  rw [← Job.asAdded_askAll watch table.jobs s]
  exact List.filter_sublist.map _

theorem Numbered.reap (numbered : table.Numbered) (watch : Watch σ) (s : σ) :
    (table.reap watch s).2.1.Numbered := by
  have kept : ((table.reap watch s).2.1.jobs.map Job.index).Sublist (table.jobs.map Job.index) := by
    simpa [Function.comp_def, Job.index_asAdded] using
      (table.reap_sublist watch s).map Job.index
  refine ⟨fun job member => ?_, numbered.distinct.sublist kept⟩
  obtain ⟨old, before, same⟩ := List.mem_map.1 (kept.subset (List.mem_map_of_mem member))
  exact same ▸ numbered.positive old before

def Keeps (table : JobTable) (job : Job) : Prop :=
  (table.jobs.filter (·.index = job.index)).map Job.asAdded = [job]

theorem Keeps.taken {job : Job} (keeps : table.Keeps job) : job.index ≠ table.freeIndex := by
  obtain ⟨old, only, same⟩ := List.map_eq_singleton_iff.1 keeps
  obtain ⟨member, -⟩ := List.mem_filter.1 (only ▸ List.mem_singleton_self old)
  rw [← same, Job.index_asAdded]
  exact table.freeIndex_free old member

theorem Keeps.add {job : Job} (keeps : table.Keeps job) (pids : List Pid) (command : String)
    (known : Option Int) : (table.add pids command known).2.Keeps job := by
  rw [Keeps, table.filter_add_of_ne keeps.taken]
  exact keeps

theorem keeps_add (table : JobTable) (pids : List Pid) (command : String) (known : Option Int) :
    (table.add pids command known).2.Keeps
      ⟨table.freeIndex, pids.map ({ pid := · }), command, known⟩ := by
  rw [Keeps, table.filter_add_self, List.map_singleton, Job.asAdded, Job.pids_new]

theorem Keeps.reap {job : Job} (keeps : table.Keeps job) (watch : Watch σ) (s : σ) :
    (table.reap watch s).2.1.Keeps job ∨ job ∈ (table.reap watch s).1.map Job.asAdded := by
  have filter (jobs : List Job) : (jobs.filter (·.index = job.index)).map Job.asAdded =
      (jobs.map Job.asAdded).filter (·.index = job.index) := by
    rw [List.filter_map]
    rfl
  have divided := (table.reap_perm watch s).filter (·.index = job.index)
  rw [← filter table.jobs, keeps, List.map_append, List.filter_append] at divided
  -- Of the two lists one has the job, and the other none of its number.
  rcases List.append_eq_singleton_iff.1 (List.perm_singleton.1 divided) with
    ⟨-, kept⟩ | ⟨handedOut, -⟩
  · exact .inl ((filter _).trans kept)
  · refine .inr (List.mem_of_mem_filter (p := (·.index = job.index)) ?_)
    rw [handedOut]
    exact List.mem_singleton_self job

end JobTable

/-! ## Runs -/

namespace JobRun
variable {σ : Type} {calls : List (JobCall σ)}

theorem tableAt_rest {n : Nat} (beyond : calls[n]? = none) : tableAt calls (n + 1) = tableAt calls n := by
  rw [tableAt, List.take_add_one, beyond]
  simp [tableAt]

theorem numbered_tableAt (calls : List (JobCall σ)) (n : Nat) : (tableAt calls n).Numbered := by
  induction n with
  | zero => exact ⟨by simp [tableAt], by simp [tableAt]⟩
  | succ n ih =>
    rcases call : calls[n]? with _ | (⟨pids, command, known⟩ | ⟨watch, state⟩)
    · rw [tableAt_rest call]
      exact ih
    · rw [tableAt_succ call]
      exact ih.add pids command known
    · rw [tableAt_succ call]
      exact ih.reap watch state

def HandedOut (calls : List (JobCall σ)) (job : Job) (k n : Nat) : Prop :=
  ∃ r watch state, k < r ∧ r < n ∧ calls[r]? = some (.reap watch state) ∧
    (∀ m, k < m → m ≤ r → (tableAt calls m).Keeps job) ∧
    job ∈ ((tableAt calls r).reap watch state).1.map Job.asAdded

theorem keeps_or_handedOut {k : Nat} {pids : List Pid} {command : String} {known : Option Int}
    (call : calls[k]? = some (.add pids command known)) {n : Nat} (behind : k < n) :
    let job : Job := ⟨(tableAt calls k).freeIndex, pids.map ({ pid := · }), command, known⟩
    (∀ m, k < m → m ≤ n → (tableAt calls m).Keeps job) ∨ HandedOut calls job k n := by
  intro job
  induction n, behind using Nat.le_induction with
  | base =>
    refine .inl fun m after upTo => ?_
    obtain rfl : m = k + 1 := Nat.le_antisymm upTo after
    rw [tableAt_succ call]
    exact (tableAt calls k).keeps_add pids command known
  | succ n behind ih =>
    rcases ih with keeps | ⟨r, watch, state, after, before, found⟩
    · have last := keeps n behind (Nat.le_refl n)
      have extend (next : (tableAt calls (n + 1)).Keeps job) :
          ∀ m, k < m → m ≤ n + 1 → (tableAt calls m).Keeps job := by
        intro m after upTo
        rcases Nat.le_succ_iff.1 upTo with before | rfl
        · exact keeps m after before
        · exact next
      rcases later : calls[n]? with _ | (⟨pids, command, known⟩ | ⟨watch, state⟩)
      · exact .inl (extend (by rwa [tableAt_rest later]))
      · exact .inl (extend (by rw [tableAt_succ later]; exact last.add pids command known))
      · rcases last.reap watch state with kept | out
        · exact .inl (extend (by rw [tableAt_succ later]; exact kept))
        · exact .inr ⟨n, watch, state, behind, Nat.lt_succ_self n, later, keeps, out⟩
    · exact .inr ⟨r, watch, state, after, Nat.lt_succ_of_lt before, found⟩

structure Numbers (calls : List (JobCall σ)) (n : Nat) : Prop where
  numbered : (tableAt calls n).Numbered
  least : ∀ pids command known,
    IsLeast {i | 0 < i ∧ ∀ job ∈ (tableAt calls n).jobs, job.index ≠ i}
      ((tableAt calls n).add pids command known).1
  bound : ∀ pids command known,
    ((tableAt calls n).add pids command known).1 ≤ (tableAt calls n).jobs.length + 1
  search : ∀ pids command known i,
    (tableAt calls n).Seeks 1 i ↔ i = ((tableAt calls n).add pids command known).1
  added : ∀ pids command known,
    ((tableAt calls n).add pids command known).2.jobs = (tableAt calls n).jobs ++
      [⟨((tableAt calls n).add pids command known).1, pids.map ({ pid := · }), command, known⟩]
  reused : ∀ k < n, ∀ pids command known, calls[k]? = some (.add pids command known) →
    ∀ pids' command' known', ((tableAt calls n).add pids' command' known').1 =
        ((tableAt calls k).add pids command known).1 →
      HandedOut calls ⟨((tableAt calls k).add pids command known).1, pids.map ({ pid := · }),
        command, known⟩ k n

/-- Over any run of calls, whatever the table is told: its jobs have different positive numbers, the
search for a free number ends with the least one, and a number is given again only when the job that
had it was handed out. -/
theorem numbers (calls : List (JobCall σ)) (n : Nat) : Numbers calls n where
  numbered := numbered_tableAt calls n
  least _ _ _ := (tableAt calls n).freeIndex_isLeast
  bound _ _ _ := by
    have within := List.mem_range'_1.1 (tableAt calls n).freeIndex_mem
    rw [JobTable.add]
    omega
  search _ _ _ := (tableAt calls n).seeks_iff
  added _ _ _ := rfl
  reused k behind pids command known call _ _ _ same :=
    (keeps_or_handedOut call behind).resolve_left fun keeps =>
      (keeps n behind (Nat.le_refl n)).taken same.symm

example :
    let first := JobTable.add {} [10] "a" none
    let second := first.2.add [11] "b" none
    let sheet : AnswerSheet := { answers := [(10, [.ok (some 0)]), (11, [.ok none])] }
    let (reported, left, _) := second.2.reap AnswerSheet.watch sheet
    (first.1, second.1) = (1, 2) ∧ reported.map Job.index = [1] ∧
      (left.add [12] "c" none).1 = 1 := by
  decide

end JobRun
end PipeShell
