import PipeShell.Proofs.Accounting

/-!
# Reporting jobs

What a job table hands out over any run of calls, whatever it is told when it asks. A call has a place
in its run, and a job has the place of the call that added it. The answers of a run are given by the
place of the asking call, the place of the job and the number of the process in its job, so that each
process of a job counts for itself even where two have one number (`JobRun.reports`).
-/

namespace PipeShell

abbrev PollAnswer := Except Fault (Option Int)

/-! ## Asking and noting -/

def Watch.noting {σ : Type} (watch : Watch σ) : Watch (σ × List (Pid × PollAnswer)) where
  ask pid at' :=
    let (answer, s) := watch.ask pid at'.1
    (answer, s, at'.2 ++ [(pid, answer)])
  tell n at' := (watch.tell n at'.1, at'.2)

def Member.told (answer : PollAnswer) (m : Member) : Member :=
  { m with ending := m.ending.or (Ending.ofAnswer answer) }

namespace Member
variable {σ : Type} (watch : Watch σ)

def allTold (answers : Nat → PollAnswer) (ms : List Member) : List Member :=
  ms.zipIdx.map fun e => e.1.told (answers e.2)

def polls (answers : Nat → PollAnswer) (ms : List Member) : List (Pid × PollAnswer) :=
  (ms.zipIdx.filter (·.1.ending.isNone)).map fun e => (e.1.pid, answers e.2)

theorem allTold_cons (answers : Nat → PollAnswer) (m : Member) (ms : List Member) :
    allTold answers (m :: ms) = m.told (answers 0) :: allTold (fun i => answers (i + 1)) ms := by
  rw [allTold, List.zipIdx_cons', List.map_cons, List.map_map]
  rfl

theorem polls_cons (answers : Nat → PollAnswer) (m : Member) (ms : List Member) :
    polls answers (m :: ms) =
      (if m.ending.isNone then [(m.pid, answers 0)] else []) ++
        polls (fun i => answers (i + 1)) ms := by
  rw [polls, List.zipIdx_cons', List.filter_cons, List.filter_map]
  cases m.ending.isNone with
  | false =>
    rw [if_neg Bool.false_ne_true, if_neg Bool.false_ne_true, List.map_map]
    rfl
  | true =>
    rw [if_pos rfl, if_pos rfl, List.map_cons, List.map_map]
    rfl

theorem ask_noting (m : Member) (s : σ) (noted : List (Pid × PollAnswer)) :
    ∃ answer, (m.ask watch s).1 = m.told answer ∧
      m.ask watch.noting (s, noted) = ((m.ask watch s).1, (m.ask watch s).2,
        noted ++ if m.ending.isNone then [(m.pid, answer)] else []) := by
  obtain ⟨pid, ending⟩ := m
  cases ending with
  | some known => exact ⟨.ok none, rfl, by simp [ask]⟩
  | none =>
    refine ⟨(watch.ask pid s).1, ?_⟩
    rcases answered : watch.ask pid s with ⟨cause | (_ | code), s'⟩ <;>
      simp [ask, told, Watch.noting, Ending.ofAnswer, answered]

theorem askAll_noting (ms : List Member) (s : σ) (noted : List (Pid × PollAnswer)) :
    ∃ answers, (askAll watch ms s).1 = allTold answers ms ∧
      askAll watch.noting ms (s, noted) =
        ((askAll watch ms s).1, (askAll watch ms s).2, noted ++ polls answers ms) := by
  induction ms generalizing s noted with
  | nil => exact ⟨fun _ => .ok none, rfl, by simp [askAll, polls]⟩
  | cons m ms ih =>
    obtain ⟨answer, told, here⟩ := m.ask_noting watch s noted
    obtain ⟨answers, rest, later⟩ := ih (m.ask watch s).2
      (noted ++ if m.ending.isNone then [(m.pid, answer)] else [])
    let all : Nat → PollAnswer := fun i => i.casesOn answer answers
    have known : allTold all (m :: ms) = m.told answer :: allTold answers ms := allTold_cons all m ms
    have asked : polls all (m :: ms) =
        (if m.ending.isNone then [(m.pid, answer)] else []) ++ polls answers ms :=
      polls_cons all m ms
    refine ⟨all, ?_, ?_⟩
    · rw [known, ← told, ← rest]
      rfl
    · rw [asked, ← List.append_assoc]
      simp only [askAll, here, later]

end Member

namespace Job
variable {σ : Type} (watch : Watch σ)

def told (answers : Nat → PollAnswer) (job : Job) : Job :=
  { job with members := Member.allTold answers job.members }

def polls (answers : Nat → PollAnswer) (job : Job) : List (Pid × PollAnswer) :=
  Member.polls answers job.members

theorem ask_noting (job : Job) (s : σ) (noted : List (Pid × PollAnswer)) :
    ∃ answers, (job.ask watch s).1 = job.told answers ∧
      job.ask watch.noting (s, noted) =
        ((job.ask watch s).1, (job.ask watch s).2, noted ++ job.polls answers) := by
  obtain ⟨answers, told, polls⟩ := Member.askAll_noting watch job.members s noted
  refine ⟨answers, ?_, ?_⟩
  · rw [Job.told, ← told]
    rfl
  · rw [Job.ask, polls]
    rfl

theorem askAll_noting {keys : List Nat} (nodup : keys.Nodup) (find : Nat → Option Job) (s : σ)
    (noted : List (Pid × PollAnswer)) :
    ∃ answers : Nat → Nat → PollAnswer,
      (askAll watch (keys.filterMap find) s).1 =
        keys.filterMap (fun k => (find k).map (Job.told (answers k))) ∧
      askAll watch.noting (keys.filterMap find) (s, noted) =
        ((askAll watch (keys.filterMap find) s).1, (askAll watch (keys.filterMap find) s).2,
          noted ++ keys.flatMap fun k => (find k).toList.flatMap (Job.polls (answers k))) := by
  -- No key comes twice, so the answers for the first job do not disturb those for the others.
  induction keys generalizing s noted with
  | nil => exact ⟨fun _ _ => .ok none, rfl, by simp [askAll]⟩
  | cons key keys ih =>
    obtain ⟨fresh, nodup⟩ := List.nodup_cons.1 nodup
    cases found : find key with
    | none =>
      obtain ⟨answers, told, polls⟩ := ih nodup s noted
      refine ⟨answers, ?_, ?_⟩
      · simpa [found] using told
      · simpa [found] using polls
    | some job =>
      obtain ⟨here, told, first⟩ := job.ask_noting watch s noted
      obtain ⟨answers, rest, later⟩ := ih nodup (job.ask watch s).2 (noted ++ job.polls here)
      have other : ∀ k ∈ keys, Function.update answers key here k = answers k := fun k member =>
        Function.update_of_ne (ne_of_mem_of_not_mem member fresh) here answers
      have same : keys.filterMap (fun k =>
            (find k).map (Job.told (Function.update answers key here k))) =
          keys.filterMap fun k => (find k).map (Job.told (answers k)) :=
        List.filterMap_congr fun k member => by rw [other k member]
      have asked : (keys.flatMap fun k =>
            (find k).toList.flatMap (Job.polls (Function.update answers key here k))) =
          keys.flatMap fun k => (find k).toList.flatMap (Job.polls (answers k)) :=
        List.flatMap_congr fun k member => by rw [other k member]
      refine ⟨Function.update answers key here, ?_, ?_⟩
      · rw [List.filterMap_cons_some found, List.filterMap_cons_some (by rw [found]; rfl), same,
          Function.update_self, ← told, ← rest]
        rfl
      · rw [List.filterMap_cons_some found, List.flatMap_cons, asked, found, Function.update_self]
        simp only [askAll, first, later, Option.toList_some, List.flatMap_singleton,
          List.append_assoc]

end Job

/-! ## Runs of calls -/

/-- A call of a job table. Each time that it asks, the answers may be any. -/
inductive JobCall (σ : Type) where
  | add (pids : List Pid) (command : String) (known : Option Int)
  | reap (watch : Watch σ) (state : σ)

namespace JobCall
variable {σ : Type}

def isReap : JobCall σ → Bool
  | add .. => false
  | reap .. => true

def pids : JobCall σ → List Pid
  | add pids _ _ => pids
  | reap .. => []

def serve (table : JobTable) : JobCall σ → JobTable
  | add pids command known => (table.add pids command known).2
  | reap watch state => (table.reap watch state).2.1

end JobCall

namespace JobRun
variable {σ : Type} (calls : List (JobCall σ)) (answers : Nat → Nat → Nat → PollAnswer)

def tableAt (n : Nat) : JobTable := (calls.take n).foldl JobCall.serve {}

def isReap (n : Nat) : Bool := calls[n]?.any JobCall.isReap

def pids (k : Nat) : List Pid := (calls[k]?.map JobCall.pids).getD []

def reaps (k n : Nat) : List Nat := (List.range n).filter fun r => k < r && isReap calls r

def verdict (k i n : Nat) : Option Ending :=
  (reaps calls k n).findSome? fun r => Ending.ofAnswer (answers r k i)

def settled (k n : Nat) : Bool :=
  (pids calls k).zipIdx.all fun e => (verdict calls answers k e.2 n).isSome

def isOver (k n : Nat) : Bool := (reaps calls k n).any fun r => settled calls answers k (r + 1)

def openPlaces (n : Nat) : List Nat := (List.range n).filter fun k => !isOver calls answers k n

def job? (n k : Nat) : Option Job :=
  match calls[k]? with
  | some (.add pids command known) =>
    some ⟨((tableAt calls k).add pids command known).1,
      pids.zipIdx.map fun e => ⟨e.1, verdict calls answers k e.2 n⟩, command, known⟩
  | _ => none

def returnedPlaces (r : Nat) : List Nat :=
  (openPlaces calls answers r).filter (settled calls answers · (r + 1))

/-- What a call that asks does: whom it asks, what it hands out and what it keeps. -/
structure Reaped (r : Nat) (watch : Watch σ) (state : σ) : Prop where
  polls : (tableAt calls r).reap watch.noting (state, []) =
    (((tableAt calls r).reap watch state).1, ((tableAt calls r).reap watch state).2.1,
      ((tableAt calls r).reap watch state).2.2,
      (openPlaces calls answers r).flatMap fun k =>
        ((pids calls k).zipIdx.filter fun e => (verdict calls answers k e.2 r).isNone).map
          fun e => (e.1, answers r k e.2))
  returned : ((tableAt calls r).reap watch state).1 =
    (returnedPlaces calls answers r).filterMap (job? calls answers (r + 1))
  kept : ((tableAt calls r).reap watch state).2.1.jobs =
    ((openPlaces calls answers r).filter (!settled calls answers · (r + 1))).filterMap
      (job? calls answers (r + 1))

def Holds (n : Nat) : Prop :=
  (tableAt calls n).jobs = (openPlaces calls answers n).filterMap (job? calls answers n)

/-! ## The answers before a call -/

section Agreement
variable {calls} {answers} {later : Nat → Nat → Nat → PollAnswer} {n : Nat}

theorem update_agrees (given : Nat → Nat → PollAnswer) :
    ∀ r < n, answers r = Function.update answers n given r := by
  intro r within
  exact (Function.update_of_ne (Nat.ne_of_lt within) given answers).symm

theorem verdict_congr (agree : ∀ r < n, answers r = later r) (k i : Nat) :
    verdict calls answers k i n = verdict calls later k i n := by
  have before : ∀ r ∈ reaps calls k n, Ending.ofAnswer (answers r k i) =
      Ending.ofAnswer (later r k i) := by
    intro r member
    have within : r < n := List.mem_range.1 (List.mem_of_mem_filter member)
    rw [agree r within]
  rw [verdict, verdict, ← List.head?_filterMap, ← List.head?_filterMap, List.filterMap_congr before]

theorem settled_congr (agree : ∀ r < n, answers r = later r) (k : Nat) :
    settled calls answers k n = settled calls later k n :=
  List.all_congr rfl fun i => by rw [verdict_congr agree]

theorem isOver_congr (agree : ∀ r < n, answers r = later r) (k : Nat) :
    isOver calls answers k n = isOver calls later k n := by
  rw [isOver, isOver, Bool.eq_iff_iff, List.any_eq_true, List.any_eq_true]
  refine exists_congr fun r => and_congr_right fun member => ?_
  have within : r < n := List.mem_range.1 (List.mem_of_mem_filter member)
  rw [settled_congr fun q before => agree q (Nat.lt_of_lt_of_le before within)]

theorem openPlaces_congr (agree : ∀ r < n, answers r = later r) :
    openPlaces calls answers n = openPlaces calls later n :=
  List.filter_congr fun k _ => by rw [isOver_congr agree]

theorem job?_congr (agree : ∀ r < n, answers r = later r) :
    job? calls answers n = job? calls later n := by
  funext k
  simp only [job?, verdict_congr agree]

theorem Holds.congr (agree : ∀ r < n, answers r = later r) (holds : Holds calls answers n) :
    Holds calls later n := by
  rwa [Holds, ← openPlaces_congr agree, ← job?_congr agree]

theorem Reaped.congr {watch : Watch σ} {state : σ} (agree : ∀ r < n + 1, answers r = later r)
    (reaped : Reaped calls answers n watch state) : Reaped calls later n watch state := by
  have before : ∀ r < n, answers r = later r := fun r within => agree r (Nat.lt_succ_of_lt within)
  obtain ⟨polls, returned, kept⟩ := reaped
  simp only [openPlaces_congr before, verdict_congr before, agree n (Nat.lt_succ_self n)] at polls
  simp only [returnedPlaces, openPlaces_congr before, settled_congr agree, job?_congr agree]
    at returned kept
  exact ⟨polls, returned, kept⟩

end Agreement

/-! ## One more call -/

section Step
variable {calls} {answers} {k n : Nat}

theorem reaps_add {pids : List Pid} {command : String} {known : Option Int}
    (call : calls[n]? = some (.add pids command known)) (k : Nat) :
    reaps calls k (n + 1) = reaps calls k n := by
  have other : isReap calls n = false := by simp [isReap, call, JobCall.isReap]
  simp [reaps, List.range_succ, other]

theorem reaps_reap {watch : Watch σ} {state : σ} (call : calls[n]? = some (.reap watch state))
    (behind : k < n) : reaps calls k (n + 1) = reaps calls k n ++ [n] := by
  have asks : isReap calls n := by simp [isReap, call, JobCall.isReap]
  simp [reaps, List.range_succ, asks, behind]

theorem verdict_reap {watch : Watch σ} {state : σ} (call : calls[n]? = some (.reap watch state))
    (behind : k < n) (i : Nat) : verdict calls answers k i (n + 1) =
      (verdict calls answers k i n).or (Ending.ofAnswer (answers n k i)) := by
  rw [verdict, reaps_reap call behind, List.findSome?_append, List.findSome?_singleton]
  rfl

theorem isOver_reap {watch : Watch σ} {state : σ} (call : calls[n]? = some (.reap watch state))
    (behind : k < n) : isOver calls answers k (n + 1) =
      (isOver calls answers k n || settled calls answers k (n + 1)) := by
  simp [isOver, reaps_reap call behind]

theorem reaps_self (n : Nat) : reaps calls n n = [] := by
  refine List.filter_eq_nil_iff.2 fun r member => ?_
  have within := List.mem_range.1 member
  simp [Nat.not_lt_of_lt within]

theorem tableAt_succ {call : JobCall σ} (found : calls[n]? = some call) :
    tableAt calls (n + 1) = call.serve (tableAt calls n) := by
  rw [tableAt, List.take_add_one, found, List.foldl_append]
  rfl

theorem job?_reap {watch : Watch σ} {state : σ} (call : calls[n]? = some (.reap watch state))
    (m : Nat) : job? calls answers m n = none := by
  rw [job?, call]

theorem pids_of_call {call : JobCall σ} (found : calls[k]? = some call) :
    pids calls k = call.pids := by
  rw [pids, found]
  rfl

theorem isOver_of_job? {job : Job} (found : job? calls answers n k = some job) :
    job.isOver = settled calls answers k n := by
  unfold job? at found
  split at found
  · rename_i call
    cases found
    rw [Job.isOver, settled, pids_of_call call, List.all_map]
    rfl
  · cases found

theorem filter_job? (places : List Nat) (p : Bool → Bool) :
    (places.filterMap (job? calls answers n)).filter (p ·.isOver) =
      (places.filter (p <| settled calls answers · n)).filterMap (job? calls answers n) := by
  rw [List.filter_filterMap, List.filterMap_filter]
  refine List.filterMap_congr fun k _ => ?_
  cases found : job? calls answers n k with
  | none => simp
  | some job => simp [Option.filter, isOver_of_job? found]

theorem zipIdx_map_zipIdx {α β : Type} (l : List α) (f : α × Nat → β) :
    (l.zipIdx.map f).zipIdx = l.zipIdx.map fun e => (f e, e.2) :=
  List.ext_getElem (by simp) fun i _ _ => by simp

theorem polls_job? (given : Nat → PollAnswer) :
    (job? calls answers n k).toList.flatMap (Job.polls given) =
      ((pids calls k).zipIdx.filter fun e => (verdict calls answers k e.2 n).isNone).map
        fun e => (e.1, given e.2) := by
  unfold job?
  split
  · rename_i call
    rw [pids_of_call call, Option.toList_some, List.flatMap_singleton, Job.polls, Member.polls,
      zipIdx_map_zipIdx, List.filter_map, List.map_map]
    rfl
  · rename_i other
    have unreaped : pids calls k = [] := by
      rcases call : calls[k]? with _ | (_ | _)
      · rw [pids, call]
        rfl
      · exact absurd call (other _ _ _)
      · exact pids_of_call call
    rw [unreaped]
    rfl

theorem job?_told {watch : Watch σ} {state : σ} (call : calls[n]? = some (.reap watch state))
    (behind : k < n) : job? calls answers (n + 1) k =
      (job? calls answers n k).map (Job.told (answers n k)) := by
  unfold job?
  split
  · simp only [Option.map_some, Job.told, Member.allTold, zipIdx_map_zipIdx, List.map_map,
      verdict_reap call behind]
    rfl
  · rfl

theorem Holds.add {pids : List Pid} {command : String} {known : Option Int}
    (call : calls[n]? = some (.add pids command known)) (holds : Holds calls answers n) :
    Holds calls answers (n + 1) := by
  have verdicts (k i : Nat) : verdict calls answers k i (n + 1) = verdict calls answers k i n := by
    rw [verdict, verdict, reaps_add call]
  have unjudged (i : Nat) : verdict calls answers n i n = .none := by rw [verdict, reaps_self]; rfl
  have jobs : job? calls answers (n + 1) = job? calls answers n := by
    funext k
    simp only [job?, verdicts]
  have newest : job? calls answers n n = some ⟨((tableAt calls n).add pids command known).1,
      pids.map ({ pid := · }), command, known⟩ := by
    have members : pids.zipIdx.map (fun e => Member.mk e.1 .none) = pids.map ({ pid := · }) := by
      rw [← List.zipIdx_map_fst 0 pids, List.map_map, List.zipIdx_map_fst]
      rfl
    simp only [job?, call, unjudged, members]
  have places : openPlaces calls answers (n + 1) = openPlaces calls answers n ++ [n] := by
    simp only [openPlaces, List.range_succ, List.filter_append, isOver, reaps_add call, reaps_self,
      List.filter_singleton]
    rfl
  rw [Holds, tableAt_succ call, places, jobs, List.filterMap_append, ← holds]
  simp only [List.filterMap_cons, newest, List.filterMap_nil]
  rfl

theorem exists_reaped {watch : Watch σ} {state : σ} (call : calls[n]? = some (.reap watch state))
    (holds : Holds calls answers n) :
    ∃ given, Reaped calls (Function.update answers n given) n watch state := by
  have nodup : (openPlaces calls answers n).Nodup := List.nodup_range.filter _
  obtain ⟨given, told, noted⟩ :=
    Job.askAll_noting watch nodup (job? calls answers n) state []
  refine ⟨given, ?_⟩
  have agree : ∀ r < n, answers r = Function.update answers n given r := update_agrees given
  have now : Function.update answers n given n = given := Function.update_self ..
  rw [← holds] at told noted
  have jobs : (Job.askAll watch (tableAt calls n).jobs state).1 =
      (openPlaces calls answers n).filterMap
        (job? calls (Function.update answers n given) (n + 1)) := by
    refine told.trans (List.filterMap_congr fun k member => ?_)
    have behind : k < n := List.mem_range.1 (List.mem_of_mem_filter member)
    rw [job?_told call behind, now, job?_congr agree]
  constructor
  · rw [JobTable.reap, noted, ← openPlaces_congr agree, now]
    simp only [polls_job?, verdict_congr agree]
    rfl
  · rw [returnedPlaces, ← openPlaces_congr agree]
    exact (congrArg (List.filter Job.isOver) jobs).trans (filter_job? _ id)
  · rw [← openPlaces_congr agree]
    exact (congrArg (List.filter fun job => !job.isOver) jobs).trans (filter_job? _ not)

theorem Reaped.holds {watch : Watch σ} {state : σ} (call : calls[n]? = some (.reap watch state))
    (reaped : Reaped calls answers n watch state) : Holds calls answers (n + 1) := by
  have places : openPlaces calls answers (n + 1) =
      (openPlaces calls answers n).filter (!settled calls answers · (n + 1)) ++
        [n].filter (!isOver calls answers · (n + 1)) := by
    rw [openPlaces, List.range_succ, List.filter_append, openPlaces, List.filter_filter]
    congr 1
    refine List.filter_congr fun k member => ?_
    rw [isOver_reap call (List.mem_range.1 member)]
    simp [Bool.and_comm]
  have absent : ([n].filter (!isOver calls answers · (n + 1))).filterMap
      (job? calls answers (n + 1)) = [] := by
    rw [List.filterMap_eq_nil_iff]
    intro k member
    obtain rfl := List.mem_singleton.1 (List.mem_of_mem_filter member)
    exact job?_reap call _
  rw [Holds, tableAt_succ call, places, List.filterMap_append, absent, List.append_nil]
  exact reaped.kept

end Step

/-! ## Whole runs -/

theorem exists_answers {n : Nat} (within : n ≤ calls.length) :
    ∃ answers, (∀ m ≤ n, Holds calls answers m) ∧
      ∀ {r watch state}, r < n → calls[r]? = some (.reap watch state) →
        Reaped calls answers r watch state := by
  induction n with
  | zero =>
    refine ⟨fun _ _ _ => .ok none, fun m first => ?_, fun early => absurd early (Nat.not_lt_zero _)⟩
    obtain rfl := Nat.le_zero.1 first
    rfl
  | succ n ih =>
    obtain ⟨answers, table, reaped⟩ := ih (Nat.le_of_succ_le within)
    obtain ⟨call, found⟩ : ∃ call, calls[n]? = some call := ⟨_, List.getElem?_eq_getElem within⟩
    have last := table n (Nat.le_refl n)
    cases call with
    | add pids command known =>
      refine ⟨answers, fun m upTo => ?_, fun early call => ?_⟩
      · rcases Nat.le_succ_iff.1 upTo with before | rfl
        · exact table m before
        · exact last.add found
      · rcases Nat.lt_succ_iff_lt_or_eq.1 early with before | rfl
        · exact reaped before call
        · exact absurd (found.symm.trans call) (by simp)
    | reap watch state =>
      obtain ⟨given, newest⟩ := exists_reaped found last
      have agree : ∀ r < n, answers r = Function.update answers n given r := update_agrees given
      refine ⟨Function.update answers n given, fun m upTo => ?_, fun early call => ?_⟩
      · rcases Nat.le_succ_iff.1 upTo with before | rfl
        · exact (table m before).congr fun r early => agree r (Nat.lt_of_lt_of_le early before)
        · exact newest.holds found
      · rcases Nat.lt_succ_iff_lt_or_eq.1 early with before | rfl
        · exact (reaped before call).congr fun q upTo =>
            agree q (Nat.lt_of_lt_of_le upTo before)
        · cases found.symm.trans call
          exact newest

theorem returned_once {k r r' : Nat} (asks : isReap calls r) (asks' : isReap calls r')
    (returned : k ∈ returnedPlaces calls answers r)
    (returned' : k ∈ returnedPlaces calls answers r') : r = r' := by
  have apart : ∀ {r r'}, isReap calls r → k ∈ returnedPlaces calls answers r →
      k ∈ returnedPlaces calls answers r' → ¬r < r' := by
    intro r r' asks returned returned' before
    obtain ⟨placed, settled⟩ := List.mem_filter.1 returned
    have behind : k < r := List.mem_range.1 (List.mem_of_mem_filter placed)
    have since : r ∈ reaps calls k r' := List.mem_filter.2 ⟨List.mem_range.2 before, by simp [*]⟩
    have ended : isOver calls answers k r' := List.any_eq_true.2 ⟨r, since, settled⟩
    have standing := (List.mem_filter.1 (List.mem_of_mem_filter returned')).2
    simp [ended] at standing
  exact Nat.le_antisymm (Nat.le_of_not_lt (apart asks' returned' returned))
    (Nat.le_of_not_lt (apart asks returned returned'))

structure Describes (k n : Nat) (ids : List Pid) (text : String) (known : Option Int)
    (job : Job) : Prop where
  index : job.index = ((tableAt calls k).add ids text known).1
  pids : job.pids = ids
  command : job.command = text
  status : job.status = known.getD (if ids = [] then 0 else
    ((verdict calls answers k (ids.length - 1) n).bind Ending.code?).getD 0)

theorem job?_describes {k n : Nat} {pids : List Pid} {command : String} {known : Option Int}
    {job : Job} (call : calls[k]? = some (.add pids command known))
    (found : job? calls answers n k = some job) :
    Describes calls answers k n pids command known job := by
  rw [job?, call] at found
  cases found
  refine ⟨rfl, ?_, rfl, ?_⟩
  · rw [Job.pids, List.map_map]
    exact List.zipIdx_map_fst 0 pids
  · cases known with
    | some code => rfl
    | none =>
      rw [Job.status, List.getLast?_map, List.getLast?_zipIdx]
      rcases List.eq_nil_or_concat pids with rfl | ⟨earlier, last, rfl⟩
      · rfl
      · simp

structure Reported : Prop where
  table : ∀ n ≤ calls.length, Holds calls answers n
  reaped : ∀ {r watch state}, calls[r]? = some (.reap watch state) →
    Reaped calls answers r watch state
  once : ∀ {k r r'}, isReap calls r → isReap calls r' → k ∈ returnedPlaces calls answers r →
    k ∈ returnedPlaces calls answers r' → r = r'
  job : ∀ {k n pids command known job}, calls[k]? = some (.add pids command known) →
    job? calls answers n k = some job → Describes calls answers k n pids command known job

/-- Whatever the table is told, a call that asks hands out the jobs that it settles and keeps the
others, in the order in which they were added, and it asks after just the processes that have not yet
answered for good. -/
theorem reports : ∃ answers, Reported calls answers := by
  obtain ⟨answers, table, reaped⟩ := exists_answers calls (Nat.le_refl calls.length)
  refine ⟨answers, table, fun call => ?_, returned_once calls answers, job?_describes calls answers⟩
  obtain ⟨within, -⟩ := List.getElem?_eq_some_iff.1 call
  exact reaped within call

end JobRun
end PipeShell
