import Mathlib.Data.List.Nodup
import PipeShell.Machine.Host
import PipeShell.Proofs.Counting

/-!
# The numbers of processes

The machine numbers its processes upwards and takes no number twice: a process gets the next number
when it is started or split off, and keeps it until it is forgotten (`Machine.follows_stepProcess`). So
no two processes that the machine has at a time share a number, and no two that a session starts
(`Machine.lives_numbered`).
-/

namespace PipeShell.Machine

def pids (m : Machine) : List Pid := m.processes.map Process.pid

structure Numbered (m : Machine) : Prop where
  nodup : m.pids.Nodup
  below : ∀ pid ∈ m.pids, pid < m.nextPid

/-- No process has come to a machine, and none has got another number. -/
structure Keeps (m m' : Machine) : Prop where
  pids : m'.pids.Sublist m.pids
  next : m'.nextPid = m.nextPid

/-- What becomes of a machine in time. -/
structure Follows (m m' : Machine) : Prop where
  numbered : m.Numbered → m'.Numbered
  next : m.nextPid ≤ m'.nextPid

variable {m m' m'' : Machine}

theorem numbered_new : Numbered {} := ⟨List.nodup_nil, by simp [pids]⟩

theorem Keeps.refl (m : Machine) : Keeps m m := ⟨.refl _, rfl⟩

theorem Keeps.trans (first : Keeps m m') (second : Keeps m' m'') : Keeps m m'' :=
  ⟨second.pids.trans first.pids, second.next.trans first.next⟩

theorem Follows.refl (m : Machine) : Follows m m := ⟨id, Int.le_refl _⟩

theorem Follows.trans (first : Follows m m') (second : Follows m' m'') : Follows m m'' :=
  ⟨second.numbered ∘ first.numbered, Int.le_trans first.next second.next⟩

theorem Keeps.follows (keeps : Keeps m m') : Follows m m' where
  next := Int.le_of_eq keeps.next.symm
  numbered numbered :=
    { nodup := numbered.nodup.sublist keeps.pids
      below := fun pid member => keeps.next ▸ numbered.below pid (keeps.pids.subset member) }

/-! ## What is done to a machine -/

theorem keeps_put (m : Machine) (p : Process) : Keeps m (m.put p) := by
  have same : (m.put p).pids = m.pids := by
    simp only [pids, put, List.map_map]
    refine List.map_congr_left fun q _ => ?_
    simp only [Function.comp_apply]
    split
    · exact Eq.symm ‹_›
    · rfl
  exact ⟨same ▸ .refl _, rfl⟩

theorem keeps_forget (m : Machine) (pid : Pid) : Keeps m (m.forget pid) :=
  ⟨List.filter_sublist.map _, rfl⟩

theorem keeps_orphan (m : Machine) (pid : Pid) : Keeps m (m.orphan pid) := by
  refine ⟨?_, rfl⟩
  simp only [pids, orphan]
  induction m.processes with
  | nil => exact .refl _
  | cons p rest ih =>
    simp only [List.filterMap_cons]
    split
    · exact ih.cons _
    · rename_i kept
      split at kept
      · split at kept
        · cases kept
        · cases kept
          exact ih.cons_cons _
      · cases kept
        exact ih.cons_cons _

theorem keeps_notify (m : Machine) (pid : Pid) (signal : Nat) : Keeps m (m.notify pid signal) := by
  unfold notify
  split
  · split
    · exact keeps_put m _
    · exact .refl m
  · exact .refl m

theorem keeps_finish (m : Machine) (p : Process) (fate : Fate) (w : World) :
    Keeps m (m.finish p fate w).1 := by
  have replaced := keeps_put m { p with fate := some fate, descriptors := [], pending := [] }
  have ended := (replaced.trans (keeps_orphan _ p.pid)).trans (keeps_notify _ p.parent childSignal)
  simp only [finish, replaceProcess]
  split
  · exact ended.trans (keeps_forget ..)
  · exact ended

theorem keeps_deliver (m : Machine) (p : Process) (signal : Nat) (w : World) :
    Keeps m (m.deliver p signal w).1 := by
  unfold deliver
  split
  · exact .refl m
  · split
    · exact keeps_finish ..
    · split
      · exact .refl m
      · exact keeps_put ..
      · split
        · exact .refl m
        · exact keeps_finish ..

theorem keeps_awaitChild {p : Process} {patience : Patience} {children : Children}
    (answered : awaitChild m p patience = some (children, m')) : Keeps m m' := by
  unfold awaitChild at answered
  dsimp only at answered
  repeat' split at answered
  all_goals cases answered
  all_goals first | exact .refl m | exact keeps_forget ..

theorem follows_start (m : Machine) {p : Process} (next : p.pid = m.nextPid) :
    Follows m (m.start p) where
  next := Int.le_of_lt (Int.lt_succ _)
  numbered numbered := by
    have pids : (m.start p).pids = m.pids ++ [m.nextPid] := by simp [Machine.pids, start, next]
    have fresh : m.nextPid ∉ m.pids := fun member => Int.lt_irrefl _ (numbered.below _ member)
    constructor
    · rw [pids]
      exact List.concat_eq_append ▸ numbered.nodup.concat fresh
    · intro pid member
      rw [pids, List.mem_append, List.mem_singleton] at member
      have below := numbered.below pid
      simp only [start]
      rcases member with member | rfl
      · exact Int.lt_trans (below member) (Int.lt_succ _)
      · exact Int.lt_succ _

/-! ## Time -/

theorem eq_of_some {r : Machine × World} {w' : World} (eq : some r = some (m', w')) : r.1 = m' :=
  congrArg Prod.fst (Option.some.inj eq)

section
variable {w w' : World} {p : Process}

theorem keeps_answer {r : Request} {answer : r.Answer}
    (answered : m.answer w p r = some (answer, m', w')) : Keeps m m' := by
  have same {a : r.Answer × Machine × World} (eq : some a = some (answer, m', w')) : a.2.1 = m' :=
    congrArg (·.2.1) (Option.some.inj eq)
  cases r with
  | read fd most =>
    simp only [Machine.answer] at answered
    split at answered
    · obtain rfl := same answered
      exact .refl m
    · obtain ⟨_, -, eq⟩ := Option.map_eq_some_iff.1 answered
      cases eq
      exact .refl m
  | awaitChild patience =>
    obtain ⟨⟨_, _⟩, ended, eq⟩ := Option.map_eq_some_iff.1 answered
    cases eq
    exact keeps_awaitChild ended
  | kill target signal =>
    simp only [Machine.answer] at answered
    split at answered <;> obtain rfl := same answered
    · exact .refl m
    · exact keeps_deliver ..
  | _ =>
    simp only [Machine.answer] at answered
    repeat' split at answered
    all_goals
      obtain rfl := same answered
      first | exact .refl m | exact keeps_put ..

theorem keeps_stepWrite {fd : Nat} {bytes : Bytes} {k : Option SystemError → Code}
    (stepped : m.stepWrite w p fd bytes k = some (m', w')) : Keeps m m' := by
  unfold stepWrite at stepped
  dsimp only at stepped
  split at stepped
  · obtain rfl := eq_of_some stepped
    exact keeps_put ..
  · split at stepped
    · obtain rfl := eq_of_some stepped
      exact (keeps_put ..).trans (keeps_deliver ..)
    · split at stepped
      · cases stepped
      · split at stepped <;> obtain rfl := eq_of_some stepped
        · exact keeps_put ..
        · exact (keeps_put ..).trans (keeps_deliver ..)
        · exact keeps_put ..

theorem follows_stepProcess {programs : Catalogue}
    (stepped : m.stepProcess programs w p = some (m', w')) : Follows m m' := by
  unfold stepProcess at stepped
  split at stepped
  · obtain rfl := eq_of_some stepped
    exact (keeps_finish ..).follows
  · obtain rfl := eq_of_some stepped
    exact (keeps_put ..).follows.trans (follows_start _ rfl)
  · exact (keeps_stepWrite stepped).follows
  · obtain rfl := eq_of_some stepped
    exact (keeps_put ..).follows
  · split at stepped
    · obtain rfl := eq_of_some stepped
      exact (keeps_put ..).follows
    · split at stepped <;> obtain rfl := eq_of_some stepped
      · exact (keeps_put ..).follows
      · exact (keeps_put ..).follows
  · split at stepped
    · cases stepped
    · rename_i answered
      have kept := keeps_answer answered
      split at stepped
      · split at stepped <;> obtain rfl := eq_of_some stepped
        · exact kept.follows
        · exact (kept.trans (keeps_put ..)).follows
      · obtain rfl := eq_of_some stepped
        exact kept.follows

end

theorem follows_stepAll (programs : Catalogue) (pids : List Pid) (m : Machine) (w : World) :
    Follows m (stepAll programs pids m w).2.1 := by
  induction pids generalizing m w with
  | nil => exact .refl m
  | cons pid rest ih =>
    unfold stepAll
    dsimp only
    split
    · exact ih m w
    · rename_i stepped
      split at stepped
      · split at stepped
        · cases stepped
        · exact (follows_stepProcess stepped).trans (ih ..)
      · cases stepped

theorem follows_tick (programs : Catalogue) (last : Nat) (m : Machine) (w : World) :
    Follows m (m.tick programs last w).1 := by
  have stepped := follows_stepAll programs (m.processes.map Process.pid) m
    { w with files := { w.files with now := m.clock / fileMoment + 1 } }
  exact ⟨fun numbered => ⟨(stepped.numbered numbered).nodup, (stepped.numbered numbered).below⟩,
    stepped.next⟩

theorem follows_awaitWithin (programs : Catalogue) (last : Nat) (pid : Pid) (ticks : Nat)
    (m : Machine) (w : World) : Follows m (awaitWithin programs last pid ticks m w).2.1 := by
  induction ticks generalizing m w with
  | zero => exact .refl m
  | succ ticks ih =>
    unfold awaitWithin
    split
    · exact .refl m
    · split
      · exact .refl m
      · exact (follows_tick programs last m w).trans (ih ..)

theorem follows_writeWithin (programs : Catalogue) (target : Option End) (ticks : Nat)
    (bytes : Bytes) (m : Machine) (w : World) :
    Follows m (writeWithin programs target ticks bytes (m, w)).2.1 := by
  induction ticks generalizing bytes m w with
  | zero => exact .refl m
  | succ ticks ih =>
    unfold writeWithin
    dsimp only
    split
    · exact .refl m
    · split
      · exact (follows_tick programs _ m _).trans (ih ..)
      · exact .refl m

/-! ## The machine as a host -/

section
variable (programs : Catalogue)

theorem spawn_follows (launch : Launch) (m : Machine) (w : World) :
    Follows m ((host programs).spawn launch m w).host := by
  simp only [host, spawn]
  split
  · exact .refl m
  · split
    · exact .refl m
    · exact follows_start m rfl

theorem spawn_pid {launch : Launch} {m : Machine} {w : World} {pid : Pid}
    (started : ((host programs).spawn launch m w).answer = .ok pid) :
    pid = m.nextPid ∧ pid < ((host programs).spawn launch m w).host.nextPid := by
  simp only [host, spawn] at started ⊢
  split at started
  · cases started
  · split at started
    · cases started
    · rename_i sound
      cases started
      rw [if_neg sound]
      exact ⟨rfl, Int.lt_succ _⟩

theorem wait_follows (pid : Pid) (m : Machine) (w : World) :
    Follows m ((host programs).wait pid m w).host := by
  have passed := follows_awaitWithin programs (m.clock + patience) pid patience m w
  simp only [host, wait, await]
  split
  · split
    · rename_i ended
      rw [ended] at passed
      exact passed.trans (keeps_forget ..).follows
    · rename_i lasts
      rw [lasts] at passed
      exact passed
  · exact .refl m

theorem poll_follows (pid : Pid) (m : Machine) (w : World) :
    Follows m ((host programs).poll pid m w).host := by
  simp only [host, poll]
  split
  · split
    · exact (keeps_forget m pid).follows
    · exact .refl m
  · exact .refl m

theorem host_counts : (host programs).Counts Follows Machine.nextPid where
  refl := .refl
  trans := .trans
  grows := Follows.next
  spawn := spawn_follows programs
  started _ _ _ _ answered :=
    ⟨Int.le_of_eq (spawn_pid programs answered).1.symm, (spawn_pid programs answered).2⟩
  wait := wait_follows programs
  poll := poll_follows programs
  write target bytes m w := follows_writeWithin programs target patience bytes m w

theorem lives_numbered {s s' : Session Machine} (lives : Session.Lives (host programs) s s')
    (numbered : s.host.Numbered) :
    s'.host.Numbered ∧ ∃ pids, s'.started = s.started ++ pids ∧ pids.Pairwise (· < ·) := by
  obtain ⟨follows, pids, started, increasing, -⟩ := lives.counted (host_counts programs)
  exact ⟨follows.numbered numbered, pids, started, increasing⟩

end

end PipeShell.Machine
