import Mathlib.Data.Option.Basic
import PipeShell.Machine.Host
import PipeShell.Proofs.Looping
import PipeShell.Proofs.Snapshot

/-!
# The machine keeps the laws of hosts

What the programs of the machine do is not known, but all that they can do is ask the machine for one
thing after another. None of its answers depends on where the shell stands or on what is on the error
output, and none of them moves the shell. So whatever its programs are, the machine goes on alike in
two worlds that differ there only (`Machine.tick_elsewhere`). It follows that the machine leaves the
shell where it is (`Machine.host_stays`) and does not listen to the error output
(`Machine.host_ignoresErrors`), nor does a shell that reads its own input there (`Machine.loop_like`).
-/

namespace PipeShell

/-! ## The same world around another shell -/

structure Standpoint where
  here : Nat
  environment : Environment
  tilde : Environment → String → String

namespace World

def standpoint (w : World) : Standpoint := ⟨w.here, w.environment, w.tilde⟩

def moved (place : Standpoint) (errors : Bytes) (w : World) : World :=
  { w with here := place.here, environment := place.environment, tilde := place.tilde, errors }

def Elsewhere (place : Standpoint) (w w' : World) : Prop := ∃ errors, w' = w.moved place errors

variable {place : Standpoint} {w w' : World}

theorem elsewhere_self (w : World) : Elsewhere w.standpoint w w := ⟨w.errors, rfl⟩

theorem elsewhere_of_like (like : Like w w') : Elsewhere w.standpoint w w' := by
  obtain ⟨errors, rfl⟩ := like
  exact ⟨errors, rfl⟩

theorem Elsewhere.stands (elsewhere : Elsewhere w.standpoint w' w') : Stands w w' := by
  obtain ⟨errors, same⟩ := elsewhere
  have placed : (w'.moved w.standpoint errors).standpoint = w.standpoint := rfl
  rw [← same] at placed
  exact ⟨congrArg Standpoint.here placed, congrArg Standpoint.environment placed,
    congrArg Standpoint.tilde placed⟩

theorem Elsewhere.like {u u' : World} (elsewhere : Elsewhere w.standpoint u u')
    (stands : Stands w u) : Like u u' := by
  obtain ⟨errors, rfl⟩ := elsewhere
  refine ⟨errors, ?_⟩
  simp only [moved, standpoint, stands.here, stands.environment, stands.tilde]

/-! ## What is done in the world -/

section
variable (place : Standpoint) (errors : Bytes) (w : World)

theorem close_moved (e : End) : (w.moved place errors).close e = (w.close e).moved place errors := by
  cases e <;> rfl

theorem reopen_moved (e : End) (access : Access) :
    (w.moved place errors).reopen e access =
      ((w.reopen e access).1, (w.reopen e access).2.moved place errors) := by
  cases e <;> rfl

theorem read_moved (source : End) (most : Nat) :
    (w.moved place errors).read source most =
      ((w.read source most).1, (w.read source most).2.moved place errors) := by
  cases source with
  | reader id | writer id => rfl
  | file id =>
    cases reads : (w.opened.getD id default).reads with
    | false => simp only [read, moved, reads, Bool.not_false, ↓reduceIte]
    | true =>
      cases got : w.files.readAt (w.opened.getD id default).node (w.opened.getD id default).offset most <;>
        simp only [read, moved, reads, got, advance, Bool.not_true, Bool.false_eq_true, ↓reduceIte]

theorem writeOpened_moved (id : Nat) (bytes : Bytes) :
    ((w.moved place errors).writeOpened id bytes).1 = (w.writeOpened id bytes).1 ∧
      Elsewhere place (w.writeOpened id bytes).2 ((w.moved place errors).writeOpened id bytes).2 := by
  generalize opened : w.opened.getD id default = o
  have same : (w.moved place errors).opened.getD id default = o := opened
  have files : (w.moved place errors).files = w.files := rfl
  cases writes : o.writes with
  | false =>
    simp only [writeOpened, opened, same, writes]
    exact ⟨rfl, errors, rfl⟩
  | true =>
    simp only [writeOpened, opened, same, files, writes]
    rcases w.files.node o.node with _ | _ | _ | _ | _ | _ | _ | _ | _ | _ | _ | _ | fd <;>
      exact ⟨rfl, _, rfl⟩

end

theorem Elsewhere.write (elsewhere : Elsewhere place w w') (target : Option End) (bytes : Bytes) :
    (w'.write target bytes).1 = (w.write target bytes).1 ∧
      Elsewhere place (w.write target bytes).2 (w'.write target bytes).2 := by
  obtain ⟨errors, rfl⟩ := elsewhere
  rcases target with _ | _ | id | id
  · exact ⟨rfl, errors, rfl⟩
  · exact ⟨rfl, errors, rfl⟩
  · cases reader : (w.pipe id).hasReader
    · have closed : ((w.moved place errors).pipe id).hasReader = false := reader
      simp only [World.write, reader, closed]
      exact ⟨rfl, errors, rfl⟩
    · have held : ((w.moved place errors).pipe id).hasReader = true := reader
      simp only [World.write, reader, held]
      exact ⟨rfl, errors, rfl⟩
  · exact writeOpened_moved place errors w id bytes

end World

namespace Machine
variable {place : Standpoint} {w w' : World}

/-! ## What a process asks for -/

theorem bind_map {ε α β : Type} {x : Except ε α} {f g : α → Except ε β} {k : β → β}
    (same : ∀ a, g a = (f a).map k) : x >>= g = (x >>= f).map k := by
  cases x with
  | error cause => rfl
  | ok a => exact same a

section
variable (place : Standpoint) (errors : Bytes) (w : World)

theorem openNode_moved (p : Process) (node : Nat) (access : Access) :
    openNode p node access (w.moved place errors) =
      (openNode p node access w).map fun r => (r.1, r.2.moved place errors) := by
  have others : World.openNode (w.moved place errors) node access =
      (w.openNode node access).map fun r => (r.1, r.2.moved place errors) := by
    unfold World.openNode
    simp only [World.moved]
    split
    · rfl
    · exact congrArg Except.ok (w.reopen_moved place errors w.input access)
    · split <;> rfl
    · rfl
  unfold openNode reopenChannel
  rw [others]
  simp only [World.moved]
  split
  · split
    · rfl
    · rfl
    · exact congrArg (fun r => Except.ok (Channel.held r.1, r.2)) (w.reopen_moved place errors _ access)
  · cases w.openNode node access <;> rfl

theorem openPath_moved (p : Process) (path : Octets) (mode : OpenMode) :
    openPath p path mode (w.moved place errors) =
      (openPath p path mode w).map fun r => (r.1, r.2.moved place errors) := by
  unfold openPath
  cases mode with
  | read =>
    exact bind_map fun node => bind_map fun _ => openNode_moved place errors w p node .reading
  | write => exact bind_map fun (node, files) => openNode_moved place errors { w with files := _ } ..
  | append => exact bind_map fun (node, files) => openNode_moved place errors { w with files } ..
  | readWrite =>
    exact bind_map fun (node, files) => bind_map fun _ =>
      openNode_moved place errors { w with files } ..

theorem readChannel_moved (channel : Channel) (most : Nat) :
    readChannel channel most (w.moved place errors) =
      (readChannel channel most w).map fun r => (r.1, r.2.moved place errors) := by
  unfold readChannel
  split
  · rfl
  · rename_i id
    have pipe : (w.moved place errors).pipe id = w.pipe id := rfl
    rw [World.read_moved, pipe]
    split <;> rfl
  · rw [World.read_moved]
    rfl

theorem release_moved (m : Machine) (channels : List Channel) :
    m.release channels (w.moved place errors) = (m.release channels w).moved place errors := by
  unfold release
  induction channels generalizing w with
  | nil => rfl
  | cons channel rest ih =>
    rw [List.foldl_cons, List.foldl_cons, ← ih]
    congr 1
    cases channel with
    | own stream => rfl
    | held e =>
      simp only [World.close_moved]
      split <;> rfl

theorem replaceProcess_moved (m : Machine) (before after : Process) :
    m.replaceProcess before after (w.moved place errors) =
      ((m.replaceProcess before after w).1,
        (m.replaceProcess before after w).2.moved place errors) :=
  congrArg (Prod.mk _) (release_moved place errors w ..)

theorem finish_moved (m : Machine) (p : Process) (fate : Fate) :
    m.finish p fate (w.moved place errors) =
      ((m.finish p fate w).1, (m.finish p fate w).2.moved place errors) := by
  unfold finish
  rw [replaceProcess_moved]

theorem deliver_moved (m : Machine) (p : Process) (signal : Nat) :
    m.deliver p signal (w.moved place errors) =
      ((m.deliver p signal w).1, (m.deliver p signal w).2.moved place errors) := by
  unfold deliver
  split
  · rfl
  · split
    · exact finish_moved place errors w ..
    · split
      · rfl
      · rfl
      · split
        · rfl
        · exact finish_moved place errors w ..

theorem answer_moved (m : Machine) (p : Process) (r : Request) :
    m.answer (w.moved place errors) p r =
      (m.answer w p r).map fun a => (a.1, a.2.1, a.2.2.moved place errors) := by
  cases r with
  | read fd most =>
    simp only [answer, readChannel_moved]
    cases p.channel? fd with
    | none => rfl
    | some channel =>
      simp only [Option.map_map]
      rfl
  | «open» path mode =>
    simp only [answer, openPath_moved]
    cases openPath p path mode w <;> rfl
  | close fd => simp only [answer, replaceProcess_moved, Option.map_some]
  | duplicate fd least =>
    simp only [answer]
    cases p.channel? fd <;> rfl
  | replace fd target =>
    simp only [answer, replaceProcess_moved]
    cases p.channel? fd <;> rfl
  | putBack fd bytes =>
    simp only [answer]
    split <;> rfl
  | removeFolder path =>
    have files : (w.moved place errors).files = w.files := rfl
    simp only [answer, files]
    split <;> rfl
  | enter path =>
    have files : (w.moved place errors).files = w.files := rfl
    simp only [answer, files]
    split <;> rfl
  | limit resource new =>
    cases new with
    | none => rfl
    | some new =>
      simp only [answer]
      split <;> rfl
  | awaitChild patience =>
    simp only [answer]
    cases awaitChild m p patience <;> rfl
  | kill target signal =>
    simp only [answer, deliver_moved]
    cases m.process? target <;> rfl
  | exec path argv environment =>
    have files : (w.moved place errors).files = w.files := rfl
    simp only [answer, files]
    split <;> rfl
  | write | pipe | statusOf | status | list | folder | mask | sleep | handle | caught | identity | clock =>
    rfl

end

/-! ## Time -/

def Alike (place : Standpoint) (r r' : Machine × World) : Prop :=
  r'.1 = r.1 ∧ World.Elsewhere place r.2 r'.2

theorem writeChannel_elsewhere (elsewhere : World.Elsewhere place w w') (channel : Channel)
    (bytes : Bytes) :
    (writeChannel channel bytes w').1 = (writeChannel channel bytes w).1 ∧
      World.Elsewhere place (writeChannel channel bytes w).2 (writeChannel channel bytes w').2 := by
  unfold writeChannel
  split
  · obtain ⟨errors, rfl⟩ := elsewhere
    exact ⟨rfl, _, rfl⟩
  · exact elsewhere.write none bytes
  · exact elsewhere.write _ bytes

theorem stepWrite_elsewhere (elsewhere : World.Elsewhere place w w') (m : Machine) (p : Process)
    (fd : Nat) (bytes : Bytes) (k : Option SystemError → Code) :
    Option.Rel (Alike place) (stepWrite m w p fd bytes k) (stepWrite m w' p fd bytes k) := by
  unfold stepWrite
  cases p.channel? fd with
  | none => exact .some ⟨rfl, elsewhere⟩
  | some channel =>
    have allowed : allowance? p w' channel = allowance? p w channel := by
      obtain ⟨errors, rfl⟩ := elsewhere
      rfl
    have room (size : Nat) : roomIn w' channel size = roomIn w channel size := by
      obtain ⟨errors, rfl⟩ := elsewhere
      rfl
    have delivered (m : Machine) (p : Process) (signal : Nat) {u u' : World}
        (elsewhere : World.Elsewhere place u u') :
        Alike place (m.deliver p signal u) (m.deliver p signal u') := by
      obtain ⟨errors, rfl⟩ := elsewhere
      rw [deliver_moved]
      exact ⟨rfl, errors, rfl⟩
    dsimp only
    rw [allowed, room]
    split
    · exact .some (delivered _ _ _ elsewhere)
    · split
      · exact .none
      · generalize List.take _ bytes = piece
        obtain ⟨same, after⟩ := writeChannel_elsewhere elsewhere channel piece
        generalize writeChannel channel piece w = r at same after ⊢
        generalize writeChannel channel piece w' = r' at same after ⊢
        obtain ⟨refused, u⟩ := r
        obtain ⟨refused', u'⟩ := r'
        obtain rfl : refused = refused' := same.symm
        cases refused with
        | none => exact .some ⟨rfl, after⟩
        | some cause =>
          cases cause with
          | brokenPipe => exact .some (delivered _ _ _ after)
          | _ => exact .some ⟨rfl, after⟩

theorem stepProcess_elsewhere (programs : Catalogue) (elsewhere : World.Elsewhere place w w')
    (m : Machine) (p : Process) :
    Option.Rel (Alike place) (stepProcess programs m w p) (stepProcess programs m w' p) := by
  unfold stepProcess
  cases p.code with
  | exit status =>
    obtain ⟨errors, rfl⟩ := elsewhere
    exact .some (by rw [finish_moved]; exact ⟨rfl, errors, rfl⟩)
  | fork child k => exact .some ⟨rfl, elsewhere⟩
  | ask r k =>
    cases r with
    | write fd bytes => exact stepWrite_elsewhere elsewhere m p fd bytes k
    | sleep moments => exact .some ⟨rfl, elsewhere⟩
    | exec path argv environment =>
      obtain ⟨errors, rfl⟩ := elsewhere
      have files : (w.moved place errors).files = w.files := rfl
      simp only [files, replaceProcess_moved]
      cases executable w.files p.here path argv with
      | error cause => exact .some ⟨rfl, errors, rfl⟩
      | ok found =>
        dsimp only
        cases programs found.1 <;> exact .some ⟨rfl, errors, rfl⟩
    | _ =>
      obtain ⟨errors, rfl⟩ := elsewhere
      dsimp only
      rw [answer_moved]
      cases m.answer w p _ with
      | none => exact .none
      | some answered =>
        obtain ⟨answer, m₁, w₁⟩ := answered
        dsimp only [Option.map_some]
        cases m₁.process? p.pid with
        | none => exact .some ⟨rfl, errors, rfl⟩
        | some q =>
          dsimp only
          split <;> exact .some ⟨rfl, errors, rfl⟩

theorem stepAll_elsewhere (programs : Catalogue) (elsewhere : World.Elsewhere place w w')
    (pids : List Pid) (m : Machine) :
    (stepAll programs pids m w').1 = (stepAll programs pids m w).1 ∧
      Alike place (stepAll programs pids m w).2 (stepAll programs pids m w').2 := by
  induction pids generalizing m w w' with
  | nil => exact ⟨rfl, rfl, elsewhere⟩
  | cons pid rest ih =>
    unfold stepAll
    cases m.process? pid with
    | none => exact ih elsewhere m
    | some p =>
      by_cases rests : (p.fate.isSome || decide (m.clock < p.wake)) = true
      · simp only [rests, if_true]
        exact ih elsewhere m
      · simp only [rests]
        have stepped := stepProcess_elsewhere programs elsewhere m p
        generalize stepProcess programs m w p = r at stepped ⊢
        generalize stepProcess programs m w' p = r' at stepped ⊢
        cases stepped with
        | none => exact ih elsewhere m
        | @some r r' alike =>
          obtain ⟨m₁, w₁⟩ := r
          obtain ⟨m₂, w₂⟩ := r'
          obtain ⟨same, after⟩ := alike
          obtain rfl : m₂ = m₁ := same
          exact ⟨rfl, (ih after m₂).2⟩

theorem tick_elsewhere (programs : Catalogue) (last : Nat) (elsewhere : World.Elsewhere place w w')
    (m : Machine) : Alike place (m.tick programs last w) (m.tick programs last w') := by
  have later : World.Elsewhere place
      { w with files := { w.files with now := m.clock / fileMoment + 1 } }
      { w' with files := { w'.files with now := m.clock / fileMoment + 1 } } := by
    obtain ⟨errors, rfl⟩ := elsewhere
    exact ⟨errors, rfl⟩
  obtain ⟨moved, same, after⟩ := stepAll_elsewhere programs later (m.processes.map Process.pid) m
  unfold tick
  simp only [moved, same]
  exact ⟨rfl, after⟩

theorem awaitWithin_elsewhere (programs : Catalogue) (last : Nat) (pid : Pid) (ticks : Nat)
    (elsewhere : World.Elsewhere place w w') (m : Machine) :
    ∃ fate m' u u', awaitWithin programs last pid ticks m w = (fate, m', u) ∧
      awaitWithin programs last pid ticks m w' = (fate, m', u') ∧ World.Elsewhere place u u' := by
  induction ticks generalizing m w w' with
  | zero => exact ⟨_, _, _, _, rfl, rfl, elsewhere⟩
  | succ ticks ih =>
    unfold awaitWithin
    split
    · exact ⟨_, _, _, _, rfl, rfl, elsewhere⟩
    · split
      · exact ⟨_, _, _, _, rfl, rfl, elsewhere⟩
      · obtain ⟨same, after⟩ := tick_elsewhere programs last elsewhere m
        simp only [same]
        exact ih after _

theorem writeWithin_elsewhere (programs : Catalogue) (target : Option End) (ticks : Nat)
    (bytes : Bytes) (elsewhere : World.Elsewhere place w w') (m : Machine) :
    (writeWithin programs target ticks bytes (m, w')).1 =
        (writeWithin programs target ticks bytes (m, w)).1 ∧
      Alike place (writeWithin programs target ticks bytes (m, w)).2
        (writeWithin programs target ticks bytes (m, w')).2 := by
  induction ticks generalizing bytes m w w' with
  | zero => exact ⟨rfl, rfl, elsewhere⟩
  | succ ticks ih =>
    unfold writeWithin
    have room : (target.map fun e => roomIn w' (.held e) bytes.length) =
        target.map fun e => roomIn w (.held e) bytes.length := by
      obtain ⟨errors, rfl⟩ := elsewhere
      rfl
    dsimp only
    rw [room]
    generalize (target.map fun e => roomIn w (.held e) bytes.length).getD bytes.length = size
    obtain ⟨same, after⟩ := elsewhere.write target (bytes.take size)
    generalize w.write target (bytes.take size) = r at same after ⊢
    generalize w'.write target (bytes.take size) = r' at same after ⊢
    obtain ⟨refused, u⟩ := r
    obtain ⟨refused', u'⟩ := r'
    obtain rfl : refused = refused' := same.symm
    cases refused with
    | some cause => exact ⟨rfl, rfl, after⟩
    | none =>
      dsimp only
      split
      · obtain ⟨same, later⟩ := tick_elsewhere programs (m.clock + patience) after m
        rcases ticked : m.tick programs (m.clock + patience) u with ⟨m₁, u₁⟩
        rcases ticked' : m.tick programs (m.clock + patience) u' with ⟨m₂, u₂⟩
        rw [ticked, ticked'] at same later
        obtain rfl : m₂ = m₁ := same
        exact ih (bytes.drop size) later m₂
      · exact ⟨rfl, rfl, after⟩

/-! ## The machine as a host -/

theorem await_elsewhere (programs : Catalogue) (pid : Pid)
    (elsewhere : World.Elsewhere place w w') (m : Machine) :
    ∃ fate m' u u', m.await programs pid w = (fate, m', u) ∧
      m.await programs pid w' = (fate, m', u') ∧ World.Elsewhere place u u' :=
  awaitWithin_elsewhere programs _ pid patience elsewhere m

theorem await_stands (programs : Catalogue) (pid : Pid) (m : Machine) (w : World) :
    World.Stands w (m.await programs pid w).2.2 := by
  obtain ⟨fate, m', u, u', ran, again, after⟩ := await_elsewhere programs pid (World.elsewhere_self w) m
  obtain rfl : u = u' := congrArg (·.2.2) (ran.symm.trans again)
  rw [ran]
  exact after.stands

theorem write_stands (programs : Catalogue) (target : Option End) (bytes : Bytes) (m : Machine)
    (w : World) : World.Stands w (write programs target bytes (m, w)).2.2 :=
  (writeWithin_elsewhere programs target patience bytes (World.elsewhere_self w) m).2.2.stands

theorem host_stays (programs : Catalogue) : (host programs).Stays where
  spawn launch m w := by
    have closed := (World.Stands.close? launch.streams.input w).trans (.close? launch.streams.output _)
    simp only [host, spawn]
    split
    · exact closed
    · split
      · exact closed
      · exact .refl w
  wait pid m w := by
    have kept := await_stands programs pid m w
    simp only [host, wait]
    split
    · rcases ended : m.await programs pid w with ⟨_ | fate, m₁, w₁⟩ <;> rwa [ended] at kept
    · exact .refl w
  write target bytes m w := write_stands programs target bytes m w

theorem host_ignoresErrors (programs : Catalogue) : (host programs).IgnoresErrors where
  spawn launch m w w' like := by
    have closed := (like.close? launch.streams.input).close? launch.streams.output
    obtain ⟨errors, rfl⟩ := like
    have found : resolve { w with errors } (launch.argv.headD "") launch.searchPath =
        resolve w (launch.argv.headD "") launch.searchPath := rfl
    simp only [host, spawn, found]
    split
    · exact ⟨rfl, rfl, closed⟩
    · split
      · exact ⟨rfl, rfl, closed⟩
      · exact ⟨rfl, rfl, errors, rfl⟩
  wait pid m w w' like := by
    have kept := await_stands programs pid m w
    obtain ⟨fate, m₁, u, u', ended, ended', after⟩ :=
      await_elsewhere programs pid (World.elsewhere_of_like like) m
    simp only [host, wait, ended, ended'] at kept ⊢
    split
    · cases fate <;> exact ⟨rfl, rfl, after.like kept⟩
    · exact ⟨rfl, rfl, like⟩
  poll pid m w w' like := by
    simp only [host, poll]
    split
    · split <;> exact ⟨rfl, rfl, like⟩
    · exact ⟨rfl, rfl, like⟩
  write target bytes m w w' like := by
    obtain ⟨refused, same, after⟩ := writeWithin_elsewhere programs target patience bytes
      (World.elsewhere_of_like like) m
    exact ⟨refused.symm, same.symm, after.like (write_stands programs target bytes m w)⟩

theorem loop_like (programs : Catalogue) (most : Nat) (ahead : Bytes) {sh sh' : Shell Machine}
    (like : sh.Like sh') :
    Shell.Agree (sh.loop (host programs) .ownInput most ahead)
      (sh'.loop (host programs) .ownInput most ahead) :=
  Shell.loop_like (host_ignoresErrors programs) LineSource.ownInput_ignoresErrors most ahead like

end Machine
end PipeShell
