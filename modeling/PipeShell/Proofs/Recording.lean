import PipeShell.Host.Scripted
import PipeShell.Proofs.Conduct

/-!
# A scripted host with a diary

A host that follows a script and writes down what its programs do. It keeps its diary as a host has
to (`ScriptedHost.recorded_keeps`).
-/

namespace PipeShell
namespace ScriptedHost

def deeds (script : Script) (streams : Streams) (number : Nat) (w : World) : Diary :=
  let bytes := Text.bytes script.writes
  (if (w.write streams.output bytes).1 = none then [.wrote (some number) streams.output bytes]
    else [])
    ++ (if script.reads then [] else [.closedInput number])
    ++ [.closedOutput number]

def noteStart (launch : Launch) (h : ScriptedHost) (d : Diary) (w : World) : Diary :=
  let script := h.script (launch.argv.headD "")
  match script.refusal with
  | some _ => d
  | none => d ++ [.started launch.streams] ++ deeds script launch.streams d.streams.length w

def noteWrite (target : Option End) (bytes : Bytes) (w : World) : Deed :=
  match (w.write target bytes).1 with
  | none => .wrote none target bytes
  | some cause => .refused target bytes cause

def recorded : Host (ScriptedHost × Diary) where
  spawn launch state w :=
    let r := spawn launch state.1 w
    { r with host := (r.host, noteStart launch state.1 state.2 w) }
  wait pid state w :=
    let r := wait pid state.1 w
    { r with host := (r.host, state.2) }
  poll pid state w :=
    let r := poll pid state.1 w
    { r with host := (r.host, state.2) }
  write target bytes at' :=
    let r := write target bytes (at'.1.1, at'.2)
    (r.1, (r.2.1, at'.1.2 ++ [noteWrite target bytes at'.2]), r.2.2)

end ScriptedHost

theorem Conducts.snoc {d d' d'' : Diary} {w w' w'' : World} (first : Conducts d w d' w')
    (act : Acts d' w' d'' w'') : Conducts d w d'' w'' := by
  induction first with
  | refl => exact .step act .refl
  | step first _ ih => exact .step first (ih act)

theorem World.eq_of_write_refused {w w' : World} {target : Option End} {bytes : Bytes}
    {cause : SystemError} (refused : w.write target bytes = (some cause, w')) : w' = w := by
  rcases target with _ | (id | id | id)
  · cases refused
  · cases refused
    rfl
  · simp only [write] at refused
    split at refused
    · cases refused
    · cases refused
      rfl
  · simp only [write, writeOpened] at refused
    repeat' split at refused
    all_goals
      cases refused
      try rfl

namespace ScriptedHost
variable {d : Diary} {w : World}

theorem deeds_conduct (sound : d.Sound w) (script : Script) (streams : Streams) {w₁ w₂ : World}
    (wrote : w₁ = (w.write streams.output (Text.bytes script.writes)).2)
    (closed : w₂ = if script.reads then w₁ else w₁.close? streams.input) :
    Conducts (d ++ [.started streams]) w
      (d ++ [.started streams] ++ deeds script streams d.streams.length w)
      (w₂.close? streams.output) := by
  have own : ∀ e : Diary, (Diary.streams (d ++ [.started streams] ++ e))[d.streams.length]? =
      some streams := by
    intro e
    simp [Diary.streams, Deed.started?]
  have unread : .closedInput d.streams.length ∉ d := fun member =>
    Nat.lt_irrefl _ (sound.closed _ (.inl member))
  have unwritten : .closedOutput d.streams.length ∉ d := fun member =>
    Nat.lt_irrefl _ (sound.closed _ (.inr member))
  simp only [deeds, ← List.append_assoc]
  refine Conducts.snoc ?_ (.closedOutput ?_ ?_)
  · have first : Conducts (d ++ [.started streams]) w (d ++ [.started streams] ++
        if (w.write streams.output (Text.bytes script.writes)).1 = none then
          [.wrote (some d.streams.length) streams.output (Text.bytes script.writes)]
        else []) w₁ := by
      rcases writes : w.write streams.output (Text.bytes script.writes) with ⟨_ | cause, w'⟩
      · rw [writes] at wrote
        subst wrote
        exact .snoc .refl (.wrote (by simpa using own []) (by simpa using unwritten) writes)
      · rw [writes] at wrote
        obtain rfl : w₁ = w := wrote.trans (World.eq_of_write_refused writes)
        simpa using Conducts.refl
    subst closed
    cases script.reads with
    | true => simpa using first
    | false =>
      refine first.snoc (.closedInput (own _) ?_)
      split <;> simpa using unread
  · rw [List.append_assoc]
    exact own _
  · cases script.reads <;> split <;> simpa using unwritten

theorem recorded_keeps : recorded.Keeps Prod.snd where
  starts := by
    intro launch state w pid sound answer
    refine ⟨state.2, w, .refl, ?_⟩
    cases refusal : (state.1.script (launch.argv.headD "")).refusal with
    | some reason =>
      simp only [recorded, spawn, refusal] at answer
      cases answer
    | none =>
      simp only [recorded, noteStart, spawn, refusal]
      exact deeds_conduct sound _ launch.streams rfl rfl
  fails := by
    intro launch state w cause sound answer
    refine ⟨state.2, w, .refl, ?_⟩
    cases refusal : (state.1.script (launch.argv.headD "")).refusal with
    | some reason =>
      simp only [recorded, noteStart, spawn, refusal]
      exact .refl
    | none =>
      simp only [recorded, spawn, refusal] at answer
      cases answer
  waits := fun _ _ _ _ => .refl
  polls := fun _ _ _ _ => .refl
  writes := by
    intro target bytes state w _
    have writes : Writes target (bytes ++ []) state.2 w (w.write target bytes).1
        (state.2 ++ [noteWrite target bytes w]) (w.write target bytes).2 := by
      unfold noteWrite
      rcases writes : w.write target bytes with ⟨_ | cause, w'⟩
      · exact .piece .refl writes (.done .refl)
      · exact .refused .refl writes
    rwa [List.append_nil] at writes

end ScriptedHost
end PipeShell
