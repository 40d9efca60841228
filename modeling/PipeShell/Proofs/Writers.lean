import Mathlib.Data.List.Infix
import PipeShell.Builtins

/-!
# What a built-in command says where there is little room

A text is offered to an outlet again and again, each time without what the outlet has taken of it, until
it is gone or the outlet refuses. So the outlet has taken the texts as far as it had room, however it
has split them (`Outlet.Limited.fills`), and a built-in command succeeds there just if all that it
says has fitted (`Stage.says_upTo`).
-/

namespace PipeShell

/-- A place for bytes. It takes some of the bytes that it is offered, and answers how many beside the
first, or it refuses them. -/
structure Outlet (ω : Type) where
  offer : Bytes → ω → Except SystemError Nat × ω

namespace Outlet
variable {ω : Type} {o : Outlet ω} {x y z : ω} {bytes more : Bytes}

def write (o : Outlet ω) : Bytes → ω → Option SystemError × ω
  | [], x => (none, x)
  | byte :: rest, x =>
    match o.offer (byte :: rest) x with
    | (.ok count, x) => o.write (rest.drop count) x
    | (.error cause, x) => (some cause, x)
termination_by bytes => bytes.length
decreasing_by
  simp only [List.length_drop, List.length_cons]
  omega

inductive Takes (o : Outlet ω) : Bytes → ω → ω → Prop
  | nothing {x : ω} : o.Takes [] x x
  | portion {offered bytes : Bytes} {count : Nat} {x y z : ω} (nonempty : offered ≠ [])
      (takes : o.offer offered x = (.ok count, y)) (rest : o.Takes bytes y z) :
      o.Takes (offered.take (count + 1) ++ bytes) x z

/-- How the writing of bytes ends: they are all taken, or the outlet refuses some of them after those
before and is not asked again. -/
inductive Ends (o : Outlet ω) (bytes : Bytes) (x : ω) : Option SystemError × ω → Prop
  | whole {z : ω} (takes : o.Takes bytes x z) : o.Ends bytes x (none, z)
  | broken {taken offered : Bytes} {cause : SystemError} {y z : ω} (takes : o.Takes taken x y)
      (nonempty : offered ≠ []) (within : taken ++ offered <+: bytes)
      (refuses : o.offer offered y = (.error cause, z)) :
      o.Ends bytes x (some cause, z)

theorem Takes.append (first : o.Takes bytes x y) (second : o.Takes more y z) :
    o.Takes (bytes ++ more) x z := by
  induction first with
  | nothing => exact second
  | portion nonempty takes _ ih =>
    rw [List.append_assoc]
    exact .portion nonempty takes (ih second)

theorem Ends.after {result : Option SystemError × ω} (first : o.Takes bytes x y)
    (second : o.Ends more y result) : o.Ends (bytes ++ more) x result := by
  cases second with
  | whole takes => exact .whole (first.append takes)
  | broken takes nonempty within refuses =>
    refine .broken (first.append takes) nonempty ?_ refuses
    rw [List.append_assoc]
    exact (List.prefix_append_right_inj bytes).2 within

theorem write_ends (o : Outlet ω) (bytes : Bytes) (x : ω) : o.Ends bytes x (o.write bytes x) := by
  fun_induction o.write bytes x with
  | case1 x => exact .whole .nothing
  | case2 byte rest x count y takes ih =>
    have first : o.Takes ((byte :: rest).take (count + 1)) x y := by
      simpa using Takes.portion (List.cons_ne_nil byte rest) takes .nothing
    simpa using ih.after first
  | case3 byte rest x cause y refuses =>
    exact .broken .nothing (List.cons_ne_nil byte rest) (List.prefix_refl _) refuses

theorem writeAll_ends (o : Outlet ω) (texts : List String) (x : ω) :
    o.Ends (texts.flatMap Text.bytes) x (writeAll o.write texts x) := by
  induction texts generalizing x with
  | nil => exact .whole .nothing
  | cons text rest ih =>
    have first := o.write_ends (Text.bytes text) x
    rw [List.flatMap_cons, writeAll]
    rcases written : o.write (Text.bytes text) x with ⟨_ | cause, y⟩
    · rw [written] at first
      cases first with
      | whole takes => exact (ih y).after takes
    · rw [written] at first
      cases first with
      | broken takes nonempty within refuses =>
        exact .broken takes nonempty (within.trans (List.prefix_append _ _)) refuses

/-! ## Outlets with so much room -/

/-- An outlet that takes something while it has room, no more than it has room for and no more than it
is offered, and that refuses all without room. -/
structure Limited (o : Outlet ω) (taken : ω → Bytes) (room : ω → Nat) : Prop where
  takes : ∀ offered x, offered ≠ [] → 0 < room x → ∃ count y, o.offer offered x = (.ok count, y) ∧
    count < offered.length ∧ taken y = taken x ++ offered.take (count + 1) ∧
      room x = room y + (count + 1)
  refuses : ∀ offered x, offered ≠ [] → room x = 0 → ∃ cause y,
    o.offer offered x = (.error cause, y) ∧ taken y = taken x

namespace Limited
variable {taken : ω → Bytes} {room : ω → Nat}

theorem portion (limited : o.Limited taken room) {offered : Bytes} {count : Nat}
    (nonempty : offered ≠ []) (takes : o.offer offered x = (.ok count, y)) :
    count < offered.length ∧ taken y = taken x ++ offered.take (count + 1) ∧
      room x = room y + (count + 1) := by
  rcases Nat.eq_zero_or_pos (room x) with full | free
  · obtain ⟨cause, z, refuses, -⟩ := limited.refuses offered x nonempty full
    cases takes.symm.trans refuses
  · obtain ⟨count', z, takes', facts⟩ := limited.takes offered x nonempty free
    cases takes.symm.trans takes'
    exact facts

theorem refusal (limited : o.Limited taken room) {offered : Bytes} {cause : SystemError}
    (nonempty : offered ≠ []) (refuses : o.offer offered x = (.error cause, y)) :
    room x = 0 ∧ taken y = taken x := by
  rcases Nat.eq_zero_or_pos (room x) with full | free
  · obtain ⟨cause', z, refuses', same⟩ := limited.refuses offered x nonempty full
    cases refuses.symm.trans refuses'
    exact ⟨full, same⟩
  · obtain ⟨count, z, takes, -⟩ := limited.takes offered x nonempty free
    cases refuses.symm.trans takes

theorem of_takes (limited : o.Limited taken room) (takes : o.Takes bytes x y) :
    taken y = taken x ++ bytes ∧ room x = room y + bytes.length := by
  induction takes with
  | nothing => simp
  | @portion offered bytes count x y z nonempty takes _ ih =>
    obtain ⟨enough, grown, shrunk⟩ := limited.portion nonempty takes
    obtain ⟨grown', shrunk'⟩ := ih
    refine ⟨by rw [grown', grown, List.append_assoc], ?_⟩
    rw [List.length_append, List.length_take]
    omega

theorem fills (limited : o.Limited taken room) {result : Option SystemError × ω}
    (ends : o.Ends bytes x result) :
    taken result.2 = taken x ++ bytes.take (room x) ∧
      (bytes.length ≤ room x → result.1 = none ∧ o.Takes bytes x result.2) ∧
      (room x < bytes.length → ∃ cause offered y, result.1 = some cause ∧
        o.Takes (bytes.take (room x)) x y ∧ offered ≠ [] ∧
          o.offer offered y = (.error cause, result.2)) := by
  cases ends with
  | whole takes =>
    obtain ⟨grown, shrunk⟩ := limited.of_takes takes
    have fits : bytes.length ≤ room x := by omega
    exact ⟨by rw [grown, List.take_of_length_le fits], fun _ => ⟨rfl, takes⟩, fun _ => by omega⟩
  | @broken accepted offered cause y z takes nonempty within refuses =>
    obtain ⟨grown, shrunk⟩ := limited.of_takes takes
    obtain ⟨full, same⟩ := limited.refusal nonempty refuses
    have exhausted : accepted.length = room x := by omega
    have beginning : bytes.take (room x) = accepted := by
      rw [← exhausted]
      exact (List.prefix_iff_eq_take.1 ((List.prefix_append _ _).trans within)).symm
    -- What was refused is more of the bytes than there was room for.
    have longer : room x < bytes.length := by
      have := within.length_le
      have := List.length_pos_iff.2 nonempty
      rw [List.length_append] at *
      omega
    refine ⟨by rw [same, grown, beginning], fun fits => by omega, fun _ => ?_⟩
    exact ⟨cause, offered, y, rfl, beginning ▸ takes, nonempty, refuses⟩

end Limited

def portions (size : Nat) : Outlet (Bytes × Nat) where
  offer offered x :=
    if x.2 = 0 then (.error .noSpace, x)
    else
      let count := min size (min (offered.length - 1) (x.2 - 1))
      (.ok count, (x.1 ++ offered.take (count + 1), x.2 - (count + 1)))

theorem portions_limited (size : Nat) : (portions size).Limited Prod.fst Prod.snd where
  takes offered x nonempty free := by
    have := List.length_pos_iff.2 nonempty
    exact ⟨_, _, if_neg (Nat.ne_of_gt free), by omega, rfl, by dsimp only; omega⟩
  refuses offered x _ full := ⟨.noSpace, x, if_pos full, rfl⟩

end Outlet

/-! ## Built-in commands -/

theorem writeAll_unlimited (texts : List String) (before : Bytes) :
    writeAll Budget.write texts ⟨before, none⟩ =
      (none, ⟨before ++ texts.flatMap Text.bytes, none⟩) := by
  induction texts generalizing before with
  | nil => simp [writeAll]
  | cons text rest ih => simp [writeAll, Budget.write, ih]

namespace Stage

def speech (stage : Stage) (s : Surroundings) : Bytes :=
  (writeAll Budget.write (stage.act s).texts {}).2.taken

theorem speech_eq (stage : Stage) (s : Surroundings) :
    stage.speech s = (stage.act s).texts.flatMap Text.bytes := by
  rw [speech, show ({} : Budget) = ⟨[], none⟩ from rfl, writeAll_unlimited]
  rfl

theorem builtin_of_speech {stage : Stage} {s : Surroundings} (speaks : stage.speech s ≠ []) :
    ∃ command, stage.kind = .builtin command := by
  cases kind : stage.kind with
  | program =>
    refine absurd ?_ speaks
    rw [speech_eq]
    unfold act
    rw [kind]
    rfl
  | builtin command => exact ⟨command, rfl⟩

/-- In whatever pieces a command hands over what it says. -/
theorem says_upTo {ω : Type} {o : Outlet ω} {taken : ω → Bytes} {room : ω → Nat}
    (limited : o.Limited taken room) (stage : Stage) (s : Surroundings) (x : ω)
    (pieces : List String) (same : pieces.flatMap Text.bytes = stage.speech s) :
    let unlimited := writeAll Budget.write (stage.act s).texts {}
    let (refused, z) := writeAll o.write pieces x
    taken z = taken x ++ (stage.speech s).take (room x) ∧
      ((stage.speech s).length ≤ room x →
        (stage.act s).conclude stage.kind refused = (stage.act s).conclude stage.kind unlimited.1 ∧
          o.Takes (stage.speech s) x z) ∧
      (room x < (stage.speech s).length → ∃ command cause offered y,
        stage.kind = .builtin command ∧
          (stage.act s).conclude stage.kind refused =
            .error (.builtin command (.cannotWrite cause)) ∧
          o.Takes ((stage.speech s).take (room x)) x y ∧ offered ≠ [] ∧
            o.offer offered y = (.error cause, z)) := by
  obtain ⟨grown, fits, breaks⟩ := limited.fills (same ▸ o.writeAll_ends pieces x)
  refine ⟨grown, fun enough => ?_, fun short => ?_⟩
  · obtain ⟨unrefused, takes⟩ := fits enough
    rw [unrefused, show ({} : Budget) = ⟨[], none⟩ from rfl, writeAll_unlimited]
    exact ⟨rfl, takes⟩
  · obtain ⟨cause, offered, y, refused, takes, nonempty, refuses⟩ := breaks short
    have speaks : stage.speech s ≠ [] := List.ne_nil_of_length_pos (Nat.zero_lt_of_lt short)
    obtain ⟨command, kind⟩ := builtin_of_speech speaks
    refine ⟨command, cause, offered, y, kind, ?_, takes, nonempty, refuses⟩
    rw [refused, kind]
    rfl

theorem says_upTo_halfCharacter :
    let echo : Stage := ⟨.builtin .echo, ["echo", "é"]⟩
    let (refused, z) := writeAll (Outlet.portions 2).write ["é", "\n"] ([], 1)
    (Outlet.portions 2).Limited Prod.fst Prod.snd ∧
      ["é", "\n"].flatMap Text.bytes = echo.speech {} ∧ z.1 = (echo.speech {}).take 1 ∧
        ∃ command cause, (echo.act {}).conclude echo.kind refused =
          .error (.builtin command (.cannotWrite cause)) := by
  intro echo
  have limited := Outlet.portions_limited 2
  have same : ["é", "\n"].flatMap Text.bytes = echo.speech {} := by decide
  obtain ⟨grown, -, breaks⟩ := says_upTo limited echo {} ([], 1) ["é", "\n"] same
  obtain ⟨command, cause, -, -, -, refused, -⟩ := breaks (by rw [← same]; decide)
  exact ⟨limited, same, grown, command, cause, refused⟩

end Stage
end PipeShell
