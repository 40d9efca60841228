import Mathlib.Data.List.Induction
import Mathlib.Data.Nat.Digits.Defs
import Mathlib.Tactic.IntervalCases
import PipeShell.Text.Decimal

/-!
# Decimal numerals

What a signed number in text is, said without its reader: one sign or none, and then decimal digits of
which each counts ten times as much as the next. The reader takes just these texts, and of them those
whose number fits 32 bits with its sign, however many zeros lead (`Text.signed32?_eq_some`).
-/

namespace PipeShell

/-! ## Decimal numbers -/

namespace Text

def Digits (cs : List Char) (n : Nat) : Prop :=
  ∃ ds : List Nat, ds ≠ [] ∧ (∀ d ∈ ds, d < 10) ∧ cs = ds.map Nat.digitChar ∧
    n = Nat.ofDigits 10 ds.reverse

inductive Numeral : List Char → Int → Prop
  | bare {cs : List Char} {n : Nat} (digits : Digits cs n) : Numeral cs n
  | plus {cs : List Char} {n : Nat} (digits : Digits cs n) : Numeral ('+' :: cs) n
  | minus {cs : List Char} {n : Nat} (digits : Digits cs n) : Numeral ('-' :: cs) (-n)

theorem digit?_eq_some {c : Char} {d : Nat} : digit? c = some d ↔ d < 10 ∧ c = d.digitChar := by
  constructor
  · intro found
    unfold digit? at found
    split at found
    · rename_i within
      cases found
      have bounds : 48 ≤ c.toNat ∧ c.toNat ≤ 57 := by
        simpa [Char.le_def, UInt32.le_iff_toNat_le] using within
      have small : c.toNat - 48 < 10 := by omega
      refine ⟨small, Char.toNat_inj.1 ?_⟩
      change c.toNat = (c.toNat - 48).digitChar.toNat
      rw [Nat.toNat_digitChar_of_lt_ten small]
      omega
    · cases found
  · rintro ⟨small, rfl⟩
    interval_cases d <;> rfl

theorem ofDigits_concat (ds : List Nat) (d : Nat) :
    Nat.ofDigits 10 (ds ++ [d]).reverse = Nat.ofDigits 10 ds.reverse * 10 + d := by
  rw [List.reverse_append, List.reverse_singleton, List.singleton_append, Nat.ofDigits_cons]
  ring

theorem foldlM_digits {cs : List Char} {n : Nat} :
    cs.foldlM (fun total c => (digit? c).map (total * 10 + ·)) 0 = some n ↔
      ∃ ds : List Nat, (∀ d ∈ ds, d < 10) ∧ cs = ds.map Nat.digitChar ∧
        n = Nat.ofDigits 10 ds.reverse := by
  induction cs using List.reverseRecOn generalizing n with
  | nil =>
    constructor
    · intro found
      cases found
      exact ⟨[], by simp, rfl, rfl⟩
    · rintro ⟨ds, -, empty, rfl⟩
      obtain rfl := List.map_eq_nil_iff.1 empty.symm
      rfl
  | append_singleton cs c ih =>
    have last : ∀ total, [c].foldlM (fun total c => (digit? c).map (total * 10 + ·)) total =
        (digit? c).map (total * 10 + ·) := fun total => by simp
    rw [List.foldlM_append]
    simp only [last, Option.bind_eq_bind, Option.bind_eq_some_iff, Option.map_eq_some_iff, ih,
      digit?_eq_some]
    constructor
    · rintro ⟨m, ⟨ds, small, rfl, rfl⟩, d, ⟨tiny, rfl⟩, rfl⟩
      refine ⟨ds ++ [d], ?_, by simp, (ofDigits_concat ds d).symm⟩
      simpa [or_imp, forall_and] using ⟨small, tiny⟩
    · rintro ⟨es, small, same, rfl⟩
      obtain ⟨ds, rest, rfl, rfl, final⟩ := List.map_eq_append_iff.1 same.symm
      obtain ⟨d, rfl, rfl⟩ := List.map_eq_singleton_iff.1 final
      exact ⟨_, ⟨ds, fun e member => small e (List.mem_append_left _ member), rfl, rfl⟩, d,
        ⟨small d (by simp), rfl⟩, (ofDigits_concat ds d).symm⟩

theorem digits?_eq_some {cs : List Char} {n : Nat} : digits? cs = some n ↔ Digits cs n := by
  cases cs with
  | nil =>
    constructor
    · intro found
      cases found
    · rintro ⟨ds, nonempty, -, empty, -⟩
      exact absurd (List.map_eq_nil_iff.1 empty.symm) nonempty
  | cons c cs =>
    rw [digits?, foldlM_digits]
    · constructor
      · rintro ⟨ds, small, same, value⟩
        refine ⟨ds, ?_, small, same, value⟩
        rintro rfl
        cases same
      · rintro ⟨ds, -, small, same, value⟩
        exact ⟨ds, small, same, value⟩
    · simp

def parted : List Char → Bool × List Char
  | '-' :: cs => (true, cs)
  | '+' :: cs => (false, cs)
  | cs => (false, cs)

theorem Digits.parted_eq {cs : List Char} {n : Nat} (digits : Digits cs n) :
    parted cs = (false, cs) := by
  obtain ⟨_ | ⟨d, ds⟩, nonempty, -, rfl, -⟩ := digits
  · exact absurd rfl nonempty
  · have minus : d.digitChar ≠ '-' := Nat.digitChar_ne '-' rfl
    have plus : d.digitChar ≠ '+' := Nat.digitChar_ne '+' rfl
    rw [List.map_cons, parted]
    · simp [minus]
    · simp [plus]

theorem numeral_iff {cs : List Char} {n : Int} : Numeral cs n ↔
    ∃ m : Nat, Digits (parted cs).2 m ∧ (if (parted cs).1 then -(m : Int) else m) = n := by
  constructor
  · intro numeral
    cases numeral with
    | bare digits =>
      rw [digits.parted_eq]
      exact ⟨_, digits, rfl⟩
    | plus digits | minus digits => exact ⟨_, digits, rfl⟩
  · rintro ⟨m, digits, rfl⟩
    unfold parted at digits ⊢
    split at digits
    · exact .minus digits
    · exact .plus digits
    · exact .bare digits

theorem bounded_eq_some {value n : Int} :
    (if -limit32 ≤ value && value < limit32 then some value else none) = some n ↔
      value = n ∧ -2 ^ 31 ≤ n ∧ n ≤ 2 ^ 31 - 1 := by
  have bounds : (-limit32 ≤ value && value < limit32) = true ↔
      -2 ^ 31 ≤ value ∧ value ≤ 2 ^ 31 - 1 := by
    rw [Bool.and_eq_true, decide_eq_true_eq, decide_eq_true_eq, limit32]
    omega
  constructor
  · intro found
    split at found
    · rename_i within
      cases found
      exact ⟨rfl, bounds.1 within⟩
    · cases found
  · rintro ⟨rfl, within⟩
    rw [if_pos (bounds.2 within)]

theorem signed32?_eq (s : String) : signed32? s =
    (digits? (parted s.toList).2).bind fun m =>
      let value : Int := if (parted s.toList).1 then -m else m
      if -limit32 ≤ value && value < limit32 then some value else none :=
  rfl

theorem signed32?_eq_some {s : String} {n : Int} :
    signed32? s = some n ↔ Numeral s.toList n ∧ -2 ^ 31 ≤ n ∧ n ≤ 2 ^ 31 - 1 := by
  simp only [signed32?_eq, Option.bind_eq_some_iff, digits?_eq_some, bounded_eq_some, numeral_iff]
  constructor
  · rintro ⟨m, digits, same, within⟩
    exact ⟨⟨m, digits, same⟩, within⟩
  · rintro ⟨⟨m, digits, same⟩, within⟩
    exact ⟨m, digits, same, within⟩

/-! ## Numbers as they are written -/

theorem digits_toDigits (n : Nat) : Digits (Nat.toDigits 10 n) n := by
  induction n using Nat.strongRecOn with
  | ind n ih =>
    rw [Nat.toDigits_eq_if (by decide)]
    split
    · rename_i small
      exact ⟨[n], by simp, by simpa using small, rfl, by simp⟩
    · rename_i large
      obtain ⟨ds, -, small, same, value⟩ := ih (n / 10) (by omega)
      refine ⟨ds ++ [n % 10], by simp, ?_, by rw [same]; simp, ?_⟩
      · have tiny : n % 10 < 10 := Nat.mod_lt n (by decide)
        simpa [or_imp, forall_and] using ⟨small, tiny⟩
      · rw [ofDigits_concat, ← value]
        omega

theorem numeral_toString (n : Int) : Numeral (toString n).toList n := by
  cases n with
  | ofNat m =>
    have written : (toString (Int.ofNat m)).toList = Nat.toDigits 10 m := Nat.toList_repr
    rw [written]
    exact .bare (digits_toDigits m)
  | negSucc m =>
    have written : (toString (Int.negSucc m)).toList = '-' :: Nat.toDigits 10 (m + 1) := by
      change ("-" ++ (m + 1).repr).toList = _
      rw [String.toList_append, Nat.toList_repr]
      rfl
    rw [written]
    exact .minus (digits_toDigits (m + 1))

end Text
end PipeShell
