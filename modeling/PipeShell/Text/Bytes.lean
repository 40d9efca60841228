/-!
# Bytes and texts

Bytes and the texts they stand for. A text becomes bytes by UTF-8. Bytes that are no UTF-8 are read
back with one replacement character for each maximal start of a character that is cut off or wrong.
-/

namespace PipeShell

abbrev Bytes := List UInt8

namespace Text

def bytes (s : String) : Bytes :=
  s.toList.flatMap String.utf8EncodeChar

theorem bytes_append (s t : String) : bytes (s ++ t) = bytes s ++ bytes t := by
  simp [bytes]

def replacement : Char := Char.ofNat 0xfffd

def leader (b : Nat) : Option (Nat × Nat × Nat × Nat) :=
  if 0xc2 ≤ b && b ≤ 0xdf then some (1, 0x80, 0xbf, b - 0xc0)
  else if b == 0xe0 then some (2, 0xa0, 0xbf, 0)
  else if b == 0xed then some (2, 0x80, 0x9f, 0xd)
  else if 0xe1 ≤ b && b ≤ 0xef then some (2, 0x80, 0xbf, b - 0xe0)
  else if b == 0xf0 then some (3, 0x90, 0xbf, 0)
  else if 0xf1 ≤ b && b ≤ 0xf3 then some (3, 0x80, 0xbf, b - 0xf0)
  else if b == 0xf4 then some (3, 0x80, 0x8f, 4)
  else none

/-- Reads the bytes that follow a first byte. The rest begins at the first byte that does not fit;
the code is missing when one did not. -/
def followers : Nat → Nat → Nat → Nat → (bs : Bytes) → Option Nat × { r : Bytes // r.length ≤ bs.length }
  | 0, _, _, code, bs => (some code, ⟨bs, Nat.le_refl _⟩)
  | _ + 1, _, _, _, [] => (none, ⟨[], Nat.le_refl _⟩)
  | n + 1, low, high, code, b :: bs =>
    if low ≤ b.toNat && b.toNat ≤ high then
      let (found, rest) := followers n 0x80 0xbf (code * 64 + (b.toNat - 0x80)) bs
      (found, ⟨rest.1, Nat.le_succ_of_le rest.2⟩)
    else (none, ⟨b :: bs, Nat.le_refl _⟩)

/-- The characters that bytes stand for, `none` where they stand for no character. -/
def characters : Bytes → List (Option Char)
  | [] => []
  | b :: bs =>
    if b.toNat < 0x80 then some (Char.ofNat b.toNat) :: characters bs
    else
      match leader b.toNat with
      | none => none :: characters bs
      | some (n, low, high, code) =>
        let step := followers n low high code bs
        step.1.map Char.ofNat :: characters step.2.1
termination_by bs => bs.length
decreasing_by
  · simp
  · simp
  · exact Nat.lt_succ_of_le step.2.2

def ofBytes (bs : Bytes) : String :=
  String.ofList ((characters bs).map (·.getD replacement))

def ofBytes? (bs : Bytes) : Option String :=
  ((characters bs).mapM id).map String.ofList

end Text
end PipeShell
