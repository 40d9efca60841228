import PipeShell.Text.Bytes

/-!
# Octets

The programs of the machine know bytes and no characters. Where they work with names, arguments and
scripts, a text of octets is handy: a string in which each character stands for one byte, so that its
character number is below 256.
-/

namespace PipeShell.Machine

abbrev Octets := String

namespace Octets

def ofBytes (bs : Bytes) : Octets := String.ofList (bs.map fun b => Char.ofNat b.toNat)

def bytes (s : Octets) : Bytes := s.toList.map fun c => UInt8.ofNat c.toNat

theorem ofNat_toNat_char (b : UInt8) : UInt8.ofNat (Char.ofNat b.toNat).toNat = b := by
  have small := b.toNat_lt
  have valid : b.toNat.isValidChar := Or.inl (by omega)
  have : (Char.ofNat b.toNat).toNat = b.toNat := by
    rw [Char.ofNat, dif_pos valid]
    rfl
  rw [this, UInt8.ofNat_toNat]

theorem bytes_ofBytes (bs : Bytes) : bytes (ofBytes bs) = bs := by
  simp only [bytes, ofBytes, String.toList_ofList, List.map_map]
  conv => rhs; rw [← List.map_id bs]
  exact List.map_congr_left fun b _ => ofNat_toNat_char b

def ofText (s : String) : Octets := ofBytes (Text.bytes s)

def toText (s : Octets) : String := Text.ofBytes (bytes s)

/-! ## Digits -/

def isOctal (c : Char) : Bool := '0' ≤ c && c ≤ '7'

def isHex (c : Char) : Bool :=
  c.isDigit || ('a' ≤ c && c ≤ 'f') || ('A' ≤ c && c ≤ 'F')

def digitValue (c : Char) : Nat :=
  if c.isDigit then c.toNat - '0'.toNat
  else if 'a' ≤ c && c ≤ 'z' then c.toNat - 'a'.toNat + 10
  else if 'A' ≤ c && c ≤ 'Z' then c.toNat - 'A'.toNat + 10
  else 0

def number (base : Nat) (digits : List Char) : Nat :=
  digits.foldl (fun n c => n * base + digitValue c) 0

def decimal? (s : Octets) : Option Nat :=
  if !s.isEmpty && s.toList.all Char.isDigit then some (number 10 s.toList) else none

def digits (base width n : Nat) : String :=
  let text := Nat.toDigits base n
  String.ofList (List.replicate (width - text.length) '0' ++ text)

/-! ## Escapes -/

def controlLetter? (c : Char) : Option Char :=
  match c.toNat with
  | 7 => some 'a'
  | 8 => some 'b'
  | 9 => some 't'
  | 10 => some 'n'
  | 11 => some 'v'
  | 12 => some 'f'
  | 13 => some 'r'
  | _ => none

def isPrintable (c : Char) : Bool := 32 ≤ c.toNat && c.toNat < 127

def escapedOctet (c : Char) : String :=
  match controlLetter? c with
  | some letter => String.ofList ['\\', letter]
  | none => "\\" ++ digits 8 3 c.toNat

end Octets
end PipeShell.Machine
