import ScannerAlphabet.Error

/-!
# Alphabets

The alphabet of a scanner is an initial part of the code points, given by its largest member.
Three widths have names. A largest member beyond `CodePoint.last` is refused, and so is a
character beyond it.
-/
namespace ScannerAlphabet.Alphabet

/-- The input widths that a scanner can ask for by name. -/
inductive Width where
  | sevenBit
  | eightBit
  | unicode
deriving DecidableEq, Repr

/-- The largest code point of a width. -/
def Width.maximum : Width → Nat
  | .sevenBit => 0x7F
  | .eightBit => 0xFF
  | .unicode => CodePoint.last

/-- Lets a number through if it can be the largest member of an alphabet. -/
def checked (maximum : Nat) : Except Error Nat :=
  if CodePoint.last < maximum then .error (.outOfRange maximum CodePoint.last)
  else .ok maximum

/-- The code point of a character, if classes can hold it. -/
def ofChar (c : Char) : Except Error Nat :=
  checked c.toNat

theorem Width.maximum_le_last (w : Width) : w.maximum ≤ CodePoint.last := by
  cases w <;> decide

theorem checked_eq_ok_iff {m n : Nat} : checked m = .ok n ↔ n = m ∧ m ≤ CodePoint.last := by
  unfold checked
  split
  · simp only [reduceCtorEq, false_iff, not_and]
    omega
  · simp only [Except.ok.injEq]
    omega

end ScannerAlphabet.Alphabet
