import ScannerAlphabet.Text.Hex

/-!
# Code points

Character classes hold code points of the Basic Multilingual Plane, the numbers up to
`CodePoint.last`. They are numbers and not `Char`, because the alphabet of a scanner contains
the surrogates. A code point has two written forms: the label `U+000A` of messages, and the
literal of dumps, which quotes printable ASCII and escapes the rest.
-/
namespace ScannerAlphabet.CodePoint

/-- The largest code point that a character class can hold. -/
def last : Nat := 0xFFFF

/-- The form used in messages, with at least four digits. -/
def label (c : Nat) : String :=
  "U+" ++ Text.Hex.upper c

/-- The form used in dumps. Quotes and backslashes stand for themselves between the quotes. -/
def literal (c : Nat) : String :=
  if 0x20 ≤ c ∧ c ≤ 0x7E then "'" ++ String.singleton (Char.ofNat c) ++ "'"
  else "\\u" ++ Text.Hex.upper c

end ScannerAlphabet.CodePoint
