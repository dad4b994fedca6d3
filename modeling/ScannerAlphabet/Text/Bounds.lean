/-!
# Sorted range tables

A character property is kept as a flat list of bounds `lo, hi, lo, hi, …` with ascending
ranges. Looking up a code point walks the list and stops at the first range that begins
above it.
-/
namespace ScannerAlphabet.Text.Bounds

/-- Whether a code point lies in one of the ascending ranges. -/
def contains : List Nat → Nat → Bool
  | lo :: hi :: rest, c => if c < lo then false else c ≤ hi || contains rest c
  | _, _ => false

end ScannerAlphabet.Text.Bounds
