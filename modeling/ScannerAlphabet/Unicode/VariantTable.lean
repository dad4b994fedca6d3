import Std.Data.TreeMap
import ScannerAlphabet.CharSet.Packed
import ScannerAlphabet.Unicode.Tables

/-!
# Tables of case variants

The table of case variants is made from the complete groups of a flat list. Zeros and code points
that character sets cannot hold are left out of a group, the others stay; every member gets
the set of all members, and where a code point is in two groups, the later one counts.
-/
namespace ScannerAlphabet.Unicode

/-- The table of case variants: how many groups it was made from, and what each code point with
variants has. -/
structure VariantTable where
  groups : Nat
  lookup : Std.TreeMap Nat CharSet

namespace VariantTable

/-- The complete groups of a flat list. -/
def chunks (size : Nat) (l : List Nat) : List (List Nat) :=
  if _h : 0 < size ∧ size ≤ l.length then l.take size :: chunks size (l.drop size) else []
termination_by l.length
decreasing_by
  rw [List.length_drop]
  omega

/-- The members that character sets can hold; zero only fills a group up. -/
def members (group : List Nat) : List Nat :=
  group.filter fun c => 0 < c && c ≤ CodePoint.last

/-- Gives every member of a group, up to the largest code point of the version, the set of all its
members. A group without members does not count. -/
def addGroup (maximum : Nat) (t : VariantTable) (group : List Nat) : VariantTable :=
  if (members group).isEmpty then t
  else
    let s := CharSet.unpack ((members group).flatMap fun c => [c, c])
    { groups := t.groups + 1
      lookup := (members group).foldl (fun m c => if c ≤ maximum then m.insert c s else m) t.lookup }

end VariantTable

/-- The table of case variants of some tables. -/
def Tables.variantTable (t : Tables) : VariantTable :=
  (VariantTable.chunks t.groupSize t.variants).foldl (VariantTable.addGroup t.maximum) ⟨0, ∅⟩

end ScannerAlphabet.Unicode
