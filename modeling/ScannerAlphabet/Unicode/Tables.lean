/-!
# Tables of a version

The tables of a version give its property values as packed sets, the aliases of their names, and
the groups of letters that differ in case only. The groups stand in one flat list, each filled
up with zeros to a size that all have.
-/
namespace ScannerAlphabet.Unicode

structure Tables where
  /-- The name of the version. -/
  version : String
  /-- The largest code point of the version. -/
  maximum : Nat
  /-- Names with packed sets. -/
  values : List (String × List Nat)
  /-- Pairs of an alias and the name that it stands for. -/
  aliases : List (String × String)
  /-- Groups of letters that differ in case only. -/
  variants : List Nat
  /-- The size of a group. -/
  groupSize : Nat
deriving DecidableEq, Repr

end ScannerAlphabet.Unicode
